import PipelineCanvas.Yaml.Token

/-!
# YAML documents

The tokens of a text are put together to the tree of its one document. An alias
stays an alias in the tree: it stands for a node by number, and the node that has
the number in the end is the one it means.

* `Node` – scalars, sequences, mappings and aliases;
* `Document` – the tree, and the nodes that aliases stand for (`Document.follow?`);
* **`Document.ofText?`** – the document of a text. A text without any content has
  one without a root; one with several documents has none.

An anchor gets as number the count of distinct anchor names before it. Where an
anchor name is used again the numbers run behind, and of two anchors with one
number the later holds it.
-/

namespace PipelineCanvas.Yaml

/-- A tag in full. -/
inductive Tag where
  | named (name : String)
  /-- One that spells no text; `own` says whether it begins with an exclamation mark. -/
  | garbled (own : Bool)
deriving DecidableEq, Repr

/-- The tag that is spelled. -/
def Tag.ofText (cs : TagText) : Tag :=
  match cs.mapM id with
  | some cs => .named (String.ofList cs)
  | none => .garbled (cs.head? == some (some '!'))

/-- A node of a document. -/
inductive Node where
  | scalar (text : String) (style : ScalarStyle) (tag : Option Tag)
  | sequence (tag : Option Tag) (items : List Node)
  | mapping (tag : Option Tag) (members : List (Node × Node))
  | alias (number : Nat)
deriving Inhabited

namespace Node

mutual

/-- The count of marks that a node is made of: one for a scalar or an alias, two for the
start and the end of a collection, and those of what it holds. -/
def markCount : Node → Nat
  | .scalar .. | .alias _ => 1
  | .sequence _ items => itemMarks items + 2
  | .mapping _ members => memberMarks members + 2

/-- The count of marks of items. -/
def itemMarks : List Node → Nat
  | [] => 0
  | item :: rest => item.markCount + itemMarks rest

/-- The count of marks of members. -/
def memberMarks : List (Node × Node) → Nat
  | [] => 0
  | (key, value) :: rest => key.markCount + value.markCount + memberMarks rest

end

end Node

/-- A document: its tree, and what its anchors stand for. -/
structure Document where
  /-- The tree, none for a text without content. -/
  root : Option Node
  /-- The order in which the anchored node with a number began, latest first. -/
  holders : List (Nat × Nat)
  /-- The anchored nodes by the order in which they began. -/
  anchored : List (Nat × Node)

namespace Document

/-- The node that an alias stands for. -/
def follow? (d : Document) (number : Nat) : Option Node :=
  (d.holders.lookup number).bind fun began => d.anchored.lookup began

/-- The count of marks that a document is made of. -/
def markCount (d : Document) : Nat :=
  match d.root with
  | some root => root.markCount
  | none => 0

end Document

/-! ### Putting tokens together -/

/-- The state of a reader of tokens. -/
structure Assembly where
  tokens : List Token
  /-- The tag handles in force. -/
  handles : List (List Char × TagText)
  /-- The numbers of the anchor names met so far, latest first. -/
  names : List (List Char × Nat)
  /-- The count of distinct anchor names. -/
  distinct : Nat
  /-- The count of anchors. -/
  begun : Nat
  holders : List (Nat × Nat)
  anchored : List (Nat × Node)

/-- A reader of tokens, which may fail. -/
abbrev Assemble := StateT Assembly Option

namespace Assemble

/-- The token to come. -/
def peek : Assemble Token := fun s => some (s.tokens.headD .streamEnd, s)

/-- Passes over a token. -/
def advance : Assemble Unit := fun s => some ((), { s with tokens := s.tokens.tail })

/-- Fails. -/
def refuse {α : Type} : Assemble α := fun _ => none

/-- The node that stands where nothing does. -/
def emptyScalar : Node := .scalar "" .plain none

/-- The tag with a handle, which must be in force, and a suffix. -/
def fullTag (handle : List Char) (suffix : TagText) : Assemble Tag := fun s =>
  if handle.isEmpty then some (.ofText suffix, s)
  else (s.handles.lookup handle).map fun stem => (.ofText (stem ++ suffix), s)

/-- Gives an anchor its number, and returns the order in which it began. -/
def anchor (name : List Char) : Assemble Nat := fun s =>
  let number := s.distinct
  let again := (s.names.lookup name).isSome
  some (s.begun, { s with
    names := (name, number) :: s.names
    distinct := if again then s.distinct else s.distinct + 1
    begun := s.begun + 1
    holders := (number, s.begun) :: s.holders })

/-- Records the node of an anchor. -/
def anchoredAs (began : Option Nat) (node : Node) : Assemble Node := fun s =>
  match began with
  | none => some (node, s)
  | some began => some (node, { s with anchored := (began, node) :: s.anchored })

/-- The number that an alias stands for. -/
def aliasNumber (name : List Char) : Assemble Nat := fun s =>
  (s.names.lookup name).map fun n => (n, s)

/-- Reads anchor and tag, in either order, each at most once. -/
def properties : Assemble (Option (List Char) × Option Tag) := do
  match ← peek with
  | .anchor name =>
    advance
    match ← peek with
    | .tag handle suffix =>
      advance
      return (some name, some (← fullTag handle suffix))
    | _ => return (some name, none)
  | .tag handle suffix =>
    advance
    match ← peek with
    | .anchor name =>
      advance
      return (some name, some (← fullTag handle suffix))
    | _ => return (none, some (← fullTag handle suffix))
  | _ => return (none, none)

/-- Whether a token ends the value or key before it inside a block mapping. -/
def endsBlockPart : Token → Bool
  | .key | .value | .blockEnd => true
  | _ => false

/-- Whether a token ends an item of a sequence without indentation of its own. -/
def endsLooseItem : Token → Bool
  | .blockEntry | .key | .value | .blockEnd => true
  | _ => false

mutual

/-- Reads a node. `block` allows block collections, `loose` a sequence that is not
indented further than the mapping around it. -/
def node : Nat → (block loose : Bool) → Assemble Node
  | 0, _, _ => refuse
  | fuel + 1, block, loose => do
    match ← peek with
    | .alias name =>
      advance
      return .alias (← aliasNumber name)
    | _ =>
      let (name, tag) ← properties
      let began ← match name with
        | some name => some <$> anchor name
        | none => pure none
      let token ← peek
      match token with
      | .scalar text style =>
        advance
        anchoredAs began (.scalar text style tag)
      | .blockEntry =>
        if loose then
          let items ← looseItems fuel
          anchoredAs began (.sequence tag items)
        else if began.isSome || tag.isSome then anchoredAs began (.scalar "" .plain tag)
        else refuse
      | .flowSequenceStart =>
        advance
        let items ← flowItems fuel true
        anchoredAs began (.sequence tag items)
      | .flowMappingStart =>
        advance
        let members ← flowMembers fuel true
        anchoredAs began (.mapping tag members)
      | .blockSequenceStart =>
        if block then
          advance
          let items ← blockItems fuel
          anchoredAs began (.sequence tag items)
        else if began.isSome || tag.isSome then anchoredAs began (.scalar "" .plain tag)
        else refuse
      | .blockMappingStart =>
        if block then
          advance
          let members ← blockMembers fuel
          anchoredAs began (.mapping tag members)
        else if began.isSome || tag.isSome then anchoredAs began (.scalar "" .plain tag)
        else refuse
      | _ =>
        if began.isSome || tag.isSome then anchoredAs began (.scalar "" .plain tag)
        else refuse

/-- Reads the items of a block sequence to its end. -/
def blockItems : Nat → Assemble (List Node)
  | 0 => refuse
  | fuel + 1 => do
    match ← peek with
    | .blockEntry =>
      advance
      let item ← match ← peek with
        | .blockEntry | .blockEnd => pure emptyScalar
        | _ => node fuel true false
      return item :: (← blockItems fuel)
    | .blockEnd =>
      advance
      return []
    | _ => refuse

/-- Reads the items of a sequence that is not indented further than the mapping
around it. -/
def looseItems : Nat → Assemble (List Node)
  | 0 => refuse
  | fuel + 1 => do
    match ← peek with
    | .blockEntry =>
      advance
      let item ← if endsLooseItem (← peek) then pure emptyScalar else node fuel true false
      return item :: (← looseItems fuel)
    | _ => return []

/-- Reads the members of a block mapping to its end. -/
def blockMembers : Nat → Assemble (List (Node × Node))
  | 0 => refuse
  | fuel + 1 => do
    match ← peek with
    | .key =>
      advance
      let key ← if endsBlockPart (← peek) then pure emptyScalar else node fuel true true
      let value ← blockValue fuel
      return (key, value) :: (← blockMembers fuel)
    | .blockEnd =>
      advance
      return []
    | _ => refuse

/-- Reads the value behind a key of a block mapping. -/
def blockValue : Nat → Assemble Node
  | 0 => refuse
  | fuel + 1 => do
    match ← peek with
    | .value =>
      advance
      if endsBlockPart (← peek) then return emptyScalar
      node fuel true true
    | _ => return emptyScalar

/-- Reads the items of a sequence in brackets to its end. An item with a colon is a
mapping of one member. -/
def flowItems : Nat → (first : Bool) → Assemble (List Node)
  | 0, _ => refuse
  | fuel + 1, first => do
    match ← peek with
    | .flowSequenceEnd =>
      advance
      return []
    | token =>
      if !first then
        match token with
        | .flowEntry => advance
        | _ => refuse
      match ← peek with
      | .key =>
        advance
        let key ← match ← peek with
          | .value | .flowEntry | .flowSequenceEnd => do
            advance
            pure emptyScalar
          | _ => node fuel false false
        let value ← match ← peek with
          | .value => do
            advance
            match ← peek with
            | .flowEntry | .flowSequenceEnd => pure emptyScalar
            | _ => node fuel false false
          | _ => pure emptyScalar
        return .mapping none [(key, value)] :: (← flowItems fuel false)
      | .flowSequenceEnd =>
        advance
        return []
      | _ =>
        let item ← node fuel false false
        return item :: (← flowItems fuel false)

/-- Reads the members of a mapping in braces to its end. A key may stand alone. -/
def flowMembers : Nat → (first : Bool) → Assemble (List (Node × Node))
  | 0, _ => refuse
  | fuel + 1, first => do
    match ← peek with
    | .flowMappingEnd =>
      advance
      return []
    | token =>
      if !first then
        match token with
        | .flowEntry => advance
        | _ => refuse
      match ← peek with
      | .key =>
        advance
        let key ← match ← peek with
          | .value | .flowEntry | .flowMappingEnd => pure emptyScalar
          | _ => node fuel false false
        let value ← match ← peek with
          | .value => do
            advance
            match ← peek with
            | .flowEntry | .flowMappingEnd => pure emptyScalar
            | _ => node fuel false false
          | _ => pure emptyScalar
        return (key, value) :: (← flowMembers fuel false)
      | .flowMappingEnd =>
        advance
        return []
      | _ =>
        let key ← node fuel false false
        return (key, emptyScalar) :: (← flowMembers fuel false)

end

/-- The tag handles that need no directive. -/
def standardHandles : List (List Char × TagText) :=
  [("!".toList, [some '!']), ("!!".toList, "tag:yaml.org,2002:".toList.map some)]

/-- Reads directives: at most one version, which must be 1.1 or 1.2, and no handle
twice. -/
def directives : Nat → (versioned : Bool) → List (List Char × TagText) →
    Assemble (List (List Char × TagText))
  | 0, _, _ => refuse
  | fuel + 1, versioned, handles => do
    match ← peek with
    | .version major minor =>
      if versioned || major != 1 || (minor != 1 && minor != 2) then refuse
      advance
      directives fuel true handles
    | .tagDirective handle stem =>
      if (handles.lookup handle).isSome then refuse
      advance
      directives fuel versioned (handles ++ [(handle, stem)])
    | _ => return handles ++ standardHandles

/-- Passes over the markers of a document's end. -/
def documentEnds : Nat → Assemble Unit
  | 0 => pure ()
  | fuel + 1 => do
    match ← peek with
    | .documentEnd =>
      advance
      documentEnds fuel
    | _ => return ()

/-- Reads the only document of a stream. -/
def document (fuel : Nat) : Assemble (Option Node) := do
  match ← peek with
  | .streamEnd => return none
  | first =>
    let handles ← directives fuel false []
    modify fun s => { s with handles }
    let opened ← match ← peek with
      | .documentStart => do
        advance
        pure true
      | _ => pure false
    let directed := match first with
      | .version .. | .tagDirective .. => true
      | _ => false
    if directed && !opened then refuse
    let root ← match opened, ← peek with
      | true, .version .. | true, .tagDirective .. | true, .documentStart
      | true, .documentEnd | true, .streamEnd => pure emptyScalar
      | _, _ => node fuel true false
    documentEnds fuel
    match ← peek with
    | .streamEnd => return some root
    | _ => refuse

end Assemble

/-- **The document of a text;** none if the text is badly formed, refers to an unknown
anchor or holds several documents. -/
def Document.ofText? (text : String) : Option Document := do
  let tokens ← Token.ofText? text
  let fuel := 4 * tokens.length + 4
  let (root, s) ← (Assemble.document fuel).run ⟨tokens, [], [], 0, 0, [], []⟩
  return ⟨root, s.holders, s.anchored⟩

end PipelineCanvas.Yaml
