import PipelineCanvas.Decode.Record
import PipelineCanvas.Yaml.Node
import PipelineCanvas.Yaml.Resolve

/-!
# Decoding YAML

What a YAML scalar is depends on what is asked for: any scalar is a text, only a
plain one is a number or a truth value. An empty value reads as an empty list, map
or record, but a written `null` does not, and a list is never a record.

An alias reads as the node it stands for. A document could thus describe far more
than it holds, so only as many aliases are followed as its size allows
(`Yaml.Document.aliasBudget`). A reader is an action that counts those still allowed
(`Yaml.Reader`).

Only success matters here: all failures are the same one, `Failure.refused`.
-/

namespace PipelineCanvas

open Decode

namespace Yaml

/-- Reads with a count of the aliases that may still be followed. -/
abbrev Reader := StateT Nat Decode.Result

/-- Refuses a document. -/
def refuse {α : Type} : Reader α := throw .refused

/-- A value, or a failure where there is none. -/
def need {α : Type} : Option α → Reader α
  | some a => return a
  | none => refuse

namespace Document

/-- How many aliases of a document may be followed: a hundred for each of its marks. -/
def aliasBudget (d : Document) : Nat := 100 * d.markCount

/-- The node itself, or what it stands for where it is an alias. -/
def target (d : Document) : Node → Reader Node
  | .alias number => do
    match ← get with
    | 0 => refuse
    | left + 1 =>
      set left
      need (d.follow? number)
  | node => return node

end Document

/-- A node inside its document; `depth` counts the collections around it. -/
structure Place where
  document : Document
  node : Node
  depth : Nat

namespace Place

/-- The tag of a core type. -/
def coreTag (name : String) : Tag := .named ("tag:yaml.org,2002:" ++ name)

/-- The node itself, or what it stands for where it is an alias. -/
def target (p : Place) : Reader Node := p.document.target p.node

/-- A place one collection further in. -/
def inside (p : Place) (node : Node) : Place := ⟨p.document, node, p.depth + 1⟩

/-- The text of a scalar. -/
def text (p : Place) : Reader String := do
  match ← p.target with
  | .scalar s _ _ => return s
  | _ => refuse

/-- The text of a scalar that may spell a value of a core type: a plain one, or a
literal block that says so. -/
def typed (name : String) (p : Place) : Reader String := do
  match ← p.target with
  | .scalar s .plain _ => return s
  | .scalar s .literal tag => if tag = some (coreTag name) then return s else refuse
  | _ => refuse

/-- The items of a sequence. -/
def elements (p : Place) : Reader (List Place) := do
  match ← p.target with
  | .sequence _ items => return items.map p.inside
  | .scalar "" .plain _ => return []
  | _ => refuse

/-- The members of a mapping, with the texts of their keys. -/
def members (p : Place) : Reader (List (String × Place)) := do
  match ← p.target with
  | .mapping _ members =>
    members.mapM fun (key, value) => return (← (p.inside key).text, p.inside value)
  | .scalar "" .plain _ => return []
  | _ => refuse

/-- The place of the node that this one is or stands for, or none if it says that there
is nothing. A scalar with a tag is something, unless its tag says otherwise, and then
it must spell nothing. -/
def present (p : Place) : Reader (Option Place) := do
  let node ← p.target
  let absent ← match node with
    | .scalar s .plain none => pure (s.isEmpty || isNull s)
    | .scalar s .plain (some tag) =>
      if tag = coreTag "null" then (if isNull s then pure true else refuse) else pure false
    | _ => pure false
  return if absent then none else some { p with node }

/-- The name in a tag of the document's own, without its mark. A mark alone is its own
name. -/
def ownName? : Tag → Option String
  | .named tag =>
    match tag.toList with
    | ['!'] => some "!"
    | '!' :: name => some (String.ofList name)
    | _ => none
  | .garbled _ => none

/-- One of the known names, given as a scalar or as the tag of an empty one. -/
def choice (known : List String) (p : Place) : Reader String := do
  let name ← match ← p.target with
    | .scalar s style tag =>
      match tag.bind ownName? with
      | none => pure s
      | some name => if style = .plain ∧ (s.isEmpty ∨ isNull s) then pure name else refuse
    | _ => refuse
  if name ∈ known then return name else refuse

/-- The deepest nesting that is read. -/
def deepest : Nat := 128

/-- Whether an integer fits a count of bits, of which the first is the sign if it has a
minus. -/
def fits (bits : Nat) (negative : Bool) (n : Nat) : Bool :=
  if negative then n ≤ Nat.pow 2 (bits - 1) else n < Nat.pow 2 bits

/-- An integer that fits 64 bits, or none. One that fits only 128 bits is refused. -/
def integerAside (negative : Bool) (n : Nat) : Reader (Option Untyped) :=
  if fits 64 negative n then return some (if negative then .negated n else .natural n)
  else if fits 128 negative n then refuse
  else return none

/-- What a scalar that is no text stands for, or none. -/
def untaggedAside (s : String) : Reader Untyped := do
  let cs := s.toList
  if s.isEmpty || isNull s then return .null
  if let some b := bool? s then return .boolean b
  if let some (negative, n) := integer? cs then
    if let some u := ← integerAside negative n then return u
  if isNotFinite s then return .float none
  if isPaddedDigits cs then return .text s
  match decimal? cs with
  | some x => return .float (some x)
  | none => return .text s

/-- A scalar set aside. -/
def scalarAside (s : String) (style : ScalarStyle) : Option Tag → Reader Untyped
  | none | some (.garbled true) => if style = .plain then untaggedAside s else return .text s
  | some tag => do
    if tag = coreTag "bool" then return .boolean (← need (bool? s))
    else if tag = coreTag "int" then
      let (negative, n) ← need (integer? s.toList)
      need (← integerAside negative n)
    else if tag = coreTag "float" then
      if isNotFinite s then return .float none
      else return .float (some (← need (decimal? s.toList)))
    else if tag = coreTag "null" then if isNull s then return .null else refuse
    else if (ownName? tag).isSome then refuse
    else return .text s

/-- Whether a collection's tag names a kind of the document's own. -/
def hasOwnTag (tag : Option Tag) : Bool := (tag.bind ownName?).isSome

/-- Sets a node aside, with as many collections inside each other as are given. -/
def aside (d : Document) : Nat → Node → Reader Untyped
  | 0, node => do
    match ← d.target node with
    | .scalar s style tag => scalarAside s style tag
    | _ => refuse
  | fuel + 1, node => do
    match ← d.target node with
    | .scalar s style tag => scalarAside s style tag
    | .sequence tag items =>
      if hasOwnTag tag then refuse
      return .sequence (← items.mapM (aside d fuel))
    | .mapping tag members =>
      if hasOwnTag tag then refuse
      return .map (← members.mapM fun (key, value) =>
        return (← aside d fuel key, ← aside d fuel value))
    | .alias _ => refuse

end Place

instance : Source Place Reader where
  text p := p.text
  boolean p := do need (bool? (← p.typed "bool"))
  word p := do need ((natural? (← p.typed "int").toList).bind Text.toWord?)
  present p := p.present
  elements p := return ⟨← p.elements, none⟩
  members _ p := return ⟨← p.members, none⟩
  record _ p := return .named ⟨← p.members, none⟩
  choice known p := p.choice known
  skip _ := pure ()
  untyped p := Place.aside p.document (Place.deepest - p.depth) p.node

end Yaml

/-- Decodes a YAML text. A text without content reads as an empty value. -/
def Decode.ofYaml {α : Type} (item : Yaml.Place → Yaml.Reader α) (text : String) : Option α := do
  let d ← Yaml.Document.ofText? text
  let read := item ⟨d, d.root.getD (.scalar "" .plain none), 0⟩
  (read.run' d.aliasBudget).toOption

end PipelineCanvas
