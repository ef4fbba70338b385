import PipelineCanvas.Yaml.Scalar

/-!
# YAML tokens

A YAML text is first cut into tokens. Brackets, commas and dashes announce
themselves; that a scalar is a *key* is only known at the colon behind it. So a
token that could be a key is remembered as a `Candidate`, and the colon inserts a
`Token.key` in front of it, together with the start of the block mapping that its
indentation opens. A candidate must be found out on its own line and within 1024
characters; where indentation leaves no other reading it must be a key.

* `Token` – the tokens, without their places;
* `TagText` – what a tag spells, which need not be a text;
* `Tokenizer` – the state between two tokens: open collections and candidates;
* **`Token.ofText?`** – the tokens of a text, up to `Token.streamEnd`.
-/

namespace PipelineCanvas.Yaml

/-- What a tag spells. Octets that are no character stand as none. -/
abbrev TagText := List (Option Char)

/-- The tokens of a text. -/
inductive Token where
  | streamEnd
  | version (major minor : Nat)
  | tagDirective (handle : List Char) (stem : TagText)
  | documentStart
  | documentEnd
  | blockSequenceStart
  | blockMappingStart
  | blockEnd
  | flowSequenceStart
  | flowSequenceEnd
  | flowMappingStart
  | flowMappingEnd
  | blockEntry
  | flowEntry
  | key
  | value
  | alias (name : List Char)
  | anchor (name : List Char)
  | tag (handle : List Char) (suffix : TagText)
  | scalar (text : String) (style : ScalarStyle)
deriving DecidableEq, Repr, Inhabited

/-! ### Names, tags and directives -/

/-- Reads the name of an anchor or alias from behind its mark. -/
def anchorName? (c : Cursor) : Option (List Char × Cursor) :=
  let (name, c) := c.takeWhile isNameChar
  let closed := blankAhead c.rest || match c.rest with
    | ch :: _ => "?:,]\x7d%@`".toList.contains ch
    | [] => true
  if name.isEmpty || !closed then none else some (name, c)

/-- Whether a character may stand in a tag; `verbatim` allows flow marks. -/
def isTagChar (verbatim : Bool) (c : Char) : Bool :=
  isNameChar c || ";/?:@&=+$.!~*'()%".toList.contains c
    || (verbatim && ",[]".toList.contains c)

/-- The value of an octet written as `%` and two hexadecimal digits. -/
def octet? : List Char → Option (Nat × List Char)
  | '%' :: a :: b :: rest => (Text.digits? 16 [a, b]).map fun n => (n, rest)
  | _ => none

/-- Octets that continue a character. -/
def trailingOctets? : Nat → Nat → List Char → Option (Nat × List Char)
  | 0, code, cs => some (code, cs)
  | n + 1, code, cs =>
    match octet? cs with
    | some (octet, rest) =>
      if octet / 64 = 2 then trailingOctets? n (code * 64 + octet % 64) rest else none
    | none => none

/-- The character that has a code, if one octet and a count of more are what it takes to
write it. -/
def charOfOctets? (more code : Nat) : Option Char :=
  let least := match more with
    | 0 => 0
    | 1 => 0x80
    | 2 => 0x800
    | _ => 0x10000
  if code < least then none else charOfCode? code

/-- Reads one character written in octets; none if they are badly written. -/
def octetChar? (cs : List Char) : Option (Option Char × List Char) :=
  match octet? cs with
  | none => none
  | some (octet, rest) =>
    let lead : Option (Nat × Nat) :=
      if octet < 0x80 then some (0, octet)
      else if octet / 32 = 6 then some (1, octet % 32)
      else if octet / 16 = 14 then some (2, octet % 16)
      else if octet / 8 = 30 then some (3, octet % 8)
      else none
    match lead with
    | none => none
    | some (more, code) =>
      (trailingOctets? more code rest).map fun (code, rest) => (charOfOctets? more code, rest)

/-- Reads the characters of a tag; none if an octet is badly written. -/
def tagChars? (verbatim : Bool) : Nat → Cursor → Option (TagText × Cursor)
  | 0, _ => none
  | fuel + 1, c =>
    match c.rest with
    | [] => some ([], c)
    | ch :: _ =>
      if !isTagChar verbatim ch then some ([], c)
      else if ch == '%' then
        match octetChar? c.rest with
        | none => none
        | some (r, rest) =>
          (tagChars? verbatim fuel (c.skip (c.rest.length - rest.length))).map
            fun (cs, c) => (r :: cs, c)
      else (tagChars? verbatim fuel c.next).map fun (cs, c) => (some ch :: cs, c)

/-- Reads the rest of a tag behind a head; head and rest may not both be empty. The
first character of the head is its mark, and no part of the tag. The tag ends before a
NUL that it spells. -/
def tagSuffix? (verbatim : Bool) (head : List Char) (c : Cursor) :
    Option (TagText × Cursor) := do
  let (cs, after) ← tagChars? verbatim c.steps c
  if head.isEmpty && cs.isEmpty then none
  return ((head.tail.map some ++ cs).takeWhile (· != some '\x00'), after)

/-- Reads a handle: a name between exclamation marks, of which the second may be
missing. -/
def tagHandle? (c : Cursor) : Option (List Char × Cursor) :=
  match c.rest with
  | '!' :: _ =>
    let (name, c) := c.next.takeWhile isNameChar
    match c.rest with
    | '!' :: _ => some ('!' :: name ++ ['!'], c.next)
    | _ => some ('!' :: name, c)
  | _ => none

/-- Whether a handle has both its marks. -/
def isFullHandle (handle : List Char) : Bool :=
  1 < handle.length && handle.getLast? == some '!'

/-- Reads a tag from its mark on. -/
def tagToken? (flow : Bool) (c : Cursor) : Option (Token × Cursor) := do
  let (handle, suffix, c) ← match c.rest with
    | _ :: '<' :: _ => do
      let (suffix, c) ← tagSuffix? true [] (c.skip 2)
      match c.rest with
      | '>' :: _ => some (([] : List Char), suffix, c.next)
      | _ => none
    | _ => do
      let (handle, c) ← tagHandle? c
      if isFullHandle handle then
        let (suffix, c) ← tagSuffix? false [] c
        some (handle, suffix, c)
      else
        let (suffix, c) ← tagSuffix? false handle c
        if suffix.isEmpty then some ([], [some '!'], c) else some (['!'], suffix, c)
  let closed := blankAhead c.rest || (flow && c.rest.head? == some ',')
  if closed then some (.tag handle suffix, c) else none

/-- Reads a number of a version. -/
def versionNumber? (c : Cursor) : Option (Nat × Cursor) :=
  let (digits, c) := c.takeWhile Text.isDigit
  if digits.isEmpty || 9 < digits.length then none else some (Text.decimalValue digits, c)

/-- Reads a directive from its mark on, with the rest of its line. -/
def directive? (c : Cursor) : Option (Token × Cursor) := do
  let (name, c) := c.next.takeWhile isNameChar
  if name.isEmpty || !blankAhead c.rest then none
  if name == "YAML".toList then
    let (major, c) ← versionNumber? (c.dropWhile isSpace)
    match c.rest with
    | '.' :: _ =>
      let (minor, c) ← versionNumber? c.next
      let c ← c.endOfLine?
      return (.version major minor, c)
    | _ => none
  else if name == "TAG".toList then
    let (handle, c) ← tagHandle? (c.dropWhile isSpace)
    if handle != ['!'] && !isFullHandle handle then none
    if !(c.rest.head?.any isSpace) then none
    let (stem, c) ← tagSuffix? true [] (c.dropWhile isSpace)
    if !blankAhead c.rest then none
    let c ← c.endOfLine?
    return (.tagDirective handle stem, c)
  else none

/-! ### The state between two tokens -/

/-- A token that may turn out to be a key. -/
structure Candidate where
  /-- Its place among the tokens. -/
  position : Nat
  /-- Whether it can be nothing else. -/
  required : Bool
  index : Nat
  line : Nat
  column : Nat

/-- The state between two tokens. -/
structure Tokenizer where
  cursor : Cursor
  /-- The count of open brackets and braces. -/
  flow : Nat
  /-- The column of the innermost block collection, −1 outside of all. -/
  indent : Int
  /-- The columns of those around it, innermost first. -/
  outer : List Int
  /-- Whether a key may start here. -/
  keyAllowed : Bool
  /-- The candidate of the innermost flow level. -/
  candidate : Option Candidate
  /-- Those of the levels around it, innermost first. -/
  candidates : List (Option Candidate)
  /-- The tokens so far. -/
  tokens : Array Token

namespace Tokenizer

/-- The start of a text. -/
def start (cs : List Char) : Tokenizer :=
  ⟨.start cs, 0, -1, [], true, none, [], #[]⟩

/-- Adds a token and moves behind it. -/
def emit (t : Tokenizer) (token : Token) (c : Cursor) : Tokenizer :=
  { t with tokens := t.tokens.push token, cursor := c }

/-- Puts a token in front of the one at a position. -/
def insertAt (t : Tokenizer) (position : Nat) (token : Token) : Tokenizer :=
  { t with tokens := t.tokens.insertIdxIfInBounds position token }

/-- Whether a candidate can no longer be found out. -/
def stale (t : Tokenizer) (k : Candidate) : Bool :=
  k.line < t.cursor.line || k.index + 1024 < t.cursor.index

/-- Drops the candidate of this level if it can no longer be found out; none if it had to
be a key. Those of the levels around it wait until their level is back. -/
def dropStale? (t : Tokenizer) : Option Tokenizer :=
  match t.candidate with
  | some k => if t.stale k then (if k.required then none else some { t with candidate := none })
    else some t
  | none => some t

/-- Gives up the candidate of this level; none if it had to be a key. -/
def dropCandidate? (t : Tokenizer) : Option Tokenizer :=
  match t.candidate with
  | some k => if k.required then none else some { t with candidate := none }
  | none => some t

/-- Takes the token to come as a candidate, where a key may start. -/
def saveCandidate? (t : Tokenizer) : Option Tokenizer :=
  if t.keyAllowed then do
    let t ← t.dropCandidate?
    let c := t.cursor
    let required := t.flow == 0 && t.indent == c.column
    return { t with candidate := some ⟨t.tokens.size, required, c.index, c.line, c.column⟩ }
  else some t

/-- Opens a block collection at a column that is deeper than the innermost, in
front of the token at a position. -/
def openBlock (t : Tokenizer) (column position : Nat) (token : Token) : Tokenizer :=
  if t.flow == 0 && t.indent < column then
    { t.insertAt position token with indent := column, outer := t.indent :: t.outer }
  else t

/-- The columns and tokens when the block collections deeper than a column are
closed. -/
def closeBlocks (column : Int) : Int → List Int → Array Token → Int × List Int × Array Token
  | indent, [], tokens => (indent, [], tokens)
  | indent, o :: outer, tokens =>
    if column < indent then closeBlocks column o outer (tokens.push .blockEnd)
    else (indent, o :: outer, tokens)

/-- Closes the block collections deeper than a column. -/
def closeTo (t : Tokenizer) (column : Int) : Tokenizer :=
  if t.flow == 0 then
    let (indent, outer, tokens) := closeBlocks column t.indent t.outer t.tokens
    { t with indent, outer, tokens }
  else t

/-- Passes over spaces, comments and line breaks. Behind a line break outside of
brackets a key may start; before one, a tab is no space. A byte order mark may stand
at the start of a line, and takes a column there. -/
def toToken : Nat → Tokenizer → Tokenizer
  | 0, t => t
  | fuel + 1, t =>
    let c := if t.cursor.column = 0 ∧ t.cursor.rest.head? = some '\ufeff' then t.cursor.next
      else t.cursor
    let tabs := t.flow != 0 || !t.keyAllowed
    let c := c.dropWhile fun ch => ch == ' ' || (tabs && ch == '\t')
    let c := if c.rest.head? = some '#' then c.dropLine else c
    match c.rest with
    | [] => { t with cursor := c }
    | ch :: _ =>
      if isBreak ch then
        toToken fuel { t with cursor := c.next, keyAllowed := t.keyAllowed || t.flow == 0 }
      else { t with cursor := c }

/-- A token of `n` characters that closes all blocks, as a document marker does. -/
def marker? (t : Tokenizer) (token : Token) (c : Cursor) : Option Tokenizer := do
  let t ← (t.closeTo (-1)).dropCandidate?
  return { t.emit token c with keyAllowed := false }

/-- An opening bracket or brace. -/
def openFlow? (t : Tokenizer) (token : Token) : Option Tokenizer := do
  let t ← t.saveCandidate?
  let t := { t with
    flow := t.flow + 1, candidate := none, candidates := t.candidate :: t.candidates
    keyAllowed := true }
  return t.emit token t.cursor.next

/-- A closing bracket or brace. -/
def closeFlow? (t : Tokenizer) (token : Token) : Option Tokenizer := do
  let t ← t.dropCandidate?
  let t := match t.candidates with
    | k :: ks => { t with flow := t.flow - 1, candidate := k, candidates := ks }
    | [] => t
  return { t.emit token t.cursor.next with keyAllowed := false }

/-- A comma. -/
def flowEntry? (t : Tokenizer) : Option Tokenizer := do
  let t ← t.dropCandidate?
  return { t.emit .flowEntry t.cursor.next with keyAllowed := true }

/-- A dash in front of an item. -/
def blockEntry? (t : Tokenizer) : Option Tokenizer := do
  if t.flow == 0 && !t.keyAllowed then none
  let t ← (t.openBlock t.cursor.column t.tokens.size .blockSequenceStart).dropCandidate?
  return { t.emit .blockEntry t.cursor.next with keyAllowed := true }

/-- A question mark in front of a key. -/
def keyMark? (t : Tokenizer) : Option Tokenizer := do
  if t.flow == 0 && !t.keyAllowed then none
  let t ← (t.openBlock t.cursor.column t.tokens.size .blockMappingStart).dropCandidate?
  return { t.emit .key t.cursor.next with keyAllowed := t.flow == 0 }

/-- A colon in front of a value. With a candidate it makes that a key. -/
def valueMark? (t : Tokenizer) : Option Tokenizer :=
  match t.candidate with
  | some k =>
    let t := (t.insertAt k.position .key).openBlock k.column k.position .blockMappingStart
    some { t.emit .value t.cursor.next with candidate := none, keyAllowed := false }
  | none =>
    if t.flow == 0 && !t.keyAllowed then none
    else
      let t := t.openBlock t.cursor.column t.tokens.size .blockMappingStart
      some { t.emit .value t.cursor.next with keyAllowed := t.flow == 0 }

/-- A token that may be a key, read from behind the cursor. -/
def keyLike? (t : Tokenizer) (read : Cursor → Option (Token × Cursor)) : Option Tokenizer := do
  let t ← t.saveCandidate?
  let (token, c) ← read t.cursor
  return { t.emit token c with keyAllowed := false }

/-- A plain scalar. Behind a line break that it swallowed a key may start. -/
def plain? (t : Tokenizer) : Option Tokenizer := do
  let t ← t.saveCandidate?
  let (f, c) ← plainScalar (t.flow != 0) (t.indent + 1).toNat
    t.cursor.steps true .empty t.cursor
  return { t.emit (.scalar f.text .plain) c with keyAllowed := f.broken }

/-- A quoted scalar. -/
def quoted? (t : Tokenizer) (single : Bool) : Option Tokenizer :=
  t.keyLike? fun c => do
    let (f, c) ← quotedScalar single c.steps .empty c.next
    return (.scalar f.text .quoted, c)

/-- A block scalar. -/
def block? (t : Tokenizer) (literal : Bool) : Option Tokenizer := do
  let t ← t.dropCandidate?
  let (text, c) ← blockScalar literal t.indent t.cursor.next
  return { t.emit (.scalar text (if literal then .literal else .folded)) c with
    keyAllowed := true }

/-- Whether a plain scalar may start with a character in front of a rest. -/
def startsPlain (flow : Bool) (ch : Char) (rest : List Char) : Bool :=
  !"-?:,[]\x7b\x7d#&*!|>'\"%@`".toList.contains ch && !isSpace ch && !isBreak ch
    || (ch == '-' && !(rest.head?.any isSpace))
    || (!flow && (ch == '?' || ch == ':') && !blankAhead rest)

/-- Reads the token whose first character the cursor stands at. -/
def token? (t : Tokenizer) (ch : Char) (rest : List Char) : Option Tokenizer :=
  let c := t.cursor
  let flow := t.flow != 0
  if c.column == 0 && ch == '%' then do
    let (token, after) ← directive? c
    t.marker? token after
  else if c.atDocumentMarker then
    t.marker? (if ch == '-' then .documentStart else .documentEnd) (c.skip 3)
  else if ch == '[' then t.openFlow? .flowSequenceStart
  else if ch == '\x7b' then t.openFlow? .flowMappingStart
  else if ch == ']' then t.closeFlow? .flowSequenceEnd
  else if ch == '\x7d' then t.closeFlow? .flowMappingEnd
  else if ch == ',' then t.flowEntry?
  else if ch == '-' && blankAhead rest then t.blockEntry?
  else if ch == '?' && (flow || blankAhead rest) then t.keyMark?
  else if ch == ':' && (flow || blankAhead rest) then t.valueMark?
  else if ch == '*' then
    t.keyLike? fun c => (anchorName? c.next).map fun (name, c) => (.alias name, c)
  else if ch == '&' then
    t.keyLike? fun c => (anchorName? c.next).map fun (name, c) => (.anchor name, c)
  else if ch == '!' then t.keyLike? (tagToken? flow)
  else if ch == '|' && !flow then t.block? true
  else if ch == '>' && !flow then t.block? false
  else if ch == '\'' then t.quoted? true
  else if ch == '"' then t.quoted? false
  else if startsPlain flow ch rest then t.plain?
  else none

/-- Reads tokens to the end of the text. -/
def run : Nat → Tokenizer → Option (Array Token)
  | 0, _ => none
  | fuel + 1, t => do
    let t ← (t.toToken t.cursor.steps).dropStale?
    let t := t.closeTo t.cursor.column
    match t.cursor.rest with
    | [] =>
      let t ← (t.closeTo (-1)).dropCandidate?
      return t.tokens.push .streamEnd
    | ch :: rest =>
      let t ← t.token? ch rest
      run fuel t

end Tokenizer

/-- **The tokens of a text,** `Token.streamEnd` last; none if the text is badly
formed. -/
def Token.ofText? (text : String) : Option (List Token) :=
  let cs := text.toList
  if cs.all isPrintable then
    (Tokenizer.run (cs.length + 2) (.start (normalize cs))).map Array.toList
  else none

end PipelineCanvas.Yaml
