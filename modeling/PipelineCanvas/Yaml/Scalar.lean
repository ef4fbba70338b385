import PipelineCanvas.Yaml.Cursor

/-!
# The texts of YAML scalars

A scalar is written plain, between quotes, or as an indented block. In the first
two styles a line break is folded: with the spaces around it, it stands for one
space, and every further break for itself (`Yaml.Folding`). A block keeps its
lines, or folds those that do not start with a space.

Each reader starts at the first character of a scalar and returns its text with
the place behind it, or nothing when the scalar is badly formed.
-/

namespace PipelineCanvas.Yaml

/-- The ways of writing a scalar. -/
inductive ScalarStyle where
  | plain
  | quoted
  | literal
  | folded
deriving DecidableEq, Repr

/-! ### Folding -/

/-- A text in the making: what is settled, and the space behind it that is folded
once something follows. Lists are kept last character first. -/
structure Folding where
  settled : List Char
  /-- Spaces since the last settled character. -/
  spaces : List Char
  /-- Whether a line break was met since. -/
  broken : Bool
  /-- The first break, unless it was escaped. -/
  firstBreak : Option Char
  /-- The breaks behind the first. -/
  moreBreaks : List Char

namespace Folding

/-- Nothing yet. -/
def empty : Folding := ⟨[], [], false, none, []⟩

/-- Settles the space met so far. -/
def settle (f : Folding) : Folding :=
  if f.broken then
    let settled := match f.firstBreak, f.moreBreaks with
      | some '\n', [] => ' ' :: f.settled
      | some '\n', more => more ++ f.settled
      | some br, more => more ++ br :: f.settled
      | none, more => more ++ f.settled
    ⟨settled, [], false, none, []⟩
  else ⟨f.spaces ++ f.settled, [], false, none, []⟩

/-- Meets a space. Spaces behind a break are dropped. -/
def space (f : Folding) (ch : Char) : Folding :=
  if f.broken then f else { f with spaces := ch :: f.spaces }

/-- Meets a line break. Spaces before it are dropped. -/
def lineBreak (f : Folding) (ch : Char) : Folding :=
  if f.broken then { f with moreBreaks := ch :: f.moreBreaks }
  else { f with spaces := [], broken := true, firstBreak := some ch }

/-- Meets a line break that joins two lines without a space. -/
def joinLines (f : Folding) : Folding := { f with spaces := [], broken := true, firstBreak := none }

/-- Settles a character. -/
def push (f : Folding) (ch : Char) : Folding := { f.settle with settled := ch :: f.settle.settled }

/-- The settled text. -/
def text (f : Folding) : String := String.ofList f.settled.reverse

end Folding

/-! ### Plain scalars -/

/-- Whether a character separates items inside brackets and braces. -/
def isFlowMark (c : Char) : Bool := c == ',' || c == '[' || c == ']' || c == '\x7b' || c == '\x7d'

/-- Reads a plain scalar that must be indented to a column. `start` says that a word
may begin here, where a comment or a document marker would end the scalar. -/
def plainScalar (flow : Bool) (indent : Nat) :
    Nat → Bool → Folding → Cursor → Option (Folding × Cursor)
  | 0, _, _, _ => none
  | fuel + 1, start, f, c =>
    match c.rest with
    | [] => some (f, c)
    | ch :: rest =>
      if isSpace ch || isBreak ch then
        if isSpace ch && f.broken && c.column < indent && ch == '\t' then none
        else
          let f := if isBreak ch then f.lineBreak ch else f.space ch
          let c := c.next
          if blankAhead rest && !rest.isEmpty then plainScalar flow indent fuel start f c
          else if !flow && c.column < indent then some (f, c)
          else plainScalar flow indent fuel true f c
      else if start && (c.atDocumentMarker || ch == '#') then some (f, c)
      else if flow && ch == ':' && (match rest with
          | d :: _ => isFlowMark d || d == '?'
          | [] => false) then none
      else if (ch == ':' && blankAhead rest) || (flow && isFlowMark ch) then some (f, c)
      else plainScalar flow indent fuel false (f.push ch) c.next

/-! ### Quoted scalars -/

/-- The character that a letter behind a backslash stands for. -/
def unescape? (c : Char) : Option Char :=
  match c with
  | '0' => some '\x00'
  | 'a' => some '\x07'
  | 'b' => some '\x08'
  | 't' => some '\t'
  | '\t' => some '\t'
  | 'n' => some '\n'
  | 'v' => some '\x0b'
  | 'f' => some '\x0c'
  | 'r' => some '\r'
  | 'e' => some '\x1b'
  | ' ' => some ' '
  | '"' => some '"'
  | '/' => some '/'
  | '\\' => some '\\'
  | 'N' => some '\u0085'
  | '_' => some '\u00a0'
  | 'L' => some '\u2028'
  | 'P' => some '\u2029'
  | _ => none

/-- The count of hexadecimal digits behind a letter behind a backslash. -/
def escapeWidth? (c : Char) : Option Nat :=
  match c with
  | 'x' => some 2
  | 'u' => some 4
  | 'U' => some 8
  | _ => none

/-- The character with a number; surrogates and numbers past the last have none. -/
def charOfCode? (n : Nat) : Option Char :=
  if n < 0xD800 ∨ (0xDFFF < n ∧ n ≤ 0x10FFFF) then some (Char.ofNat n) else none

/-- Reads a quoted scalar from behind its opening quote. -/
def quotedScalar (single : Bool) : Nat → Folding → Cursor → Option (Folding × Cursor)
  | 0, _, _ => none
  | fuel + 1, f, c =>
    match c.rest with
    | [] => none
    | ch :: rest =>
      if isSpace ch then quotedScalar single fuel (f.space ch) c.next
      else if isBreak ch then quotedScalar single fuel (f.lineBreak ch) c.next
      else if c.atDocumentMarker then none
      else if single then
        if ch == '\'' then
          match rest with
          | '\'' :: _ => quotedScalar single fuel (f.push ch) (c.skip 2)
          | _ => some (f.settle, c.next)
        else quotedScalar single fuel (f.push ch) c.next
      else if ch == '"' then some (f.settle, c.next)
      else if ch == '\\' then
        match rest with
        | [] => none
        | e :: digits =>
          if isBreak e then quotedScalar single fuel f.settle.joinLines (c.skip 2)
          else match escapeWidth? e with
            | some width =>
              let ds := digits.take width
              if ds.length < width then none
              else match (Text.digits? 16 ds).bind charOfCode? with
                | some r => quotedScalar single fuel (f.push r) (c.skip (2 + width))
                | none => none
            | none =>
              match unescape? e with
              | some r => quotedScalar single fuel (f.push r) (c.skip 2)
              | none => none
      else quotedScalar single fuel (f.push ch) c.next

/-! ### Block scalars -/

/-- What happens to the line breaks at the end of a block. -/
inductive Chomping where
  /-- One is kept. -/
  | clip
  /-- None is kept. -/
  | strip
  /-- All are kept. -/
  | keep
deriving DecidableEq, Repr

/-- The chomping that a sign asks for. -/
def chomping? (c : Char) : Option Chomping :=
  if c == '+' then some .keep else if c == '-' then some .strip else none

/-- Reads the indentation digit of a block, zero when there is none; a written zero
is refused. -/
def blockIndent? (c : Cursor) : Option (Nat × Cursor) :=
  match c.rest with
  | [] => some (0, c)
  | d :: _ =>
    if d == '0' then none
    else if Text.isDigit d then some (d.toNat - '0'.toNat, c.next)
    else some (0, c)

/-- Reads the chomping sign of a block, if there is one. -/
def blockSign (c : Cursor) : Option Chomping × Cursor :=
  match c.rest with
  | [] => (none, c)
  | s :: _ =>
    match chomping? s with
    | some chomp => (some chomp, c.next)
    | none => (none, c)

/-- Reads what stands behind the mark of a block: a sign and a digit in either
order. -/
def blockHeader? (c : Cursor) : Option (Chomping × Nat × Cursor) := do
  match blockSign c with
  | (some chomp, c) =>
    let (n, c) ← blockIndent? c
    return (chomp, n, c)
  | (none, c) =>
    let (n, c) ← blockIndent? c
    if n = 0 then return (.clip, 0, c)
    let (chomp, c) := blockSign c
    return (chomp.getD .clip, n, c)

/-- Passes over the indentation of a block's lines and over its empty lines, whose
breaks are collected last first. An indentation of zero is not yet known; then the
deepest one met is returned. -/
def blockBreaks (indent : Nat) :
    Nat → Nat → List Char → Cursor → Option (List Char × Nat × Cursor)
  | 0, _, _, _ => none
  | fuel + 1, deepest, breaks, c =>
    match c.rest with
    | [] => some (breaks, max deepest c.column, c)
    | ch :: _ =>
      let before := indent = 0 ∨ c.column < indent
      if before ∧ ch = ' ' then blockBreaks indent fuel deepest breaks c.next
      else
        let deepest := max deepest c.column
        if before ∧ ch = '\t' then none
        else if isBreak ch then blockBreaks indent fuel deepest (ch :: breaks) c.next
        else some (breaks, deepest, c)

/-- Reads the lines of a block at a known indentation. `text` is kept last character
first; `lead` is the break that ended the line before, `breaks` those of the empty
lines behind it, and `spaced` says whether that line began with a space. -/
def blockLines (literal : Bool) (indent : Nat) : Nat → (text : List Char) →
    (lead : List Char) → (breaks : List Char) → (spaced : Bool) → Cursor →
    Option (List Char × List Char × List Char × Cursor)
  | 0, _, _, _, _, _ => none
  | fuel + 1, text, lead, breaks, spaced, c =>
    if c.column ≠ indent ∨ c.rest.isEmpty then some (text, lead, breaks, c)
    else
      let spacedNow := match c.rest with
        | ch :: _ => isSpace ch
        | [] => false
      let text :=
        if !literal && lead == ['\n'] && !spaced && !spacedNow then
          if breaks.isEmpty then ' ' :: text else breaks ++ text
        else breaks ++ (lead ++ text)
      let (words, c) := c.takeWhile fun ch => !isBreak ch
      let text := words.reverse ++ text
      let (lead, c) := match c.rest with
        | br :: _ => ([br], c.next)
        | [] => ([], c)
      match blockBreaks indent c.steps 0 [] c with
      | none => none
      | some (breaks, _, c) => blockLines literal indent fuel text lead breaks spacedNow c

/-- Reads a block scalar from behind its mark, inside a collection indented to
`parent`, which is −1 at the top. -/
def blockScalar (literal : Bool) (parent : Int) (c : Cursor) : Option (String × Cursor) := do
  let (chomp, increment, c) ← blockHeader? c
  let c ← c.endOfLine?
  let base := parent.toNat
  let given := if increment = 0 then 0 else base + increment
  let (breaks, deepest, c) ← blockBreaks given c.steps 0 [] c
  let indent := if given = 0 then max (max deepest (parent + 1).toNat) 1 else given
  let (text, lead, breaks, c) ←
    blockLines literal indent c.steps [] [] breaks false c
  let tail := match chomp with
    | .strip => text
    | .clip => lead ++ text
    | .keep => breaks ++ (lead ++ text)
  return (String.ofList tail.reverse, c)

end PipelineCanvas.Yaml
