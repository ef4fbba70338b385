import PipelineCanvas.Text.Numeral

/-!
# Places in a YAML text

Indentation carries meaning in YAML, so every reader knows the column it stands
in. A `Yaml.Cursor` is the text still to come together with its line and column;
a line break of any spelling is one character of it (`Yaml.normalize`).
-/

namespace PipelineCanvas.Yaml

/-! ### Characters -/

/-- The characters a YAML text may hold. -/
def isPrintable (c : Char) : Bool :=
  let n := c.toNat
  n == 0x09 || n == 0x0A || n == 0x0D || (0x20 ≤ n && n ≤ 0x7E) || n == 0x85
    || (0xA0 ≤ n && n ≤ 0xD7FF) || (0xE000 ≤ n && n ≤ 0xFFFD) || 0x10000 ≤ n

/-- Line breaks, once spelled alike. -/
def isBreak (c : Char) : Bool := c == '\n' || c == '\u2028' || c == '\u2029'

/-- Space and tab. -/
def isSpace (c : Char) : Bool := c == ' ' || c == '\t'

/-- Letters, digits, `_` and `-`. -/
def isNameChar (c : Char) : Bool :=
  ('0' ≤ c && c ≤ '9') || ('A' ≤ c && c ≤ 'Z') || ('a' ≤ c && c ≤ 'z') || c == '_' || c == '-'

/-- Spells carriage returns, with or without a line feed, and next-line characters
as line feeds. The two Unicode separators stay, since a text keeps them. -/
def normalize : List Char → List Char
  | [] => []
  | '\r' :: '\n' :: rest => '\n' :: normalize rest
  | c :: rest => (if c = '\r' ∨ c = '\u0085' then '\n' else c) :: normalize rest

/-- Whether a text ends or a space or line break comes first. -/
def blankAhead : List Char → Bool
  | [] => true
  | c :: _ => isSpace c || isBreak c

/-! ### Cursors -/

/-- The text to come, and where it stands. -/
structure Cursor where
  rest : List Char
  /-- The count of characters of the whole text. -/
  size : Nat
  /-- The count of characters before. -/
  index : Nat
  line : Nat
  column : Nat

namespace Cursor

/-- The start of a text. -/
def start (cs : List Char) : Cursor := ⟨cs, cs.length, 0, 0, 0⟩

/-- A bound on the steps of a reader that passes over a character with each but one. -/
def steps (c : Cursor) : Nat := c.size - c.index + 1

/-- Past the next character. -/
def next (c : Cursor) : Cursor :=
  match c.rest with
  | [] => c
  | ch :: rest =>
    if isBreak ch then ⟨rest, c.size, c.index + 1, c.line + 1, 0⟩
    else ⟨rest, c.size, c.index + 1, c.line, c.column + 1⟩

/-- Past a count of characters. -/
def skip : Nat → Cursor → Cursor
  | 0, c => c
  | n + 1, c => skip n c.next

/-- Past the characters that pass a test, which are returned. -/
def takeWhile (p : Char → Bool) (c : Cursor) : List Char × Cursor :=
  let taken := c.rest.takeWhile p
  (taken, c.skip taken.length)

/-- Past the characters that pass a test. -/
def dropWhile (p : Char → Bool) (c : Cursor) : Cursor := (c.takeWhile p).2

/-- Past the rest of the line. -/
def dropLine (c : Cursor) : Cursor := c.dropWhile fun ch => !isBreak ch

/-- Whether a line starts here with the marker of a document's start or end. -/
def atDocumentMarker (c : Cursor) : Bool :=
  c.column == 0 && match c.rest with
    | '-' :: '-' :: '-' :: rest => blankAhead rest
    | '.' :: '.' :: '.' :: rest => blankAhead rest
    | _ => false

/-- The end of a line on which only spaces and a comment may remain; none if
something else does. -/
def endOfLine? (c : Cursor) : Option Cursor :=
  let c := c.dropWhile isSpace
  let c := match c.rest with
    | '#' :: _ => c.dropLine
    | _ => c
  match c.rest with
  | [] => some c
  | ch :: _ => if isBreak ch then some c.next else none

end Cursor

end PipelineCanvas.Yaml
