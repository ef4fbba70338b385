import PipelineCanvas.Text.Numeral

/-!
# What is wrong with a JSON text

A text that is no JSON text has a first place where it goes wrong. `Cause` lists what
can be wrong there, and a `Fault` joins it to the place, which is kept as the number of
bytes left behind it. A `Complaint` gives the place by line and column, for the person
who has to mend the text.
-/

namespace PipelineCanvas.Json

/-- What is wrong. -/
inductive Cause where
  /-- The text ends inside an array. -/
  | endInArray
  /-- The text ends inside an object. -/
  | endInObject
  /-- The text ends before a closing quote. -/
  | endInString
  /-- The text ends where a value is missing or not finished. -/
  | endInValue
  | expectedColon
  | expectedArrayEnd
  | expectedObjectEnd
  /-- A word that begins like `null`, `true` or `false` goes on otherwise. -/
  | expectedWord
  | expectedValue
  /-- No escape begins with the character behind `\`. -/
  | unknownEscape
  /-- Behind `\u` there are not four hexadecimal digits. -/
  | badHexDigits
  | badNumber
  /-- A number is larger than every floating-point number. -/
  | numberTooLarge
  | controlCharacter
  | keyNotQuoted
  /-- A surrogate is the trailing one of no pair. -/
  | loneSurrogate
  /-- No escape follows a leading surrogate. -/
  | cutSurrogate
  | trailingComma
  /-- Something follows the value. -/
  | trailingText
  | nestedTooDeep
deriving DecidableEq, Repr

namespace Cause

/-- Whether more text might mend it. -/
def isEnd : Cause → Bool
  | .endInArray | .endInObject | .endInString | .endInValue => true
  | _ => false

/-- The wording of a cause. -/
def message : Cause → String
  | .endInArray => "EOF while parsing a list"
  | .endInObject => "EOF while parsing an object"
  | .endInString => "EOF while parsing a string"
  | .endInValue => "EOF while parsing a value"
  | .expectedColon => "expected `:`"
  | .expectedArrayEnd => "expected `,` or `]`"
  | .expectedObjectEnd => "expected `,` or `\x7d`"
  | .expectedWord => "expected ident"
  | .expectedValue => "expected value"
  | .unknownEscape | .badHexDigits => "invalid escape"
  | .badNumber => "invalid number"
  | .numberTooLarge => "number out of range"
  | .controlCharacter => "control character (\\u0000-\\u001F) found while parsing a string"
  | .keyNotQuoted => "key must be a string"
  | .loneSurrogate => "lone leading surrogate in hex escape"
  | .cutSurrogate => "unexpected end of hex escape"
  | .trailingComma => "trailing comma"
  | .trailingText => "trailing characters"
  | .nestedTooDeep => "recursion limit exceeded"

end Cause

/-- A cause and its place. -/
structure Fault where
  cause : Cause
  /-- The number of bytes behind the place. -/
  left : Nat
deriving DecidableEq, Repr

/-- The count of bytes of a text in UTF-8. -/
def byteCount (cs : List Char) : Nat := cs.foldl (fun n c => n + c.utf8Size) 0

namespace Fault

/-- A fault in front of a text. -/
def before (cause : Cause) (rest : List Char) : Fault := ⟨cause, byteCount rest⟩

/-- A fault at the first byte of a text. The place is behind that byte, or at the end. -/
def atFirst (cause : Cause) (rest : List Char) : Fault := ⟨cause, byteCount rest - 1⟩

/-- A fault at the end of the text. -/
def atEnd (cause : Cause) : Fault := ⟨cause, 0⟩

end Fault

/-- A cause with its place by line and column. -/
structure Complaint where
  cause : Cause
  /-- The number of the line, from 1. -/
  line : Nat
  /-- How many bytes of the line there are before the place. -/
  column : Nat
deriving DecidableEq, Repr

namespace Complaint

/-- The complaint about a fault in a text. -/
def ofFault (text : String) (fault : Fault) : Complaint :=
  let passed := (text.toUTF8.data.toList.take (text.utf8ByteSize - fault.left)).reverse
  { cause := fault.cause
    line := passed.count 10 + 1
    column := (passed.takeWhile (· ≠ 10)).length }

/-- The wording of a complaint. -/
def message (c : Complaint) : String :=
  c.cause.message ++ " at line " ++ Text.decimal c.line ++ " column " ++ Text.decimal c.column

end Complaint

end PipelineCanvas.Json
