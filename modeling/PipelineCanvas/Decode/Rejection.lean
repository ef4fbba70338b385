import PipelineCanvas.Json.Spelling
import PipelineCanvas.Text.Hidden

/-!
# Why a document is refused

A document that is well formed may still not describe the value that is asked
for. `Rejection` lists the causes, and `Rejection.message` words them for the
person who wrote the document. A text can moreover be unreadable, which is the
other half of `Decode.Failure`.
-/

namespace PipelineCanvas.Decode

/-- What stands in a document where something else was expected. -/
inductive Found where
  | null
  | boolean (value : Bool)
  | integer (value : Int)
  /-- A number with a fraction or an exponent; none for one that is not finite. -/
  | float (value : Option Binary64)
  | text (value : String)
  | sequence
  | map
deriving DecidableEq, Repr

/-- What a reader expects. -/
inductive Expected where
  | text
  | boolean
  | word
  | map
  | sequence
  | record (name : String)
  | nameOrMap
  | nothing
deriving DecidableEq, Repr

/-- Why a document does not describe a value. -/
inductive Rejection where
  /-- It has another type. -/
  | wrongType (found : Found) (expected : Expected)
  /-- It is an integer that is no word. -/
  | outOfRange (value : Int)
  /-- It is a map where one name was expected, and has not exactly one key. -/
  | notOneKey
  | missingField (name : String)
  | duplicateField (name : String)
  /-- It is a name, and none of the known ones. -/
  | unknownName (name : String) (known : List String)
  /-- A list of a record's fields ends at a field that must be there. -/
  | tooShort (length : Nat) (record : String) (fields : Nat)
  /-- A list of a record's fields goes on behind the last one. -/
  | tooLong (length : Nat)
  /-- The same, where the record was set aside before it was read. -/
  | tooLongAside (length fields : Nat)
  /-- It is neither a pair of lengths nor a text. -/
  | noStyle
  | notLength (text unit : String)
  | notStyle (text : String)
deriving DecidableEq, Repr

/-- A text between backquotes. -/
def ticked (s : String) : String := "`" ++ s ++ "`"

/-- The wording of a found value. -/
def Found.wording : Found → String
  | .null => "null"
  | .boolean b => "boolean " ++ ticked (if b then "true" else "false")
  | .integer i => "integer " ++ ticked (Text.decimalInt i)
  | .float none => "floating point"
  | .float (some x) => "floating point " ++ ticked x.text
  | .text s => "string " ++ Text.visiblyQuoted s
  | .sequence => "sequence"
  | .map => "map"

/-- The wording of an expectation. -/
def Expected.wording : Expected → String
  | .text => "a string"
  | .boolean => "a boolean"
  | .word => "u32"
  | .map => "a map"
  | .sequence => "a sequence"
  | .record name => "struct " ++ name
  | .nameOrMap => "string or map"
  | .nothing => "unit"

/-- A count of elements in words. -/
def elementCount (n : Nat) : String :=
  Text.decimal n ++ (if n = 1 then " element" else " elements")

/-- A list of names to choose from. -/
def alternatives : List String → String
  | [a, b] => ticked a ++ " or " ++ ticked b
  | [a] => ticked a
  | names => "one of " ++ ", ".intercalate (names.map ticked)

/-- The wording of a rejection. -/
def Rejection.message : Rejection → String
  | .wrongType found expected =>
    "invalid type: " ++ found.wording ++ ", expected " ++ expected.wording
  | .outOfRange i =>
    "invalid value: " ++ (Found.integer i).wording ++ ", expected " ++ Expected.word.wording
  | .notOneKey => "invalid value: map, expected map with a single key"
  | .missingField name => "missing field " ++ ticked name
  | .duplicateField name => "duplicate field " ++ ticked name
  | .unknownName name known =>
    "unknown variant " ++ ticked name ++ ", expected " ++ alternatives known
  | .tooShort length record fields =>
    "invalid length " ++ Text.decimal length ++ ", expected struct " ++ record ++ " with "
      ++ elementCount fields
  | .tooLong length =>
    "invalid length " ++ Text.decimal length ++ ", expected fewer elements in array"
  | .tooLongAside length fields =>
    "invalid length " ++ Text.decimal length ++ ", expected " ++ elementCount fields
      ++ " in sequence"
  | .noStyle => "data did not match any variant of untagged enum StyleWire"
  | .notLength text unit => "'" ++ text ++ "' is not a length in " ++ unit
  | .notStyle text => "'" ++ text ++ "' is not a node style"

/-- Why nothing is decoded. -/
inductive Failure where
  /-- The text of the document has a fault. -/
  | unreadable (cause : Json.Cause)
  /-- The document does not describe the value. -/
  | rejected (why : Rejection)
  /-- The document does not describe the value, and nothing more is said. -/
  | refused
deriving DecidableEq, Repr

/-- The wording of a failure. -/
def Failure.message : Failure → String
  | .unreadable cause => cause.message
  | .rejected why => why.message
  | .refused => "the document describes no such value"

/-- A decoded value or a failure. -/
abbrev Result := Except Failure

variable {α : Type} {M : Type → Type} [MonadExceptOf Failure M]

/-- Refuses a document. -/
def reject (why : Rejection) : M α := throw (.rejected why)

/-- Refuses what was found in place of something else. -/
def mismatch (found : Found) (expected : Expected) : M α := reject (.wrongType found expected)

end PipelineCanvas.Decode
