import PipelineCanvas.Json.Basic

/-!
# JSON texts, written

Two layouts: `Json.compact`, without any space, and `Json.pretty`, one item or
member a line with two spaces of indentation for each level, empty arrays and
objects on one line. Both quote alike (`Json.quoted`): only `"`, `\` and control
characters below U+0020 are escaped.
-/

namespace PipelineCanvas.Json

/-- A character as it stands between the quotes of a JSON text. -/
def escaped (c : Char) : List Char :=
  match c with
  | '"' => ['\\', '"']
  | '\\' => ['\\', '\\']
  | '\n' => ['\\', 'n']
  | '\r' => ['\\', 'r']
  | '\t' => ['\\', 't']
  | '\x08' => ['\\', 'b']
  | '\x0c' => ['\\', 'f']
  | _ => if c.toNat < 0x20 then '\\' :: 'u' :: Text.hexDigits 4 c.toNat else [c]

/-- A text in quotes. -/
def quoted (s : String) : String :=
  String.ofList ('"' :: s.toList.flatMap escaped ++ ['"'])

/-- A value without parts; the texts of the others are not used. -/
def scalarText : Json → String
  | .null => "null"
  | .bool true => "true"
  | .bool false => "false"
  | .int i => Text.decimalInt i
  | .float x => x.text
  | .string s => quoted s
  | .array _ => "[]"
  | .object _ => "\x7b\x7d"

mutual

/-- The value on one line, without spaces. -/
def compact : Json → String
  | .array items => "[" ++ compactItems items ++ "]"
  | .object members => "\x7b" ++ compactMembers members ++ "\x7d"
  | .null => scalarText .null
  | .bool b => scalarText (.bool b)
  | .int i => scalarText (.int i)
  | .float x => scalarText (.float x)
  | .string s => scalarText (.string s)

/-- Items with commas between them. -/
def compactItems : List Json → String
  | [] => ""
  | [item] => compact item
  | item :: rest => compact item ++ "," ++ compactItems rest

/-- Members with commas between them. -/
def compactMembers : List (String × Json) → String
  | [] => ""
  | [(key, value)] => quoted key ++ ":" ++ compact value
  | (key, value) :: rest => quoted key ++ ":" ++ compact value ++ "," ++ compactMembers rest

end

/-- A line break and the indentation of a level. -/
def newline (level : Nat) : String := String.ofList ('\n' :: List.replicate (2 * level) ' ')

mutual

/-- The value with one item or member a line, at a level of indentation. -/
def prettyAt (level : Nat) : Json → String
  | .array [] => "[]"
  | .array (item :: rest) =>
    "[" ++ prettyItems (level + 1) (item :: rest) ++ newline level ++ "]"
  | .object [] => "\x7b\x7d"
  | .object (member :: rest) =>
    "\x7b" ++ prettyMembers (level + 1) (member :: rest) ++ newline level ++ "\x7d"
  | .null => scalarText .null
  | .bool b => scalarText (.bool b)
  | .int i => scalarText (.int i)
  | .float x => scalarText (.float x)
  | .string s => scalarText (.string s)

/-- Items, each on a line of its own. -/
def prettyItems (level : Nat) : List Json → String
  | [] => ""
  | [item] => newline level ++ prettyAt level item
  | item :: rest => newline level ++ prettyAt level item ++ "," ++ prettyItems level rest

/-- Members, each on a line of its own. -/
def prettyMembers (level : Nat) : List (String × Json) → String
  | [] => ""
  | [(key, value)] => newline level ++ quoted key ++ ": " ++ prettyAt level value
  | (key, value) :: rest =>
    newline level ++ quoted key ++ ": " ++ prettyAt level value ++ "," ++
      prettyMembers level rest

end

/-- The value with one item or member a line. -/
def pretty (value : Json) : String := prettyAt 0 value

end PipelineCanvas.Json
