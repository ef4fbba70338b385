import PipelineCanvas.Json.Basic
import PipelineCanvas.Json.Fault

/-!
# JSON texts, as spelled

A JSON text can go wrong in several ways at once, and what is reported is the
first fault on the way of whoever reads it: a reader that wants a text meets a
number before it meets the missing bracket at the end, one that has no use for a
member passes over an unpaired surrogate inside it. So a text is first turned
into its `Spelling`, which follows the text up to its first break and records
there what each kind of reader would say:

* `Quoted` – the characters and `\u` units between quotes, and the fault that ended
  them early; `Quoted.text` pairs surrogates;
* `Numeral` – the digits of a number; `Numeral.value?` is what they stand for;
* `Spelling` – a value with its nesting level; a list whose closing is missing
  keeps the items before the break;
* **`Document.ofText`** – the spelling of a whole text and whether anything but
  white space follows it.

The grammar is strict: white space is space, tab, line feed and carriage return,
and nothing stands before or after the value.
-/

namespace PipelineCanvas.Json

/-- An element of a quoted text. -/
inductive QuotedPart where
  /-- A character, as itself or by an escape of one letter. -/
  | char (c : Char) (escaped : Bool)
  /-- A 16-bit unit written `\u`, and what follows it. -/
  | unit (code : Nat) (rest : List Char)
deriving DecidableEq, Repr

/-- The inside of a quoted text, up to its closing quote or its first fault. -/
structure Quoted where
  parts : List QuotedPart
  fault : Option Fault
deriving DecidableEq, Repr

/-- The digits of a number. -/
structure Numeral where
  /-- What follows the number. -/
  rest : List Char
  negative : Bool
  whole : List Char
  /-- The digits after the point, none without a point. -/
  fraction : List Char
  /-- Whether there is a point. -/
  pointed : Bool
  /-- Sign and digits of the exponent. -/
  exponent : Option (Bool × List Char)
deriving DecidableEq, Repr

/-- A place where no value can be read. -/
structure Break where
  /-- What a reader of any value says. -/
  reading : Fault
  /-- What a reader that passes over the value says. -/
  skipping : Cause
  /-- What a reader says that looks only at the first character. -/
  glancing : Cause
deriving DecidableEq, Repr

/-- Where an array or object begins. -/
structure Opening where
  /-- How many arrays and objects there are around it, itself included. -/
  level : Nat
  /-- What follows its bracket. -/
  rest : List Char
deriving DecidableEq, Repr

/-- The spelling of a value. -/
inductive Spelling where
  | null
  | bool (value : Bool)
  | number (digits : Numeral)
  | string (inside : Quoted)
  | array (opening : Opening) (items : List Spelling) (stop : Option (Fault × Bool))
  | object (opening : Opening) (members : List (Quoted × Spelling)) (stop : Option (Fault × Bool))
  | broken (place : Break)
deriving Inhabited

/-- The deepest nesting that is read. -/
def deepestLevel : Nat := 127

/-- The fault of an array or object that is nested too deep. -/
def Opening.fault? (o : Opening) : Option Fault :=
  if deepestLevel < o.level then some (.before .nestedTooDeep o.rest) else none

/-! ### Quoted texts -/

/-- The value of four hexadecimal digits. -/
def hexUnit? (a b c d : Char) : Option Nat := Text.digits? 16 [a, b, c, d]

namespace Quoted

/-- A part in front. -/
def push (part : QuotedPart) : Quoted × List Char → Quoted × List Char
  | (q, rest) => ({ q with parts := part :: q.parts }, rest)

/-- No part, and a fault. -/
def failed (fault : Fault) : Quoted × List Char := (⟨[], some fault⟩, [])

/-- The character that a letter after `\` stands for. -/
def unescape? (c : Char) : Option Char :=
  match c with
  | '"' => some '"'
  | '\\' => some '\\'
  | '/' => some '/'
  | 'b' => some '\x08'
  | 'f' => some '\x0c'
  | 'n' => some '\n'
  | 'r' => some '\r'
  | 't' => some '\t'
  | _ => none

/-- Follows a quoted text from behind its opening quote. A `\u` with fewer than four
bytes behind it has met the end of the text. -/
def scan : List Char → Quoted × List Char
  | [] => failed (.atEnd .endInString)
  | '"' :: rest => (⟨[], none⟩, rest)
  | '\\' :: [] => failed (.atEnd .endInString)
  | '\\' :: 'u' :: a :: b :: c :: d :: rest =>
    match hexUnit? a b c d with
    | some code => push (.unit code rest) (scan rest)
    | none => failed ⟨.badHexDigits, byteCount (a :: b :: c :: d :: rest) - 4⟩
  | '\\' :: 'u' :: rest =>
    failed (if byteCount rest < 4 then .atEnd .endInString
      else ⟨.badHexDigits, byteCount rest - 4⟩)
  | '\\' :: e :: rest =>
    match unescape? e with
    | some c => push (.char c true) (scan rest)
    | none => failed (.atFirst .unknownEscape (e :: rest))
  | c :: rest =>
    if c.toNat < 0x20 then failed (.before .controlCharacter rest)
    else push (.char c false) (scan rest)

/-- The fault of a leading surrogate before a rest, where no further part follows: `fault`
is what ended the parts. A pair that ends in the middle is that fault; anything else
shows that no pair was begun. -/
def unpaired (rest : List Char) (fault : Option Fault) : Fault :=
  match fault with
  | none => .atFirst .cutSurrogate rest
  | some f => if f.cause.isEnd || f.cause = .badHexDigits then f else ⟨.cutSurrogate, f.left⟩

/-- The characters of parts, each leading surrogate joined to the trailing one that
must follow it. `fault` is what came after the last part. -/
def chars (fault : Option Fault) : List QuotedPart → Except Fault (List Char)
  | [] => match fault with
    | some f => .error f
    | none => .ok []
  | .char c _ :: rest => (chars fault rest).map (c :: ·)
  | .unit hi behind :: parts =>
    if hi < 0xD800 ∨ 0xDFFF < hi then (chars fault parts).map (Char.ofNat hi :: ·)
    else if 0xDC00 ≤ hi then .error (.before .loneSurrogate behind)
    else match parts with
      | [] => .error (unpaired behind fault)
      | .char _ escaped :: _ =>
        .error ⟨.cutSurrogate, byteCount behind - if escaped then 2 else 1⟩
      | .unit lo behind :: parts =>
        if lo < 0xDC00 ∨ 0xDFFF < lo then .error (.before .loneSurrogate behind)
        else (chars fault parts).map
          (Char.ofNat (0x10000 + (hi - 0xD800) * 0x400 + (lo - 0xDC00)) :: ·)

/-- The text, or the first fault in it. -/
def text (q : Quoted) : Except Fault String := (chars q.fault q.parts).map String.ofList

end Quoted

/-! ### Numerals -/

namespace Numeral

/-- The digits at the front of a text, and the rest. -/
def span (cs : List Char) : List Char × List Char :=
  (cs.takeWhile Text.isDigit, cs.dropWhile Text.isDigit)

/-- A number that has something else where a digit should be. -/
def lacking (rest : List Char) : Break :=
  ⟨.atFirst (if rest.isEmpty then .endInValue else .badNumber) rest, .badNumber, .badNumber⟩

/-- Follows the digits before the point: no zero in front of another digit. -/
def scanWhole (cs : List Char) : Except Break (List Char × List Char) :=
  match cs with
  | '0' :: rest =>
    match rest with
    | d :: _ => if Text.isDigit d then .error (lacking rest) else .ok (['0'], rest)
    | [] => .ok (['0'], rest)
  | _ =>
    match span cs with
    | ([], rest) => .error (lacking rest)
    | (digits, rest) => .ok (digits, rest)

/-- Follows a point and the digits behind it, if there is one. -/
def scanFraction (cs : List Char) : Except Break (Bool × List Char × List Char) :=
  match cs with
  | '.' :: rest =>
    match span rest with
    | ([], rest) => .error (lacking rest)
    | (digits, rest) => .ok (true, digits, rest)
  | _ => .ok (false, [], cs)

/-- Follows an exponent, if there is one. -/
def scanExponent (cs : List Char) : Except Break (Option (Bool × List Char) × List Char) :=
  match cs with
  | e :: rest =>
    if e = 'e' ∨ e = 'E' then
      let (negative, rest) := match rest with
        | '+' :: rest => (false, rest)
        | '-' :: rest => (true, rest)
        | _ => (false, rest)
      match span rest with
      | ([], rest) => .error (lacking rest)
      | (digits, rest) => .ok (some (negative, digits), rest)
    else .ok (none, cs)
  | [] => .ok (none, cs)

/-- Follows a number from behind its sign. -/
def scan (negative : Bool) (cs : List Char) : Except Break (Numeral × List Char) := do
  let (whole, rest) ← scanWhole cs
  let (pointed, fraction, rest) ← scanFraction rest
  let (exponent, rest) ← scanExponent rest
  return (⟨rest, negative, whole, fraction, pointed, exponent⟩, rest)

/-- The greatest coefficient that is kept, 2⁶⁴ − 1. -/
def greatestCoefficient : Nat := UInt64.size - 1

/-- Coefficient and power of ten of the digits before the point: from the first
digit on that would pass the greatest coefficient, digits only count. -/
def wholeParts : Nat → List Char → Nat × Nat
  | n, [] => (n, 0)
  | n, d :: ds =>
    let next := n * 10 + (d.toNat - '0'.toNat)
    if next ≤ greatestCoefficient then wholeParts next ds else (n, ds.length + 1)

/-- The coefficient with digits behind the point joined to it, and the count of
those: from the first digit on that would pass the greatest coefficient, digits
are dropped. -/
def fractionParts : Nat → List Char → Nat × Nat
  | n, [] => (n, 0)
  | n, d :: ds =>
    let next := n * 10 + (d.toNat - '0'.toNat)
    if next ≤ greatestCoefficient then
      let (m, count) := fractionParts next ds
      (m, count + 1)
    else (n, 0)

/-- The floating-point number of the digits, `none` past the greatest. -/
def float? (x : Numeral) : Option Json :=
  let (n, up) := wholeParts 0 x.whole
  let (n, down) := fractionParts n x.fraction
  let scale : Int := match x.exponent with
    | none => 0
    | some (false, ds) => Text.decimalValue ds
    | some (true, ds) => -(Text.decimalValue ds : Int)
  (Binary64.Magnitude.ofDecimal? n ((up : Int) - down + scale)).map fun m =>
    .float ⟨x.negative, m⟩

/-- The number that the digits stand for: an integer when there is neither point
nor exponent and it fits 64 bits, `-0` excepted; else a floating-point number,
`none` past the greatest. -/
def value? (x : Numeral) : Option Json :=
  if x.pointed ∨ x.exponent.isSome then x.float?
  else
    let n := Text.decimalValue x.whole
    if x.negative then
      if 0 < n ∧ n ≤ UInt64.size / 2 then some (.int (-(n : Int))) else x.float?
    else if n < UInt64.size then some (.int n) else x.float?

/-- The greatest exponent that is counted, 2³¹ − 1. -/
def greatestExponent : Nat := UInt32.size / 2 - 1

/-- How many of the digits of an exponent stand behind the one that passes the greatest
exponent; `n` is the value of the digits before. -/
def uncounted : Nat → List Char → Nat
  | _, [] => 0
  | n, d :: ds =>
    let next := n * 10 + (d.toNat - '0'.toNat)
    if next ≤ greatestExponent then uncounted next ds else ds.length

/-- The fault of a number that is too large. It is noticed at the end of the number, or
at the digit that makes the exponent too large. -/
def tooLarge (x : Numeral) : Fault :=
  match x.exponent with
  | some (false, ds) => ⟨.numberTooLarge, byteCount x.rest + uncounted 0 ds⟩
  | _ => .before .numberTooLarge x.rest

end Numeral

/-! ### Values -/

/-- The text behind white space. -/
def dropSpace (cs : List Char) : List Char :=
  cs.dropWhile fun c => c = ' ' || c = '\n' || c = '\t' || c = '\r'

namespace Spelling

/-- A break that every reader reports alike, but for one that only looks at the
first character. -/
def breakAt (fault : Fault) (glancing : Cause) : Spelling := .broken ⟨fault, fault.cause, glancing⟩

/-- A break at the end of the text. -/
def breakAtEnd (cause : Cause) : Spelling := breakAt (.atEnd cause) cause

/-- A break at the first byte of a text. -/
def breakAtFirst (cause : Cause) (rest : List Char) : Spelling :=
  breakAt (.atFirst cause rest) cause

/-- Follows the rest of a literal word. -/
def scanWord (value : Spelling) : List Char → List Char → Spelling × Option (List Char)
  | [], rest => (value, some rest)
  | _ :: _, [] => (breakAt (.atEnd .endInValue) .expectedValue, none)
  | w :: ws, c :: rest =>
    if w = c then scanWord value ws rest
    else (breakAt (.atFirst .expectedWord (c :: rest)) .expectedValue, none)

/-- Follows a number. -/
def scanNumber (negative : Bool) (cs : List Char) : Spelling × Option (List Char) :=
  match Numeral.scan negative cs with
  | .ok (digits, rest) => (.number digits, some rest)
  | .error b => (.broken b, none)

/-- Follows a quoted text. -/
def scanString (cs : List Char) : Spelling × Option (List Char) :=
  match Quoted.scan cs with
  | (q, rest) => (.string q, if q.fault.isNone then some rest else none)

/-- The items or members of a list as far as they were followed, the fault that
left it open with whether a comma stood before it, and the text behind it. -/
structure Listing (α : Type) where
  parts : List α
  stop : Option (Fault × Bool)
  rest : Option (List Char)

namespace Listing

variable {α : Type}

/-- A list closed before `rest`. -/
def closed (rest : List Char) : Listing α := ⟨[], none, some rest⟩

/-- A list left open. -/
def opened (fault : Fault) (afterComma : Bool) : Listing α := ⟨[], some (fault, afterComma), none⟩

/-- A list whose last part is broken. -/
def cut : Listing α := ⟨[], none, none⟩

/-- A part in front. -/
def push (part : α) (l : Listing α) : Listing α := { l with parts := part :: l.parts }

end Listing

mutual

/-- Follows a value. `fuel` bounds the steps; twice the length of the text is enough. -/
def scan : Nat → Nat → List Char → Spelling × Option (List Char)
  | 0, _, cs => (breakAtFirst .expectedValue cs, none)
  | fuel + 1, level, cs =>
    match dropSpace cs with
    | [] => (breakAtEnd .endInValue, none)
    | 'n' :: rest => scanWord .null "ull".toList rest
    | 't' :: rest => scanWord (.bool true) "rue".toList rest
    | 'f' :: rest => scanWord (.bool false) "alse".toList rest
    | '"' :: rest => scanString rest
    | '-' :: rest => scanNumber true rest
    | '[' :: rest =>
      let items := scanItems fuel (level + 1) false rest
      (.array ⟨level + 1, rest⟩ items.parts items.stop, items.rest)
    | '\x7b' :: rest =>
      let members := scanMembers fuel (level + 1) false rest
      (.object ⟨level + 1, rest⟩ members.parts members.stop, members.rest)
    | c :: rest =>
      if Text.isDigit c then scanNumber false (c :: rest)
      else (breakAtFirst .expectedValue (c :: rest), none)

/-- Follows items, from behind the opening bracket or a comma. -/
def scanItems : Nat → Nat → Bool → List Char → Listing Spelling
  | 0, _, afterComma, cs => .opened (.atFirst .expectedValue cs) afterComma
  | fuel + 1, level, afterComma, cs =>
    match dropSpace cs with
    | [] => .opened (.atEnd (if afterComma then .endInValue else .endInArray)) afterComma
    | ']' :: rest =>
      if afterComma then .opened (.before .trailingComma rest) true else .closed rest
    | c :: rest =>
      match scan fuel level (c :: rest) with
      | (item, none) => .push item .cut
      | (item, some rest) =>
        match dropSpace rest with
        | ',' :: rest => .push item (scanItems fuel level true rest)
        | ']' :: rest => .push item (.closed rest)
        | [] => .push item (.opened (.atEnd .endInArray) false)
        | c :: rest => .push item (.opened (.atFirst .expectedArrayEnd (c :: rest)) false)

/-- Follows members, from behind the opening brace or a comma. -/
def scanMembers : Nat → Nat → Bool → List Char → Listing (Quoted × Spelling)
  | 0, _, afterComma, cs => .opened (.atFirst .expectedValue cs) afterComma
  | fuel + 1, level, afterComma, cs =>
    match dropSpace cs with
    | [] => .opened (.atEnd (if afterComma then .endInValue else .endInObject)) afterComma
    | '\x7d' :: rest =>
      if afterComma then .opened (.before .trailingComma rest) true else .closed rest
    | '"' :: rest =>
      match Quoted.scan rest with
      | (key, rest) =>
        if key.fault.isSome then .push (key, breakAtFirst .expectedColon rest) .cut
        else match dropSpace rest with
          | [] => .push (key, breakAtEnd .endInObject) .cut
          | ':' :: rest =>
            match scan fuel level rest with
            | (value, none) => .push (key, value) .cut
            | (value, some rest) =>
              match dropSpace rest with
              | ',' :: rest => .push (key, value) (scanMembers fuel level true rest)
              | '\x7d' :: rest => .push (key, value) (.closed rest)
              | [] => .push (key, value) (.opened (.atEnd .endInObject) false)
              | c :: rest =>
                .push (key, value) (.opened (.atFirst .expectedObjectEnd (c :: rest)) false)
          | c :: rest => .push (key, breakAtFirst .expectedColon (c :: rest)) .cut
    | c :: rest => .opened (.atFirst .keyNotQuoted (c :: rest)) afterComma

end

mutual

/-- What a reader says that passes over the value. -/
def skipFault? : Spelling → Option Cause
  | .string q => q.fault.map (·.cause)
  | .array _ items stop => itemsFault? items <|> stop.map (·.1.cause)
  | .object _ members stop => membersFault? members <|> stop.map (·.1.cause)
  | .broken b => some b.skipping
  | .null | .bool _ | .number _ => none

/-- The first fault in items. -/
def itemsFault? : List Spelling → Option Cause
  | [] => none
  | item :: rest => skipFault? item <|> itemsFault? rest

/-- The first fault in members. -/
def membersFault? : List (Quoted × Spelling) → Option Cause
  | [] => none
  | (key, value) :: rest =>
    key.fault.map (·.cause) <|> skipFault? value <|> membersFault? rest

end

mutual

/-- The value of a spelling without faults, objects in canonical form. -/
def value : Spelling → Except Fault Json
  | .null => .ok .null
  | .bool b => .ok (.bool b)
  | .number x =>
    match x.value? with
    | some v => .ok v
    | none => .error x.tooLarge
  | .string q => q.text.map .string
  | .array opening items stop => do
    if let some fault := opening.fault? then throw fault
    let values ← itemValues items
    match stop with
    | some (fault, _) => throw fault
    | none => return .array values
  | .object opening members stop => do
    if let some fault := opening.fault? then throw fault
    let values ← memberValues members []
    match stop with
    | some (fault, _) => throw fault
    | none => return .object values
  | .broken b => .error b.reading

/-- The values of items. -/
def itemValues : List Spelling → Except Fault (List Json)
  | [] => .ok []
  | item :: rest => do
    let v ← value item
    let vs ← itemValues rest
    return v :: vs

/-- The values of members, joined to entries in key order; a later member replaces
an earlier one. -/
def memberValues : List (Quoted × Spelling) → List (String × Json) →
    Except Fault (List (String × Json))
  | [], sorted => .ok sorted
  | (key, item) :: rest, sorted => do
    let k ← key.text
    let v ← value item
    memberValues rest (Entries.insert k v sorted)

end

end Spelling

/-! ### Whole texts -/

/-- The spelling of a text that holds one value. -/
structure Document where
  root : Spelling
  /-- What follows the value, if it is more than white space. -/
  trailing : Option Fault

/-- **The spelling of a text.** -/
def Document.ofText (text : String) : Document :=
  let cs := text.toList
  match Spelling.scan (2 * cs.length + 2) 0 cs with
  | (root, none) => ⟨root, none⟩
  | (root, some rest) =>
    match dropSpace rest with
    | [] => ⟨root, none⟩
    | rest => ⟨root, some (.atFirst .trailingText rest)⟩

/-- The value of a document, or its first fault. -/
def Document.value (d : Document) : Except Fault Json := do
  let v ← d.root.value
  match d.trailing with
  | some fault => throw fault
  | none => return v

/-- Reads a text that holds one value, objects in canonical form. -/
def ofText (text : String) : Except Complaint Json :=
  (Document.ofText text).value.mapError (.ofFault text)

end PipelineCanvas.Json
