import PipelineCanvas.Decode.Record

/-!
# Decoding JSON

Three sources, alike in what they accept and different in what they report:

* a JSON value, whose members come in key order (`instance : Source Json Result`);
* a document set aside (`instance : Source Untyped Result`), which a record with open
  members reads its inner record from;
* the spelling of a JSON text (`instance : Source Json.Spelling Result`), where a fault of
  the text counts from the moment the reader meets it.

`decodeText` reads a whole text.
-/

namespace PipelineCanvas

open Decode

/-! ### Values -/

/-- What a value is called when it is out of place. -/
def Json.found : Json → Found
  | .null => .null
  | .bool b => .boolean b
  | .int i => .integer i
  | .float x => .float (some x)
  | .string s => .text s
  | .array _ => .sequence
  | .object _ => .map

mutual

/-- A JSON value set aside. -/
def Json.aside : Json → Untyped
  | .null => .null
  | .bool b => .boolean b
  | .int (.ofNat n) => .natural n
  | .int (.negSucc n) => .negated (n + 1)
  | .float x => .float (some x)
  | .string s => .text s
  | .array items => .sequence (Json.asideItems items)
  | .object members => .map (Json.asideMembers members)

/-- Items set aside. -/
def Json.asideItems : List Json → List Untyped
  | [] => []
  | item :: rest => item.aside :: Json.asideItems rest

/-- Members set aside. -/
def Json.asideMembers : List (String × Json) → List (Untyped × Untyped)
  | [] => []
  | (key, value) :: rest => (.text key, value.aside) :: Json.asideMembers rest

end

instance : Source Json Result where
  text
    | .string s => .ok s
    | v => mismatch v.found .text
  boolean
    | .bool b => .ok b
    | v => mismatch v.found .boolean
  word
    | .int i => wordOfInt i
    | v => mismatch v.found .word
  present
    | .null => .ok none
    | v => .ok (some v)
  elements
    | .array items => .ok ⟨items, none⟩
    | v => mismatch v.found .sequence
  members expected
    | .object members => .ok ⟨members, none⟩
    | v => mismatch v.found expected
  record name
    | .object members => .ok (.named ⟨members, none⟩)
    | .array items =>
      .ok (.positional ⟨items, none, none, fun _ => .rejected (.tooLong items.length)⟩)
    | v => mismatch v.found (.record name)
  choice known
    | .string s => knownName known s
    | .object [(key, value)] => do
      let name ← knownName known key
      match value with
      | .null => return name
      | v => mismatch v.found .nothing
    | .object _ => reject .notOneKey
    | v => mismatch v.found .nameOrMap
  skip _ := .ok ()
  untyped v := .ok v.aside

/-! ### Documents set aside -/

namespace Decode

/-- What a document is called when it is out of place. -/
def Untyped.found : Untyped → Found
  | .null => .null
  | .boolean b => .boolean b
  | .natural n => .integer n
  | .negated n => .integer (-n)
  | .float x => .float x
  | .text s => .text s
  | .sequence _ => .sequence
  | .map _ => .map

/-- The members of a map up to a key that is no text. -/
def Untyped.named : List (Untyped × Untyped) → Stream (String × Untyped)
  | [] => ⟨[], none⟩
  | (.text key, v) :: rest =>
    let stream := named rest
    ⟨(key, v) :: stream.parts, stream.stop⟩
  | (key, _) :: _ => ⟨[], some (.rejected (.wrongType key.found .text))⟩

mutual

/-- The JSON value of a document, objects in canonical form. Keys that are no texts
are left out, and a number that is not finite is `null`; no JSON document has
either. -/
def Untyped.json : Untyped → Json
  | .null => .null
  | .boolean b => .bool b
  | .natural n => .int n
  | .negated n => .int (-n)
  | .float none => .null
  | .float (some x) => .float x
  | .text s => .string s
  | .sequence items => .array (Untyped.jsonItems items)
  | .map members => .object (Untyped.jsonMembers members [])

/-- The JSON values of items. -/
def Untyped.jsonItems : List Untyped → List Json
  | [] => []
  | item :: rest => item.json :: Untyped.jsonItems rest

/-- The members of a map joined to entries in key order. -/
def Untyped.jsonMembers :
    List (Untyped × Untyped) → List (String × Json) → List (String × Json)
  | [], sorted => sorted
  | (.text key, value) :: rest, sorted =>
    Untyped.jsonMembers rest (Entries.insert key value.json sorted)
  | (_, _) :: rest, sorted => Untyped.jsonMembers rest sorted

end

instance : Source Untyped Result where
  text
    | .text s => .ok s
    | v => mismatch v.found .text
  boolean
    | .boolean b => .ok b
    | v => mismatch v.found .boolean
  word
    | .natural n => wordOfInt n
    | .negated n => wordOfInt (-n)
    | v => mismatch v.found .word
  present
    | .null => .ok none
    | v => .ok (some v)
  elements
    | .sequence items => .ok ⟨items, none⟩
    | v => mismatch v.found .sequence
  members expected
    | .map members => .ok (Untyped.named members)
    | v => mismatch v.found expected
  record name
    | .map members => .ok (.named (Untyped.named members))
    | .sequence items =>
      .ok (.positional ⟨items, none, none, fun fields =>
        .rejected (.tooLongAside items.length fields)⟩)
    | v => mismatch v.found (.record name)
  choice known
    | .text s => knownName known s
    | .map [(.text key, value)] => do
      let name ← knownName known key
      match value with
      | .null => return name
      | .map [] => return name
      | v => mismatch v.found .nothing
    | .map _ => reject .notOneKey
    | v => mismatch v.found .nameOrMap
  skip _ := .ok ()
  untyped v := .ok v

end Decode

/-! ### Texts -/

namespace Json.Spelling

/-- A result that a fault may have prevented. -/
def readable {α : Type} : Except Fault α → Result α
  | .ok a => .ok a
  | .error fault => .error (.unreadable fault.cause)

/-- Refuses a value that is out of place. A text or a number is read to its end
first, and a fault in it comes before. -/
def misplaced {α : Type} (expected : Expected) : Spelling → Result α
  | .null => mismatch .null expected
  | .bool b => mismatch (.boolean b) expected
  | .number x =>
    match x.value? with
    | some v => mismatch v.found expected
    | none => .error (.unreadable .numberTooLarge)
  | .string q => do
    let s ← readable q.text
    mismatch (.text s) expected
  | .array .. => mismatch .sequence expected
  | .object .. => mismatch .map expected
  | .broken b => .error (.unreadable b.reading.cause)

/-- Refuses a list or an object that is nested too deep. -/
def shallow (opening : Opening) : Result Unit :=
  match opening.fault? with
  | some fault => .error (.unreadable fault.cause)
  | none => .ok ()

/-- The failure of a reader that looks for a further part. -/
def stopFailure (stop : Option (Fault × Bool)) : Option Failure :=
  stop.map fun s => .unreadable s.1.cause

/-- The failure of a reader that looks for the end, and takes a comma for a fault. -/
def closeFailure (stop : Option (Fault × Bool)) : Option Failure :=
  stop.map fun s => .unreadable (if s.2 then .trailingText else s.1.cause)

/-- Members with their keys read, up to a key with a fault. -/
def named : List (Quoted × Spelling) → Option Failure → Stream (String × Spelling)
  | [], stop => ⟨[], stop⟩
  | (key, v) :: rest, stop =>
    match key.text with
    | .error fault => ⟨[], some (.unreadable fault.cause)⟩
    | .ok k =>
      let stream := named rest stop
      ⟨(k, v) :: stream.parts, stream.stop⟩

mutual

/-- Sets a value aside. -/
def aside : Spelling → Result Untyped
  | .null => .ok .null
  | .bool b => .ok (.boolean b)
  | .number x =>
    match x.value? with
    | some v => .ok v.aside
    | none => .error (.unreadable .numberTooLarge)
  | .string q => (readable q.text).map .text
  | .array opening items stop => do
    shallow opening
    let us ← asideItems items
    finish (stopFailure stop)
    return .sequence us
  | .object opening members stop => do
    shallow opening
    let us ← asideMembers members
    finish (stopFailure stop)
    return .map us
  | .broken b => .error (.unreadable b.reading.cause)

/-- Sets items aside. -/
def asideItems : List Spelling → Result (List Untyped)
  | [] => .ok []
  | item :: rest => do
    let u ← aside item
    let us ← asideItems rest
    return u :: us

/-- Sets members aside. -/
def asideMembers : List (Quoted × Spelling) → Result (List (Untyped × Untyped))
  | [] => .ok []
  | (key, item) :: rest => do
    let k ← readable key.text
    let u ← aside item
    let us ← asideMembers rest
    return (.text k, u) :: us

end

/-- Reads a name given as the one key of an object without a value. -/
def choiceOfObject (known : List String) (members : List (Quoted × Spelling))
    (stop : Option (Fault × Bool)) : Result String :=
  match members with
  | [] => .error ((stopFailure stop).getD (.unreadable .expectedValue))
  | (key, value) :: rest => do
    let name ← knownName known (← readable key.text)
    match value with
    | .null => pure ()
    | v => misplaced .nothing v
    if !rest.isEmpty then throw (.unreadable .expectedValue)
    finish (closeFailure stop)
    return name

instance : Source Spelling Result where
  text
    | .string q => readable q.text
    | v => misplaced .text v
  boolean
    | .bool b => .ok b
    | v => misplaced .boolean v
  word
    | .number x =>
      match x.value? with
      | some (.int i) => wordOfInt i
      | some v => mismatch v.found .word
      | none => .error (.unreadable .numberTooLarge)
    | v => misplaced .word v
  present
    | .null => .ok none
    | v => .ok (some v)
  elements
    | .array opening items stop => do
      shallow opening
      return ⟨items, stopFailure stop⟩
    | v => misplaced .sequence v
  members expected
    | .object opening members stop => do
      shallow opening
      return named members (stopFailure stop)
    | v => misplaced expected v
  record name
    | .object opening members stop => do
      shallow opening
      return .named (named members (stopFailure stop))
    | .array opening items stop => do
      shallow opening
      return .positional
        ⟨items, stopFailure stop, closeFailure stop, fun _ => .unreadable .trailingText⟩
    | v => misplaced (.record name) v
  choice known
    | .string q => do knownName known (← readable q.text)
    | .object opening members stop => do
      shallow opening
      choiceOfObject known members stop
    | .broken b => .error (.unreadable b.glancing)
    | _ => .error (.unreadable .expectedValue)
  skip v :=
    match v.skipFault? with
    | some cause => .error (.unreadable cause)
    | none => .ok ()
  untyped := aside

end Json.Spelling

/-- Decodes a whole JSON text: what follows the value is looked at last. -/
def Decode.ofText {α : Type} (item : Json.Spelling → Result α) (text : String) : Result α := do
  let d := Json.Document.ofText text
  let a ← item d.root
  if let some fault := d.trailing then throw (.unreadable fault.cause)
  return a

end PipelineCanvas
