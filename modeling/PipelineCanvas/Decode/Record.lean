import PipelineCanvas.Decode.Source

/-!
# Records

A record is decoded into a blank one, whose fields hold their defaults: each
member that names a field is read into it, other members are passed over. What
is missing is reported only when all members have been read, in the order in
which the fields are declared. A record may also be given as the list of its
fields; then fields that need not be there may be left off at the end.

* `Field` – a field: its names, whether it must be there, how it is read;
* **`record`** – decodes a record from its fields.
-/

namespace PipelineCanvas.Decode

/-- A field of a record of type `α`, read from documents of type `V`. -/
structure Field (V : Type) (M : Type → Type) (α : Type) where
  /-- The name under which it is reported. -/
  name : String
  /-- Other names under which it may be given. -/
  aliases : List String
  /-- Whether it must be given. -/
  required : Bool
  /-- Reads a document into the record. -/
  read : V → α → M α

namespace Field

variable {V α β : Type} {M : Type → Type} [Monad M]

/-- A field that must be given. -/
def mandatory (name : String) (item : V → M β) (set : β → α → α) : Field V M α :=
  ⟨name, [], true, fun v a => return set (← item v) a⟩

/-- A field that keeps its default when it is not given. -/
def withDefault (name : String) (item : V → M β) (set : β → α → α) : Field V M α :=
  ⟨name, [], false, fun v a => return set (← item v) a⟩

/-- A field under a further name. -/
def orNamed (f : Field V M α) (other : String) : Field V M α :=
  { f with aliases := other :: f.aliases }

/-- Whether a key names the field. -/
def named (f : Field V M α) (key : String) : Bool := f.name == key || f.aliases.contains key

end Field

variable {V α : Type} {M : Type → Type} [Monad M] [MonadExceptOf Failure M] [Source V M]

/-- Reads members in order into a record; `given` holds the fields read before. -/
def readMembers (fields : List (Field V M α)) :
    List (String × V) → List String → α → M (List String × α)
  | [], given, a => pure (given, a)
  | (key, v) :: rest, given, a =>
    match fields.find? (·.named key) with
    | none => do
      Source.skip v
      readMembers fields rest given a
    | some f =>
      if f.name ∈ given then reject (.duplicateField f.name)
      else do
        let a ← f.read v a
        readMembers fields rest (f.name :: given) a

/-- Reads items in order into the fields of a record; returns the items left over.
`position` counts the fields before. -/
def readItems (name : String) (size : Nat) (stop : Option Failure) :
    List (Field V M α) → List V → Nat → α → M (List V × α)
  | [], items, _, a => pure (items, a)
  | f :: fields, v :: items, position, a => do
    let a ← f.read v a
    readItems name size stop fields items (position + 1) a
  | f :: fields, [], position, a =>
    match stop with
    | some failure => throw failure
    | none =>
      if f.required then reject (.tooShort position name size)
      else readItems name size stop fields [] (position + 1) a

/-- **Decodes a record** called `name` from its fields, in declaration order,
starting from one that holds the defaults. -/
def record (name : String) (fields : List (Field V M α)) (blank : α) (v : V) : M α := do
  match ← Source.record name v with
  | .named members =>
    let (given, a) ← readMembers fields members.parts [] blank
    finish members.stop
    match fields.find? fun f => f.required && !given.contains f.name with
    | some f => reject (.missingField f.name)
    | none => return a
  | .positional list =>
    let (left, a) ← readItems name fields.length list.stop fields list.items 0 blank
    if !left.isEmpty then throw (list.surplus fields.length)
    finish list.unclosed
    return a

end PipelineCanvas.Decode
