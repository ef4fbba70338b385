import PipelineCanvas.Decode.Rejection

/-!
# Where values are decoded from

The same records come as JSON values, as JSON texts and as YAML documents, and
each of these has its own idea of what a text, a number or an empty map is.
`Source` is what a decoder may ask of any of them. A decoder written against it
works on all, and reads the parts of a document in the order in which the
document has them: the first bad part decides the failure.

Answers are actions of a monad that the source chooses. Those of JSON have no effect
but failure (`Result`); a source may also keep an account of its answers.

* `Source` – the questions;
* `Untyped` – a document set aside before it is known what it describes;
* `Stream` – parts in order, up to a failure that ended them.
-/

namespace PipelineCanvas.Decode

/-- A document set aside to be read later. Keys may be of any type, and may
repeat. -/
inductive Untyped where
  | null
  | boolean (value : Bool)
  | natural (value : Nat)
  /-- The negative of a number. A zero with a sign is told from one without. -/
  | negated (value : Nat)
  /-- A number with a fraction or an exponent; none for one that is not finite. -/
  | float (value : Option Binary64)
  | text (value : String)
  | sequence (items : List Untyped)
  | map (members : List (Untyped × Untyped))
deriving Inhabited

/-- Parts of a document in order; `stop` is the failure met behind the last. -/
structure Stream (α : Type) where
  parts : List α
  stop : Option Failure

/-- The fields of a record given as a list, without names. -/
structure Positional (V : Type) where
  items : List V
  /-- The failure met where a further item is looked for. -/
  stop : Option Failure
  /-- The failure met where the end of the list is looked for. -/
  unclosed : Option Failure
  /-- The failure for items behind the given number of fields. -/
  surplus : Nat → Failure

/-- The two ways in which a record is given. -/
inductive RecordForm (V : Type) where
  | named (members : Stream (String × V))
  | positional (list : Positional V)

/-- What a decoder may ask of a document of type `V`. -/
class Source (V : Type) (M : outParam (Type → Type)) where
  text : V → M String
  boolean : V → M Bool
  word : V → M UInt32
  /-- The document, or none if it says that there is none. -/
  present : V → M (Option V)
  elements : V → M (Stream V)
  /-- The members of a map; other documents are refused for what was expected. -/
  members : Expected → V → M (Stream (String × V))
  record : String → V → M (RecordForm V)
  /-- One of the known names. -/
  choice : List String → V → M String
  /-- Passes over the document. -/
  skip : V → M Unit
  /-- Sets the document aside. -/
  untyped : V → M Untyped

variable {V α : Type} {M : Type → Type} [Monad M] [MonadExceptOf Failure M]

/-- An integer as a word. -/
def wordOfInt (i : Int) : M UInt32 :=
  match i with
  | .ofNat n =>
    match Text.toWord? n with
    | some w => pure w
    | none => reject (.outOfRange i)
  | .negSucc _ => reject (.outOfRange i)

/-- A name, if it is known. -/
def knownName (known : List String) (name : String) : M String :=
  if name ∈ known then pure name else reject (.unknownName name known)

/-- Fails with what ended a stream, if something did. -/
def finish (stop : Option Failure) : M Unit :=
  match stop with
  | some failure => throw failure
  | none => pure ()

variable [Source V M]

/-- Decodes a list. -/
def listOf (item : V → M α) (v : V) : M (List α) := do
  let stream ← Source.elements v
  let as ← stream.parts.mapM item
  finish stream.stop
  return as

/-- Decodes a map; a later member replaces an earlier one under its key. -/
def mapOf (item : V → M α) (v : V) : M (OrderedMap α) := do
  let stream ← Source.members .map v
  let m ← stream.parts.foldlM (fun m (key, v) => return m.insert key (← item v)) .empty
  finish stream.stop
  return m

/-- Decodes a document that may say that there is none. -/
def optional (item : V → M α) (v : V) : M (Option α) := do
  match ← Source.present v with
  | none => return none
  | some v => some <$> item v

end PipelineCanvas.Decode
