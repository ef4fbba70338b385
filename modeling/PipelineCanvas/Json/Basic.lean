import PipelineCanvas.Binary64
import PipelineCanvas.OrderedMap

/-!
# JSON values

Drafts are stored, and pipelines submitted, as JSON. A value is what a text
means: numbers without fraction or exponent that fit 64 bits are integers, all
others are binary floating-point numbers, and an object is the list of its
members.

An object read from a text is *canonical*: its keys ascend and none repeats
(`Json.canonical`). Encoders list members in the order in which a person would
write them, and `Json.canonical` sorts them for storage.
-/

namespace PipelineCanvas

/-- A JSON value. -/
inductive Json where
  | null
  | bool (value : Bool)
  | int (value : Int)
  | float (value : Binary64)
  | string (value : String)
  | array (items : List Json)
  | object (members : List (String × Json))
deriving Inhabited

namespace Json

/-- The object without members. -/
def emptyObject : Json := .object []

/-- A text, or `null` for none. -/
def optionalString : Option String → Json
  | none => .null
  | some s => .string s

/-- A natural number. -/
def nat (n : Nat) : Json := .int n

/-- A machine word. -/
def word (n : UInt32) : Json := .int n.toNat

/-- The members of an object; none for any other value. -/
def members? : Json → Option (List (String × Json))
  | .object members => some members
  | _ => none

mutual

/-- The value with the members of every object in key order; of several members
under one key the last is kept. -/
def canonical : Json → Json
  | .array items => .array (canonicalItems items)
  | .object members => .object (canonicalMembers members [])
  | .null => .null
  | .bool b => .bool b
  | .int i => .int i
  | .float x => .float x
  | .string s => .string s

/-- Puts every item in canonical form. -/
def canonicalItems : List Json → List Json
  | [] => []
  | item :: rest => canonical item :: canonicalItems rest

/-- Adds members in canonical form to entries in key order. -/
def canonicalMembers : List (String × Json) → List (String × Json) → List (String × Json)
  | [], sorted => sorted
  | (key, value) :: rest, sorted =>
    canonicalMembers rest (Entries.insert key (canonical value) sorted)

end

mutual

/-- Whether two values are the same, member order included. -/
def same : Json → Json → Bool
  | .null, .null => true
  | .bool a, .bool b => a == b
  | .int a, .int b => a == b
  | .float a, .float b => a == b
  | .string a, .string b => a == b
  | .array a, .array b => sameItems a b
  | .object a, .object b => sameMembers a b
  | _, _ => false

/-- Whether two lists hold the same values. -/
def sameItems : List Json → List Json → Bool
  | [], [] => true
  | a :: as, b :: bs => same a b && sameItems as bs
  | _, _ => false

/-- Whether two lists hold the same members. -/
def sameMembers : List (String × Json) → List (String × Json) → Bool
  | [], [] => true
  | (k, a) :: as, (l, b) :: bs => k == l && same a b && sameMembers as bs
  | _, _ => false

end

mutual

theorem eq_of_same : ∀ {a b : Json}, same a b = true → a = b
  | .null, b, h => by cases b <;> simp_all [same]
  | .bool _, b, h => by cases b <;> simp_all [same]
  | .int _, b, h => by cases b <;> simp_all [same]
  | .float _, b, h => by cases b <;> simp_all [same]
  | .string _, b, h => by cases b <;> simp_all [same]
  | .array as, b, h => by
    cases b <;> simp_all only [same, Bool.false_eq_true]
    exact congrArg Json.array (eq_of_sameItems h)
  | .object as, b, h => by
    cases b <;> simp_all only [same, Bool.false_eq_true]
    exact congrArg Json.object (eq_of_sameMembers h)

theorem eq_of_sameItems : ∀ {as bs : List Json}, sameItems as bs = true → as = bs
  | [], [], _ => rfl
  | [], _ :: _, h => by simp [sameItems] at h
  | _ :: _, [], h => by simp [sameItems] at h
  | a :: as, b :: bs, h => by
    simp only [sameItems, Bool.and_eq_true] at h
    rw [eq_of_same h.1, eq_of_sameItems h.2]

theorem eq_of_sameMembers : ∀ {as bs : List (String × Json)}, sameMembers as bs = true → as = bs
  | [], [], _ => rfl
  | [], _ :: _, h => by simp [sameMembers] at h
  | _ :: _, [], h => by simp [sameMembers] at h
  | (k, a) :: as, (l, b) :: bs, h => by
    simp only [sameMembers, Bool.and_eq_true, beq_iff_eq] at h
    rw [h.1.1, eq_of_same h.1.2, eq_of_sameMembers h.2]

end

mutual

theorem same_self : ∀ a : Json, same a a = true
  | .null | .bool _ | .int _ | .float _ | .string _ => by simp [same]
  | .array as => by rw [same]; exact sameItems_self as
  | .object as => by rw [same]; exact sameMembers_self as

theorem sameItems_self : ∀ as : List Json, sameItems as as = true
  | [] => rfl
  | a :: as => by simp [sameItems, same_self a, sameItems_self as]

theorem sameMembers_self : ∀ as : List (String × Json), sameMembers as as = true
  | [] => rfl
  | (k, a) :: as => by simp [sameMembers, same_self a, sameMembers_self as]

end

theorem same_iff {a b : Json} : same a b = true ↔ a = b :=
  ⟨eq_of_same, fun h => h ▸ same_self a⟩

instance : DecidableEq Json := fun _ _ => decidable_of_iff _ same_iff

end Json

end PipelineCanvas
