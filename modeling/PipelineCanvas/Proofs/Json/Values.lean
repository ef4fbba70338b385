import PipelineCanvas.Proofs.Wire.Canonical

/-!
# Values that a text can hold

A text spells any value whose integers fit 64 bits and whose lists do not stand too deep in one
another. Of its floating-point numbers only the printer can tell whether they come back, so they
are a parameter.

* `Json.Fits` – values of a depth whose floating-point numbers have a property;
* `Json.floats`, `Json.Fits.of_floats` – the floating-point numbers of a value, listed;
* **`Json.canonical_object_iff`** – which objects are in canonical form, and
  `Json.canonical_canonical`: every canonical form is.
-/

namespace PipelineCanvas

namespace Entries

variable {α : Type} {key : String} {value : α} {e : String × α} {entries : List (String × α)}

theorem mem_insert (h : e ∈ insert key value entries) : e = (key, value) ∨ e ∈ entries := by
  induction entries with
  | nil => exact .inl (List.mem_singleton.mp h)
  | cons hd tl ih => grind [insert]

/-- What holds of all values holds behind a further one of which it holds. -/
theorem forall_insert {p : α → Prop} (hvalue : p value) (h : ∀ e ∈ entries, p e.2) :
    ∀ e ∈ insert key value entries, p e.2 := by
  intro e he
  rcases mem_insert he with rfl | he
  · exact hvalue
  · exact h e he

theorem mem_of_get? (h : get? entries key = some value) : (key, value) ∈ entries := by
  induction entries with
  | nil => cases h
  | cons hd tl ih => grind [get?]

end Entries

namespace Json

/-! ### Depth and numbers -/

/-- A value with at most so many lists in one another, whose integers fit 64 bits and whose
floating-point numbers have a property. -/
inductive Fits (float : Binary64 → Prop) : Nat → Json → Prop
  | null {n : Nat} : Fits float n .null
  | bool {n : Nat} {b : Bool} : Fits float n (.bool b)
  | int {n : Nat} {i : Int} (low : -(UInt64.size / 2 : Int) ≤ i) (high : i < UInt64.size) :
      Fits float n (.int i)
  | float {n : Nat} {x : Binary64} (h : float x) : Fits float n (.float x)
  | string {n : Nat} {s : String} : Fits float n (.string s)
  | array {n : Nat} {items : List Json} (h : ∀ item ∈ items, Fits float n item) :
      Fits float (n + 1) (.array items)
  | object {n : Nat} {members : List (String × Json)} (h : ∀ m ∈ members, Fits float n m.2) :
      Fits float (n + 1) (.object members)

mutual

/-- The floating-point numbers of a value. -/
def floats : Json → List Binary64
  | .float x => [x]
  | .array items => itemFloats items
  | .object members => memberFloats members
  | .null | .bool _ | .int _ | .string _ => []

/-- The floating-point numbers of items. -/
def itemFloats : List Json → List Binary64
  | [] => []
  | item :: rest => floats item ++ itemFloats rest

/-- The floating-point numbers of members. -/
def memberFloats : List (String × Json) → List Binary64
  | [] => []
  | (_, value) :: rest => floats value ++ memberFloats rest

end

theorem mem_itemFloats {x : Binary64} {item : Json} {items : List Json} (h : item ∈ items)
    (hx : x ∈ item.floats) : x ∈ itemFloats items := by
  induction items with
  | nil => cases h
  | cons first rest ih =>
    rw [itemFloats, List.mem_append]
    rcases List.mem_cons.mp h with rfl | h
    · exact .inl hx
    · exact .inr (ih h)

theorem mem_memberFloats {x : Binary64} {m : String × Json} {members : List (String × Json)}
    (h : m ∈ members) (hx : x ∈ m.2.floats) : x ∈ memberFloats members := by
  induction members with
  | nil => cases h
  | cons first rest ih =>
    rw [memberFloats, List.mem_append]
    rcases List.mem_cons.mp h with rfl | h
    · exact .inl hx
    · exact .inr (ih h)

namespace Fits

variable {p q : Binary64 → Prop} {n m : Nat} {v value : Json} {key : String}
  {members : List (String × Json)}

/-- A value that fits has the floating-point numbers that it lists. -/
theorem of_floats (h : Fits p n v) (hq : ∀ x ∈ v.floats, q x) : Fits q n v := by
  induction h with
  | null => exact null
  | bool => exact bool
  | int low high => exact int low high
  | float _ => exact float (hq _ (List.mem_singleton.mpr rfl))
  | string => exact string
  | array _ ih =>
    exact array fun item hitem => ih item hitem fun x hx => hq x (mem_itemFloats hitem hx)
  | object _ ih => exact object fun m hm => ih m hm fun x hx => hq x (mem_memberFloats hm hx)

/-- What fits with fewer lists in one another fits with more. -/
theorem mono (h : Fits p n v) (hpq : ∀ x, p x → q x) (hnm : n ≤ m) : Fits q m v := by
  induction h generalizing m with
  | null => exact null
  | bool => exact bool
  | int low high => exact int low high
  | float hx => exact float (hpq _ hx)
  | string => exact string
  | array _ ih =>
    obtain ⟨m, rfl⟩ : ∃ k, m = k + 1 := ⟨m - 1, by omega⟩
    exact array fun item hitem => ih item hitem (by omega)
  | object _ ih =>
    obtain ⟨m, rfl⟩ : ∃ k, m = k + 1 := ⟨m - 1, by omega⟩
    exact object fun member hmember => ih member hmember (by omega)

theorem object_iff : Fits p (n + 1) (.object members) ↔ ∀ m ∈ members, Fits p n m.2 :=
  ⟨fun | .object h => h, object⟩

/-- A further member that fits. -/
theorem object_insert (h : Fits p (n + 1) (.object members)) (hvalue : Fits p n value) :
    Fits p (n + 1) (.object (Entries.insert key value members)) :=
  object (Entries.forall_insert hvalue (object_iff.mp h))

theorem object_erase (h : Fits p (n + 1) (.object members)) (key : String) :
    Fits p (n + 1) (.object (Entries.erase key members)) :=
  object fun m hm => object_iff.mp h m (List.mem_filter.mp hm).1

end Fits

/-! ### Canonical forms -/

/-- What a list is mapped to is the list itself if each of its elements is. -/
theorem map_eq_self_iff {α : Type} {f : α → α} {as : List α} :
    as.map f = as ↔ ∀ a ∈ as, f a = a := by
  simpa using List.map_inj_left (l := as) (f := f) (g := id)

theorem canonical_array_iff {items : List Json} :
    (array items).canonical = array items ↔ ∀ item ∈ items, item.canonical = item := by
  rw [canonical, canonicalItems_eq, array.injEq, map_eq_self_iff]

/-- What is sorted in keeps the order. -/
theorem ascending_canonicalMembers (members : List (String × Json))
    {sorted : List (String × Json)} (h : Entries.Ascending sorted) :
    Entries.Ascending (canonicalMembers members sorted) := by
  induction members generalizing sorted with
  | nil => exact h
  | cons m rest ih => exact ih (Entries.ascending_insert _ _ h)

/-- What holds of the canonical forms of members holds of them when they are sorted in. -/
theorem forall_canonicalMembers {p : Json → Prop} {members sorted : List (String × Json)}
    (h : ∀ m ∈ members, p m.2.canonical) (hsorted : ∀ m ∈ sorted, p m.2) :
    ∀ m ∈ canonicalMembers members sorted, p m.2 := by
  induction members generalizing sorted with
  | nil => exact hsorted
  | cons m rest ih =>
    exact ih (fun m hm => h m (List.mem_cons_of_mem _ hm))
      (Entries.forall_insert (h m (List.mem_cons_self ..)) hsorted)

/-- **An object is in canonical form if its keys ascend and its values are in canonical
form.** -/
theorem canonical_object_iff {members : List (String × Json)} :
    (object members).canonical = object members ↔
      Entries.Ascending members ∧ ∀ m ∈ members, m.2.canonical = m.2 := by
  have hsorted (hasc : Entries.Ascending members) :
      (object members).canonical = object members ↔ ∀ m ∈ members, m.2.canonical = m.2 := by
    have hbehind : Entries.Ascending ([] ++ members) := hasc
    rw [canonical, canonicalMembers_of_ascending hbehind, object.injEq, List.nil_append,
      map_eq_self_iff]
    exact forall₂_congr fun m _ => by rw [Prod.ext_iff]; exact and_iff_right rfl
  constructor
  · intro h
    have hasc : Entries.Ascending members := by
      rw [canonical, object.injEq] at h
      exact h ▸ ascending_canonicalMembers members List.Pairwise.nil
    exact ⟨hasc, (hsorted hasc).mp h⟩
  · rintro ⟨hasc, hvalues⟩
    exact (hsorted hasc).mpr hvalues

/-- A further member in canonical form. -/
theorem canonical_object_insert {members : List (String × Json)} {key : String} {value : Json}
    (h : (object members).canonical = object members) (hvalue : value.canonical = value) :
    (object (Entries.insert key value members)).canonical =
      object (Entries.insert key value members) := by
  obtain ⟨hasc, hvalues⟩ := canonical_object_iff.mp h
  exact canonical_object_iff.mpr ⟨Entries.ascending_insert _ _ hasc,
    Entries.forall_insert (p := fun v : Json => v.canonical = v) hvalue hvalues⟩

theorem canonical_object_erase {members : List (String × Json)}
    (h : (object members).canonical = object members) (key : String) :
    (object (Entries.erase key members)).canonical = object (Entries.erase key members) := by
  obtain ⟨hasc, hvalues⟩ := canonical_object_iff.mp h
  exact canonical_object_iff.mpr ⟨Entries.ascending_filter _ hasc,
    fun m hm => hvalues m (List.mem_filter.mp hm).1⟩

mutual

/-- **A canonical form is its own canonical form.** -/
theorem canonical_canonical : ∀ v : Json, v.canonical.canonical = v.canonical
  | .null | .bool _ | .int _ | .float _ | .string _ => rfl
  | .array items => by
    rw [canonical, canonicalItems_eq, canonical_array_iff, List.forall_mem_map]
    exact canonical_canonical_of_mem items
  | .object members => by
    rw [canonical]
    exact canonical_object_iff.mpr ⟨ascending_canonicalMembers members List.Pairwise.nil,
      forall_canonicalMembers (p := fun v => v.canonical = v)
        (canonical_canonical_of_mem_members members) nofun⟩

theorem canonical_canonical_of_mem :
    ∀ (items : List Json), ∀ item ∈ items, item.canonical.canonical = item.canonical
  | [] => nofun
  | item :: rest =>
    List.forall_mem_cons.mpr ⟨canonical_canonical item, canonical_canonical_of_mem rest⟩

theorem canonical_canonical_of_mem_members :
    ∀ (members : List (String × Json)), ∀ m ∈ members, m.2.canonical.canonical = m.2.canonical
  | [] => nofun
  | (_, value) :: rest =>
    List.forall_mem_cons.mpr
      ⟨canonical_canonical value, canonical_canonical_of_mem_members rest⟩

end

/-- What fits, fits in canonical form. -/
theorem Fits.canonical {p : Binary64 → Prop} {n : Nat} {v : Json} (h : v.Fits p n) :
    v.canonical.Fits p n := by
  induction h with
  | null => exact null
  | bool => exact bool
  | int low high => exact int low high
  | float hx => exact float hx
  | string => exact string
  | array _ ih =>
    rw [Json.canonical, canonicalItems_eq]
    exact array (List.forall_mem_map.mpr ih)
  | object _ ih =>
    rw [Json.canonical]
    exact object (forall_canonicalMembers ih nofun)

end Json

end PipelineCanvas
