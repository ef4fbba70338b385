import PipelineCanvas.Json.Spelling
import PipelineCanvas.Proofs.Json.Tokens
import PipelineCanvas.Proofs.Json.Values

/-!
# Values that texts hold

What is read from a text is a value of a kind: its integers fit 64 bits, no list stands deeper
than the deepest level, and every object is in canonical form. The depth is checked at each
opening bracket by the level that is noted there, so the spelling of a text has to be right about
its levels.

* `Spelling.value_array_eq_ok_iff`, `Spelling.value_object_eq_ok_iff` – which lists have a value;
* `Spelling.StandsAt`, `Spelling.standsAt_scan` – spellings that know how deep they stand, and
  that texts are followed to such spellings;
* **`fits_of_ofText`** – what a text holds fits in a text.
-/

namespace PipelineCanvas.Json

namespace Spelling

variable {opening : Opening} {items : List Spelling} {members : List (Quoted × Spelling)}
  {stop : Option (Fault × Bool)} {v : Json}

/-! ### Values of spellings -/

/-- An array has a value if it is not nested too deep, is closed and all its items have one. -/
theorem value_array_eq_ok_iff : value (.array opening items stop) = .ok v ↔
    opening.fault? = none ∧ stop = none ∧ ∃ vs, itemValues items = .ok vs ∧ v = .array vs := by
  rw [value]
  cases opening.fault? with
  | some fault => exact ⟨nofun, nofun⟩
  | none =>
    simp only [bind_eq_ok_iff]
    cases stop with
    | some s => exact ⟨nofun, nofun⟩
    | none => simp [pure, Except.pure, eq_comm]

theorem value_object_eq_ok_iff : value (.object opening members stop) = .ok v ↔
    opening.fault? = none ∧ stop = none ∧
      ∃ ms, memberValues members [] = .ok ms ∧ v = .object ms := by
  rw [value]
  cases opening.fault? with
  | some fault => exact ⟨nofun, nofun⟩
  | none =>
    simp only [bind_eq_ok_iff]
    cases stop with
    | some s => exact ⟨nofun, nofun⟩
    | none => simp [pure, Except.pure, eq_comm]

theorem itemValues_cons_eq_ok_iff {item : Spelling} {vs : List Json} :
    itemValues (item :: items) = .ok vs ↔
      ∃ v ws, value item = .ok v ∧ itemValues items = .ok ws ∧ vs = v :: ws := by
  simp only [itemValues, bind_eq_ok_iff]
  simp [pure, Except.pure, eq_comm]

theorem memberValues_cons_eq_ok_iff {key : Quoted} {item : Spelling}
    {sorted ms : List (String × Json)} :
    memberValues ((key, item) :: members) sorted = .ok ms ↔
      ∃ k v, key.text = .ok k ∧ value item = .ok v ∧
        memberValues members (Entries.insert k v sorted) = .ok ms := by
  simp only [memberValues, bind_eq_ok_iff]
  simp

/-- What holds of the values of items holds of what they are joined to. -/
theorem forall_itemValues {p : Json → Prop} {vs : List Json} (hvs : itemValues items = .ok vs)
    (h : ∀ item ∈ items, ∀ v, value item = .ok v → p v) : ∀ v ∈ vs, p v := by
  induction items generalizing vs with
  | nil => cases hvs; exact List.forall_mem_nil _
  | cons item items ih =>
    obtain ⟨v, ws, hv, hws, rfl⟩ := itemValues_cons_eq_ok_iff.mp hvs
    rw [List.forall_mem_cons] at h ⊢
    exact ⟨h.1 v hv, ih hws h.2⟩

/-- What holds of the values of members holds of the entries that they are joined to. -/
theorem forall_memberValues {p : Json → Prop} {sorted ms : List (String × Json)}
    (hms : memberValues members sorted = .ok ms)
    (h : ∀ m ∈ members, ∀ v, value m.2 = .ok v → p v) (hsorted : ∀ m ∈ sorted, p m.2) :
    ∀ m ∈ ms, p m.2 := by
  induction members generalizing sorted with
  | nil => cases hms; exact hsorted
  | cons m members ih =>
    obtain ⟨k, v, -, hv, hms⟩ := memberValues_cons_eq_ok_iff.mp hms
    rw [List.forall_mem_cons] at h
    exact ih hms h.2 (Entries.forall_insert (h.1 v hv) hsorted)

theorem ascending_memberValues {sorted ms : List (String × Json)}
    (hms : memberValues members sorted = .ok ms) (h : Entries.Ascending sorted) :
    Entries.Ascending ms := by
  induction members generalizing sorted with
  | nil => cases hms; exact h
  | cons m members ih =>
    obtain ⟨k, v, -, -, hms⟩ := memberValues_cons_eq_ok_iff.mp hms
    exact ih hms (Entries.ascending_insert k v h)

/-! ### Levels -/

/-- A spelling in which every array and object knows how deep it stands, from a level on. -/
inductive StandsAt : Nat → Spelling → Prop
  | null {level : Nat} : StandsAt level .null
  | bool {level : Nat} {b : Bool} : StandsAt level (.bool b)
  | number {level : Nat} {digits : Numeral} : StandsAt level (.number digits)
  | string {level : Nat} {inside : Quoted} : StandsAt level (.string inside)
  | array {level : Nat} {rest : List Char} {items : List Spelling}
      {stop : Option (Fault × Bool)} (h : ∀ item ∈ items, StandsAt (level + 1) item) :
      StandsAt level (.array ⟨level + 1, rest⟩ items stop)
  | object {level : Nat} {rest : List Char} {members : List (Quoted × Spelling)}
      {stop : Option (Fault × Bool)} (h : ∀ m ∈ members, StandsAt (level + 1) m.2) :
      StandsAt level (.object ⟨level + 1, rest⟩ members stop)
  | broken {level : Nat} {place : Break} : StandsAt level (.broken place)

theorem standsAt_scanWord {level : Nat} {sp : Spelling} (h : sp.StandsAt level)
    (word cs : List Char) : (scanWord sp word cs).1.StandsAt level := by
  induction word generalizing cs with
  | nil => exact h
  | cons w word ih =>
    cases cs with
    | nil => exact .broken
    | cons c cs =>
      rw [scanWord]
      split
      · exact ih cs
      · exact .broken

theorem standsAt_scanNumber {level : Nat} (negative : Bool) (cs : List Char) :
    (scanNumber negative cs).1.StandsAt level := by
  unfold scanNumber
  split
  · exact .number
  · exact .broken

section Fuel

variable {fuel : Nat}

/-- A value, if its parts are followed. -/
theorem standsAt_scan_succ
    (hitems : ∀ level afterComma cs,
      ∀ item ∈ (scanItems fuel level afterComma cs).parts, item.StandsAt level)
    (hmembers : ∀ level afterComma cs,
      ∀ m ∈ (scanMembers fuel level afterComma cs).parts, m.2.StandsAt level)
    (level : Nat) (cs : List Char) : (scan (fuel + 1) level cs).1.StandsAt level := by
  rw [scan]
  split
  · exact .broken
  · exact standsAt_scanWord .null _ _
  · exact standsAt_scanWord .bool _ _
  · exact standsAt_scanWord .bool _ _
  · exact .string
  · exact standsAt_scanNumber true _
  · exact .array (hitems (level + 1) false _)
  · exact .object (hmembers (level + 1) false _)
  · split
    · exact standsAt_scanNumber false _
    · exact .broken

/-- Items, if the first one and those behind it are followed. -/
theorem standsAt_scanItems_succ (hvalue : ∀ level cs, (scan fuel level cs).1.StandsAt level)
    (hitems : ∀ level afterComma cs,
      ∀ item ∈ (scanItems fuel level afterComma cs).parts, item.StandsAt level)
    (level : Nat) (afterComma : Bool) (cs : List Char) :
    ∀ item ∈ (scanItems (fuel + 1) level afterComma cs).parts, item.StandsAt level := by
  rw [scanItems]
  split
  · exact nofun
  · split <;> exact nofun
  · next c rest _ _ =>
    have hitem := hvalue level (c :: rest)
    split
    · next h =>
      rw [h] at hitem
      exact List.forall_mem_singleton.mpr hitem
    · next h =>
      rw [h] at hitem
      split
      · exact List.forall_mem_cons.mpr ⟨hitem, hitems level true _⟩
      all_goals exact List.forall_mem_singleton.mpr hitem

/-- Members, if the value of the first one and those behind it are followed. -/
theorem standsAt_scanMembers_succ (hvalue : ∀ level cs, (scan fuel level cs).1.StandsAt level)
    (hmembers : ∀ level afterComma cs,
      ∀ m ∈ (scanMembers fuel level afterComma cs).parts, m.2.StandsAt level)
    (level : Nat) (afterComma : Bool) (cs : List Char) :
    ∀ m ∈ (scanMembers (fuel + 1) level afterComma cs).parts, m.2.StandsAt level := by
  rw [scanMembers]
  split
  · exact nofun
  · split <;> exact nofun
  · split
    split
    · exact List.forall_mem_singleton.mpr .broken
    · split
      · exact List.forall_mem_singleton.mpr .broken
      · next rest _ =>
        have hmember := hvalue level rest
        split
        · next h =>
          rw [h] at hmember
          exact List.forall_mem_singleton.mpr hmember
        · next h =>
          rw [h] at hmember
          split
          · exact List.forall_mem_cons.mpr ⟨hmember, hmembers level true _⟩
          all_goals exact List.forall_mem_singleton.mpr hmember
      · exact List.forall_mem_singleton.mpr .broken
  · exact nofun

end Fuel

/-- **A text is followed to a spelling that knows how deep it stands.** -/
theorem standsAt_scan (fuel : Nat) :
    (∀ level cs, (scan fuel level cs).1.StandsAt level) ∧
      (∀ level afterComma cs,
        ∀ item ∈ (scanItems fuel level afterComma cs).parts, item.StandsAt level) ∧
      ∀ level afterComma cs,
        ∀ m ∈ (scanMembers fuel level afterComma cs).parts, m.2.StandsAt level := by
  induction fuel with
  | zero => exact ⟨fun _ _ => .broken, fun _ _ _ => nofun, fun _ _ _ => nofun⟩
  | succ fuel ih =>
    obtain ⟨hvalue, hitems, hmembers⟩ := ih
    exact ⟨standsAt_scan_succ hitems hmembers, standsAt_scanItems_succ hvalue hitems,
      standsAt_scanMembers_succ hvalue hmembers⟩

/-! ### What fits -/

/-- What is not nested too deep leaves room for a level. -/
theorem room_of_fault? {level : Nat} {rest : List Char}
    (h : Opening.fault? ⟨level + 1, rest⟩ = none) :
    deepestLevel - level = deepestLevel - (level + 1) + 1 := by
  unfold Opening.fault? at h
  split at h
  · cases h
  · next hlevel =>
    have : level + 1 ≤ deepestLevel := Nat.not_lt.mp hlevel
    omega

/-- A numeral is an integer of 64 bits or a floating-point number, and in canonical form. -/
theorem fits_value? {x : Numeral} (h : x.value? = some v) (n : Nat) :
    v.Fits (fun _ => True) n ∧ v.canonical = v := by
  have hfloat (h : x.float? = some v) : v.Fits (fun _ => True) n ∧ v.canonical = v := by
    obtain ⟨m, -, rfl⟩ := Option.map_eq_some_iff.mp h
    exact ⟨.float trivial, rfl⟩
  simp only [Numeral.value?] at h
  split at h
  · exact hfloat h
  · split at h
    · split at h
      · next hn =>
        cases h
        have hsize : (0 : Int) < UInt64.size := by decide
        exact ⟨.int (by omega) (by omega), rfl⟩
      · exact hfloat h
    · split at h
      · next hn =>
        cases h
        exact ⟨.int (by omega) (by omega), rfl⟩
      · exact hfloat h

/-- **The value of a spelling fits as deep as there is room below it,** in canonical form. -/
theorem StandsAt.fits {level : Nat} {sp : Spelling} (h : sp.StandsAt level)
    (hv : sp.value = .ok v) :
    v.Fits (fun _ => True) (deepestLevel - level) ∧ v.canonical = v := by
  induction h generalizing v with
  | null => cases hv; exact ⟨.null, rfl⟩
  | bool => cases hv; exact ⟨.bool, rfl⟩
  | number =>
    rw [value] at hv
    split at hv
    · next h =>
      cases hv
      exact fits_value? h _
    · cases hv
  | @string _ inside =>
    rw [value] at hv
    cases htext : inside.text with
    | error e => rw [htext] at hv; cases hv
    | ok s => rw [htext] at hv; cases hv; exact ⟨.string, rfl⟩
  | @array level rest items stop _ ih =>
    obtain ⟨hroom, -, vs, hvs, rfl⟩ := value_array_eq_ok_iff.mp hv
    have hvalues := forall_itemValues hvs fun item hitem v => ih item hitem
    rw [room_of_fault? hroom]
    exact ⟨.array fun v hv => (hvalues v hv).1,
      canonical_array_iff.mpr fun v hv => (hvalues v hv).2⟩
  | @object level rest members stop _ ih =>
    obtain ⟨hroom, -, ms, hms, rfl⟩ := value_object_eq_ok_iff.mp hv
    have hvalues := forall_memberValues hms (fun m hm v => ih m hm) (List.forall_mem_nil _)
    rw [room_of_fault? hroom]
    exact ⟨.object fun m hm => (hvalues m hm).1,
      canonical_object_iff.mpr
        ⟨ascending_memberValues hms List.Pairwise.nil, fun m hm => (hvalues m hm).2⟩⟩
  | broken => cases hv

end Spelling

/-! ### Whole texts -/

variable {text : String} {v : Json}

/-- A text holds a value if its spelling has that value and nothing follows. -/
theorem ofText_eq_ok_iff : ofText text = .ok v ↔
    (Document.ofText text).root.value = .ok v ∧ (Document.ofText text).trailing = none := by
  rw [ofText, Document.value]
  cases (Document.ofText text).root.value with
  | error e => exact ⟨nofun, nofun⟩
  | ok v =>
    cases (Document.ofText text).trailing with
    | some fault => exact ⟨nofun, nofun⟩
    | none => simp [Except.mapError, bind, Except.bind, pure, Except.pure]

theorem root_ofText (text : String) : (Document.ofText text).root =
    (Spelling.scan (2 * text.toList.length + 2) 0 text.toList).1 := by
  rw [Document.ofText]
  split
  · next h => rw [h]
  · next h =>
    rw [h]
    split <;> rfl

/-- **What a text holds fits in a text,** and is in canonical form. -/
theorem fits_of_ofText (h : ofText text = .ok v) :
    v.Fits (fun _ => True) deepestLevel ∧ v.canonical = v := by
  obtain ⟨hvalue, -⟩ := ofText_eq_ok_iff.mp h
  rw [root_ofText] at hvalue
  exact ((Spelling.standsAt_scan _).1 0 _).fits hvalue

end PipelineCanvas.Json
