/-!
# Maps in key order

A canvas is full of small maps keyed by text: nodes by id, properties by name,
messages by field. All of them are shown in one order, the order of their keys
by code point, and two of them are equal when they answer every key alike. Both
facts are built into the type: a map *is* the list of its entries, and the list
ascends strictly.

* `OrderedMap` – the map, with its order as a field;
* `OrderedMap.get?`, `insert`, `erase`, `keep` – the operations, each described
  by what it does to `get?` (`OrderedMap.get?_insert`, `OrderedMap.get?_erase`,
  `OrderedMap.get?_keep`);
* **`OrderedMap.ext_get?`** – maps that answer every key alike are equal.

The namespace `Entries` holds the same operations on bare lists of entries, for
values such as JSON objects whose type cannot carry the order.
-/

namespace PipelineCanvas

variable {α β : Type}

/-! ### Lists of entries -/

namespace Entries

/-- The value of the first entry under a key. -/
def get? : List (String × α) → String → Option α
  | [], _ => none
  | (k, v) :: rest, key => if k = key then some v else get? rest key

/-- Puts a value under a key, in key order; an entry under that key is replaced. -/
def insert (key : String) (value : α) : List (String × α) → List (String × α)
  | [] => [(key, value)]
  | (k, v) :: rest =>
    if key < k then (key, value) :: (k, v) :: rest
    else if k = key then (key, value) :: rest
    else (k, v) :: insert key value rest

/-- Drops every entry under a key. -/
def erase (key : String) (entries : List (String × α)) : List (String × α) :=
  entries.filter fun e => e.1 ≠ key

/-- The keys of an ascending list ascend strictly, so none repeats. -/
def Ascending (entries : List (String × α)) : Prop :=
  entries.Pairwise fun a b => a.1 < b.1

instance (entries : List (String × α)) : Decidable (Ascending entries) :=
  inferInstanceAs (Decidable (entries.Pairwise fun a b => a.1 < b.1))

theorem fst_of_mem_insert {key : String} {value : α} {e : String × α}
    {entries : List (String × α)} (h : e ∈ insert key value entries) :
    e.1 = key ∨ e ∈ entries := by
  induction entries with
  | nil => simp [insert] at h; simp [h]
  | cons hd tl ih => grind [insert]

theorem ascending_insert (key : String) (value : α) {entries : List (String × α)}
    (h : Ascending entries) : Ascending (insert key value entries) := by
  induction entries with
  | nil => simp [insert, Ascending]
  | cons hd tl ih =>
    obtain ⟨k, v⟩ := hd
    have hk := List.pairwise_cons.1 h
    unfold insert
    split
    · next hlt =>
      refine List.pairwise_cons.2 ⟨fun e he => ?_, h⟩
      rcases List.mem_cons.1 he with rfl | he
      · exact hlt
      · exact String.lt_trans hlt (hk.1 e he)
    · next hlt =>
      split
      · next heq => subst heq; exact List.pairwise_cons.2 ⟨hk.1, hk.2⟩
      · next hne =>
        refine List.pairwise_cons.2 ⟨fun e he => ?_, ih hk.2⟩
        rcases fst_of_mem_insert he with he | he
        · have : k ≤ key := String.not_lt.1 hlt
          rw [he]
          exact Classical.byContradiction fun hn =>
            hne (String.le_antisymm this (String.not_lt.1 hn))
        · exact hk.1 e he

theorem ascending_filter (p : String × α → Bool) {entries : List (String × α)}
    (h : Ascending entries) : Ascending (entries.filter p) :=
  List.Pairwise.filter p h

theorem ascending_map (f : String → α → β) {entries : List (String × α)}
    (h : Ascending entries) : Ascending (entries.map fun e => (e.1, f e.1 e.2)) :=
  List.pairwise_map.2 h

theorem get?_insert (key : String) (value : α) (entries : List (String × α)) (k : String) :
    get? (insert key value entries) k = if key = k then some value else get? entries k := by
  induction entries with
  | nil => simp [insert, get?]
  | cons hd tl ih => grind [insert, get?]

theorem get?_filter (p : String → Bool) (entries : List (String × α)) (k : String) :
    get? (entries.filter fun e => p e.1) k = if p k then get? entries k else none := by
  induction entries with
  | nil => simp [get?]
  | cons hd tl ih => grind [get?]

theorem get?_map (f : String → α → β) (entries : List (String × α)) (k : String) :
    get? (entries.map fun e => (e.1, f e.1 e.2)) k = (get? entries k).map (f k) := by
  induction entries with
  | nil => simp [get?]
  | cons hd tl ih => grind [get?]

theorem get?_eq_some_iff {entries : List (String × α)} (h : Ascending entries)
    {k : String} {v : α} : get? entries k = some v ↔ (k, v) ∈ entries := by
  induction entries with
  | nil => simp [get?]
  | cons hd tl ih =>
    obtain ⟨k', v'⟩ := hd
    have hk := List.pairwise_cons.1 h
    by_cases hkk : k' = k
    · subst hkk
      simp only [get?, if_true, Option.some.injEq, List.mem_cons, Prod.mk.injEq, true_and]
      refine ⟨fun h => .inl h.symm, fun h => ?_⟩
      rcases h with h | h
      · exact h.symm
      · exact absurd (hk.1 _ h) (String.lt_irrefl _)
    · simp [get?, hkk, ih hk.2, Ne.symm hkk]

/-- **Ascending lists that answer every key alike are equal.** -/
theorem eq_of_get?_eq {xs ys : List (String × α)} (hx : Ascending xs) (hy : Ascending ys)
    (h : ∀ k, get? xs k = get? ys k) : xs = ys := by
  have hmem : ∀ e, e ∈ xs ↔ e ∈ ys := fun e => by
    rw [← get?_eq_some_iff (k := e.1) (v := e.2) hx, ← get?_eq_some_iff (k := e.1) (v := e.2) hy,
      h]
  induction xs generalizing ys with
  | nil =>
    cases ys with
    | nil => rfl
    | cons e es => exact absurd ((hmem e).2 (List.mem_cons_self ..)) (by simp)
  | cons x xs ih =>
    cases ys with
    | nil => exact absurd ((hmem x).1 (List.mem_cons_self ..)) (by simp)
    | cons y ys =>
      have hx' := List.pairwise_cons.1 hx
      have hy' := List.pairwise_cons.1 hy
      have hxy : x = y := by
        rcases List.mem_cons.1 ((hmem x).1 (List.mem_cons_self ..)) with e | e
        · exact e
        · rcases List.mem_cons.1 ((hmem y).2 (List.mem_cons_self ..)) with e' | e'
          · exact e'.symm
          · exact absurd (hx'.1 _ e') (String.lt_asymm (hy'.1 _ e))
      subst hxy
      have htail : ∀ e, e ∈ xs ↔ e ∈ ys := fun e => by
        constructor
        · intro he
          rcases List.mem_cons.1 ((hmem e).1 (List.mem_cons_of_mem _ he)) with h' | h'
          · subst h'; exact absurd (hx'.1 _ he) (String.lt_irrefl _)
          · exact h'
        · intro he
          rcases List.mem_cons.1 ((hmem e).2 (List.mem_cons_of_mem _ he)) with h' | h'
          · subst h'; exact absurd (hy'.1 _ he) (String.lt_irrefl _)
          · exact h'
      rw [ih hx'.2 hy'.2 (fun k => ?_) htail]
      cases hg : get? ys k with
      | none =>
        cases hg' : get? xs k with
        | none => rfl
        | some v =>
          have := (get?_eq_some_iff hy'.2).2 ((htail _).1 ((get?_eq_some_iff hx'.2).1 hg'))
          rw [hg] at this; exact absurd this (by simp)
      | some v =>
        exact (get?_eq_some_iff hx'.2).2 ((htail _).2 ((get?_eq_some_iff hy'.2).1 hg))

end Entries

/-! ### The map -/

/-- A finite map from text to `α`: its entries, in strictly ascending key order. -/
structure OrderedMap (α : Type) where
  /-- The entries, least key first. -/
  entries : List (String × α)
  /-- The keys ascend strictly, by code point. -/
  ascending : Entries.Ascending entries

namespace OrderedMap

instance [DecidableEq α] : DecidableEq (OrderedMap α) := fun a b =>
  if h : a.entries = b.entries then
    isTrue (by cases a; cases b; simp_all)
  else isFalse fun e => h (e ▸ rfl)

/-- The map without entries. -/
def empty : OrderedMap α := ⟨[], List.Pairwise.nil⟩

instance : Inhabited (OrderedMap α) := ⟨empty⟩

instance : EmptyCollection (OrderedMap α) := ⟨empty⟩

/-- The value under a key, if there is one. -/
def get? (m : OrderedMap α) (key : String) : Option α := Entries.get? m.entries key

/-- Whether a key has a value. -/
def contains (m : OrderedMap α) (key : String) : Bool := (m.get? key).isSome

/-- Puts a value under a key, replacing the one that was there. -/
def insert (m : OrderedMap α) (key : String) (value : α) : OrderedMap α :=
  ⟨Entries.insert key value m.entries, Entries.ascending_insert key value m.ascending⟩

/-- Drops a key. -/
def erase (m : OrderedMap α) (key : String) : OrderedMap α :=
  ⟨Entries.erase key m.entries, Entries.ascending_filter _ m.ascending⟩

/-- Keeps the entries whose key passes a test. -/
def keep (m : OrderedMap α) (p : String → Bool) : OrderedMap α :=
  ⟨m.entries.filter fun e => p e.1, Entries.ascending_filter _ m.ascending⟩

/-- Changes every value, leaving the keys. -/
def mapValues (f : String → α → β) (m : OrderedMap α) : OrderedMap β :=
  ⟨m.entries.map fun e => (e.1, f e.1 e.2), Entries.ascending_map f m.ascending⟩

/-- The keys, ascending. -/
def keys (m : OrderedMap α) : List String := m.entries.map (·.1)

/-- The values, in the order of their keys. -/
def values (m : OrderedMap α) : List α := m.entries.map (·.2)

/-- The number of keys. -/
def size (m : OrderedMap α) : Nat := m.entries.length

/-- Whether there is no entry. -/
def isEmpty (m : OrderedMap α) : Bool := m.entries.isEmpty

/-- The map of a list of entries, read from the front: a later entry replaces
an earlier one under the same key. -/
def ofList (entries : List (String × α)) : OrderedMap α :=
  entries.foldl (fun m e => m.insert e.1 e.2) empty

@[simp] theorem get?_empty (k : String) : (empty : OrderedMap α).get? k = none := rfl

theorem get?_insert (m : OrderedMap α) (key : String) (value : α) (k : String) :
    (m.insert key value).get? k = if key = k then some value else m.get? k :=
  Entries.get?_insert key value m.entries k

@[simp] theorem get?_insert_self (m : OrderedMap α) (key : String) (value : α) :
    (m.insert key value).get? key = some value := by simp [get?_insert]

theorem get?_erase (m : OrderedMap α) (key k : String) :
    (m.erase key).get? k = if k = key then none else m.get? k := by
  have := Entries.get?_filter (fun k => decide (k ≠ key)) m.entries k
  simp only [get?, erase, Entries.erase] at this ⊢
  rw [this]
  by_cases h : k = key <;> simp [h]

theorem get?_keep (m : OrderedMap α) (p : String → Bool) (k : String) :
    (m.keep p).get? k = if p k then m.get? k else none :=
  Entries.get?_filter p m.entries k

theorem contains_keep (m : OrderedMap α) (p : String → Bool) (k : String) :
    (m.keep p).contains k = (p k && m.contains k) := by
  cases hp : p k <;> simp [contains, get?_keep, hp]

theorem get?_mapValues (f : String → α → β) (m : OrderedMap α) (k : String) :
    (m.mapValues f).get? k = (m.get? k).map (f k) :=
  Entries.get?_map f m.entries k

/-- **Maps that answer every key alike are equal.** -/
theorem ext_get? {m n : OrderedMap α} (h : ∀ k, m.get? k = n.get? k) : m = n := by
  cases m with
  | mk xs hx =>
    cases n with
    | mk ys hy =>
      have : xs = ys := Entries.eq_of_get?_eq hx hy h
      subst this; rfl

theorem get?_eq_some_iff {m : OrderedMap α} {k : String} {v : α} :
    m.get? k = some v ↔ (k, v) ∈ m.entries :=
  Entries.get?_eq_some_iff m.ascending

theorem contains_insert {m : OrderedMap α} {key k : String} {value : α} :
    (m.insert key value).contains k = true ↔ key = k ∨ m.contains k = true := by
  rw [contains, contains, get?_insert]
  split <;> simp_all

/-- Putting a value where it stands already changes nothing, and only that does. -/
theorem insert_eq_self_iff {m : OrderedMap α} {key : String} {value : α} :
    m.insert key value = m ↔ m.get? key = some value := by
  constructor
  · intro h
    rw [← h, get?_insert_self]
  · intro h
    refine ext_get? fun k => ?_
    rw [get?_insert]
    split
    · next hk => rw [← hk, h]
    · rfl

theorem mem_keys_iff {m : OrderedMap α} {k : String} : k ∈ m.keys ↔ m.contains k = true := by
  simp only [keys, contains, List.mem_map, Option.isSome_iff_exists, get?_eq_some_iff]
  exact ⟨fun ⟨⟨_, v⟩, h, e⟩ => ⟨v, e ▸ h⟩, fun ⟨v, h⟩ => ⟨(k, v), h, rfl⟩⟩

theorem mem_values_iff {m : OrderedMap α} {v : α} : v ∈ m.values ↔ ∃ k, m.get? k = some v := by
  simp only [values, List.mem_map, get?_eq_some_iff]
  exact ⟨fun ⟨⟨k, _⟩, h, e⟩ => ⟨k, e ▸ h⟩, fun ⟨k, h⟩ => ⟨(k, v), h, rfl⟩⟩

@[simp] theorem length_values (m : OrderedMap α) : m.values.length = m.size :=
  List.length_map _

@[simp] theorem keys_mapValues (f : String → α → β) (m : OrderedMap α) :
    (m.mapValues f).keys = m.keys := by
  simp [keys, mapValues, Function.comp_def]

/-- Maps have the same keys if they have a value under the same keys. -/
theorem keys_eq_iff {m : OrderedMap α} {n : OrderedMap β} :
    m.keys = n.keys ↔ ∀ k, m.contains k = n.contains k := by
  constructor
  · intro h k
    rw [Bool.eq_iff_iff, ← mem_keys_iff, ← mem_keys_iff, h]
  · intro h
    have hkeys : m.mapValues (fun _ _ => ()) = n.mapValues (fun _ _ => ()) := by
      refine ext_get? fun k => ?_
      have hk := h k
      rw [contains, contains] at hk
      rw [get?_mapValues, get?_mapValues]
      cases hm : m.get? k <;> cases hn : n.get? k <;> simp_all
    rw [← keys_mapValues (fun _ _ => ()) m, hkeys, keys_mapValues]

/-- The keys ascend strictly. -/
theorem keys_ascending (m : OrderedMap α) : m.keys.Pairwise (· < ·) :=
  List.pairwise_map.2 m.ascending

/-- No key is listed twice. -/
theorem keys_nodup (m : OrderedMap α) : m.keys.Nodup :=
  List.Pairwise.imp (S := (· ≠ ·)) (fun h e => String.lt_irrefl _ (e ▸ h)) m.keys_ascending

end OrderedMap

end PipelineCanvas
