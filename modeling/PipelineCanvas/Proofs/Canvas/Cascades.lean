import PipelineCanvas.Canvas.NodeTable
import PipelineCanvas.Proofs.Ascending
import PipelineCanvas.Proofs.Canvas.Slots

/-!
# Cascades without gaps

The next node of a role is put into the slot that the number of its role names. Nothing looks for
a slot that is free. That this slot *is* free takes more than nodes in different slots: they have
to fill the first slots, as many as they are (`NodeTable.Packed`). Such a table stays packed when
the next node is put into its slot (`NodeTable.Packed.insert`), and when the last node of a cascade
is taken off (`NodeTable.Packed.erase`). Taking off another one leaves a gap above the last, and the
next slot is that of the last (`NodeTable.Packed.exists_in_next`).
-/

namespace PipelineCanvas

/-- An entry under a new key comes to those that are there. -/
theorem Entries.insert_perm {α : Type} {key : String} {entries : List (String × α)}
    (h : get? entries key = none) (value : α) :
    (insert key value entries).Perm ((key, value) :: entries) := by
  induction entries with
  | nil => exact .refl _
  | cons e rest ih =>
    obtain ⟨k, v⟩ := e
    rw [get?] at h
    split at h
    · cases h
    · next hk =>
      rw [insert, if_neg hk]
      split
      · exact .refl _
      · exact ((ih h).cons _).trans (.swap ..)

namespace NodeTable

variable {t : NodeTable} {n : Node} {id : String}

/-! ### Counting the nodes of a role -/

/-- A node under a new id is counted under its role. -/
theorem roleCount_insert (h : t.get? id = none) (n : Node) (role : Role) :
    roleCount (t.insert id n) role = t.roleCount role + if n.role = role then 1 else 0 := by
  have hvalues : (OrderedMap.values (t.insert id n)).Perm (n :: t.values) :=
    (Entries.insert_perm h n).map Prod.snd
  rw [roleCount, (hvalues.filter _).length_eq, List.filter_cons]
  split <;> simp_all [roleCount]

theorem insert_erase (h : t.get? id = some n) : OrderedMap.insert (t.erase id) id n = t := by
  refine OrderedMap.ext_get? fun k => ?_
  rw [OrderedMap.get?_insert, OrderedMap.get?_erase]
  by_cases hk : id = k
  · rw [if_pos hk, ← hk, h]
  · rw [if_neg hk, if_neg (Ne.symm hk)]

theorem erase_of_get?_eq_none (h : t.get? id = none) : t.erase id = t := by
  refine OrderedMap.ext_get? fun k => ?_
  rw [OrderedMap.get?_erase]
  split
  · next hk => rw [hk, h]
  · rfl

/-- A node that is taken off was counted under its role. -/
theorem roleCount_eq_add_of_get? (h : t.get? id = some n) (role : Role) :
    t.roleCount role = roleCount (t.erase id) role + if n.role = role then 1 else 0 := by
  have hgone : OrderedMap.get? (t.erase id) id = none := by simp [OrderedMap.get?_erase]
  rw [← roleCount_insert hgone, insert_erase h]

theorem roleCount_le_size (t : NodeTable) (role : Role) : t.roleCount role ≤ t.size := by
  rw [← t.length_values]
  exact List.length_filter_le _ _

theorem size_erase_le (t : NodeTable) (id : String) : OrderedMap.size (t.erase id) ≤ t.size :=
  List.length_filter_le _ _

/-! ### Packed tables -/

/-- The nodes of every role fill the first slots of their cascade, as many as they are, and no two
are in the same place. -/
structure Packed (t : NodeTable) : Prop where
  slot : ∀ {id n}, t.get? id = some n →
    ∃ i, i < t.roleCount n.role ∧ n.position = .forSlot n.role i
  filled : ∀ role i, i < t.roleCount role →
    ∃ id n, t.get? id = some n ∧ n.role = role ∧ n.position = .forSlot role i
  apart : ∀ {a b m n}, a ≠ b → t.get? a = some m → t.get? b = some n → m.position ≠ n.position

theorem packed_empty : Packed .empty where
  slot h := nomatch h
  filled _ _ h := absurd h (Nat.not_lt_zero _)
  apart _ h := nomatch h

/-- In a table with room the tops of its slots are exact. -/
theorem exact_of_le_roleCount (hroom : Position.Exact t.size) (role : Role) {i : Nat}
    (hi : i ≤ t.roleCount role) : Position.Exact i :=
  hroom.mono (hi.trans (t.roleCount_le_size role))

/-- **The last node of a cascade** is in the slot that the next node gets once it is taken off. -/
theorem Packed.position_of_last (h : t.Packed) (hroom : Position.Exact t.size)
    (hn : t.get? id = some n)
    (hlast : ∀ m ∈ t.values, m.role = n.role → m.position.top ≤ n.position.top) :
    n.position = .forSlot n.role (roleCount (t.erase id) n.role) := by
  obtain ⟨i, hi, hni⟩ := h.slot hn
  have hcount := roleCount_eq_add_of_get? hn n.role
  rw [if_pos rfl] at hcount
  -- some node is in that slot, and it is not below this one
  obtain ⟨k, m, hm, hrole, hmj⟩ := h.filled n.role (roleCount (t.erase id) n.role) (by omega)
  have hle := hlast m (OrderedMap.mem_values_iff.mpr ⟨k, hm⟩) hrole
  rw [hmj, hni, Position.top_forSlot_le_iff (exact_of_le_roleCount hroom n.role (by omega))
    (exact_of_le_roleCount hroom n.role hi.le)] at hle
  have hi' : i = roleCount (t.erase id) n.role := by omega
  rw [hni, hi']

/-- **Taking off the last node of a cascade** leaves the table packed. -/
theorem Packed.erase (h : t.Packed) (hroom : Position.Exact t.size)
    (hlast : ∀ n, t.get? id = some n →
      ∀ m ∈ t.values, m.role = n.role → m.position.top ≤ n.position.top) :
    Packed (t.erase id) := by
  cases hn : t.get? id with
  | none => rwa [erase_of_get?_eq_none hn]
  | some n =>
    have hcount := roleCount_eq_add_of_get? hn
    have hposition := h.position_of_last hroom hn (hlast n hn)
    have hold : ∀ {k m}, OrderedMap.get? (t.erase id) k = some m ↔ k ≠ id ∧ t.get? k = some m := by
      intro k m
      rw [OrderedMap.get?_erase]
      split <;> simp_all
    refine ⟨fun {k m} hm => ?_, fun role i hi => ?_, fun hab hm hm' =>
      h.apart hab (hold.mp hm).2 (hold.mp hm').2⟩
    · obtain ⟨hne, hm⟩ := hold.mp hm
      obtain ⟨i, hi, hmi⟩ := h.slot hm
      refine ⟨i, ?_, hmi⟩
      rw [hcount] at hi
      split at hi
      · next hrole =>
        have hi' : i ≠ roleCount (t.erase id) m.role := by
          rintro rfl
          exact h.apart hne hm hn (by rw [hmi, hposition, hrole])
        omega
      · exact hi
    · have hi' : i < t.roleCount role := by
        rw [hcount]
        exact Nat.lt_add_right _ hi
      obtain ⟨k, m, hm, hrole, hmi⟩ := h.filled role i hi'
      refine ⟨k, m, hold.mpr ⟨?_, hm⟩, hrole, hmi⟩
      rintro rfl
      -- the node that is taken off is in the slot behind those that are left
      rw [hn, Option.some.injEq] at hm
      subst hm hrole
      have hexact : Position.Exact (roleCount (t.erase k) n.role) :=
        exact_of_le_roleCount hroom n.role (by rw [hcount]; exact Nat.le_add_right _ _)
      rw [hmi, Position.forSlot_eq_iff (exact_of_le_roleCount hroom n.role hi'.le) hexact]
        at hposition
      exact Nat.ne_of_lt hi hposition.2

/-- **A node in the slot behind the others of its role** leaves the table packed. -/
theorem Packed.insert (h : t.Packed) (hroom : Position.Exact t.size) (hid : t.get? id = none)
    (hslot : n.position = .forSlot n.role (t.roleCount n.role)) : Packed (t.insert id n) := by
  have hcount := roleCount_insert hid n
  -- the new node is behind those of its role, and apart from those of the others
  have hnew : ∀ {k m}, t.get? k = some m → m.position ≠ n.position := by
    intro k m hm heq
    obtain ⟨i, hi, hmi⟩ := h.slot hm
    rw [hmi, hslot, Position.forSlot_eq_iff (exact_of_le_roleCount hroom m.role hi.le)
      (exact_of_le_roleCount hroom n.role le_rfl)] at heq
    rw [heq.1, heq.2] at hi
    exact Nat.lt_irrefl _ hi
  have hold : ∀ {k m}, t.get? k = some m → OrderedMap.get? (t.insert id n) k = some m := by
    intro k m hm
    have hk : id ≠ k := by
      rintro rfl
      rw [hid] at hm
      cases hm
    rw [OrderedMap.get?_insert, if_neg hk, hm]
  refine ⟨fun {k m} hm => ?_, fun role i hi => ?_, fun {a b m m'} hab hm hm' => ?_⟩
  · rw [hcount]
    rw [OrderedMap.get?_insert] at hm
    split at hm
    · cases hm
      exact ⟨t.roleCount n.role, by simp, hslot⟩
    · obtain ⟨i, hi, hmi⟩ := h.slot hm
      exact ⟨i, Nat.lt_add_right _ hi, hmi⟩
  · rcases Nat.lt_or_ge i (t.roleCount role) with hi' | hi'
    · obtain ⟨k, m, hm, hrole, hmi⟩ := h.filled role i hi'
      exact ⟨k, m, hold hm, hrole, hmi⟩
    · rw [hcount] at hi
      split at hi
      · next hrole =>
        have hi'' : i = t.roleCount role := by omega
        exact ⟨id, n, OrderedMap.get?_insert_self .., hrole, by rw [hslot, hrole, hi'']⟩
      · omega
  · rw [OrderedMap.get?_insert] at hm hm'
    split at hm
    · next ha =>
      cases hm
      rw [if_neg (ha ▸ hab)] at hm'
      exact (hnew hm').symm
    · split at hm'
      · cases hm'
        exact hnew hm
      · exact h.apart hab hm hm'

/-- **Taking off a node above another of its role** leaves one in the slot that comes next. -/
theorem Packed.exists_in_next (h : t.Packed) (hroom : Position.Exact t.size)
    (hn : t.get? id = some n)
    (hbelow : ∃ m ∈ t.values, m.role = n.role ∧ n.position.top < m.position.top) :
    ∃ k m, OrderedMap.get? (t.erase id) k = some m ∧
      m.position = .forSlot n.role (roleCount (t.erase id) n.role) := by
  obtain ⟨m, hm, hrole, htop⟩ := hbelow
  obtain ⟨k', hm⟩ := OrderedMap.mem_values_iff.mp hm
  obtain ⟨j, hj, hmj⟩ := h.slot hm
  have hcount := roleCount_eq_add_of_get? hn n.role
  rw [if_pos rfl] at hcount
  rw [hrole, hcount] at hj
  obtain ⟨k, p, hp, -, hpi⟩ := h.filled n.role (roleCount (t.erase id) n.role) (by omega)
  refine ⟨k, p, ?_, hpi⟩
  rw [OrderedMap.get?_erase, if_neg ?_, hp]
  rintro rfl
  -- the node itself would be in the last slot, above no other
  rw [hn, Option.some.injEq] at hp
  subst hp
  refine UInt32.not_lt.mpr ?_ htop
  rw [hmj, hpi, Position.top_forSlot_le_iff (exact_of_le_roleCount hroom n.role (by omega))
    (exact_of_le_roleCount hroom n.role (by omega))]
  omega

end NodeTable

end PipelineCanvas
