import PipelineCanvas.OrderedMap

/-!
# Entries in key order, one by one

Maps are filled from their entries in order: what comes next belongs behind all that is
there already (`Entries.insert_of_ascending`). So a map that is taken apart and put
together again is the same map. What is dropped from entries concerns one key alone
(`Entries.get?_erase`, `Entries.erase_of_get?_eq_none`).
-/

namespace PipelineCanvas

variable {α : Type} {key : String} {entries rest : List (String × α)}

namespace Entries

/-- An entry behind all others is put behind them. -/
theorem insert_of_lt (value : α) (h : ∀ e ∈ entries, e.1 < key) :
    insert key value entries = entries ++ [(key, value)] := by
  induction entries with
  | nil => rfl
  | cons e rest ih =>
    obtain ⟨k, v⟩ := e
    have hk : k < key := h (k, v) (List.mem_cons_self ..)
    have hne : k ≠ key := fun he => String.lt_irrefl _ (he ▸ hk)
    rw [insert, if_neg (String.lt_asymm hk), if_neg hne,
      ih fun e he => h e (List.mem_cons_of_mem _ he), List.cons_append]

variable {value value' : α}

/-- **The next of ascending entries is put behind those before it,** whatever its value. -/
theorem insert_of_ascending (h : Ascending (entries ++ (key, value) :: rest)) :
    insert key value' entries = entries ++ [(key, value')] :=
  insert_of_lt value' fun e he => (List.pairwise_append.mp h).2.2 e he _ (List.mem_cons_self ..)

/-- Only the keys matter to the order. -/
theorem ascending_of_fst_eq (h : Ascending (entries ++ (key, value) :: rest)) :
    Ascending ((entries ++ [(key, value')]) ++ rest) := by
  have hkeys : ((entries ++ [(key, value')]) ++ rest).map Prod.fst =
      (entries ++ (key, value) :: rest).map Prod.fst := by simp
  have hasc := List.pairwise_map.mpr h
  rw [← hkeys] at hasc
  exact List.pairwise_map.mp hasc

/-- Where nothing stands under a key, there is nothing to drop. -/
theorem erase_of_get?_eq_none (h : get? entries key = none) : erase key entries = entries := by
  induction entries with
  | nil => rfl
  | cons e rest ih =>
    obtain ⟨k, v⟩ := e
    rw [get?] at h
    split at h
    · cases h
    · next hk =>
      have hrest : erase key ((k, v) :: rest) = (k, v) :: erase key rest := by
        simp [erase, hk]
      rw [hrest, ih h]

theorem get?_erase (key : String) (entries : List (String × α)) (k : String) :
    get? (erase key entries) k = if k = key then none else get? entries k := by
  have := get?_filter (fun k => decide (k ≠ key)) entries k
  rw [erase, this]
  by_cases h : k = key <;> simp [h]

end Entries

/-- A map with the next of ascending entries. -/
theorem OrderedMap.entries_insert_of_ascending {m : OrderedMap α} {e : String × α}
    (h : Entries.Ascending (m.entries ++ e :: rest)) :
    (m.insert e.1 e.2).entries = m.entries ++ [e] :=
  Entries.insert_of_ascending h

end PipelineCanvas
