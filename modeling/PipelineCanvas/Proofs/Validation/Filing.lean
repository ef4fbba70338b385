import Mathlib.Data.List.Induction
import PipelineCanvas.Pipeline.Problems

/-!
# Filing loses no message

Problems are filed one message at a time, and messages of different checks may meet
under one key: a node may have the id `name`. Filing puts a message behind those that
are under its key and leaves the other keys alone, so what is filed in a row comes out
key by key, in the order of filing, all of it.

* `Problems.get?_addAll` – what is under a key;
* `Problems.messageCount_addAll` – how many messages there are;
* `Problems.isEmpty_addAll` – whether there is any.
-/

namespace PipelineCanvas

namespace Entries

variable {α : Type}

theorem get?_eq_none_of_lt {key : String} {entries : List (String × α)}
    (h : ∀ e ∈ entries, key < e.1) : get? entries key = none := by
  induction entries with
  | nil => rfl
  | cons e rest ih =>
    have hne : e.1 ≠ key := fun he => String.lt_irrefl _ (he ▸ h e (List.mem_cons_self ..))
    simp only [get?, if_neg hne]
    exact ih fun e he => h e (List.mem_cons_of_mem _ he)

/-- Putting a list under a key changes the number of all elements by what it adds to the
list that was there. -/
theorem length_flatten_insert (key : String) (value : List α)
    {entries : List (String × List α)} (h : Ascending entries) :
    ((insert key value entries).map (·.2)).flatten.length
        + ((get? entries key).getD []).length =
      (entries.map (·.2)).flatten.length + value.length := by
  induction entries with
  | nil => simp [insert, get?]
  | cons e rest ih =>
    obtain ⟨k, v⟩ := e
    have hrest := List.pairwise_cons.mp h
    unfold insert
    split
    · next hlt =>
      have hnone : get? ((k, v) :: rest) key = none := by
        refine get?_eq_none_of_lt fun e he => ?_
        rcases List.mem_cons.mp he with rfl | he
        · exact hlt
        · exact String.lt_trans hlt (hrest.1 e he)
      simp only [hnone, List.map_cons, List.flatten_cons, List.length_append,
        Option.getD_none, List.length_nil]
      omega
    · split
      · next heq =>
        simp only [get?, if_pos heq, List.map_cons, List.flatten_cons, List.length_append,
          Option.getD_some]
        omega
      · next hne =>
        have := ih hrest.2
        simp only [get?, if_neg hne, List.map_cons, List.flatten_cons, List.length_append]
        omega

theorem insert_ne_nil (key : String) (value : α) (entries : List (String × α)) :
    insert key value entries ≠ [] := by
  cases entries with
  | nil => simp [insert]
  | cons e rest =>
    unfold insert
    split
    · simp
    · split <;> simp

end Entries

namespace Problems

/-- The messages of a list that go under a key, in order. -/
def under (key : String) (found : List (String × String)) : List String :=
  (found.filter fun m => m.1 = key).map (·.2)

/-- **What is filed in a row is under its keys, in the order of filing,** behind what
was there. -/
theorem get?_addAll (p : Problems) (found : List (String × String)) (key : String) :
    (p.addAll found).get? key =
      if under key found = [] then p.get? key
      else some ((p.get? key).getD [] ++ under key found) := by
  induction found generalizing p with
  | nil => simp [addAll, under]
  | cons m found ih =>
    have hstep : p.addAll (m :: found) = (p.add m.1 m.2).addAll found := rfl
    rw [hstep, ih, get?_add]
    by_cases hk : m.1 = key
    · have hunder : under key (m :: found) = m.2 :: under key found := by simp [under, hk]
      by_cases hf : under key found = [] <;> simp [hunder, hk, hf]
    · have hunder : under key (m :: found) = under key found := by simp [under, hk]
      simp [hunder, hk]

theorem messageCount_add (p : Problems) (key message : String) :
    (p.add key message).messageCount = p.messageCount + 1 := by
  have h : (p.add key message).messageCount + ((p.get? key).getD []).length =
      p.messageCount + ((p.get? key).getD [] ++ [message]).length :=
    Entries.length_flatten_insert key _ p.byKey.ascending
  rw [List.length_append, List.length_singleton] at h
  omega

/-- **Every message that is filed counts.** -/
theorem messageCount_addAll (p : Problems) (found : List (String × String)) :
    (p.addAll found).messageCount = p.messageCount + found.length := by
  induction found generalizing p with
  | nil => rfl
  | cons m found ih =>
    have hstep : p.addAll (m :: found) = (p.add m.1 m.2).addAll found := rfl
    rw [hstep, ih, messageCount_add, List.length_cons]
    omega

/-- There is no problem exactly when nothing was filed. -/
theorem isEmpty_addAll (found : List (String × String)) :
    (none.addAll found).isEmpty = true ↔ found = [] := by
  cases found using List.reverseRecOn with
  | nil => simp [addAll, none, isEmpty, OrderedMap.isEmpty, OrderedMap.empty]
  | append_singleton found m =>
    simp [addAll, List.foldl_append, add, isEmpty, OrderedMap.isEmpty, OrderedMap.insert,
      Entries.insert_ne_nil]

end Problems

end PipelineCanvas
