import Mathlib.Data.List.Induction
import PipelineCanvas.Json.Basic
import PipelineCanvas.Proofs.Ascending

/-!
# Drafts that are stored and dropped

Drafts by name change in two ways: one is stored under its name, in place of one that is
there, or the one under a name is dropped. Of many such updates, in their order, the last
one under a name tells what stands under it, and under a name without an update everything
stays.

* `DraftUpdate` – storing a draft, or dropping one;
* `DraftUpdate.apply`, `DraftUpdate.applyAll` – the drafts behind one update, and behind
  many;
* **`DraftUpdate.get?_applyAll`** – the last update under a name counts.
-/

namespace PipelineCanvas

/-- What becomes of the draft under a name. -/
structure DraftUpdate where
  name : String
  /-- The draft that is stored; none if the one that is there is dropped. -/
  draft? : Option Json
deriving DecidableEq

namespace DraftUpdate

variable {drafts : List (String × Json)}

/-- The drafts behind an update. -/
def apply (u : DraftUpdate) (drafts : List (String × Json)) : List (String × Json) :=
  match u.draft? with
  | some draft => Entries.insert u.name draft drafts
  | none => Entries.erase u.name drafts

theorem get?_apply (u : DraftUpdate) (drafts : List (String × Json)) (name : String) :
    Entries.get? (u.apply drafts) name =
      if u.name = name then u.draft? else Entries.get? drafts name := by
  unfold apply
  split
  · next draft hdraft => rw [Entries.get?_insert, hdraft]
  · next hdraft =>
    rw [Entries.get?_erase, hdraft]
    by_cases h : u.name = name
    · rw [if_pos h.symm, if_pos h]
    · rw [if_neg (Ne.symm h), if_neg h]

/-- An update keeps the names in order. -/
theorem ascending_apply (u : DraftUpdate) (h : Entries.Ascending drafts) :
    Entries.Ascending (u.apply drafts) := by
  unfold apply
  split
  · exact Entries.ascending_insert _ _ h
  · exact Entries.ascending_filter _ h

/-- The drafts behind updates, one after the other. -/
def applyAll (us : List DraftUpdate) (drafts : List (String × Json)) : List (String × Json) :=
  us.foldl (fun drafts u => u.apply drafts) drafts

theorem applyAll_append (us vs : List DraftUpdate) (drafts : List (String × Json)) :
    applyAll (us ++ vs) drafts = applyAll vs (applyAll us drafts) := List.foldl_append

theorem ascending_applyAll (us : List DraftUpdate) (h : Entries.Ascending drafts) :
    Entries.Ascending (applyAll us drafts) := by
  induction us generalizing drafts with
  | nil => exact h
  | cons u us ih => exact ih (u.ascending_apply h)

/-- **The last update under a name counts.** -/
theorem get?_applyAll (us : List DraftUpdate) (drafts : List (String × Json)) (name : String) :
    Entries.get? (applyAll us drafts) name =
      match (us.filter (·.name = name)).getLast? with
      | some u => u.draft?
      | none => Entries.get? drafts name := by
  -- the last update is the one that counts, so the induction takes it off
  induction us using List.reverseRecOn with
  | nil => rfl
  | append_singleton us u ih =>
    have hlast : applyAll (us ++ [u]) drafts = u.apply (applyAll us drafts) :=
      applyAll_append us [u] drafts
    rw [hlast, get?_apply]
    by_cases h : u.name = name
    · simp [h]
    · simp [h, ih]

end DraftUpdate

end PipelineCanvas
