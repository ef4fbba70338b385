import Mathlib.Logic.Function.Basic
import Mathlib.Logic.Relation
import PipelineCanvas.Drafts.Memory
import PipelineCanvas.Session.Saving

/-!
# What a store holds

The state of a store is its own affair; what a session relies on is what the store
*holds*. A view of a store tells what it holds, in whatever terms: reading does not
change it, and a write that fails leaves it as it was. A store is faithful if it holds
values by key and a read answers what was last written.

* `DraftStore.Reads` – the states that a store comes to by being read;
* `StoreView` – a view of a store, with **`StoreView.contents_of_reads`**;
* `FaithfulStore` – a store that answers what was last written, and
  `FaithfulStore.drafts` – the drafts in it.
-/

namespace PipelineCanvas

variable {σ κ : Type} [DraftStore σ]

/-- A store was read, any number of times, and not written. -/
abbrev DraftStore.Reads : σ → σ → Prop :=
  Relation.ReflTransGen fun s s' => ∃ key, s' = (DraftStore.get key s).2

/-- A view of what a store holds. -/
structure StoreView (σ κ : Type) [DraftStore σ] where
  contents : σ → κ
  /-- Reading does not change what the store holds. -/
  contents_get : ∀ key s, contents (DraftStore.get key s).2 = contents s
  /-- A write that fails leaves what the store held. -/
  contents_set_of_error : ∀ {key value s e}, (DraftStore.set key value s).1 = .error e →
    contents (DraftStore.set key value s).2 = contents s

/-- **A store that is only read holds what it held.** -/
theorem StoreView.contents_of_reads (view : StoreView σ κ) {s s' : σ}
    (h : DraftStore.Reads s s') : view.contents s' = view.contents s := by
  induction h with
  | refl => rfl
  | tail _ hstep ih =>
    obtain ⟨key, rfl⟩ := hstep
    rw [view.contents_get, ih]

/-- A store that holds values by key, and answers what was last written. -/
class FaithfulStore (σ : Type) [DraftStore σ] where
  view : StoreView σ (String → Option Json)
  get_fst : ∀ key s, (DraftStore.get key s).1 = .ok (view.contents s key)
  contents_set_of_ok : ∀ {key value s}, (DraftStore.set key value s).1 = .ok () →
    view.contents (DraftStore.set key value s).2 =
      Function.update (view.contents s) key (some value)

namespace FaithfulStore

variable [FaithfulStore σ]

/-- The drafts that a store holds, by name. -/
def drafts (s : σ) : List (String × Json) := Session.draftsOf (view.contents s draftsKey)

/-- The draft that a store holds under a name. -/
def draft? (s : σ) (name : String) : Option Json := Entries.get? (drafts s) name

variable {s s' : σ}

/-- A value that is not an object holds no drafts. -/
theorem drafts_eq_nil (h : ∀ members, view.contents s draftsKey ≠ some (.object members)) :
    drafts s = [] := by
  rw [drafts]
  cases hvalue : view.contents s draftsKey with
  | none => rfl
  | some value =>
    cases value with
    | object members => exact absurd hvalue (h members)
    | _ => rfl

theorem drafts_of_reads (h : DraftStore.Reads s s') : drafts s' = drafts s := by
  rw [drafts, drafts, view.contents_of_reads h]

/-- A write of drafts that fails changes none. -/
theorem drafts_set_of_error {members : List (String × Json)} {e : StoreError}
    (h : (DraftStore.set draftsKey (.object members) s).1 = .error e) :
    drafts (DraftStore.set draftsKey (.object members) s).2 = drafts s := by
  rw [drafts, drafts, view.contents_set_of_error h]

/-- Written drafts are the drafts from then on. -/
theorem drafts_set_of_ok {members : List (String × Json)}
    (h : (DraftStore.set draftsKey (.object members) s).1 = .ok ()) :
    drafts (DraftStore.set draftsKey (.object members) s).2 = members := by
  rw [drafts, contents_set_of_ok h, Function.update_self]
  rfl

end FaithfulStore

/-- A store in memory is faithful. -/
instance : FaithfulStore MemoryStore where
  view :=
    { contents := fun s => s.values.get?
      contents_get := fun _ _ => rfl
      contents_set_of_error := nofun }
  get_fst _ _ := rfl
  contents_set_of_ok {key value s} _ := by
    funext k
    have hget : (s.values.insert key value).get? k =
        if key = k then some value else s.values.get? k := OrderedMap.get?_insert _ _ _ _
    by_cases hk : key = k
    · subst hk
      rw [Function.update_self]
      exact hget.trans (if_pos rfl)
    · rw [Function.update_of_ne (Ne.symm hk)]
      exact hget.trans (if_neg hk)

end PipelineCanvas
