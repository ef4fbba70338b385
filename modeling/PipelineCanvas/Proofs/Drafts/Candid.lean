import PipelineCanvas.Proofs.Drafts.Contents

/-!
# Stores that may fail at any time

A faithful store (`FaithfulStore`) never fails to read. A candid one may fail whenever it likes,
to read or to write; but where it answers, the answer is true: it reads what it holds, and holds
what it has taken. What a call does to it that fails is left open; only where it matters a store
is asked to keep what it holds then.

* `CandidStore`, `CandidStore.FailuresKeep`;
* `CandidStore.drafts`, `CandidStore.draft?` – the drafts that a store holds;
* `FalteringStore` – a store in memory, of which some calls fail.
-/

namespace PipelineCanvas

variable {σ : Type} [DraftStore σ]

/-- A store that holds values by key, and speaks the truth where it answers. -/
class CandidStore (σ : Type) [DraftStore σ] where
  contents : σ → String → Option Json
  get_of_ok : ∀ {key s value}, (DraftStore.get key s).1 = .ok value →
    value = contents s key ∧ contents (DraftStore.get key s).2 = contents s
  set_of_ok : ∀ {key value s}, (DraftStore.set key value s).1 = .ok () →
    contents (DraftStore.set key value s).2 = Function.update (contents s) key (some value)

/-- A faithful store is candid. -/
instance [FaithfulStore σ] : CandidStore σ where
  contents := FaithfulStore.view.contents
  get_of_ok {key s value} h := by
    rw [FaithfulStore.get_fst] at h
    exact ⟨(Except.ok.inj h).symm, FaithfulStore.view.contents_get key s⟩
  set_of_ok := FaithfulStore.contents_set_of_ok

namespace CandidStore

variable [CandidStore σ] {s : σ} {value : Option Json} {members : List (String × Json)}
  {e : StoreError}

variable (σ) in
/-- A call that fails leaves what the store holds. -/
structure FailuresKeep : Prop where
  get : ∀ {key} {s : σ} {e}, (DraftStore.get key s).1 = .error e →
    contents (DraftStore.get key s).2 = contents s
  set : ∀ {key value} {s : σ} {e}, (DraftStore.set key value s).1 = .error e →
    contents (DraftStore.set key value s).2 = contents s

/-- The drafts that a store holds, by name. -/
def drafts (s : σ) : List (String × Json) := Session.draftsOf (contents s draftsKey)

/-- The draft that a store holds under a name. -/
def draft? (s : σ) (name : String) : Option Json := Entries.get? (drafts s) name

/-- A draft that is lost was not kept. -/
theorem draft?_ne_of_lost {s' : σ} {name : String} (hsome : (draft? s name).isSome)
    (hnone : draft? s' name = none) : draft? s' name ≠ draft? s name := fun heq => by
  rw [← heq, hnone] at hsome
  cases hsome

/-- What is read are the drafts that the store holds, and goes on holding. -/
theorem drafts_get (h : (DraftStore.get draftsKey s).1 = .ok value) :
    Session.draftsOf value = drafts s ∧ drafts (DraftStore.get draftsKey s).2 = drafts s := by
  obtain ⟨rfl, hcontents⟩ := get_of_ok h
  exact ⟨rfl, by rw [drafts, hcontents, drafts]⟩

/-- Drafts that the store has taken are those that it holds. -/
theorem drafts_set (h : (DraftStore.set draftsKey (.object members) s).1 = .ok ()) :
    drafts (DraftStore.set draftsKey (.object members) s).2 = members := by
  rw [drafts, set_of_ok h, Function.update_self]
  rfl

theorem FailuresKeep.drafts_get (hkeep : FailuresKeep σ)
    (h : (DraftStore.get draftsKey s).1 = .error e) :
    drafts (DraftStore.get draftsKey s).2 = drafts s := by
  rw [drafts, hkeep.get h, drafts]

theorem FailuresKeep.drafts_set (hkeep : FailuresKeep σ)
    (h : (DraftStore.set draftsKey (.object members) s).1 = .error e) :
    drafts (DraftStore.set draftsKey (.object members) s).2 = drafts s := by
  rw [drafts, hkeep.set h, drafts]

end CandidStore

/-! ### A store that falters -/

/-- A store in memory, and which of the next calls fail. Those behind them succeed. -/
structure FalteringStore where
  memory : MemoryStore
  failing : List Bool

namespace FalteringStore

/-- The next call. -/
def call {α : Type} (answer : MemoryStore → Except StoreError α × MemoryStore)
    (s : FalteringStore) : Except StoreError α × FalteringStore :=
  if s.failing.headD false then (.error (.io "busy"), ⟨s.memory, s.failing.tail⟩)
  else ((answer s.memory).1, ⟨(answer s.memory).2, s.failing.tail⟩)

instance : DraftStore FalteringStore :=
  ⟨fun key => call (MemoryStore.get key), fun key value => call (MemoryStore.set key value)⟩

variable {α : Type} {answer : MemoryStore → Except StoreError α × MemoryStore}
  {s : FalteringStore}

theorem memory_call_of_ok {a : α} (h : (call answer s).1 = .ok a) :
    (answer s.memory).1 = .ok a ∧ (call answer s).2.memory = (answer s.memory).2 := by
  unfold call at h ⊢
  split at h
  · cases h
  · next hcall => exact ⟨h, by rw [if_neg hcall]⟩

/-- What is held in memory never fails. -/
theorem memory_call_of_error {e : StoreError} (hanswer : ∀ m, (answer m).1 ≠ .error e)
    (h : (call answer s).1 = .error e) : (call answer s).2.memory = s.memory := by
  unfold call at h ⊢
  split at h
  · next hcall => rw [if_pos hcall]
  · exact absurd h (hanswer _)

instance : CandidStore FalteringStore where
  contents s := s.memory.values.get?
  get_of_ok h := by
    obtain ⟨hvalue, hmemory⟩ := memory_call_of_ok h
    cases hvalue
    exact ⟨rfl, congrArg (fun m : MemoryStore => m.values.get?) hmemory⟩
  set_of_ok {key value s} h := by
    obtain ⟨hok, hmemory⟩ := memory_call_of_ok h
    exact (congrArg (fun m : MemoryStore => m.values.get?) hmemory).trans
      (FaithfulStore.contents_set_of_ok (σ := MemoryStore) hok)

theorem failuresKeep : CandidStore.FailuresKeep FalteringStore := by
  constructor
  · intro key s e h
    have hget : ∀ m, (MemoryStore.get key m).1 ≠ .error e := fun m => nofun
    exact congrArg (·.values.get?) (memory_call_of_error hget h)
  · intro key value s e h
    have hset : ∀ m, (MemoryStore.set key value m).1 ≠ .error e := fun m => nofun
    exact congrArg (·.values.get?) (memory_call_of_error hset h)

end FalteringStore

end PipelineCanvas
