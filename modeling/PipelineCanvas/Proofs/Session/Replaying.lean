import PipelineCanvas.Proofs.Session.Failing

/-!
# Making the noted calls again

Whatever a session asks of the backend or of the draft store is noted among its effects, but not
what it was answered. The answers need not be noted: backend and store answer from their states,
so from the states before some effects and the calls among them one can tell what each call was
answered, and the states behind it. A world that *replays* effects is one that these, and only
these, lead to.

* `Effect.redo`, `redoAll` – backend and store behind the calls that effects note;
* `Upshot`, `upshots` – which pipelines the backend took or refused, and which calls the store
  failed;
* `World.replaying` – the world behind some effects, with another session.
-/

namespace PipelineCanvas

variable {β σ : Type} [Backend β] [DraftStore σ]

/-! ### Calls -/

namespace Effect

/-- Backend and store behind the call that an effect notes, if it notes one. -/
def redo : Effect → β × σ → β × σ
  | .fetched query, (b, s) => ((Backend.fetch query b).2, s)
  | .submitted request, (b, s) => ((Backend.submit request b).2, s)
  | .storeRead key, (b, s) => (b, (DraftStore.get key s).2)
  | .storeWritten key value, (b, s) => (b, (DraftStore.set key value s).2)
  | _, c => c

end Effect

/-- Backend and store behind the calls that effects note. -/
def redoAll (es : List Effect) (c : β × σ) : β × σ := es.foldl (fun c e => e.redo c) c

/-- What became of a pipeline that was handed over, or of a call that the store failed. -/
inductive Upshot where
  /-- The backend took the pipeline. -/
  | taken (request : SaveRequest)
  /-- The backend did not take it. -/
  | rejected (request : SaveRequest) (error : BackendError)
  /-- The store failed. -/
  | failed (error : StoreError)

namespace Upshot

/-- What an answer of the backend to a pipeline means for it. -/
def ofSubmission (request : SaveRequest) : Except BackendError Unit → Upshot
  | .ok () => .taken request
  | .error error => .rejected request error

/-- Only a failure of the store is kept. -/
def ofStore? {α : Type} : Except StoreError α → Option Upshot
  | .ok _ => none
  | .error error => some (.failed error)

/-- The pipeline that the backend took. -/
def taken? : Upshot → Option SaveRequest
  | .taken request => some request
  | _ => none

/-- The error of a store that failed. -/
def failed? : Upshot → Option StoreError
  | .failed error => some error
  | _ => none

end Upshot

namespace Effect

/-- What the call came to that an effect notes. -/
def upshot? : Effect → β × σ → Option Upshot
  | .submitted request, (b, _) => some (.ofSubmission request (Backend.submit request b).1)
  | .storeRead key, (_, s) => Upshot.ofStore? (DraftStore.get key s).1
  | .storeWritten key value, (_, s) => Upshot.ofStore? (DraftStore.set key value s).1
  | _, _ => none

end Effect

/-- What the calls came to that effects note, in their order. -/
def upshots : List Effect → β × σ → List Upshot
  | [], _ => []
  | e :: es, c => (e.upshot? c).toList ++ upshots es (e.redo c)

variable {es fs : List Effect} {c : β × σ}

theorem redoAll_append (es fs : List Effect) (c : β × σ) :
    redoAll (es ++ fs) c = redoAll fs (redoAll es c) := List.foldl_append

theorem upshots_append (es fs : List Effect) (c : β × σ) :
    upshots (es ++ fs) c = upshots es c ++ upshots fs (redoAll es c) := by
  -- the later calls are answered from where the earlier ones lead, so `c` varies
  induction es generalizing c with
  | nil => rfl
  | cons e es ih =>
    rw [List.cons_append, upshots, upshots, ih, List.append_assoc]
    rfl

/-- The effect is a call, to the backend or to the store. -/
def Effect.isCall (e : Effect) : Bool := e.isBackendCall || e.isStoreCall

/-- What is no call concerns neither the backend nor the store. -/
theorem Effect.redo_of_not_call {e : Effect} (h : e.isCall = false) (c : β × σ) :
    e.redo c = c ∧ e.upshot? c = none := by
  cases e with
  | logged notice within => exact ⟨rfl, rfl⟩
  | opened span => exact ⟨rfl, rfl⟩
  | told listener news => exact ⟨rfl, rfl⟩
  | _ => cases h

theorem redoAll_of_not_calls (h : ∀ e ∈ es, e.isCall = false) (c : β × σ) :
    redoAll es c = c ∧ upshots es c = [] := by
  induction es with
  | nil => exact ⟨rfl, rfl⟩
  | cons e es ih =>
    obtain ⟨he, hes⟩ := List.forall_mem_cons.mp h
    obtain ⟨hredo, hupshot⟩ := Effect.redo_of_not_call he c
    obtain ⟨hredoAll, hupshots⟩ := ih hes
    refine ⟨?_, ?_⟩
    · rw [redoAll, List.foldl_cons, hredo]
      exact hredoAll
    · rw [upshots, hupshot, hredo, hupshots]
      rfl

/-- A pipeline is taken only where one is handed over. -/
theorem taken?_upshots (h : ∀ e ∈ es, e.request? = none) (c : β × σ) :
    (upshots es c).filterMap Upshot.taken? = [] := by
  induction es generalizing c with
  | nil => rfl
  | cons e es ih =>
    obtain ⟨he, hes⟩ := List.forall_mem_cons.mp h
    -- nothing is kept of what the store answers but a failure
    have hstore : ∀ {α : Type} (answer : Except StoreError α),
        (Upshot.ofStore? answer).toList.filterMap Upshot.taken? = [] := fun answer => by
      cases answer <;> rfl
    have hupshot : (e.upshot? c).toList.filterMap Upshot.taken? = [] := by
      cases e with
      | submitted request => cases he
      | storeRead key => exact hstore _
      | storeWritten key value => exact hstore _
      | _ => rfl
    rw [upshots, List.filterMap_append, hupshot, ih hes]
    rfl

/-! ### Worlds behind effects -/

namespace World

/-- The world that effects lead to which have been noted, with a session. -/
def replaying (w : World β σ) (es : List Effect) (s : Session) : World β σ :=
  { session := s
    backend := (redoAll es (w.backend, w.store)).1
    store := (redoAll es (w.backend, w.store)).2
    effects := w.effects ++ es }

variable {w w' : World β σ} {s s' : Session}

@[simp] theorem session_replaying : (w.replaying es s).session = s := rfl

@[simp] theorem effects_replaying : (w.replaying es s).effects = w.effects ++ es := rfl

theorem replaying_nil (w : World β σ) (s : Session) :
    w.replaying [] s = { w with session := s } := by
  rw [replaying, List.append_nil]
  rfl

/-- Effects behind effects. -/
@[simp] theorem replaying_replaying :
    (w.replaying es s).replaying fs s' = w.replaying (es ++ fs) s' := by
  simp only [replaying, redoAll_append, List.append_assoc]

/-- One effect behind the others. -/
theorem logging_eq (notice : Notice) (within : List String) :
    { w with effects := w.effects ++ [.logged notice within] } =
      w.replaying [.logged notice within] w.session := rfl

theorem reading_eq : w.reading = w.replaying [.storeRead draftsKey] w.session := rfl

theorem writing_eq (drafts : List (String × Json)) :
    w.writing drafts = w.replaying [.storeWritten draftsKey (.object drafts)] w.session := rfl

/-- Where nothing is called, no more than the log grows, and what listeners were told. -/
theorem replaying_of_not_calls (h : ∀ e ∈ es, e.isCall = false) (w : World β σ) (s : Session) :
    w.replaying es s = { w with session := s, effects := w.effects ++ es } := by
  rw [replaying, (redoAll_of_not_calls h _).1]

end World

end PipelineCanvas
