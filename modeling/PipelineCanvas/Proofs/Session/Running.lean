import PipelineCanvas.Session.World

/-!
# Running actions

What an action does to a world is read off its parts: each primitive has an equation
that says what it answers and what world it leaves, and so have the ways of joining
actions. With these equations an operation is run by rewriting, and nothing else in this
development opens the monad.

* `Action.run_bind`, `Action.run_throw`, `Action.run_tryCatch` – joining, failing and
  recovering;
* `Action.run_update`, `Action.run_emit`, `Action.run_submit` and their like – the
  primitives.
-/

namespace PipelineCanvas

namespace Action

variable {β σ α γ : Type} (w : World β σ)

/-! ### Joining -/

@[simp] theorem run_pure (a : α) : run (pure a : Action β σ α) w = (.ok a, w) := rfl

@[simp] theorem run_throw (e : SessionError) :
    run (throw e : Action β σ α) w = (.error e, w) := rfl

/-- An action that fails keeps what it did, and what follows is not run. -/
theorem run_bind (a : Action β σ α) (f : α → Action β σ γ) :
    run (a >>= f) w =
      match run a w with
      | (.ok x, w') => run (f x) w'
      | (.error e, w') => (.error e, w') := by
  simp only [run, ExceptT.run, StateT.run, bind, ExceptT.bind, ExceptT.mk, StateT.bind,
    ExceptT.bindCont]
  rcases a w with ⟨e | x, w'⟩ <;> rfl

theorem run_bind_of_fst {a : Action β σ α} {f : α → Action β σ γ} {w : World β σ} {x : α}
    (h : (run a w).1 = .ok x) : run (a >>= f) w = run (f x) (run a w).2 := by
  rw [run_bind]
  rcases hr : run a w with ⟨e | y, w'⟩
  · rw [hr] at h
    cases h
  · rw [hr] at h
    cases h
    rfl

/-- A failure is recovered from in the world that the failing action left. -/
theorem run_tryCatch (a : Action β σ α) (recover : SessionError → Action β σ α) :
    run (tryCatch a recover) w =
      match run a w with
      | (.ok x, w') => (.ok x, w')
      | (.error e, w') => run (recover e) w' := by
  simp only [run, ExceptT.run, StateT.run, tryCatch, tryCatchThe, MonadExceptOf.tryCatch,
    ExceptT.tryCatch, ExceptT.mk, bind, StateT.bind]
  rcases a w with ⟨e | x, w'⟩ <;> rfl

/-! ### The primitives -/

@[simp] theorem run_session : run session w = (.ok w.session, w) := rfl

@[simp] theorem run_update (f : Session → Session) :
    run (update f) w = (.ok (), { w with session := f w.session }) := rfl

@[simp] theorem run_emit (e : Effect) :
    run (emit e) w = (.ok (), { w with effects := w.effects ++ [e] }) := rfl

@[simp] theorem run_log (notice : Notice) (within : List String) :
    run (log notice within) w =
      (.ok (), { w with effects := w.effects ++ [.logged notice within] }) := rfl

@[simp] theorem run_fetch [Backend β] (q : PropertyQuery) :
    run (fetch q) w =
      (.ok (Backend.fetch q w.backend).1,
        { w with backend := (Backend.fetch q w.backend).2
                 effects := w.effects ++ [.fetched q] }) := rfl

@[simp] theorem run_submit [Backend β] (r : SaveRequest) :
    run (submit r) w =
      (.ok (Backend.submit r w.backend).1,
        { w with backend := (Backend.submit r w.backend).2
                 effects := w.effects ++ [.submitted r] }) := rfl

@[simp] theorem run_readStore [DraftStore σ] (key : String) :
    run (readStore key) w =
      (.ok (DraftStore.get key w.store).1,
        { w with store := (DraftStore.get key w.store).2
                 effects := w.effects ++ [.storeRead key] }) := rfl

@[simp] theorem run_writeStore [DraftStore σ] (key : String) (value : Json) :
    run (writeStore key value) w =
      (.ok (DraftStore.set key value w.store).1,
        { w with store := (DraftStore.set key value w.store).2
                 effects := w.effects ++ [.storeWritten key value] }) := rfl

/-! ### Doing the same for a list -/

/-- Noting something of each element of a list. -/
theorem run_forIn_emit (f : α → Effect) (l : List α) :
    run (do for a in l do emit (f a)) w =
      (.ok (), { w with effects := w.effects ++ l.map f }) := by
  induction l generalizing w with
  | nil => simp
  | cons a l ih =>
    simp only [List.forIn_cons, bind_assoc, run_bind, run_emit, run_pure] at ih ⊢
    rw [ih]
    simp

@[simp] theorem run_logAll (notices : List Notice) :
    run (logAll notices) w =
      (.ok (), { w with effects := w.effects ++ notices.map (.logged · []) }) :=
  run_forIn_emit w _ notices

@[simp] theorem run_tell (news : News) :
    run (tell news) w =
      (.ok (), { w with effects :=
        w.effects ++ (w.session.listeners.on news.channel).map (.told · news) }) :=
  run_forIn_emit w _ _

end Action

end PipelineCanvas
