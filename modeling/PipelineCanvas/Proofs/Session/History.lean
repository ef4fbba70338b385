import PipelineCanvas.Proofs.Session.Saving

/-!
# The history of a run

A run of a session is a list of operations. Its history lists the steps one by one, each
with the world that the operation met, so that what a session does *at some moment* can
be spoken of. Two facts carry over from one step to the whole history: the nodes stay
keyed (`Operation.keyed_of_mem_history`), and what was handed to the backend in a run is
what its steps handed over, in their order (`Operation.requests_runAll`).

A session may also share its store and its backend with others, which change them between
its operations. `Session.Reachable` speaks of the sessions that come about so.
-/

namespace PipelineCanvas

variable {β σ : Type}

/-- The world in which a new session begins its work. -/
def World.fresh (backend : β) (store : σ) : World β σ := ⟨.fresh, backend, store, []⟩

theorem World.keyed_fresh (backend : β) (store : σ) :
    (World.fresh backend store).session.nodes.Keyed := NodeTable.keyed_empty

theorem World.requests_fresh (backend : β) (store : σ) :
    (World.fresh backend store).requests = [] := rfl

/-- One step of a run: an operation and the world that it meets. -/
structure Step (β σ : Type) where
  before : World β σ
  operation : Operation

variable [Backend β] [DraftStore σ]

namespace Step

/-- What the operation answers. -/
def answer (s : Step β σ) : Except SessionError Reply := (s.operation.step s.before).1

/-- The world that the operation leaves. -/
def after (s : Step β σ) : World β σ := (s.operation.step s.before).2

/-- What the operation hands to the backend. -/
def sent (s : Step β σ) : List SaveRequest := s.after.requests.drop s.before.requests.length

variable {s : Step β σ}

theorem sent_of_follows (h : s.before.Follows s.after) : s.sent = [] := by
  rw [sent, h.requests_eq, List.drop_length]

theorem sent_of_handsOver {r : SaveRequest} (h : s.before.HandsOver r s.after) :
    s.sent = [r] := by
  rw [sent, h.requests_eq, List.drop_left]

/-- A step takes nothing back. -/
theorem requests_after (s : Step β σ) : s.after.requests = s.before.requests ++ s.sent := by
  rcases s.operation.step_cases s.before with hquiet | ⟨nameSpace, -, -, hsent, -⟩
  · rw [sent_of_follows hquiet, List.append_nil]
    exact hquiet.requests_eq
  · rw [sent_of_handsOver hsent]
    exact hsent.requests_eq

/-- A step changes the nodes. -/
theorem changes (s : Step β σ) : s.before.session.nodes.Changes s.after.session.nodes := by
  rcases s.operation.step_cases s.before with hquiet | ⟨nameSpace, -, -, hsent, -⟩
  · exact hquiet.changes
  · exact hsent.changes

end Step

namespace Operation

/-- The steps of a run, in their order. -/
def history : List Operation → World β σ → List (Step β σ)
  | [], _ => []
  | op :: ops, w => ⟨w, op⟩ :: history ops (op.step w).2

theorem runAll_append (ops ops' : List Operation) (w : World β σ) :
    runAll (ops ++ ops') w = runAll ops' (runAll ops w) := List.foldl_append

theorem history_append (ops ops' : List Operation) (w : World β σ) :
    history (ops ++ ops') w = history ops w ++ history ops' (runAll ops w) := by
  induction ops generalizing w with
  | nil => rfl
  | cons op ops ih =>
    rw [List.cons_append, history, ih]
    rfl

/-- **The steps of a run are its operations, each in the world that those before it leave.** -/
theorem mem_history_iff {ops : List Operation} {w : World β σ} {s : Step β σ} :
    s ∈ history ops w ↔
      ∃ earlier later, ops = earlier ++ s.operation :: later ∧ s.before = runAll earlier w := by
  constructor
  · intro hs
    induction ops generalizing w with
    | nil => cases hs
    | cons op ops ih =>
      rcases List.mem_cons.mp hs with rfl | hrest
      · exact ⟨[], ops, rfl, rfl⟩
      · obtain ⟨earlier, later, rfl, hbefore⟩ := ih hrest
        exact ⟨op :: earlier, later, rfl, hbefore⟩
  · rintro ⟨earlier, later, rfl, hbefore⟩
    obtain ⟨before, op⟩ := s
    cases hbefore
    rw [history_append]
    exact List.mem_append_right _ (List.mem_cons_self ..)

/-- **The nodes stay keyed** at every step of a run. -/
theorem keyed_of_mem_history {ops : List Operation} {w : World β σ}
    (h : w.session.nodes.Keyed) {s : Step β σ} (hs : s ∈ history ops w) :
    s.before.session.nodes.Keyed := by
  induction ops generalizing w with
  | nil => cases hs
  | cons op ops ih =>
    rcases List.mem_cons.mp hs with rfl | hrest
    · exact h
    · exact ih (h.of_changes (Step.changes ⟨w, op⟩)) hrest

/-- **What a run hands over is what its steps hand over.** -/
theorem requests_runAll (ops : List Operation) (w : World β σ) :
    (runAll ops w).requests = w.requests ++ (history ops w).flatMap Step.sent := by
  induction ops generalizing w with
  | nil => simp [runAll, history]
  | cons op ops ih =>
    have hstep : (op.step w).2.requests = w.requests ++ Step.sent ⟨w, op⟩ :=
      Step.requests_after ⟨w, op⟩
    have hrun : runAll (op :: ops) w = runAll ops (op.step w).2 := rfl
    rw [hrun, ih, hstep, history, List.flatMap_cons, List.append_assoc]

end Operation

/-! ### Sessions among others -/

namespace Session

/-- A session that operations lead to from a new one. Each operation may meet another
backend and another store than the one before left. -/
inductive Reachable : Session → Prop where
  | fresh : Reachable .fresh
  | step {β σ : Type} [Backend β] [DraftStore σ] {w : World β σ} (op : Operation)
      (h : Reachable w.session) : Reachable (op.step w).2.session

theorem Reachable.run {w : World β σ} (h : w.session.Reachable) (ops : List Operation) :
    (Operation.runAll ops w).session.Reachable := by
  induction ops generalizing w with
  | nil => exact h
  | cons op ops ih => exact ih (.step op h)

/-- **The nodes of a session are keyed,** whatever was done in it. -/
theorem Reachable.keyed {s : Session} (h : s.Reachable) : s.nodes.Keyed := by
  induction h with
  | fresh => exact NodeTable.keyed_empty
  | step op _ ih => exact ih.of_changes (Step.changes ⟨_, op⟩)

end Session

end PipelineCanvas
