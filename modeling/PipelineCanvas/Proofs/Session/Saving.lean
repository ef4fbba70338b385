import PipelineCanvas.Proofs.Session.Outcomes

/-!
# What saving hands over

Saving is the one operation that is not quiet. Either the pipeline is refused, and then
saving is quiet after all, or it is accepted, and then the submission of the session is
handed over, once. What comes afterwards – dropping the draft and emptying the canvas –
is quiet and cannot fail, so that whatever the backend says, the answer is not that the
pipeline is invalid.

* `World.HandsOver` – one world comes out of another with one pipeline handed over;
* **`Operation.step_save_cases`** – what saving may do;
* **`Operation.step_cases`** – what any operation may do.
-/

namespace PipelineCanvas

variable {β σ : Type} {w w' w'' : World β σ}

open PipelineCanvas.Action

/-! ### Handing one pipeline over -/

namespace World

/-- A world that comes out of another with one pipeline handed over. -/
structure HandsOver (r : SaveRequest) (w w' : World β σ) : Prop where
  requests_eq : w'.requests = w.requests ++ [r]
  changes : w.session.nodes.Changes w'.session.nodes

variable {r : SaveRequest}

theorem HandsOver.trans_follows (h : w.HandsOver r w') (h' : w'.Follows w'') :
    w.HandsOver r w'' :=
  ⟨h'.requests_eq.trans h.requests_eq, h.changes.trans h'.changes⟩

theorem Follows.trans_handsOver (h : w.Follows w') (h' : w'.HandsOver r w'') :
    w.HandsOver r w'' :=
  ⟨h.requests_eq ▸ h'.requests_eq, h.changes.trans h'.changes⟩

theorem handsOver_submitting [Backend β] (r : SaveRequest) (w : World β σ) :
    w.HandsOver r (w.submitting r) :=
  ⟨by simp [requests, submitting, Effect.request?], .refl⟩

/-- Telling the listeners is quiet. -/
theorem follows_telling (w : World β σ) (news : News) : w.Follows (w.telling news) :=
  .of_effects rfl (by simp [Effect.request?]) rfl

end World

/-! ### What any operation may do -/

variable [Backend β] [DraftStore σ]

namespace Operation

/-- **What saving may do**: a pipeline that is not valid is the failure, and saving is
quiet; a valid one is handed over, and whatever the backend says to it, the answer is not
that the pipeline is invalid. -/
theorem step_save_cases (nameSpace : String) (w : World β σ) :
    (w.session.verdict.1.isEmpty = false ∧
      ((save nameSpace).step w).1 = .error (.invalid w.session.verdict.1) ∧
      w.Follows ((save nameSpace).step w).2) ∨
    (w.session.verdict.1.isEmpty = true ∧
      w.HandsOver (w.session.request nameSpace) ((save nameSpace).step w).2 ∧
      ∀ problems, ((save nameSpace).step w).1 ≠ .error (.invalid problems)) := by
  rw [step_of_perform_eq (save nameSpace) (Session.save nameSpace) .text rfl]
  have hrun := Session.saveRun nameSpace w
  generalize run (Session.save nameSpace : Action β σ String) w = r at hrun
  cases hrun with
  | refused hverdict hw =>
    exact .inl ⟨hverdict, rfl, hw.follows.trans (World.follows_telling _ _)⟩
  | rejected hverdict hw hsubmit hnotes =>
    exact .inr ⟨hverdict, (hw.follows.trans_handsOver
      (World.handsOver_submitting _ _)).trans_follows hnotes.follows, nofun⟩
  | taken hverdict hw hsubmit hnotes hquiet hstore =>
    exact .inr ⟨hverdict, (hw.follows.trans_handsOver
      (World.handsOver_submitting _ _)).trans_follows (hnotes.follows.trans hquiet), nofun⟩

/-- Saving a session that passes validation hands over its submission. -/
theorem step_save_accepted (nameSpace : String) (h : w.session.verdict.1.isEmpty = true) :
    w.HandsOver (w.session.request nameSpace) ((save nameSpace).step w).2 ∧
      ∀ problems, ((save nameSpace).step w).1 ≠ .error (.invalid problems) := by
  rcases step_save_cases nameSpace w with ⟨hverdict, -⟩ | ⟨-, hsent⟩
  · rw [h] at hverdict
    cases hverdict
  · exact hsent

/-- Saving a session that does not pass validation fails with what validation says. -/
theorem step_save_refused (nameSpace : String) (h : w.session.verdict.1.isEmpty = false) :
    ((save nameSpace).step w).1 = .error (.invalid w.session.verdict.1) := by
  rcases step_save_cases nameSpace w with ⟨-, hanswer, -⟩ | ⟨hverdict, -⟩
  · exact hanswer
  · rw [h] at hverdict
    cases hverdict

/-- **What any operation may do**: it is quiet, or it is saving, of a session that passes
validation, and hands over its submission. -/
theorem step_cases (op : Operation) (w : World β σ) :
    w.Follows (op.step w).2 ∨
      ∃ nameSpace, op = .save nameSpace ∧ w.session.verdict.1.isEmpty = true ∧
        w.HandsOver (w.session.request nameSpace) (op.step w).2 ∧
        ∀ problems, (op.step w).1 ≠ .error (.invalid problems) := by
  by_cases hop : ∃ nameSpace, op = .save nameSpace
  · obtain ⟨nameSpace, rfl⟩ := hop
    rcases step_save_cases nameSpace w with ⟨-, -, hquiet⟩ | hsent
    · exact .inl hquiet
    · exact .inr ⟨nameSpace, rfl, hsent⟩
  · have hquiet := quiet_perform (β := β) (σ := σ) op fun nameSpace h => hop ⟨nameSpace, h⟩
    exact .inl (hquiet w)

end Operation

end PipelineCanvas
