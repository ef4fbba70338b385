import PipelineCanvas.Proofs.Ascending
import PipelineCanvas.Proofs.Drafts.Contents
import PipelineCanvas.Proofs.Drafts.Updates
import PipelineCanvas.Proofs.Session.Outcomes

/-!
# What becomes of the stored drafts

A faithful store holds drafts by name. An operation that succeeds in storing a draft puts
it among them in place of one with its name, saving drops the draft with the name of the
pipeline, and no other operation changes any. An operation that fails changes none either.
So the answer to an operation tells what becomes of the drafts (`Operation.draftUpdate?`,
**`Operation.drafts_step`**). In particular a draft stays what it is as long as nobody
stores or saves a pipeline with its name (`Operation.draft?_step`).
-/

namespace PipelineCanvas

open PipelineCanvas.Action FaithfulStore

variable {β σ : Type} [DraftStore σ] [FaithfulStore σ] {w : World β σ}

namespace Session

/-! ### Reading and writing -/

theorem drafts_reading (w : World β σ) : drafts w.reading.store = drafts w.store :=
  drafts_of_reads (.single ⟨draftsKey, rfl⟩)

/-- A faithful store answers with the drafts that it holds. -/
theorem run_readDrafts_faithful (w : World β σ) :
    run (readDrafts : Action β σ (List (String × Json))) w = (.ok (drafts w.store), w.reading) := by
  rw [run_readDrafts, get_fst]
  rfl

/-- What is read from a faithful store are the drafts that it holds. -/
theorem drafts_eq_of_get {value : Option Json}
    (h : (DraftStore.get draftsKey w.store).1 = .ok value) : draftsOf value = drafts w.store := by
  rw [get_fst] at h
  cases h
  rfl

/-! ### The two operations that write -/

/-- **A stored draft is put among the others,** and one that could not be stored changes
none. -/
theorem drafts_run_saveDraft (w : World β σ) :
    drafts (run (saveDraft : Action β σ Unit) w).2.store =
      match (run (saveDraft : Action β σ Unit) w).1 with
      | .ok () => w.session.withDraft (drafts w.store)
      | .error _ => drafts w.store := by
  have hrun := saveDraftRun w
  generalize run (saveDraft : Action β σ Unit) w = r at hrun
  cases hrun with
  | refused hverdict hw => exact congrArg drafts hw.store_eq
  | unread hw hget =>
    rw [get_fst] at hget
    cases hget
  | unwritten hw hget hset =>
    rw [World.writing, World.reading, hw.store_eq]
    exact (drafts_set_of_error hset).trans (drafts_reading w)
  | stored hw hget hset hnotes =>
    rw [hnotes.store_eq, World.writing, World.reading, hw.store_eq]
    dsimp only
    rw [← drafts_eq_of_get hget]
    exact drafts_set_of_ok hset

/-- Dropping a draft drops it, unless the store fails; then it changes none. -/
theorem drafts_run_cleanUp (name : String) (w : World β σ) :
    drafts (run (cleanUp name : Action β σ Unit) w).2.store = Entries.erase name (drafts w.store) ∨
      (∃ e, (DraftStore.set draftsKey (.object (Entries.erase name (drafts w.store)))
        w.reading.store).1 = .error e) ∧
      drafts (run (cleanUp name : Action β σ Unit) w).2.store = drafts w.store := by
  have hrun := cleanUpRun name w
  generalize run (cleanUp name : Action β σ Unit) w = r at hrun
  cases hrun with
  | unread hget hnotes =>
    rw [get_fst] at hget
    cases hget
  | missing hget hmissing =>
    rw [drafts_eq_of_get hget] at hmissing
    rw [Entries.erase_of_get?_eq_none hmissing]
    exact .inl (drafts_reading w)
  | written hget hstored hnotes =>
    rw [drafts_eq_of_get hget] at hnotes
    rw [hnotes.store_eq]
    cases hset : (DraftStore.set draftsKey (.object (Entries.erase name (drafts w.store)))
        w.reading.store).1 with
    | ok _ => exact .inl (drafts_set_of_ok hset)
    | error e => exact .inr ⟨⟨e, rfl⟩, (drafts_set_of_error hset).trans (drafts_reading w)⟩

/-- **Saving drops the draft of the pipeline,** unless the store fails; a pipeline that the
backend does not take keeps its draft. -/
theorem drafts_run_save [Backend β] (nameSpace : String) (w : World β σ) :
    match (run (save nameSpace : Action β σ String) w).1 with
    | .error _ =>
      drafts (run (save nameSpace : Action β σ String) w).2.store = drafts w.store
    | .ok _ =>
      drafts (run (save nameSpace : Action β σ String) w).2.store =
          Entries.erase w.session.metadata.name (drafts w.store) ∨
        (∃ e, (DraftStore.set draftsKey
          (.object (Entries.erase w.session.metadata.name (drafts w.store)))
          w.reading.store).1 = .error e) ∧
        drafts (run (save nameSpace : Action β σ String) w).2.store = drafts w.store := by
  have hrun := saveRun nameSpace w
  generalize run (save nameSpace : Action β σ String) w = r at hrun
  cases hrun with
  | refused hverdict hw => exact congrArg drafts hw.store_eq
  | rejected hverdict hw hsubmit hnotes =>
    exact congrArg drafts (hnotes.store_eq.trans hw.store_eq)
  | @taken w₁ w₂ w₃ hverdict hw hsubmit hnotes hquiet hstore =>
    have hbefore : w₂.store = w.store := hnotes.store_eq.trans hw.store_eq
    have hcleaned := drafts_run_cleanUp w.session.metadata.name w₂
    rw [World.reading, hbefore] at hcleaned
    dsimp only
    rw [hstore]
    exact hcleaned

end Session

/-! ### Any operation -/

/-- A world in which the store was read since another, and not written. -/
def World.OnlyReads (w w' : World β σ) : Prop := DraftStore.Reads w.store w'.store

variable [Backend β]

omit [FaithfulStore σ] in
instance : Admits (World.OnlyReads (β := β) (σ := σ)) where
  refl _ := .refl
  trans := .trans
  emit _ _ := .refl
  update _ := .refl
  fetch _ _ := .refl
  readStore key _ := .single ⟨key, rfl⟩

namespace Operation

omit [FaithfulStore σ] in
/-- What the answer to an operation tells of the stored drafts: a draft that was stored is
the one under its name, a pipeline that was saved has none, and nothing else concerns
them. -/
def draftUpdate? (op : Operation) (w : World β σ) : Option DraftUpdate :=
  match op, (op.step w).1 with
  | .saveDraft, .ok _ =>
    some ⟨w.session.metadata.name, some w.session.draft.toJson.canonical⟩
  | .save _, .ok _ => some ⟨w.session.metadata.name, none⟩
  | _, _ => none

/-- If an operation saves a pipeline, the store takes the drafts without that of the
pipeline. -/
def Tidies (op : Operation) (w : World β σ) : Prop :=
  ∀ nameSpace reply, op = .save nameSpace → (op.step w).1 = .ok reply →
    (DraftStore.set draftsKey (.object (Entries.erase w.session.metadata.name (drafts w.store)))
      w.reading.store).1 = .ok ()

theorem drafts_step_saveDraft (w : World β σ) :
    drafts (saveDraft.step w).2.store =
      DraftUpdate.applyAll (saveDraft.draftUpdate? w).toList (drafts w.store) := by
  have hstep := step_of_perform_eq .saveDraft Session.saveDraft (fun _ => .done) rfl w
  have hdrafts := Session.drafts_run_saveDraft w
  unfold draftUpdate?
  rw [hstep]
  generalize run (Session.saveDraft : Action β σ Unit) w = r at hdrafts ⊢
  obtain ⟨_ | _, w'⟩ := r
  · exact hdrafts
  · exact hdrafts

theorem drafts_step_save (nameSpace : String) (w : World β σ) :
    drafts ((save nameSpace).step w).2.store =
        DraftUpdate.applyAll ((save nameSpace).draftUpdate? w).toList (drafts w.store) ∨
      ¬(save nameSpace).Tidies w ∧
        drafts ((save nameSpace).step w).2.store = drafts w.store := by
  have hstep := step_of_perform_eq (.save nameSpace) (Session.save nameSpace) .text rfl w
  have hdrafts := Session.drafts_run_save nameSpace w
  unfold draftUpdate? Tidies
  rw [hstep]
  generalize run (Session.save nameSpace : Action β σ String) w = r at hdrafts ⊢
  obtain ⟨_ | name, w'⟩ := r
  · exact .inl hdrafts
  · rcases hdrafts with hdropped | ⟨⟨e, hfails⟩, hkept⟩
    · exact .inl hdropped
    · refine .inr ⟨fun htidies => ?_, hkept⟩
      rw [htidies nameSpace (.text name) rfl rfl] at hfails
      cases hfails

/-- **What an operation does to the stored drafts** is what its answer tells of them. Only a
store that does not take them back when a pipeline was saved keeps them as they were. -/
theorem drafts_step (op : Operation) (w : World β σ) :
    drafts (op.step w).2.store =
        DraftUpdate.applyAll (op.draftUpdate? w).toList (drafts w.store) ∨
      ¬op.Tidies w ∧ drafts (op.step w).2.store = drafts w.store := by
  by_cases hdraft : op = .saveDraft
  · subst hdraft
    exact .inl (drafts_step_saveDraft w)
  by_cases hsave : ∃ nameSpace, op = .save nameSpace
  · obtain ⟨nameSpace, rfl⟩ := hsave
    exact drafts_step_save nameSpace w
  -- what is left only reads the store, and its answer tells nothing
  have hreads : Leads World.OnlyReads (op.perform : Action β σ Reply) :=
    op.leads_perform (fun nameSpace h => hsave ⟨nameSpace, h⟩) hdraft
  have hnone : op.draftUpdate? w = none := by
    unfold draftUpdate?
    split
    · exact absurd rfl hdraft
    · exact absurd ⟨_, rfl⟩ hsave
    · rfl
  rw [hnone]
  exact .inl (drafts_of_reads (hreads w))

/-- **What stands under a name after an operation** stood there before, or is the draft of
the session. -/
theorem draft?_step_cases {op : Operation} {w : World β σ} {name : String} {stored : Json}
    (h : draft? (op.step w).2.store name = some stored) :
    draft? w.store name = some stored ∨ stored = w.session.draft.toJson.canonical := by
  rw [draft?] at h
  rcases op.drafts_step w with hupdated | ⟨-, hkept⟩
  · rw [hupdated] at h
    cases hu : op.draftUpdate? w with
    | none =>
      rw [hu] at h
      exact .inl h
    | some u =>
      rw [hu, Option.toList_some, DraftUpdate.applyAll, List.foldl_cons, List.foldl_nil,
        u.get?_apply] at h
      split at h
      · -- nothing but the draft of the session is ever stored
        unfold draftUpdate? at hu
        split at hu
        · cases hu
          cases h
          exact .inr rfl
        · cases hu
          cases h
        · cases hu
      · exact .inl h
  · rw [hkept] at h
    exact .inl h

/-- An operation stores or saves a pipeline with a name, and succeeds in it. -/
def Replaces (name : String) (op : Operation) (w : World β σ) : Prop :=
  w.session.metadata.name = name ∧ (op = .saveDraft ∨ ∃ nameSpace, op = .save nameSpace) ∧
    ∃ reply, (op.step w).1 = .ok reply

omit [FaithfulStore σ] in
theorem replaces_of_draftUpdate? {op : Operation} {w : World β σ} {u : DraftUpdate}
    (h : op.draftUpdate? w = some u) : op.Replaces u.name w := by
  unfold draftUpdate? at h
  split at h
  · next hanswer =>
    cases h
    exact ⟨rfl, .inl rfl, _, hanswer⟩
  · next hanswer =>
    cases h
    exact ⟨rfl, .inr ⟨_, rfl⟩, _, hanswer⟩
  · cases h

/-- **A draft stays what it is** through every operation that does not store or save a
pipeline with its name. -/
theorem draft?_step {op : Operation} {w : World β σ} {name : String}
    (h : ¬op.Replaces name w) : draft? (op.step w).2.store name = draft? w.store name := by
  rw [draft?, draft?]
  rcases op.drafts_step w with hupdated | ⟨-, hkept⟩
  · rw [hupdated]
    cases hu : op.draftUpdate? w with
    | none => rfl
    | some u =>
      have hne : u.name ≠ name := fun he => h (he ▸ replaces_of_draftUpdate? hu)
      exact (u.get?_apply _ _).trans (if_neg hne)
  · rw [hkept]

end Operation

end PipelineCanvas
