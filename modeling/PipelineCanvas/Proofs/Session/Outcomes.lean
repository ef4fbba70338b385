import PipelineCanvas.Proofs.Session.Operations

/-!
# What the operations come to

An operation that can fail has a few places to fail at, and what it did by then depends
on the place. Here each of these operations is run to its end, place by place: the
answer, and the world that is left. What is only noted in the log on the way does not
matter to anyone and is not spelled out (`World.Notes`).

* `World.Notes`, `World.telling`, `World.clearing`, `World.reading`, `World.writing` – the
  worlds on the way;
* **`Session.saveDraftRun`**, **`Session.importDraftRun`** – storing and opening a draft;
* `Session.cleanUpRun`, `Session.run_reset` – what follows when a pipeline was accepted;
* **`Session.saveRun`** – saving;
* `Session.run_resolved`, `Session.run_changeNode`, `Session.run_removeProperty`,
  **`Session.editRun`**, `Session.session_run_finishEdit` – editing;
* `Operation.step_of_perform_eq` – an operation does what its action does.
-/

namespace PipelineCanvas

open PipelineCanvas.Action

variable {β σ : Type}

/-! ### Worlds on the way -/

/-- A line of the log, or a span of it. -/
def Effect.isNote : Effect → Bool
  | .logged .. => true
  | .opened _ => true
  | _ => false

namespace World

/-- A world that differs from another only in what was noted in the log since. -/
def Notes (w w' : World β σ) : Prop :=
  ∃ es : List Effect, (∀ e ∈ es, e.isNote = true) ∧ w' = { w with effects := w.effects ++ es }

variable {w w' w'' : World β σ}

theorem Notes.refl (w : World β σ) : w.Notes w := ⟨[], by simp, by simp⟩

theorem Notes.trans (h : w.Notes w') (h' : w'.Notes w'') : w.Notes w'' := by
  obtain ⟨es, hes, rfl⟩ := h
  obtain ⟨fs, hfs, rfl⟩ := h'
  refine ⟨es ++ fs, fun e he => ?_, by simp⟩
  exact (List.mem_append.mp he).elim (hes e) (hfs e)

theorem Notes.session_eq (h : w.Notes w') : w'.session = w.session := by
  obtain ⟨es, -, rfl⟩ := h
  rfl

theorem Notes.backend_eq (h : w.Notes w') : w'.backend = w.backend := by
  obtain ⟨es, -, rfl⟩ := h
  rfl

theorem Notes.store_eq (h : w.Notes w') : w'.store = w.store := by
  obtain ⟨es, -, rfl⟩ := h
  rfl

/-- Notes hand nothing over. -/
theorem Notes.follows (h : w.Notes w') : w.Follows w' := by
  obtain ⟨es, hes, rfl⟩ := h
  refine .of_effects rfl (fun e he => ?_) rfl
  have := hes e he
  cases e <;> simp_all [Effect.isNote, Effect.request?]

/-- The world after a line of the log. -/
theorem notes_logged (w : World β σ) (notice : Notice) (within : List String) :
    w.Notes { w with effects := w.effects ++ [.logged notice within] } :=
  ⟨[_], by simp [Effect.isNote], rfl⟩

/-- The world after some lines of the log. -/
theorem notes_logAll (w : World β σ) (notices : List Notice) :
    w.Notes { w with effects := w.effects ++ notices.map (.logged · []) } :=
  ⟨_, by simp [Effect.isNote], rfl⟩

/-- The world after a span was opened. -/
theorem notes_opened (w : World β σ) (span : Span) :
    w.Notes { w with effects := w.effects ++ [.opened span] } :=
  ⟨[_], by simp [Effect.isNote], rfl⟩

/-- The world in which the listeners have been told some news. -/
def telling (w : World β σ) (news : News) : World β σ :=
  { w with effects :=
      w.effects ++ (w.session.listeners.on news.channel).map (.told · news) }

/-- The world in which the backend has been handed a pipeline. -/
def submitting [Backend β] (w : World β σ) (r : SaveRequest) : World β σ :=
  { w with backend := (Backend.submit r w.backend).2, effects := w.effects ++ [.submitted r] }

/-- The world in which the backend has been asked for a contract. -/
def fetching [Backend β] (w : World β σ) (q : PropertyQuery) : World β σ :=
  { w with backend := (Backend.fetch q w.backend).2, effects := w.effects ++ [.fetched q] }

/-- The world in which the canvas has been emptied. -/
def clearing (w : World β σ) (keepName : Bool) : World β σ :=
  { w with session := w.session.cleared keepName }

variable [DraftStore σ]

/-- The world in which the drafts have been read. -/
def reading (w : World β σ) : World β σ :=
  { w with
    store := (DraftStore.get draftsKey w.store).2
    effects := w.effects ++ [.storeRead draftsKey] }

/-- The world in which the drafts have been written. -/
def writing (w : World β σ) (drafts : List (String × Json)) : World β σ :=
  { w with
    store := (DraftStore.set draftsKey (.object drafts) w.store).2
    effects := w.effects ++ [.storeWritten draftsKey (.object drafts)] }

end World

namespace Session

variable {w : World β σ}

/-! ### Reading off the canvas -/

theorem run_readOutline (w : World β σ) :
    run (readOutline : Action β σ Outline) w =
      (.ok w.session.outline,
        { w with effects := w.effects ++ w.session.flattening.notices.map (.logged · []) }) := by
  simp only [readOutline, flattenCanvas, run_bind, run_session, run_logAll, run_pure, outline]

theorem run_readSubmission (w : World β σ) :
    run (readSubmission : Action β σ Submission) w =
      (.ok w.session.submission,
        { w with effects := w.effects ++ w.session.flattening.notices.map (.logged · []) }) := by
  simp only [readSubmission, run_bind, run_readOutline, run_session, run_pure, submission]

/-! ### Checks -/

/-- A verdict without a problem is only logged. -/
theorem run_requireValid_of_isEmpty {verdict : Problems × List Notice}
    (h : verdict.1.isEmpty = true) (w : World β σ) :
    run (requireValid verdict : Action β σ Unit) w =
      (.ok (), { w with effects := w.effects ++ verdict.2.map (.logged · []) }) := by
  simp [requireValid, h]

/-- A verdict with a problem is announced, and is the failure. -/
theorem run_requireValid_invalid {verdict : Problems × List Notice}
    (h : verdict.1.isEmpty = false) (w : World β σ) :
    ∃ w' : World β σ, w.Notes w' ∧
      run (requireValid verdict : Action β σ Unit) w =
        (.error (.invalid verdict.1), w'.telling (.invalid verdict.1)) :=
  ⟨_, w.notes_logAll verdict.2, by simp [requireValid, refuse, run_bind, h, World.telling]⟩

/-! ### Drafts -/

section Drafts

variable [DraftStore σ]

theorem run_readDrafts (w : World β σ) :
    run (readDrafts : Action β σ (List (String × Json))) w =
      match (DraftStore.get draftsKey w.store).1 with
      | .ok value => (.ok (draftsOf value), w.reading)
      | .error e => (.error (.store e), w.reading) := by
  simp only [readDrafts, run_bind, run_readStore]
  cases (DraftStore.get draftsKey w.store).1 <;> rfl

theorem run_writeDrafts (drafts : List (String × Json)) (w : World β σ) :
    run (writeDrafts drafts : Action β σ Unit) w =
      match (DraftStore.set draftsKey (.object drafts) w.store).1 with
      | .ok () => (.ok (), w.writing drafts)
      | .error e => (.error (.store e), w.writing drafts) := by
  simp only [writeDrafts, run_bind, run_writeStore]
  cases (DraftStore.set draftsKey (.object drafts) w.store).1 <;> rfl

/-- What keeps a session from being stored as a draft. -/
def draftVerdict (s : Session) : Problems × List Notice := validateDraft s.metadata

/-- The stored drafts with the draft of a session among them. -/
def withDraft (s : Session) (drafts : List (String × Json)) : List (String × Json) :=
  Entries.insert s.metadata.name s.draft.toJson.canonical drafts

/-- What storing a draft may come to. -/
inductive SaveDraftRun (w : World β σ) : Except SessionError Unit × World β σ → Prop where
  /-- The draft has no name or no template. -/
  | refused {w₁ : World β σ} (hverdict : w.session.draftVerdict.1.isEmpty = false)
      (hw : w.Notes w₁) :
      SaveDraftRun w (.error (.invalid w.session.draftVerdict.1),
        w₁.telling (.invalid w.session.draftVerdict.1))
  /-- The stored drafts cannot be read. -/
  | unread {w₁ : World β σ} {e : StoreError} (hw : w.Notes w₁)
      (hget : (DraftStore.get draftsKey w.store).1 = .error e) :
      SaveDraftRun w (.error (.store e), w₁.reading)
  /-- The drafts cannot be written back. -/
  | unwritten {w₁ : World β σ} {value : Option Json} {e : StoreError} (hw : w.Notes w₁)
      (hget : (DraftStore.get draftsKey w.store).1 = .ok value)
      (hset : (DraftStore.set draftsKey (.object (w.session.withDraft (draftsOf value)))
        w.reading.store).1 = .error e) :
      SaveDraftRun w (.error (.store e),
        w₁.reading.writing (w.session.withDraft (draftsOf value)))
  /-- The drafts are written back with that of the session among them. -/
  | stored {w₁ w₂ : World β σ} {value : Option Json} (hw : w.Notes w₁)
      (hget : (DraftStore.get draftsKey w.store).1 = .ok value)
      (hset : (DraftStore.set draftsKey (.object (w.session.withDraft (draftsOf value)))
        w.reading.store).1 = .ok ())
      (hnotes : (w₁.reading.writing (w.session.withDraft (draftsOf value))).Notes w₂) :
      SaveDraftRun w (.ok (), w₂)

/-- **Storing a draft comes to one of these.** -/
theorem saveDraftRun (w : World β σ) : SaveDraftRun w (run (saveDraft : Action β σ Unit) w) := by
  cases hverdict : w.session.draftVerdict.1.isEmpty with
  | false =>
    obtain ⟨w₁, hw, hrun⟩ := run_requireValid_invalid hverdict w
    rw [draftVerdict] at hrun
    simp only [saveDraft, run_bind, run_session, hrun]
    exact .refused hverdict hw
  | true =>
    have hrun := run_requireValid_of_isEmpty (β := β) (σ := σ)
      (show (validateDraft w.session.metadata).1.isEmpty = true from hverdict)
    simp only [saveDraft, run_bind, run_session, run_log, run_emit, run_readSubmission, hrun]
    -- up to where the store is read, no more than the log has grown
    generalize hw₁ : (World.mk _ _ _ _ : World β σ) = w₁
    have hw : w.Notes w₁ := by
      subst hw₁
      exact (((w.notes_logAll _).trans (World.notes_logAll _ _)).trans
        (World.notes_logged _ _ _)).trans (World.notes_opened _ _)
    rw [run_readDrafts, hw.store_eq]
    cases hget : (DraftStore.get draftsKey w.store).1 with
    | error e => exact .unread hw hget
    | ok value =>
      have hstore : w₁.reading.store = w.reading.store := by
        rw [World.reading, World.reading, hw.store_eq]
      dsimp only
      rw [run_writeDrafts, hstore]
      cases hset : (DraftStore.set draftsKey (.object (w.session.withDraft (draftsOf value)))
        w.reading.store).1 with
      | error e =>
        rw [withDraft] at hset
        simp only [hset]
        exact .unwritten hw hget hset
      | ok _ =>
        rw [withDraft] at hset
        simp only [hset]
        exact .stored hw hget hset (World.notes_logged _ _ _)

/-- The session with a stored draft opened on it. -/
def opening (s : Session) (draft : Draft) (name : String) : Session :=
  { s.cleared true with metadata := draft.submission.metadata name }.withGraph
    (draft.graph name).1 (draft.graph name).2

/-- What opening a draft may come to. -/
inductive ImportDraftRun (name : String) (w : World β σ) :
    Except SessionError Unit × World β σ → Prop where
  /-- The stored drafts cannot be read. -/
  | unread {e : StoreError} (hget : (DraftStore.get draftsKey w.store).1 = .error e) :
      ImportDraftRun name w (.error (.store e), w.reading)
  /-- There is no draft with the name. -/
  | missing {value : Option Json} (hget : (DraftStore.get draftsKey w.store).1 = .ok value)
      (hmissing : Entries.get? (draftsOf value) name = none) :
      ImportDraftRun name w (.error (.noDraft name), w.reading)
  /-- What is stored under the name is no draft. -/
  | undecodable {value : Option Json} {stored : Json} {why : Decode.Failure}
      (hget : (DraftStore.get draftsKey w.store).1 = .ok value)
      (hstored : Entries.get? (draftsOf value) name = some stored)
      (hdecode : Draft.decode stored = .error why) :
      ImportDraftRun name w (.error (.undecodable why), w.reading)
  /-- The draft is opened in place of what was on the canvas. -/
  | opened {value : Option Json} {stored : Json} {draft : Draft} {w' : World β σ}
      (hget : (DraftStore.get draftsKey w.store).1 = .ok value)
      (hstored : Entries.get? (draftsOf value) name = some stored)
      (hdecode : Draft.decode stored = .ok draft)
      (hsession : w'.session = w.session.opening draft name) :
      ImportDraftRun name w (.ok (), w')

/-- **Opening a draft comes to one of these.** -/
theorem importDraftRun (name : String) (w : World β σ) :
    ImportDraftRun name w (run (importDraft name : Action β σ Unit) w) := by
  simp only [importDraft, run_bind, run_readDrafts]
  cases hget : (DraftStore.get draftsKey w.store).1 with
  | error e => exact .unread hget
  | ok value =>
    dsimp only
    cases hstored : Entries.get? (draftsOf value) name with
    | none => exact .missing hget hstored
    | some stored =>
      cases hdecode : (Draft.decode stored : Decode.Result Draft) with
      | error why =>
        simp only [hdecode, orFail, run_bind, run_throw]
        exact .undecodable hget hstored hdecode
      | ok draft =>
        simp only [hdecode, orFail, reset, run_bind, run_pure, run_update, run_log, run_tell,
          run_session]
        exact .opened hget hstored hdecode rfl

end Drafts

/-! ### Saving -/

/-- What validation says of a session. -/
def verdict (s : Session) : Problems × List Notice :=
  validate s.nodes s.edges s.metadata s.outline

/-- What saving a session hands over. -/
def request (s : Session) (nameSpace : String) : SaveRequest :=
  ⟨nameSpace, s.metadata.name, s.submission⟩

/-- What dropping the draft of a pipeline may come to. Whatever the store does, it does not
fail. -/
inductive CleanUpRun [DraftStore σ] (name : String) (w : World β σ) :
    Except SessionError Unit × World β σ → Prop where
  /-- The stored drafts cannot be read. -/
  | unread {w₁ : World β σ} {e : StoreError}
      (hget : (DraftStore.get draftsKey w.store).1 = .error e) (hnotes : w.reading.Notes w₁) :
      CleanUpRun name w (.ok (), w₁)
  /-- There is no draft with the name. -/
  | missing {value : Option Json} (hget : (DraftStore.get draftsKey w.store).1 = .ok value)
      (hmissing : Entries.get? (draftsOf value) name = none) :
      CleanUpRun name w (.ok (), w.reading)
  /-- The drafts are written back without it, whether the store takes them or not. -/
  | written {w₁ : World β σ} {value : Option Json} {stored : Json}
      (hget : (DraftStore.get draftsKey w.store).1 = .ok value)
      (hstored : Entries.get? (draftsOf value) name = some stored)
      (hnotes : (w.reading.writing (Entries.erase name (draftsOf value))).Notes w₁) :
      CleanUpRun name w (.ok (), w₁)

/-- **Dropping the draft of a pipeline comes to one of these.** -/
theorem cleanUpRun [DraftStore σ] (name : String) (w : World β σ) :
    CleanUpRun name w (run (cleanUp name : Action β σ Unit) w) := by
  simp only [cleanUp, run_tryCatch, dropDraft, run_bind, run_readDrafts]
  cases hget : (DraftStore.get draftsKey w.store).1 with
  | error e => exact .unread hget (World.notes_logged _ _ _)
  | ok value =>
    dsimp only
    cases hstored : Entries.get? (draftsOf value) name with
    | none => exact .missing hget hstored
    | some stored =>
      simp only [Option.isSome_some, if_true, run_bind, run_writeDrafts]
      -- a store that does not take the drafts is only noted
      cases (DraftStore.set draftsKey (.object (Entries.erase name (draftsOf value)))
        w.reading.store).1 <;> exact .written hget hstored (World.notes_logged _ _ _)

/-- Dropping the draft cannot fail. -/
theorem run_cleanUp_fst [DraftStore σ] (name : String) (w : World β σ) :
    (run (cleanUp name : Action β σ Unit) w).1 = .ok () := by
  have hrun := cleanUpRun name w
  generalize run (cleanUp name : Action β σ Unit) w = r at hrun
  cases hrun <;> rfl

/-- Emptying the canvas cannot fail. All it does beside is to tell the listeners. -/
theorem run_reset (keepName : Bool) (w : World β σ) :
    ∃ w₁ : World β σ, (w.clearing keepName).Notes w₁ ∧
      run (reset keepName : Action β σ Unit) w = (.ok (), w₁.telling .reset) :=
  ⟨_, World.notes_logged _ (.sessionReset keepName) [], by
    simp only [reset, run_bind, run_update, run_log, run_tell, World.telling, World.clearing]⟩

theorem run_reset_fst (keepName : Bool) (w : World β σ) :
    (run (reset keepName : Action β σ Unit) w).1 = .ok () := by
  obtain ⟨w₁, -, hrun⟩ := run_reset keepName w
  rw [hrun]

/-- Emptying the canvas does not concern the store. -/
theorem store_run_reset (keepName : Bool) (w : World β σ) :
    (run (reset keepName : Action β σ Unit) w).2.store = w.store := by
  obtain ⟨w₁, hw, hrun⟩ := run_reset keepName w
  rw [hrun]
  exact hw.store_eq

/-- Saving a pipeline that passes validation: the answer of the backend decides, and when
it takes the pipeline, the draft is dropped and the canvas emptied. -/
theorem run_save_of_valid [Backend β] [DraftStore σ] {w : World β σ} (nameSpace : String)
    (hverdict : w.session.verdict.1.isEmpty = true) :
    ∃ w₁ w₂ : World β σ, w.Notes w₁ ∧ (w₁.submitting (w.session.request nameSpace)).Notes w₂ ∧
      run (save nameSpace : Action β σ String) w =
        match (Backend.submit (w.session.request nameSpace) w.backend).1 with
        | .error e => (.error (.backend e), w₂)
        | .ok () =>
          (.ok w.session.metadata.name,
            (run (reset false : Action β σ Unit)
              (run (cleanUp w.session.metadata.name : Action β σ Unit) w₂).2).2) := by
  have hlogged := w.notes_logAll w.session.flattening.notices
  have hrequest : ⟨nameSpace, w.session.metadata.name,
      .build w.session.outline w.session.metadata⟩ = w.session.request nameSpace := rfl
  have hrun := run_requireValid_of_isEmpty (β := β) (σ := σ)
    (show (validate w.session.nodes w.session.edges w.session.metadata
      w.session.outline).1.isEmpty = true from hverdict)
  simp only [save, run_bind _ readOutline, run_bind _ session, run_bind _ (requireValid _),
    run_bind _ (log _ _), run_bind _ (emit _), run_session, run_readOutline, hrun, run_log,
    run_emit]
  -- up to where the pipeline is handed over, no more than the log has grown
  generalize hw₁ : (World.mk _ _ _ _ : World β σ) = w₁
  have hw : w.Notes w₁ := by
    subst hw₁
    exact ((hlogged.trans (World.notes_logAll _ _)).trans
      (World.notes_logged _ _ _)).trans (World.notes_opened _ _)
  have hsubmitting : run (submit (w.session.request nameSpace) : Action β σ _) w₁ =
      (.ok (Backend.submit (w.session.request nameSpace) w.backend).1,
        w₁.submitting (w.session.request nameSpace)) := by
    rw [run_submit, World.submitting, hw.backend_eq]
  rw [hrequest, run_bind, hsubmitting]
  cases (Backend.submit (w.session.request nameSpace) w.backend).1 with
  | error e =>
    simp only [run_bind, run_log, run_throw]
    exact ⟨w₁, _, hw, World.notes_logged _ _ _, rfl⟩
  | ok _ =>
    dsimp only
    rw [run_bind, run_log]
    dsimp only
    -- neither part of what is left can fail
    rw [run_bind_of_fst (run_cleanUp_fst _ _), run_bind_of_fst (run_reset_fst _ _), run_pure]
    exact ⟨w₁, _, hw, World.notes_logged _ _ _, rfl⟩

/-- What saving may come to. -/
inductive SaveRun [Backend β] [DraftStore σ] (nameSpace : String) (w : World β σ) :
    Except SessionError String × World β σ → Prop where
  /-- The pipeline is not valid. -/
  | refused {w₁ : World β σ} (hverdict : w.session.verdict.1.isEmpty = false)
      (hw : w.Notes w₁) :
      SaveRun nameSpace w (.error (.invalid w.session.verdict.1),
        w₁.telling (.invalid w.session.verdict.1))
  /-- The backend does not take it. -/
  | rejected {w₁ w₂ : World β σ} {e : BackendError}
      (hverdict : w.session.verdict.1.isEmpty = true) (hw : w.Notes w₁)
      (hsubmit : (Backend.submit (w.session.request nameSpace) w.backend).1 = .error e)
      (hnotes : (w₁.submitting (w.session.request nameSpace)).Notes w₂) :
      SaveRun nameSpace w (.error (.backend e), w₂)
  /-- The backend takes it; its draft is dropped and the session starts anew. -/
  | taken {w₁ w₂ w₃ : World β σ} (hverdict : w.session.verdict.1.isEmpty = true)
      (hw : w.Notes w₁)
      (hsubmit : (Backend.submit (w.session.request nameSpace) w.backend).1 = .ok ())
      (hnotes : (w₁.submitting (w.session.request nameSpace)).Notes w₂)
      (hquiet : w₂.Follows w₃)
      (hstore : w₃.store =
        (run (cleanUp w.session.metadata.name : Action β σ Unit) w₂).2.store) :
      SaveRun nameSpace w (.ok w.session.metadata.name, w₃)

/-- **Saving comes to one of these.** -/
theorem saveRun [Backend β] [DraftStore σ] (nameSpace : String) (w : World β σ) :
    SaveRun nameSpace w (run (save nameSpace : Action β σ String) w) := by
  cases hverdict : w.session.verdict.1.isEmpty with
  | false =>
    obtain ⟨w₁, hw, hrun⟩ := run_requireValid_invalid hverdict
      { w with effects := w.effects ++ w.session.flattening.notices.map (.logged · []) }
    rw [verdict] at hrun
    simp only [save, run_bind, run_session, run_readOutline, hrun]
    exact .refused hverdict ((w.notes_logAll _).trans hw)
  | true =>
    obtain ⟨w₁, w₂, hw, hnotes, hrun⟩ := run_save_of_valid nameSpace hverdict
    rw [hrun]
    cases hsubmit : (Backend.submit (w.session.request nameSpace) w.backend).1 with
    | error e => exact .rejected hverdict hw hsubmit hnotes
    | ok _ =>
      exact .taken hverdict hw hsubmit hnotes ((quiet_cleanUp _ _).trans (leads_reset _ _))
        (store_run_reset _ _)

/-! ### Editing -/

/-- Changing a node fails exactly where there is none, and then nothing happens. -/
theorem run_changeNode (id : String) (f : Node → Node) (w : World β σ) :
    run (changeNode id f : Action β σ Unit) w =
      match w.session.nodes.get? id with
      | none => (.error (.noNode id), w)
      | some n =>
        (.ok (), { w with session :=
          { w.session with nodes := w.session.nodes.insert id (f n) } }) := by
  simp only [changeNode, run_bind, run_nodeOrFail]
  cases w.session.nodes.get? id <;> rfl

theorem run_removeProperty (id key : String) (w : World β σ) :
    run (removeProperty id key : Action β σ (Option String)) w =
      match w.session.nodes.get? id with
      | none => (.error (.noNode id), w)
      | some n =>
        (.ok (n.properties.get? key), { w with session :=
          { w.session with nodes := w.session.nodes.insert id (n.removeProperty key) } }) := by
  simp only [removeProperty, run_bind, run_nodeOrFail, run_changeNode]
  cases hn : w.session.nodes.get? id with
  | none => rfl
  | some n => simp only [run_pure, hn]

/-- **What resolving a node comes to:** the backend is asked once, and its answer decides. -/
theorem run_resolved [Backend β] (n : Node) (template : TemplateKind) (scope : Option String)
    (w : World β σ) : ∃ w₁ w₂ : World β σ,
      w.Notes w₁ ∧ (w₁.fetching (n.query template scope)).Notes w₂ ∧
      run (n.resolved template scope : Action β σ Node) w =
        match (Backend.fetch (n.query template scope) w.backend).1 with
        | .ok answers => (.ok (n.applyContract (PluginProperties.contract answers)), w₂)
        | .error e => (.error (.backend e), w₂) := by
  have hw := (w.notes_logged (.fetchStarted n.id n.name template.name) []).trans
    (World.notes_opened _ (Notice.span fetchSpan (.fetchStarted n.id n.name template.name)))
  simp only [Node.resolved, Node.fetchContract, run_bind, run_log, run_emit, run_fetch]
  cases hfetch : (Backend.fetch (n.query template scope) w.backend).1 with
  | error e =>
    simp only [run_bind, run_log, run_throw]
    exact ⟨_, _, hw, World.notes_logged _ _ _, rfl⟩
  | ok answers =>
    simp only [run_bind, run_log, run_pure]
    exact ⟨_, _, hw, World.notes_logged _ _ _, rfl⟩

/-- A node whose contract the backend tells has it. -/
theorem session_run_resolveNode [Backend β] {id : String} {template : TemplateKind}
    {scope : Option String} {n : Node} {answers : List PluginProperties}
    (hn : w.session.nodes.get? id = some n)
    (hfetch : (Backend.fetch (n.query template scope) w.backend).1 = .ok answers) :
    (run (resolveNode id template scope : Action β σ Unit) w).2.session =
      { w.session with nodes :=
          w.session.nodes.insert id (n.applyContract (PluginProperties.contract answers)) } := by
  obtain ⟨w₁, w₂, hw, hnotes, hrun⟩ := run_resolved n template scope w
  rw [hfetch] at hrun
  simp only [resolveNode, run_bind, run_session, hn, hrun, run_update]
  rw [hnotes.session_eq, World.fetching, hw.session_eq]

/-- What opening an editor may come to. -/
inductive EditRun [Backend β] (id : String) (scope : Option String) (w : World β σ) :
    Except SessionError Editor × World β σ → Prop where
  /-- There is no such node. -/
  | noNode (hn : w.session.nodes.get? id = none) : EditRun id scope w (.error (.noNode id), w)
  /-- The backend does not tell the contract of the node. -/
  | unanswered {n : Node} {w₁ w₂ : World β σ} {e : BackendError}
      (hn : w.session.nodes.get? id = some n) (hw : w.Notes w₁)
      (hfetch : (Backend.fetch (n.query w.session.activeTemplate scope) w.backend).1 = .error e)
      (hnotes : (w₁.fetching (n.query w.session.activeTemplate scope)).Notes w₂) :
      EditRun id scope w (.error (.backend e), w₂)
  /-- The editor is open: it has the node with its new contract to go back to, and the node
  has taken over what it takes over. -/
  | opened {n snapshot : Node} {answers : List PluginProperties} {editor : Editor}
      {w' : World β σ} (hn : w.session.nodes.get? id = some n)
      (hfetch : (Backend.fetch (n.query w.session.activeTemplate scope) w.backend).1 =
        .ok answers)
      (hsnapshot : snapshot = n.applyContract (PluginProperties.contract answers))
      (heditor : editor = .ofSnapshot snapshot
        (RecordSchema.flowingInto w.session.nodes w.session.edges id) w.session.activeTemplate
        w.session.readOnly)
      (hsession : w'.session =
        { w.session with
          nodes := w.session.nodes.insert id (takeOver snapshot editor.inputSchema)
          openEditor := some id }) : EditRun id scope w (.ok editor, w')

/-- **Opening an editor comes to one of these.** -/
theorem editRun [Backend β] (id : String) (scope : Option String) (w : World β σ) :
    EditRun id scope w (run (edit id scope : Action β σ Editor) w) := by
  simp only [edit, run_bind, run_session, run_nodeOrFail]
  cases hn : w.session.nodes.get? id with
  | none => exact .noNode hn
  | some n =>
    obtain ⟨w₁, w₂, hw, hnotes, hrun⟩ := run_resolved n w.session.activeTemplate scope w
    simp only [hrun]
    cases hfetch : (Backend.fetch (n.query w.session.activeTemplate scope) w.backend).1 with
    | error e => exact .unanswered hn hw hfetch hnotes
    | ok answers =>
      have hsession : w₂.session = w.session := hnotes.session_eq.trans hw.session_eq
      simp only [run_log, run_update, run_pure]
      refine .opened hn hfetch rfl rfl ?_
      rw [hsession]
      rfl

/-- Closing an editor. -/
theorem session_run_finishEdit (editor : Editor) (outcome : Outcome) (w : World β σ) :
    (run (finishEdit editor outcome : Action β σ Unit) w).2.session =
      { w.session with
        openEditor :=
          if w.session.openEditor = some editor.nodeId then none else w.session.openEditor
        nodes :=
          if outcome = .cancel then w.session.nodes.restore editor.snapshot
          else w.session.nodes } := by
  simp only [finishEdit, run_bind, run_update, run_log]

end Session

/-! ### Answers -/

/-- What an operation answers and leaves is what its action does, but for the form of the
answer. -/
theorem Operation.step_of_perform_eq [Backend β] [DraftStore σ] {α : Type} (op : Operation)
    (a : Action β σ α) (reply : α → Reply)
    (h : (op.perform : Action β σ Reply) = a >>= fun x => pure (reply x)) (w : World β σ) :
    op.step w = ((run a w).1.map reply, (run a w).2) := by
  rw [step, h, run_bind]
  rcases run a w with ⟨e | x, w'⟩ <;> rfl

/-- What is asked of a session is answered from its pipeline alone. -/
theorem Operation.step_readOutline [Backend β] [DraftStore σ] (w : World β σ) :
    (readOutline.step w).1 = .ok (.outline w.session.outline) := by
  rw [step_of_perform_eq readOutline Session.readOutline .outline rfl, Session.run_readOutline]
  rfl

theorem Operation.step_readSubmission [Backend β] [DraftStore σ] (w : World β σ) :
    (readSubmission.step w).1 = .ok (.submission w.session.submission) := by
  rw [step_of_perform_eq readSubmission Session.readSubmission .submission rfl,
    Session.run_readSubmission]
  rfl

end PipelineCanvas
