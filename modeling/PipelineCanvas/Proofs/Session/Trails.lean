import PipelineCanvas.Proofs.Session.Routine

/-!
# What the other operations leave behind

Saving, storing a draft, opening one and emptying the canvas are not routine, and say so in the
log. Here each of them is run once more, and this time nothing that it leaves behind is passed
over: every effect is spelled out, but for those that are *idle*, the lines about flattening and
validation and what is told of an invalid pipeline. Placing a node is not routine either, since
listeners are told, but it is none of the topics that an audit asks about.

* `Effect.topic?`, `Effect.Idle` – what an audit goes by, and what concerns nobody else;
* `Session.run_reset_replaying`, `Session.cleanUpTrail` – what follows when a pipeline was taken;
* **`Session.saveTrail`**, **`Session.saveDraftTrail`**, **`Session.importDraftTrail`** – what
  these operations leave behind.
-/

namespace PipelineCanvas

open PipelineCanvas.Action

variable {β σ : Type}

/-! ### What an audit goes by -/

namespace Effect

/-- The topic of an effect, if it is one that an audit goes by: a line about a pipeline, a draft or
a reset, a pipeline that is handed over, and what listeners are told of a reset. -/
def topic? : Effect → Option Topic
  | .logged notice _ => notice.topic?
  | .submitted _ => some .saving
  | .told _ .reset => some .resetting
  | _ => none

/-- An effect that is neither audited nor a call. -/
def Idle (e : Effect) : Prop := e.topic? = none ∧ e.isCall = false

theorem topic?_of_isRoutine {e : Effect} (h : e.isRoutine = true) : e.topic? = none := by
  cases e with
  | logged notice within => exact Option.isNone_iff_eq_none.mp h
  | submitted request => cases h
  | told listener news => cases h
  | _ => rfl

/-- Lines that are not audited are idle. -/
theorem idle_of_mem_logged {notices : List Notice} (h : ∀ n ∈ notices, n.topic? = none) :
    ∀ e ∈ notices.map (Effect.logged · []), e.Idle := by
  intro e he
  obtain ⟨n, hn, rfl⟩ := List.mem_map.mp he
  exact ⟨h n hn, rfl⟩

end Effect

theorem Validation.topic?_of_mem_verdict {m : Metadata} {p : Problems} {n : Notice}
    (h : n ∈ Validation.verdict m p) : n.topic? = none := by
  unfold verdict at h
  split at h
  · cases h
  · rw [List.mem_singleton.mp h]
    rfl

/-- The line about a pipeline that was taken. -/
def SaveRequest.savedNotice (r : SaveRequest) : Notice :=
  .saved r.nameSpace r.name ((r.submission.template.map (·.name)).getD "")

/-- The line about a pipeline that was not. -/
def SaveRequest.rejectedNotice (r : SaveRequest) (e : BackendError) : Notice :=
  .saveRejected r.nameSpace r.name e.message

namespace Session

variable (s : Session)

/-- What is left behind by placing a node: a line, and what listeners are told. -/
def placing (n : Node) (role : Role) : List Effect :=
  .logged (.nodeAdded n.id n.name role.name (s.nodes.placed n role).isReady) [] ::
    (s.listeners.on .added).map (.told · (.added (s.nodes.placed n role) role))

/-- What is left behind by emptying the canvas: a line, and what listeners are told. -/
def resetting (keepName : Bool) : List Effect :=
  .logged (.sessionReset keepName) [] :: (s.listeners.on .reset).map (.told · .reset)

/-- What is left behind by checking a pipeline: the lines about flattening and validation. -/
def checking : List Effect :=
  s.flattening.notices.map (.logged · []) ++ s.verdict.2.map (.logged · [])

/-- What is left behind by handing a pipeline over, with the line that says what became of it. -/
def submitting (nameSpace : String) (closing : Notice) : List Effect :=
  let started := Notice.saveStarted nameSpace s.metadata.name s.nodes.size
  [.logged started [], .opened (started.span saveSpan), .submitted (s.request nameSpace),
    .logged closing []]

/-- What is left behind before a draft is stored: the lines about the checks, and the span. -/
def drafting : List Effect :=
  s.draftVerdict.2.map (.logged · []) ++ s.flattening.notices.map (.logged · []) ++
    [.logged (.draftStarted s.metadata.name) [],
      .opened ((Notice.draftStarted s.metadata.name).span draftSpan)]

theorem topic?_of_mem_verdict : ∀ n ∈ s.verdict.2, n.topic? = none :=
  List.forall_mem_cons.mpr ⟨rfl, fun _ hn => Validation.topic?_of_mem_verdict hn⟩

theorem idle_of_mem_checking : ∀ e ∈ s.checking, e.Idle :=
  List.forall_mem_append.mpr
    ⟨Effect.idle_of_mem_logged fun _ hn => topic?_of_mem_flatten hn,
      Effect.idle_of_mem_logged s.topic?_of_mem_verdict⟩

theorem idle_of_mem_drafting : ∀ e ∈ s.drafting, e.Idle := by
  refine List.forall_mem_append.mpr ⟨List.forall_mem_append.mpr ⟨?_, ?_⟩, ?_⟩
  · exact Effect.idle_of_mem_logged fun n hn => Validation.topic?_of_mem_verdict hn
  · exact Effect.idle_of_mem_logged fun n hn => topic?_of_mem_flatten hn
  · simp [Effect.Idle, Effect.topic?, Notice.topic?, Effect.isCall, Effect.isBackendCall,
      Effect.isStoreCall]

/-- What is told of anything but a reset is idle. -/
theorem idle_of_mem_told (news : News) (hnews : news ≠ .reset) (channel : Channel) :
    ∀ e ∈ (s.listeners.on channel).map (Effect.told · news), e.Idle := by
  intro e he
  obtain ⟨listener, -, rfl⟩ := List.mem_map.mp he
  cases news with
  | reset => exact absurd rfl hnews
  | _ => exact ⟨rfl, rfl⟩

theorem idle_of_mem_placing (n : Node) (role : Role) : ∀ e ∈ s.placing n role, e.Idle :=
  List.forall_mem_cons.mpr ⟨⟨rfl, rfl⟩, s.idle_of_mem_told (.added _ _) nofun _⟩

theorem isCall_of_mem_resetting (keepName : Bool) :
    ∀ e ∈ s.resetting keepName, e.isCall = false := by
  refine List.forall_mem_cons.mpr ⟨rfl, fun e he => ?_⟩
  obtain ⟨listener, -, rfl⟩ := List.mem_map.mp he
  rfl

end Session

variable [Backend β] [DraftStore σ]

theorem redoAll_of_idle {es : List Effect} (h : ∀ e ∈ es, e.Idle) (c : β × σ) :
    redoAll es c = c ∧ upshots es c = [] := redoAll_of_not_calls (fun e he => (h e he).2) c

namespace Session

/-! ### Checks -/

/-- Writing to the log calls nothing. -/
theorem replaying_logged (notices : List Notice) (w : World β σ) :
    w.replaying (notices.map (.logged · [])) w.session =
      { w with effects := w.effects ++ notices.map (.logged · []) } := by
  refine World.replaying_of_not_calls (fun e he => ?_) w _
  obtain ⟨n, -, rfl⟩ := List.mem_map.mp he
  rfl

/-- A pipeline that is refused leaves the lines about the check behind, and what is told of it. -/
theorem run_requireValid_replaying {verdict : Problems × List Notice}
    (h : verdict.1.isEmpty = false) (hlines : ∀ n ∈ verdict.2, n.topic? = none)
    (w : World β σ) :
    ∃ es, (∀ e ∈ es, e.Idle) ∧
      run (requireValid verdict : Action β σ Unit) w =
        (.error (.invalid verdict.1), w.replaying es w.session) := by
  have hes : ∀ e ∈ verdict.2.map (Effect.logged · []) ++
      (w.session.listeners.on .invalid).map (Effect.told · (.invalid verdict.1)), e.Idle :=
    List.forall_mem_append.mpr
      ⟨Effect.idle_of_mem_logged hlines, w.session.idle_of_mem_told (.invalid _) nofun _⟩
  refine ⟨_, hes, ?_⟩
  rw [World.replaying_of_not_calls fun e he => (hes e he).2]
  simp only [requireValid, refuse, h, Bool.not_false, if_true, run_bind, run_logAll, run_tell,
    run_throw, List.append_assoc]
  rfl

/-! ### Emptying the canvas -/

theorem run_reset_replaying (keepName : Bool) (w : World β σ) :
    run (reset keepName : Action β σ Unit) w =
      (.ok (), w.replaying (w.session.resetting keepName) (w.session.cleared keepName)) := by
  rw [World.replaying_of_not_calls (isCall_of_mem_resetting _ _)]
  simp only [reset, run_bind, run_update, run_log, run_tell, resetting, List.append_assoc]
  rfl

/-! ### Dropping the draft -/

/-- What may be left behind by dropping the draft of a pipeline that was taken. -/
inductive CleanUpTrail (name : String) (s : σ) : List Effect → Prop where
  /-- The stored drafts cannot be read. -/
  | unread {e : StoreError} (hget : (DraftStore.get draftsKey s).1 = .error e) :
      CleanUpTrail name s
        [.storeRead draftsKey,
          .logged (.draftCleanupFailed name (SessionError.store e).message) []]
  /-- There is no draft with the name. -/
  | missing {value : Option Json} (hget : (DraftStore.get draftsKey s).1 = .ok value)
      (hmissing : Entries.get? (draftsOf value) name = none) :
      CleanUpTrail name s [.storeRead draftsKey]
  /-- The drafts cannot be written back. -/
  | unwritten {value : Option Json} {stored : Json} {e : StoreError}
      (hget : (DraftStore.get draftsKey s).1 = .ok value)
      (hstored : Entries.get? (draftsOf value) name = some stored)
      (hset : (DraftStore.set draftsKey (.object (Entries.erase name (draftsOf value)))
        (DraftStore.get draftsKey s).2).1 = .error e) :
      CleanUpTrail name s
        [.storeRead draftsKey,
          .storeWritten draftsKey (.object (Entries.erase name (draftsOf value))),
          .logged (.draftCleanupFailed name (SessionError.store e).message) []]
  /-- The drafts are written back without it. -/
  | dropped {value : Option Json} {stored : Json}
      (hget : (DraftStore.get draftsKey s).1 = .ok value)
      (hstored : Entries.get? (draftsOf value) name = some stored)
      (hset : (DraftStore.set draftsKey (.object (Entries.erase name (draftsOf value)))
        (DraftStore.get draftsKey s).2).1 = .ok ()) :
      CleanUpTrail name s
        [.storeRead draftsKey,
          .storeWritten draftsKey (.object (Entries.erase name (draftsOf value))),
          .logged (.draftCleared name) [saveSpan]]

theorem cleanUpTrail (name : String) (w : World β σ) :
    ∃ es, CleanUpTrail name w.store es ∧
      run (cleanUp name : Action β σ Unit) w = (.ok (), w.replaying es w.session) := by
  simp only [cleanUp, run_tryCatch, dropDraft, run_bind, run_readDrafts]
  cases hget : (DraftStore.get draftsKey w.store).1 with
  | error e =>
    refine ⟨_, .unread hget, ?_⟩
    simp [World.reading, World.replaying, redoAll, Effect.redo]
  | ok value =>
    dsimp only
    cases hstored : Entries.get? (draftsOf value) name with
    | none => exact ⟨_, .missing hget hstored, rfl⟩
    | some stored =>
      simp only [Option.isSome_some, if_true, run_bind, run_writeDrafts]
      cases hset : (DraftStore.set draftsKey (.object (Entries.erase name (draftsOf value)))
          w.reading.store).1 with
      | error e =>
        refine ⟨_, .unwritten hget hstored hset, ?_⟩
        simp [World.reading, World.writing, World.replaying, redoAll, Effect.redo]
      | ok _ =>
        refine ⟨_, .dropped hget hstored hset, ?_⟩
        simp [World.reading, World.writing, World.replaying, redoAll, Effect.redo]

/-! ### Saving -/

/-- Handing a pipeline over concerns the backend alone, and comes to what the backend says. -/
theorem redoAll_submitting (s : Session) (nameSpace : String) (closing : Notice) (c : β × σ) :
    let es := s.checking ++ s.submitting nameSpace closing
    redoAll es c = ((Backend.submit (s.request nameSpace) c.1).2, c.2) ∧
      upshots es c =
        [.ofSubmission (s.request nameSpace) (Backend.submit (s.request nameSpace) c.1).1] := by
  intro es
  obtain ⟨hredo, hupshots⟩ := redoAll_of_idle s.idle_of_mem_checking c
  refine ⟨?_, ?_⟩
  · rw [redoAll_append, hredo]
    rfl
  · rw [upshots_append, hredo, hupshots]
    rfl

theorem run_save_replaying {w : World β σ} (nameSpace : String)
    (hverdict : w.session.verdict.1.isEmpty = true) :
    let r := w.session.request nameSpace
    let behind := fun closing =>
      w.replaying (w.session.checking ++ w.session.submitting nameSpace closing) w.session
    run (save nameSpace : Action β σ String) w =
      match (Backend.submit r w.backend).1 with
      | .error e => (.error (.backend e), behind (r.rejectedNotice e))
      | .ok () =>
        (.ok w.session.metadata.name,
          (run (reset false : Action β σ Unit)
            (run (cleanUp w.session.metadata.name : Action β σ Unit)
              (behind r.savedNotice)).2).2) := by
  intro r behind
  have hrequest : ⟨nameSpace, w.session.metadata.name,
      .build w.session.outline w.session.metadata⟩ = r := rfl
  have hrun := run_requireValid_of_isEmpty (β := β) (σ := σ)
    (show (validate w.session.nodes w.session.edges w.session.metadata
      w.session.outline).1.isEmpty = true from hverdict)
  have hbehind : ∀ closing, behind closing =
      { w with
        backend := (Backend.submit r w.backend).2
        effects := w.effects ++ (w.session.checking ++
          w.session.submitting nameSpace closing) } := fun closing => by
    simp only [behind, World.replaying, (redoAll_submitting _ _ _ _).1]
    rfl
  simp only [save, run_bind _ readOutline, run_bind _ session, run_bind _ (requireValid _),
    run_bind _ (log _ _), run_bind _ (emit _), run_bind _ (submit _), run_session,
    run_readOutline, hrun, run_log, run_emit, run_submit, hrequest]
  cases hsubmit : (Backend.submit r w.backend).1 with
  | error e =>
    simp only [run_bind, run_log, run_throw, hbehind]
    simp only [checking, submitting, List.append_assoc, List.cons_append, List.nil_append]
    rfl
  | ok _ =>
    dsimp only
    rw [run_bind, run_log]
    dsimp only
    -- neither part of what is left can fail
    rw [run_bind_of_fst (run_cleanUp_fst _ _), run_bind_of_fst (run_reset_fst _ _), run_pure,
      hbehind]
    simp only [checking, submitting, List.append_assoc, List.cons_append, List.nil_append]
    rfl

/-- What may be left behind by saving. -/
inductive SaveTrail (nameSpace : String) (w : World β σ) :
    Except SessionError String × World β σ → Prop where
  /-- The pipeline is not valid. -/
  | refused {es : List Effect} (hes : ∀ e ∈ es, e.Idle) :
      SaveTrail nameSpace w
        (.error (.invalid w.session.verdict.1), w.replaying es w.session)
  /-- The backend does not take it. -/
  | rejected {e : BackendError}
      (hsubmit : (Backend.submit (w.session.request nameSpace) w.backend).1 = .error e) :
      SaveTrail nameSpace w
        (.error (.backend e),
          w.replaying (w.session.checking ++ w.session.submitting nameSpace
            ((w.session.request nameSpace).rejectedNotice e)) w.session)
  /-- The backend takes it, its draft is dropped, and the canvas emptied. -/
  | taken {es : List Effect}
      (hsubmit : (Backend.submit (w.session.request nameSpace) w.backend).1 = .ok ())
      (hes : CleanUpTrail w.session.metadata.name w.store es) :
      SaveTrail nameSpace w
        (.ok w.session.metadata.name,
          w.replaying (w.session.checking ++ w.session.submitting nameSpace
            (w.session.request nameSpace).savedNotice ++ (es ++ w.session.resetting false))
              (w.session.cleared false))

/-- **Saving leaves one of these behind.** -/
theorem saveTrail (nameSpace : String) (w : World β σ) :
    SaveTrail nameSpace w (run (save nameSpace : Action β σ String) w) := by
  cases hverdict : w.session.verdict.1.isEmpty with
  | false =>
    -- the check comes behind the lines of flattening, which belong to the trail
    obtain ⟨es, hes, hrun⟩ := run_requireValid_replaying (β := β) (σ := σ) hverdict
      w.session.topic?_of_mem_verdict
      (w.replaying (w.session.flattening.notices.map (.logged · [])) w.session)
    rw [World.replaying_replaying, replaying_logged] at hrun
    simp only [save, run_bind, run_session, run_readOutline]
    rw [verdict] at hrun
    rw [hrun]
    exact .refused (List.forall_mem_append.mpr
      ⟨Effect.idle_of_mem_logged fun n hn => topic?_of_mem_flatten hn, hes⟩)
  | true =>
    rw [run_save_replaying nameSpace hverdict]
    cases hsubmit : (Backend.submit (w.session.request nameSpace) w.backend).1 with
    | error e => exact .rejected hsubmit
    | ok _ =>
      dsimp only
      obtain ⟨es, hes, hrun⟩ := cleanUpTrail w.session.metadata.name
        (w.replaying (w.session.checking ++ w.session.submitting nameSpace
          (w.session.request nameSpace).savedNotice) w.session)
      have hstore : (w.replaying (w.session.checking ++ w.session.submitting nameSpace
          (w.session.request nameSpace).savedNotice) w.session).store = w.store := by
        rw [World.replaying, (redoAll_submitting _ _ _ _).1]
      rw [hrun, run_reset_replaying, World.replaying_replaying, World.replaying_replaying]
      exact .taken hsubmit (hstore ▸ hes)

/-! ### Storing and opening drafts -/

/-- What may be left behind by storing a draft. -/
inductive SaveDraftTrail (w : World β σ) : Except SessionError Unit × World β σ → Prop where
  /-- Whatever the reason, nothing that is audited. -/
  | failed {es : List Effect} {e : SessionError} (hes : ∀ e ∈ es, e.topic? = none) :
      SaveDraftTrail w (.error e, w.replaying es w.session)
  /-- The drafts are written back with that of the session among them. -/
  | stored {value : Option Json} (hget : (DraftStore.get draftsKey w.store).1 = .ok value)
      (hset : (DraftStore.set draftsKey (.object (w.session.withDraft (draftsOf value)))
        (DraftStore.get draftsKey w.store).2).1 = .ok ()) :
      SaveDraftTrail w
        (.ok (), w.replaying (w.session.drafting ++
          [.storeRead draftsKey,
            .storeWritten draftsKey (.object (w.session.withDraft (draftsOf value))),
            .logged (.draftSaved w.session.metadata.name
              (w.session.withDraft (draftsOf value)).length
              (Entries.get? (draftsOf value) w.session.metadata.name).isSome) []]) w.session)

/-- **Storing a draft leaves one of these behind.** -/
theorem saveDraftTrail (w : World β σ) :
    SaveDraftTrail w (run (saveDraft : Action β σ Unit) w) := by
  cases hverdict : w.session.draftVerdict.1.isEmpty with
  | false =>
    obtain ⟨es, hes, hrun⟩ := run_requireValid_replaying (β := β) (σ := σ) hverdict
      (fun n hn => Validation.topic?_of_mem_verdict hn) w
    rw [draftVerdict] at hrun
    simp only [saveDraft, run_bind, run_session, hrun]
    exact .failed fun e he => (hes e he).1
  | true =>
    have hrun := run_requireValid_of_isEmpty (β := β) (σ := σ)
      (show (validateDraft w.session.metadata).1.isEmpty = true from hverdict)
    have hdrafting : ∀ c : β × σ, redoAll w.session.drafting c = c := fun c =>
      (redoAll_of_idle w.session.idle_of_mem_drafting c).1
    have hprelude : ∀ e ∈ w.session.drafting, e.topic? = none := fun e he =>
      (w.session.idle_of_mem_drafting e he).1
    simp only [saveDraft, run_bind, run_session, run_log, run_emit, run_readSubmission, hrun]
    -- up to where the store is read, nothing is called
    generalize hw₁ : (World.mk _ _ _ _ : World β σ) = w₁
    have hbefore : w₁ = w.replaying w.session.drafting w.session := by
      rw [← hw₁, World.replaying, hdrafting]
      simp only [drafting, draftVerdict, List.append_assoc, List.cons_append, List.nil_append]
    have hstore : w₁.store = w.store := by rw [← hw₁]
    have hreading : (w.replaying (w.session.drafting ++ [.storeRead draftsKey])
        w.session).store = (DraftStore.get draftsKey w.store).2 := by
      rw [World.replaying, redoAll_append, hdrafting]
      rfl
    rw [run_readDrafts, hstore, hbefore, World.reading_eq, World.session_replaying,
      World.replaying_replaying]
    cases hget : (DraftStore.get draftsKey w.store).1 with
    | error e => exact .failed (List.forall_mem_append.mpr ⟨hprelude, by simp [Effect.topic?]⟩)
    | ok value =>
      dsimp only
      rw [run_writeDrafts, hreading, World.writing_eq, World.session_replaying,
        World.replaying_replaying]
      cases hset : (DraftStore.set draftsKey (.object (w.session.withDraft (draftsOf value)))
          (DraftStore.get draftsKey w.store).2).1 with
      | error e =>
        rw [withDraft] at hset
        simp only [hset]
        exact .failed (List.forall_mem_append.mpr ⟨List.forall_mem_append.mpr
          ⟨hprelude, by simp [Effect.topic?]⟩, by simp [Effect.topic?]⟩)
      | ok _ =>
        have htrail := SaveDraftTrail.stored hget hset
        rw [withDraft] at hset htrail
        simp only [hset, World.logging_eq]
        simp only [World.session_replaying, World.replaying_replaying, List.append_assoc,
          List.cons_append, List.nil_append]
        exact htrail

/-- What may be left behind by opening a draft. -/
inductive ImportDraftTrail (name : String) (w : World β σ) :
    Except SessionError Unit × World β σ → Prop where
  /-- Whatever the reason, the drafts have been read, and nothing else. -/
  | failed {e : SessionError} :
      ImportDraftTrail name w (.error e, w.replaying [.storeRead draftsKey] w.session)
  /-- The draft is opened in place of what was on the canvas. -/
  | opened (s : Session) (fromCanvas : Bool) :
      ImportDraftTrail name w
        (.ok (), w.replaying ([.storeRead draftsKey] ++ w.session.resetting true ++
          [.logged (.draftImported name s.nodes.size s.edges.length fromCanvas) []]) s)

/-- **Opening a draft leaves one of these behind.** -/
theorem importDraftTrail (name : String) (w : World β σ) :
    ImportDraftTrail name w (run (importDraft name : Action β σ Unit) w) := by
  simp only [importDraft, run_bind, run_readDrafts]
  cases hget : (DraftStore.get draftsKey w.store).1 with
  | error e => exact .failed
  | ok value =>
    dsimp only
    cases hstored : Entries.get? (draftsOf value) name with
    | none => exact .failed
    | some stored =>
      cases hdecode : (Draft.decode stored : Decode.Result Draft) with
      | error why =>
        simp only [hdecode, orFail, run_bind, run_throw]
        exact .failed
      | ok draft =>
        -- from here on nothing is called, and nothing fails
        have htrail : ImportDraftTrail name w _ :=
          .opened (w.session.opening draft name) draft.canvas.isSome
        rw [← World.replaying_replaying (s := w.session.cleared true),
          ← World.replaying_replaying (s := w.session)] at htrail
        simp only [hdecode, orFail, run_bind, run_pure, run_reset_replaying, run_update, run_log,
          run_session, World.reading_eq]
        exact htrail

/-! ### Placing a node -/

/-- **Placing a node leaves nothing behind that is audited:** the listeners for nodes are told, and
then the contract is asked for. -/
theorem addNodeTrail (n : Node) (role : Role) (w : World β σ) :
    let added := (run (addNode n role : Action β σ Unit) w).2
    ∃ es, (∀ e ∈ es, e.topic? = none) ∧ added = w.replaying es added.session := by
  intro added
  have hplacing := w.session.idle_of_mem_placing n role
  have hrun : added = (run (if !(w.session.nodes.placed n role).isReady then
      resolveNode n.id w.session.activeTemplate none else pure ())
        (w.replaying (w.session.placing n role)
          { w.session with nodes := w.session.nodes.place n role })).2 := by
    rw [World.replaying_of_not_calls fun e he => (hplacing e he).2]
    simp only [added, addNode, run_bind, run_session, run_update, run_log, run_tell, placing,
      List.append_assoc]
    rfl
  -- what follows is routine, whether the contract is asked for or not
  have hasking : Routine (if !(w.session.nodes.placed n role).isReady then
      resolveNode n.id w.session.activeTemplate none else pure () : Action β σ Unit) := by
    split
    · exact routine_resolveNode _ _ _
    · exact .pure _
  obtain ⟨-, es, hes, hadded⟩ := (hasking (w.replaying (w.session.placing n role)
    { w.session with nodes := w.session.nodes.place n role })).1
  rw [← hrun, World.replaying_replaying] at hadded
  exact ⟨w.session.placing n role ++ es, List.forall_mem_append.mpr
    ⟨fun e he => (hplacing e he).1, fun e he => Effect.topic?_of_isRoutine (hes e he)⟩, hadded⟩

end Session

end PipelineCanvas
