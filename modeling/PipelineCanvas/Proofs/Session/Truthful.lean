import PipelineCanvas.Proofs.Session.Auditing

/-!
# The log tells the truth

Every step of every run passes the audit (`Step.Truthful`), whatever the backend answers and
whenever the store fails, as long as it does what it says it has done. Four operations leave
something behind that is audited; for each of them what it leaves behind (`Session.SaveTrail` and
its like) is sorted by topic and compared with what it says. All others leave nothing of the kind.

* `Session.CleanUpTrail.cleared_iff` – a draft is said to be cleared exactly when it was;
* **`Step.truthful`**, **`Operation.audit_run`** – every step, and every run.
-/

namespace PipelineCanvas

open PipelineCanvas.Action

variable {β σ : Type} [Backend β] [DraftStore σ]

/-! ### Dropping the draft -/

namespace Session.CleanUpTrail

variable {name : String} {s : σ} {es : List Effect}

/-- Dropping the draft is about nothing else. -/
theorem topic_of_mem (h : CleanUpTrail name s es) :
    ∀ e ∈ es, e.topic? = none ∨ e.topic? = some .dropping := by
  cases h <;> simp [Effect.topic?, Notice.topic?]

theorem among_eq_nil (h : CleanUpTrail name s es) {t : Topic} (ht : t ≠ .dropping) :
    t.among es = [] := by
  refine List.filter_eq_nil_iff.mpr fun e he => ?_
  rcases h.topic_of_mem e he with hnone | hdropping
  · simp [hnone]
  · simpa [hdropping] using Ne.symm ht

/-- The backend has no part in it. -/
theorem taken?_eq_nil (h : CleanUpTrail name s es) (b : β) :
    (upshots es (b, s)).filterMap Upshot.taken? = [] := by
  refine taken?_upshots ?_ _
  cases h <;> simp [Effect.request?]

/-- A line says that the draft could not be cleared for each call that fails. -/
theorem failures_eq (h : CleanUpTrail name s es) (b : β) :
    (es.filterMap Effect.notice?).filterMap Notice.cleanupFailure? =
      ((upshots es (b, s)).filterMap Upshot.failed?).map fun e =>
        (name, (SessionError.store e).message) := by
  cases h with
  | unread hget =>
    simp only [upshots, Effect.upshot?, Upshot.ofStore?, hget]
    rfl
  | missing hget hmissing =>
    simp only [upshots, Effect.upshot?, Upshot.ofStore?, hget]
    rfl
  | unwritten hget hstored hset =>
    simp only [upshots, Effect.upshot?, Effect.redo, Upshot.ofStore?, hget, hset]
    rfl
  | dropped hget hstored hset =>
    simp only [upshots, Effect.upshot?, Effect.redo, Upshot.ofStore?, hget, hset]
    rfl

variable [CandidStore σ]

open CandidStore in
/-- **A draft is said to be cleared exactly when it was, and no call failed.** -/
theorem cleared_iff (h : CleanUpTrail name s es) (b : β) (n : String) :
    .draftCleared n ∈ es.filterMap Effect.notice? ↔
      ((draft? s n).isSome ∧ draft? (redoAll es (b, s)).2 n = none) ∧
        (upshots es (b, s)).filterMap Upshot.failed? = [] := by
  cases h with
  | unread hget =>
    simp [upshots, Effect.upshot?, Effect.notice?, Upshot.ofStore?, hget, Upshot.failed?]
  | missing hget hmissing =>
    -- the drafts are those that were there before
    obtain ⟨-, hafter⟩ := drafts_get hget
    have hkept : draft? (redoAll [.storeRead draftsKey] (b, s)).2 n = draft? s n := by
      rw [draft?, draft?, ← hafter]
      rfl
    refine iff_of_false List.not_mem_nil ?_
    rintro ⟨⟨hsome, hnone⟩, -⟩
    exact draft?_ne_of_lost hsome hnone hkept
  | unwritten hget hstored hset =>
    simp [upshots, Effect.upshot?, Effect.notice?, Effect.redo, Upshot.ofStore?, hget, hset,
      Upshot.failed?]
  | dropped hget hstored hset =>
    obtain ⟨hbefore, -⟩ := drafts_get hget
    rw [hbefore] at hset hstored ⊢
    have hline : .draftCleared n ∈ List.filterMap Effect.notice? [.storeRead draftsKey,
        .storeWritten draftsKey (.object (Entries.erase name (drafts s))),
        .logged (.draftCleared name) [saveSpan]] ↔ n = name := by
      simp [Effect.notice?, eq_comm]
    have hfailed : (upshots [.storeRead draftsKey,
        .storeWritten draftsKey (.object (Entries.erase name (drafts s))),
        .logged (.draftCleared name) [saveSpan]] (b, s)).filterMap Upshot.failed? = [] := by
      simp [upshots, Effect.upshot?, Effect.redo, Upshot.ofStore?, hget, hset]
    have hafter : draft? (redoAll [.storeRead draftsKey,
        .storeWritten draftsKey (.object (Entries.erase name (drafts s))),
        .logged (.draftCleared name) [saveSpan]] (b, s)).2 n =
          if n = name then none else draft? s n := by
      change Entries.get? (drafts (DraftStore.set draftsKey _ _).2) n = _
      rw [drafts_set hset, Entries.get?_erase, draft?]
    rw [hline, hfailed, hafter]
    constructor
    · rintro rfl
      exact ⟨⟨Option.isSome_iff_exists.mpr ⟨_, hstored⟩, if_pos rfl⟩, rfl⟩
    · rintro ⟨⟨hsome, hnone⟩, -⟩
      -- no other draft is removed
      by_contra hne
      rw [if_neg hne] at hnone
      rw [hnone] at hsome
      cases hsome

open CandidStore in
/-- A call that fails removes no draft, in a store that keeps what it holds then. -/
theorem failed_eq_nil (h : CleanUpTrail name s es) (hkeep : FailuresKeep σ) (b : β) (n : String)
    (hsome : (draft? s n).isSome) (hnone : draft? (redoAll es (b, s)).2 n = none) :
    (upshots es (b, s)).filterMap Upshot.failed? = [] := by
  have hkept : drafts (redoAll es (b, s)).2 ≠ drafts s := fun heq =>
    draft?_ne_of_lost hsome hnone (by rw [draft?, heq, draft?])
  -- where a call fails, the drafts are those that were there before
  cases h with
  | unread hget => exact absurd (hkeep.drafts_get hget) hkept
  | missing hget hmissing => simp [upshots, Effect.upshot?, Upshot.ofStore?, hget]
  | unwritten hget hstored hset =>
    exact absurd ((hkeep.drafts_set hset).trans (drafts_get hget).2) hkept
  | dropped hget hstored hset =>
    simp [upshots, Effect.upshot?, Effect.redo, Upshot.ofStore?, hget, hset]

end Session.CleanUpTrail

/-! ### Saving -/

namespace Step

variable {s : Step β σ} [CandidStore σ]

/-- What is about saving, of what is left behind by handing a pipeline over. -/
theorem among_submitting (s : Session) (nameSpace : String) {closing : Notice}
    (h : closing.topic? = some .saving) (t : Topic) :
    t.among (s.checking ++ s.submitting nameSpace closing) =
      if t = .saving then [.logged (.saveStarted nameSpace s.metadata.name s.nodes.size) [],
        .submitted (s.request nameSpace), .logged closing []] else [] := by
  have hstarted : (Notice.saveStarted nameSpace s.metadata.name s.nodes.size).topic? =
      some .saving := rfl
  rw [Topic.among_append, Topic.among_checking]
  cases t <;> simp [Topic.among, Session.submitting, Effect.topic?, hstarted, h]

/-- **A pipeline that the backend does not take** is handed over, and then it is said why. -/
theorem truthful_of_rejected {nameSpace : String} {e : BackendError}
    (hop : s.operation = .save nameSpace)
    (hsubmit : (Backend.submit (s.before.session.request nameSpace) s.before.backend).1 = .error e)
    (hafter : s.after = s.before.replaying (s.before.session.checking ++
      s.before.session.submitting nameSpace
        ((s.before.session.request nameSpace).rejectedNotice e)) s.before.session) :
    s.Truthful := by
  obtain ⟨hredo, hupshots⟩ := Session.redoAll_submitting s.before.session nameSpace
    ((s.before.session.request nameSpace).rejectedNotice e) (s.before.backend, s.before.store)
  rw [← effects_eq hafter] at hredo hupshots
  have hrejected : s.upshots = [.rejected (s.before.session.request nameSpace) e] := by
    rw [upshots, hupshots, hsubmit]
    rfl
  have hclosing : ((s.before.session.request nameSpace).rejectedNotice e).topic? =
      some .saving := rfl
  have hamong := among_submitting s.before.session nameSpace hclosing
  rw [← effects_eq hafter] at hamong
  have hstore : s.after.store = s.before.store := by
    rw [after_eq hafter, World.replaying, hredo]
  exact
    { replays := after_eq hafter
      saving := .inr ⟨_, .inr ⟨e, hrejected, hamong .saving⟩⟩
      dropping := dropsTruly_of_quiet (hamong .dropping) (by rw [accepted, hrejected]; rfl)
        (not_drops_of_store_eq hstore)
      draftSaved_iff := draftSaved_iff_of_quiet (hamong .storing) (by simp [hop])
      draftImported_iff := draftImported_iff_of_quiet (hamong .opening) (by simp [hop])
      resets := .inl (hamong .resetting) }

/-- What is said of the draft of a pipeline is so, where it is said while the draft is dropped. -/
theorem dropsTruly_of_cleanUpTrail {nameSpace : String} {es : List Effect} {b : β}
    (hop : s.operation = .save nameSpace)
    (hes : Session.CleanUpTrail s.before.session.metadata.name s.before.store es)
    (hdropping : Topic.dropping.among s.effects = Topic.dropping.among es)
    (hstore : s.after.store = (redoAll es (b, s.before.store)).2)
    (herrors : s.storeErrors =
      (PipelineCanvas.upshots es (b, s.before.store)).filterMap Upshot.failed?)
    (hlate : s.lateErrors = s.storeErrors) : s.DropsTruly := by
  have hdrops : ∀ name, s.Drops name ↔ (CandidStore.draft? s.before.store name).isSome ∧
      CandidStore.draft? (redoAll es (b, s.before.store)).2 name = none := fun name => by
    rw [Drops, hstore]
    exact and_iff_right ⟨nameSpace, hop⟩
  have hcleared : ∀ name, .draftCleared name ∈ s.notices ↔ s.Drops name ∧ s.storeErrors = [] :=
    fun name => by
      rw [notices, Topic.mem_notices_iff (t := .dropping) rfl, hdropping,
        ← Topic.mem_notices_iff rfl, hes.cleared_iff b, hdrops, herrors]
  exact
    { cleared_iff := hcleared
      cleared_iff_of_keep := fun hkeep name => by
        rw [hcleared, hdrops, herrors]
        exact and_iff_left_of_imp fun h => hes.failed_eq_nil hkeep b name h.1 h.2
      failures_eq := by
        rw [notices, Topic.filterMap_notices Notice.cleanupFailure?_of_topic, hdropping,
          ← Topic.filterMap_notices Notice.cleanupFailure?_of_topic, hes.failures_eq b, hlate,
          herrors] }

/-- **A pipeline that the backend takes** is handed over, and then it is said that it was saved,
what became of its draft, and that the canvas was emptied. -/
theorem truthful_of_taken {nameSpace : String} {es : List Effect}
    (hop : s.operation = .save nameSpace)
    (hsubmit : (Backend.submit (s.before.session.request nameSpace) s.before.backend).1 = .ok ())
    (hes : Session.CleanUpTrail s.before.session.metadata.name s.before.store es)
    (hafter : s.after = s.before.replaying (s.before.session.checking ++
      s.before.session.submitting nameSpace (s.before.session.request nameSpace).savedNotice ++
        (es ++ s.before.session.resetting false)) (s.before.session.cleared false)) :
    s.Truthful := by
  obtain ⟨hredo, hupshots⟩ := Session.redoAll_submitting s.before.session nameSpace
    (s.before.session.request nameSpace).savedNotice (s.before.backend, s.before.store)
  have hresetting := redoAll_of_not_calls (β := β) (σ := σ)
    (Session.isCall_of_mem_resetting s.before.session false)
  generalize hb : (Backend.submit (s.before.session.request nameSpace) s.before.backend).2 = b
    at hredo
  rw [hsubmit] at hupshots
  -- the backend is called once, and then it is for the store to answer
  have htaken : s.upshots = .taken (s.before.session.request nameSpace) ::
      PipelineCanvas.upshots es (b, s.before.store) := by
    rw [upshots, effects_eq hafter, upshots_append, hupshots, hredo, upshots_append,
      (hresetting _).2, List.append_nil]
    rfl
  have hstore : s.after.store = (redoAll es (b, s.before.store)).2 := by
    rw [hafter, World.replaying, redoAll_append, hredo, redoAll_append, (hresetting _).1]
  have haccepted : s.accepted = [s.before.session.request nameSpace] := by
    rw [accepted, htaken]
    exact congrArg _ (hes.taken?_eq_nil b)
  have herrors : s.storeErrors =
      (PipelineCanvas.upshots es (b, s.before.store)).filterMap Upshot.failed? := by
    rw [storeErrors, htaken]
    rfl
  have hlate : s.lateErrors = s.storeErrors := by
    rw [lateErrors, storeErrors, htaken]
    rfl
  -- handing over and emptying the canvas are about a topic each, and the rest is about the draft
  have hamong : ∀ topic, Topic.among topic s.effects =
      (if topic = .saving then
        [.logged (.saveStarted nameSpace s.before.session.metadata.name
          s.before.session.nodes.size) [], .submitted (s.before.session.request nameSpace),
          .logged (s.before.session.request nameSpace).savedNotice []] else []) ++
        (topic.among es ++
          if topic = .resetting then s.before.session.resetting false else []) := fun topic => by
    rw [effects_eq hafter, Topic.among_append, among_submitting _ _ rfl, Topic.among_append,
      Topic.among_resetting]
  have hdropping : Topic.dropping.among s.effects = Topic.dropping.among es := by
    simpa using hamong .dropping
  have hother : ∀ topic, topic ≠ .dropping → Topic.among topic s.effects = _ :=
    fun topic htopic => by rw [hamong, hes.among_eq_nil htopic, List.nil_append]
  have hsaving := hother .saving (by simp)
  have hstoring := hother .storing (by simp)
  have hopening := hother .opening (by simp)
  have hreset := hother .resetting (by simp)
  exact
    { replays := after_eq hafter
      saving := .inr ⟨_, .inl ⟨haccepted, hsaving⟩⟩
      dropping := dropsTruly_of_cleanUpTrail hop hes hdropping hstore herrors hlate
      draftSaved_iff := draftSaved_iff_of_quiet hstoring (by simp [hop])
      draftImported_iff := draftImported_iff_of_quiet hopening (by simp [hop])
      resets := .inr ⟨false, hreset⟩ }

omit [CandidStore σ] in
/-- What a step answers and leaves is what its action does, but for the form of the answer. -/
theorem answer_and_after {α : Type} (op : Operation) (a : Action β σ α) (reply : α → Reply)
    (h : (op.perform : Action β σ Reply) = a >>= fun x => pure (reply x)) (w : World β σ) :
    answer (⟨w, op⟩ : Step β σ) = (run a w).1.map reply ∧
      after (⟨w, op⟩ : Step β σ) = (run a w).2 := by
  have hstep := op.step_of_perform_eq a reply h w
  exact ⟨congrArg Prod.fst hstep, congrArg Prod.snd hstep⟩

theorem truthful_save (nameSpace : String) (w : World β σ) :
    Truthful (⟨w, .save nameSpace⟩ : Step β σ) := by
  obtain ⟨-, hafter⟩ := answer_and_after (.save nameSpace)
    (Session.save nameSpace : Action β σ String) .text rfl w
  have htrail := Session.saveTrail nameSpace w
  generalize run (Session.save nameSpace : Action β σ String) w = result at hafter htrail
  cases htrail with
  | refused hes =>
    -- what is not valid is not handed over, and the store is not asked for its draft
    refine truthful_of_unaudited hafter (fun e he => (hes e he).1) (not_drops_of_store_eq ?_)
      nofun nofun
    rw [hafter, World.replaying, (redoAll_of_idle hes _).1]
  | rejected hsubmit => exact truthful_of_rejected rfl hsubmit hafter
  | taken hsubmit hes => exact truthful_of_taken rfl hsubmit hes hafter

/-! ### Drafts and resets -/

theorem truthful_saveDraft (w : World β σ) : Truthful (⟨w, .saveDraft⟩ : Step β σ) := by
  obtain ⟨hanswer, hafter⟩ := answer_and_after .saveDraft (Session.saveDraft : Action β σ Unit)
    (fun _ => .done) rfl w
  have htrail := Session.saveDraftTrail w
  generalize run (Session.saveDraft : Action β σ Unit) w = result at hanswer hafter htrail
  have hdrops : ∀ name, ¬ Drops (⟨w, .saveDraft⟩ : Step β σ) name :=
    not_drops_of_operation (by simp)
  cases htrail with
  | failed hes =>
    exact truthful_of_unaudited hafter hes hdrops (fun _ => by simp [hanswer, Except.map]) (by simp)
  | @stored value hget hset =>
    obtain ⟨hbefore, -⟩ := CandidStore.drafts_get hget
    rw [hbefore] at hset hafter
    have hstored : CandidStore.drafts (after (⟨w, .saveDraft⟩ : Step β σ)).store =
        w.session.withDraft (CandidStore.drafts w.store) := by
      rw [hafter, World.replaying, redoAll_append, (redoAll_of_idle w.session.idle_of_mem_drafting
        _).1]
      exact CandidStore.drafts_set hset
    have hamong : ∀ topic, Topic.among topic (effects (⟨w, .saveDraft⟩ : Step β σ)) =
        if topic = .storing then [.logged (.draftSaved w.session.metadata.name
          (w.session.withDraft (CandidStore.drafts w.store)).length
          (Entries.get? (CandidStore.drafts w.store) w.session.metadata.name).isSome) []]
        else [] := fun topic => by
      rw [effects_eq hafter, Topic.among_append, Topic.among_drafting]
      cases topic <;> rfl
    have hsaving := saving_of_quiet (hamong .saving)
    exact
      { replays := after_eq hafter
        saving := .inl hsaving
        dropping := dropsTruly_of_quiet (hamong .dropping) hsaving.1 hdrops
        draftSaved_iff := fun name count replaced => by
          rw [notices, Topic.mem_notices_iff (t := .storing) rfl, hamong, hstored, hanswer]
          refine List.mem_singleton.trans ⟨fun hline => ?_, ?_⟩
          · cases hline
            exact ⟨rfl, rfl, rfl, rfl, rfl⟩
          · rintro ⟨-, -, rfl, rfl, rfl⟩
            rfl
        draftImported_iff := draftImported_iff_of_quiet (hamong .opening) (by simp)
        resets := .inl (hamong .resetting) }

theorem truthful_importDraft (name : String) (w : World β σ) :
    Truthful (⟨w, .importDraft name⟩ : Step β σ) := by
  obtain ⟨hanswer, hafter⟩ := answer_and_after (.importDraft name)
    (Session.importDraft name : Action β σ Unit) (fun _ => .done) rfl w
  have htrail := Session.importDraftTrail name w
  generalize run (Session.importDraft name : Action β σ Unit) w = result at hanswer hafter htrail
  have hdrops : ∀ name', ¬ Drops (⟨w, .importDraft name⟩ : Step β σ) name' :=
    not_drops_of_operation (by simp)
  cases htrail with
  | failed =>
    exact truthful_of_unaudited hafter (by simp [Effect.topic?]) hdrops (by simp)
      (fun _ _ => by simp [hanswer, Except.map])
  | opened s fromCanvas =>
    -- the canvas is emptied before the draft is drawn on it, and both are said
    have hamong : ∀ topic, Topic.among topic (effects (⟨w, .importDraft name⟩ : Step β σ)) =
        (if topic = .resetting then w.session.resetting true else []) ++
          if topic = .opening then
            [.logged (.draftImported name s.nodes.size s.edges.length fromCanvas) []]
          else [] := fun topic => by
      rw [effects_eq hafter, Topic.among_append, Topic.among_append, Topic.among_resetting]
      cases topic <;> rfl
    have hsaving := saving_of_quiet (hamong .saving)
    exact
      { replays := after_eq hafter
        saving := .inl hsaving
        dropping := dropsTruly_of_quiet (hamong .dropping) hsaving.1 hdrops
        draftSaved_iff := draftSaved_iff_of_quiet (hamong .storing) (by simp)
        draftImported_iff := fun name' nodes edges => by
          have hline : ∀ fromCanvas', .draftImported name' nodes edges fromCanvas' ∈
              notices (⟨w, .importDraft name⟩ : Step β σ) ↔
                Notice.draftImported name' nodes edges fromCanvas' =
                  .draftImported name s.nodes.size s.edges.length fromCanvas := by
            intro fromCanvas'
            rw [notices, Topic.mem_notices_iff (t := .opening) rfl, hamong]
            exact List.mem_singleton
          rw [exists_congr hline, hanswer, hafter]
          constructor
          · rintro ⟨fromCanvas', hequal⟩
            cases hequal
            exact ⟨rfl, rfl, rfl, rfl⟩
          · rintro ⟨hop, -, rfl, rfl⟩
            cases hop
            exact ⟨fromCanvas, rfl⟩
        resets := .inr ⟨true, (hamong .resetting).trans (List.append_nil _)⟩ }

theorem truthful_reset (keepName : Bool) (w : World β σ) :
    Truthful (⟨w, .reset keepName⟩ : Step β σ) := by
  obtain ⟨-, hafter⟩ := answer_and_after (.reset keepName)
    (Session.reset keepName : Action β σ Unit) (fun _ => .done) rfl w
  rw [Session.run_reset_replaying] at hafter
  have hamong : ∀ topic, Topic.among topic (effects (⟨w, .reset keepName⟩ : Step β σ)) =
      if topic = .resetting then w.session.resetting keepName else [] := fun topic => by
    rw [effects_eq hafter, Topic.among_resetting]
  have hsaving := saving_of_quiet (hamong .saving)
  exact
    { replays := after_eq hafter
      saving := .inl hsaving
      dropping := dropsTruly_of_quiet (hamong .dropping) hsaving.1 (not_drops_of_operation nofun)
      draftSaved_iff := draftSaved_iff_of_quiet (hamong .storing) nofun
      draftImported_iff := draftImported_iff_of_quiet (hamong .opening) nofun
      resets := .inr ⟨keepName, hamong .resetting⟩ }

/-! ### Every step, and every run -/

/-- **The log of every step tells the truth.** -/
theorem truthful (s : Step β σ) : s.Truthful := by
  obtain ⟨w, op⟩ := s
  cases hop : op.isDiscreet with
  | true =>
    obtain ⟨-, es, hes, hafter⟩ := (Operation.routine_perform (β := β) (σ := σ) hop w).1
    refine truthful_of_unaudited (s := ⟨w, op⟩) hafter
      (fun e he => Effect.topic?_of_isRoutine (hes e he))
      (not_drops_of_operation fun nameSpace hsave => ?_) (fun hsaveDraft => ?_)
      fun name himport => ?_
    -- the operations that are audited are not discreet
    · cases hsave
      cases hop
    · cases hsaveDraft
      cases hop
    · cases himport
      cases hop
  | false =>
    cases op with
    | save nameSpace => exact truthful_save nameSpace w
    | saveDraft => exact truthful_saveDraft w
    | importDraft name => exact truthful_importDraft name w
    | reset keepName => exact truthful_reset keepName w
    | addNode node role =>
      obtain ⟨es, hes, hadded⟩ := Session.addNodeTrail node role w
      obtain ⟨-, hafter⟩ := answer_and_after (.addNode node role)
        (Session.addNode node role : Action β σ Unit) (fun _ => .done) rfl w
      exact truthful_of_unaudited (hafter.trans hadded) hes (not_drops_of_operation nofun) nofun
        nofun
    | subscribe channel listener =>
      have hafter : after (⟨w, .subscribe channel listener⟩ : Step β σ) = w.replaying [] _ :=
        (World.replaying_nil _ _).symm
      exact truthful_of_unaudited hafter (List.forall_mem_nil _) (not_drops_of_operation nofun)
        nofun nofun
    | unsubscribe subscription =>
      have hafter : after (⟨w, .unsubscribe subscription⟩ : Step β σ) = w.replaying [] _ :=
        (World.replaying_nil _ _).symm
      exact truthful_of_unaudited hafter (List.forall_mem_nil _) (not_drops_of_operation nofun)
        nofun nofun
    | _ => cases hop

variable {s : Step β σ}

/-- What is said to be saved in a step is what the backend took. -/
theorem Truthful.saved_eq (h : s.Truthful) :
    s.notices.filter Notice.isSaved = s.accepted.map SaveRequest.savedNotice := by
  rw [notices, Topic.filter_notices Notice.isSaved_of_topic]
  obtain ⟨haccepted, hnone⟩ | ⟨r, ⟨haccepted, htaken⟩ | ⟨e, hupshots, hrejected⟩⟩ := h.saving
  · rw [haccepted, hnone]
    rfl
  · rw [haccepted, htaken]
    rfl
  · rw [accepted, hupshots, hrejected]
    rfl

end Step

namespace Operation

variable [CandidStore σ]

/-- A run is no more than what is noted of its steps. -/
theorem replays_run (ops : List Operation) (w : World β σ) :
    runAll ops w = w.replaying ((history ops w).flatMap Step.effects) (runAll ops w).session ∧
      upshots ((history ops w).flatMap Step.effects) (w.backend, w.store) =
        (history ops w).flatMap Step.upshots := by
  induction ops generalizing w with
  | nil => exact ⟨(w.replaying_nil _).symm, rfl⟩
  | cons op ops ih =>
    have hstep : (op.step w).2 = w.replaying (Step.effects ⟨w, op⟩) (op.step w).2.session :=
      (Step.truthful ⟨w, op⟩).replays
    obtain ⟨hrun, hupshots⟩ := ih (op.step w).2
    -- the rest of the run finds backend and store as the calls of the first step leave them
    have hcalls : redoAll (Step.effects ⟨w, op⟩) (w.backend, w.store) =
        ((op.step w).2.backend, (op.step w).2.store) := by
      rw [hstep]
      rfl
    refine ⟨?_, ?_⟩
    · change runAll ops (op.step w).2 = _
      rw [hrun, history, List.flatMap_cons, ← World.replaying_replaying
        (s := (op.step w).2.session), ← hstep]
      rfl
    · rw [history, List.flatMap_cons, List.flatMap_cons, upshots_append, hcalls, hupshots]
      rfl

/-- **The log of a run tells the truth.** Over any backend and any store that speaks the truth
where it answers, a run makes of them what the calls make that it notes; what is said to be saved
is, in this order, what the backend took; and the log of every step tells the truth. -/
theorem audit_run (ops : List Operation) (w : World β σ) :
    let es := (history ops w).flatMap Step.effects
    runAll ops w = w.replaying es (runAll ops w).session ∧
      (es.filterMap Effect.notice?).filter Notice.isSaved =
        ((upshots es (w.backend, w.store)).filterMap Upshot.taken?).map
          SaveRequest.savedNotice ∧
      ∀ s ∈ history ops w, s.Truthful := by
  intro es
  obtain ⟨hrun, hupshots⟩ := replays_run ops w
  refine ⟨hrun, ?_, fun s _ => s.truthful⟩
  rw [hupshots, List.filterMap_flatMap, List.filter_flatMap, List.filterMap_flatMap,
    List.map_flatMap]
  exact List.flatMap_congr fun s _ => s.truthful.saved_eq

/-- A store falters while the draft of a pipeline is dropped that the backend has taken. The draft
is still there, opened once more, saved and dropped, and a third time there is none. -/
theorem audit_run_faltering :
    let graph : Operation :=
      .loadGraph [.fresh "a" "Stream" .source, .fresh "k" "Table" .sink] [⟨"a", "k"⟩]
    let ops : List Operation :=
      [.setMetadata (.named "events"), .saveDraft, graph, .saveDraft, .save "default",
        .importDraft "events", .save "default", .setMetadata (.named "events"), graph,
        .save "other"]
    let store : FalteringStore := ⟨.empty, [false, false, false, false, true]⟩
    let w := World.fresh CatalogBackend.empty store
    let es := (history ops w).flatMap Step.effects
    CandidStore.FailuresKeep FalteringStore ∧
      runAll ops w = w.replaying es (runAll ops w).session ∧
      (es.filterMap Effect.notice?).filter Notice.isSaved =
        ((upshots es (w.backend, w.store)).filterMap Upshot.taken?).map
          SaveRequest.savedNotice ∧
      (∀ s ∈ history ops w, s.Truthful) ∧
      (es.filterMap Effect.notice?).filter (·.topic?.isSome) =
        [.draftSaved "events" 1 false, .draftSaved "events" 1 true,
          .saveStarted "default" "events" 2, .saved "default" "events" "ETLBatch",
          .draftCleanupFailed "events" "Draft store I/O failed: busy", .sessionReset false,
          .sessionReset true, .draftImported "events" 2 1 true,
          .saveStarted "default" "events" 2, .saved "default" "events" "ETLBatch",
          .draftCleared "events", .sessionReset false,
          .saveStarted "other" "events" 2, .saved "other" "events" "ETLBatch",
          .sessionReset false] := by
  intro graph ops store w es
  obtain ⟨hrun, hsaved, htruthful⟩ := audit_run ops w
  exact ⟨FalteringStore.failuresKeep, hrun, hsaved, htruthful, by decide +kernel⟩

end Operation

end PipelineCanvas
