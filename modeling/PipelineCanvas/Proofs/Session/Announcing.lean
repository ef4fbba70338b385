import PipelineCanvas.Proofs.Session.Accepting
import PipelineCanvas.Proofs.Session.Placing
import PipelineCanvas.Proofs.Session.Resolving
import PipelineCanvas.Proofs.Session.Routine

/-!
# What listeners hear

There are three occasions on which a session has news: a node is placed, the session starts
anew, and the pipeline is found invalid. Each stands at one or two places inside of operations
that go on after it or have come a long way before it, so what matters is that all the rest is
done in silence. An action is *discreet* if nobody hears of it, those who listen stay, and its
failures, if it has any, are not about an invalid pipeline. Every operation is discreet, but for
the two that change who listens and for five that have news; and the news of those five are what
can be read off the operation and its answer.

* `World.Silent` – a world in which nobody has heard anything since another;
* `Action.Discreet` – an action that nobody hears of, and **`Operation.discreet_perform`**;
* `World.Tells` – a world in which those who listen have heard some news;
* `Session.run_addNode` – placing a node, which is heard of before the backend is asked;
* `Step.announced`, `Step.heard` – the news of a step, and who hears them;
* **`Operation.tells_step`** – they hear just that, and go on listening;
* `Step.Places` – what comes of placing a node;
* **`Operation.announcing_run`** – what listeners hear in any run.
-/

namespace PipelineCanvas

open PipelineCanvas.Action

variable {β σ α : Type}

/-! ### Silence -/

/-- Nobody hears of what is only noted in the log. -/
theorem Effect.news?_of_isNote {e : Effect} (h : e.isNote = true) : e.news? = none := by
  cases e with
  | told listener news => cases h
  | _ => rfl

namespace World

variable {w w' w'' : World β σ}

/-- A world in which nobody has heard anything since another, and the same listen. -/
structure Silent (w w' : World β σ) : Prop where
  listeners_eq : w'.session.listeners = w.session.listeners
  untold : ∃ es : List Effect, (∀ e ∈ es, e.news? = none) ∧ w'.effects = w.effects ++ es

theorem Silent.refl (w : World β σ) : w.Silent w := ⟨rfl, [], by simp, by simp⟩

theorem Silent.trans (h : w.Silent w') (h' : w'.Silent w'') : w.Silent w'' := by
  obtain ⟨hlisteners, es, hes, heffects⟩ := h
  obtain ⟨hlisteners', fs, hfs, heffects'⟩ := h'
  refine ⟨hlisteners'.trans hlisteners, es ++ fs, fun e he => ?_, ?_⟩
  · exact (List.mem_append.mp he).elim (hes e) (hfs e)
  · rw [heffects', heffects, List.append_assoc]

theorem Silent.news_eq (h : w.Silent w') : w'.news = w.news := by
  obtain ⟨-, es, hes, heffects⟩ := h
  rw [news, heffects, List.filterMap_append, List.filterMap_eq_nil_iff.mpr hes, List.append_nil]
  rfl

/-- One effect of which nobody hears. -/
theorem Silent.of_effect {e : Effect} (he : e.news? = none)
    (hlisteners : w'.session.listeners = w.session.listeners)
    (heffects : w'.effects = w.effects ++ [e]) : w.Silent w' :=
  ⟨hlisteners, [e], by simpa using he, heffects⟩

theorem Notes.silent (h : w.Notes w') : w.Silent w' := by
  obtain ⟨es, hes, rfl⟩ := h
  exact ⟨rfl, es, fun e he => Effect.news?_of_isNote (hes e he), rfl⟩

theorem silent_submitting [Backend β] (w : World β σ) (r : SaveRequest) :
    w.Silent (w.submitting r) := .of_effect rfl rfl rfl

theorem silent_reading [DraftStore σ] (w : World β σ) : w.Silent w.reading :=
  .of_effect rfl rfl rfl

theorem silent_writing [DraftStore σ] (w : World β σ) (drafts : List (String × Json)) :
    w.Silent (w.writing drafts) := .of_effect rfl rfl rfl

end World

/-! ### Discreet actions -/

/-- An action that nobody hears of, under which the same keep listening, and which does not
fail because the pipeline is invalid. -/
def Action.Discreet (a : Action β σ α) : Prop :=
  ∀ w, w.Silent (run a w).2 ∧ ∀ problems, (run a w).1 ≠ .error (.invalid problems)

/-- Nobody hears of what is routine. -/
theorem World.Routinely.silent [Backend β] [DraftStore σ] {w w' : World β σ}
    (h : w.Routinely w') : w.Silent w' := by
  obtain ⟨hlisteners, es, hes, hw'⟩ := h
  exact ⟨hlisteners, es, fun e he => Effect.news?_of_isRoutine (hes e he), hw' ▸ rfl⟩

theorem Action.Routine.discreet [Backend β] [DraftStore σ] {a : Action β σ α} (h : Routine a) :
    Discreet a := fun w => ⟨(h w).1.silent, (h w).2⟩

/-- **Nobody hears of a discreet operation.** -/
theorem Operation.discreet_perform [Backend β] [DraftStore σ] {op : Operation}
    (hop : op.isDiscreet = true) : Discreet (op.perform : Action β σ Reply) :=
  (routine_perform hop).discreet

/-! ### News -/

/-- Those who hear some news, in their order, each with it. -/
def Session.hearing (s : Session) (news : News) : List (String × News) :=
  (s.listeners.on news.channel).map fun l => (l, news)

namespace World

variable {w w₁ w₂ : World β σ} {news : News}

/-- A world in which those who listen have heard some news since another, and nothing else, and
the same listen. -/
structure Tells (news : List News) (w w' : World β σ) : Prop where
  listeners_eq : w'.session.listeners = w.session.listeners
  news_eq : w'.news = w.news ++ news.flatMap w.session.hearing

theorem Silent.tells (h : w.Silent w₁) : w.Tells [] w₁ :=
  ⟨h.listeners_eq, by simp [h.news_eq]⟩

theorem Tells.single (hlisteners : w₁.session.listeners = w.session.listeners)
    (hnews : w₁.news = w.news ++ w.session.hearing news) : w.Tells [news] w₁ :=
  ⟨hlisteners, by rw [hnews, List.flatMap_singleton]⟩

/-- News between things that nobody hears of. -/
theorem Silent.tells_telling (h : w.Silent w₁) (h' : (w₁.telling news).Silent w₂) :
    w.Tells [news] w₂ := by
  refine .single (h'.listeners_eq.trans h.listeners_eq) ?_
  rw [h'.news_eq, news_telling, h.news_eq, h.listeners_eq]
  rfl

end World

/-! ### Placing a node -/

namespace NodeTable

/-- A node is placed in the slot behind all others of the role. -/
theorem placed_eq (t : NodeTable) (n : Node) (role : Role) :
    t.placed n role = (n.inSlot role
      {id | id ≠ n.id ∧ ∃ m, t.get? id = some m ∧ m.role = role}.ncard).reconcile := by
  rw [← roleCount_erase]
  rfl

theorem id_placed (t : NodeTable) (n : Node) (role : Role) : (t.placed n role).id = n.id := by
  unfold placed Node.reconcile
  split <;> rfl

end NodeTable

namespace Node

/-- A node stands as it was placed, until the backend tells the contract that it lacks. -/
theorem settled_cases [Backend β] (n : Node) (role : Role) (before : Nat)
    (template : TemplateKind) (b : β) :
    let placed := (n.inSlot role before).reconcile
    n.settled role before template b = placed ∨
      n.contract = none ∧ ∃ answers,
        (Backend.fetch (placed.query template none) b).1 = .ok answers ∧
          n.settled role before template b =
            placed.applyContract (PluginProperties.contract answers) := by
  intro placed
  unfold settled
  cases hcontract : n.contract with
  | some contract => exact .inl rfl
  | none =>
    have hplaced : placed = n.inSlot role before := by
      simp [placed, reconcile, inSlot, hcontract]
    rw [hplaced]
    cases hfetch : (Backend.fetch ((n.inSlot role before).query template none) b).1 with
    | error e => exact .inl rfl
    | ok answers => exact .inr ⟨rfl, answers, rfl, rfl⟩

end Node

namespace Session

variable [Backend β] [DraftStore σ]

/-- **Those who listen hear of a node as it was placed,** and what comes behind it, asking the
backend for a contract that the node lacks, is discreet. It can fail only where the backend
does. -/
theorem run_addNode (n : Node) (role : Role) (w : World β σ) :
    let placed := w.session.nodes.placed n role
    let added := run (addNode n role : Action β σ Unit) w
    ∃ w₁ : World β σ,
      World.Notes
        { w with session := { w.session with nodes := w.session.nodes.place n role } } w₁ ∧
      (w₁.telling (.added placed role)).Silent added.2 ∧
      ∀ e, added.1 = .error e → ∃ cause, e = .backend cause ∧
        (Backend.fetch (placed.query w.session.activeTemplate none) w.backend).1 =
          .error cause := by
  intro placed added
  have hlogged := World.notes_logged
    { w with session := { w.session with nodes := w.session.nodes.place n role } }
    (.nodeAdded n.id n.name role.name placed.isReady) []
  generalize hw₁ : ({ w with
    session := { w.session with nodes := w.session.nodes.place n role }
    effects := w.effects ++ [.logged (.nodeAdded n.id n.name role.name placed.isReady) []] } :
      World β σ) = w₁ at hlogged
  refine ⟨w₁, hlogged, ?_⟩
  have hrun : added = run (if !placed.isReady then
      resolveNode n.id w.session.activeTemplate none else pure ())
        (w₁.telling (.added placed role)) := by
    rw [← hw₁]
    simp only [added, addNode, run_bind, run_session, run_update, run_log, run_tell]
    rfl
  rw [hrun]
  split
  · have hid : placed.id = n.id := w.session.nodes.id_placed n role
    have hthere : (w₁.telling (.added placed role)).session.nodes.get? placed.id = some placed := by
      rw [hid]
      exact hlogged.session_eq ▸ OrderedMap.get?_insert_self ..
    obtain ⟨w₂, -, hresolve⟩ := run_resolveNode hthere w.session.activeTemplate
    have hbackend : (w₁.telling (.added placed role)).backend = w.backend := hlogged.backend_eq
    refine ⟨((routine_resolveNode _ _ _).discreet _).1, fun e he => ?_⟩
    rw [← hid, hresolve, hbackend] at he
    split at he
    · cases he
    · next cause hcause => exact ⟨cause, (Except.error.inj he).symm, hcause⟩
  · refine ⟨.refl _, fun e he => ?_⟩
    cases he

end Session

variable [Backend β] [DraftStore σ]

/-! ### What a step announces -/

namespace Step

variable {s : Step β σ}

/-- A node that is placed is announced, under its role and in its slot. -/
def placements (s : Step β σ) : List News :=
  match s.operation with
  | .addNode n role => [.added (s.before.session.nodes.placed n role) role]
  | _ => []

/-- That the session starts anew is announced: on request, when the backend took the pipeline,
and when a draft was opened. -/
def renewals (s : Step β σ) : List News :=
  match s.operation, s.answer with
  | .reset _, _ => [.reset]
  | .save _, .ok _ => [.reset]
  | .importDraft _, .ok _ => [.reset]
  | _, _ => []

/-- That the pipeline is invalid is announced when the operation fails for it. -/
def refusals (s : Step β σ) : List News :=
  match s.answer with
  | .error (.invalid problems) => [.invalid problems]
  | _ => []

/-- What is announced in a step. -/
def announced (s : Step β σ) : List News := s.placements ++ s.renewals ++ s.refusals

/-- Who hears what in a step. -/
def heard (s : Step β σ) : List (String × News) :=
  s.announced.flatMap s.before.session.hearing

theorem refusals_of_ne (h : ∀ problems, s.answer ≠ .error (.invalid problems)) :
    s.refusals = [] := by
  unfold refusals
  split
  · next problems hanswer => exact absurd hanswer (h problems)
  · rfl

theorem announced_of_isDiscreet (hop : s.operation.isDiscreet = true)
    (h : ∀ problems, s.answer ≠ .error (.invalid problems)) : s.announced = [] := by
  have hnone : s.placements = [] ∧ s.renewals = [] := by
    unfold placements renewals
    constructor <;> split <;> simp_all [Operation.isDiscreet]
  rw [announced, hnone.1, hnone.2, refusals_of_ne h]
  rfl

end Step

namespace Operation

variable (w : World β σ)

/-- What a placed node announces does not depend on whether the backend tells its contract. -/
theorem announced_addNode (n : Node) (role : Role) :
    Step.announced ⟨w, .addNode n role⟩ = [.added (w.session.nodes.placed n role) role] := by
  obtain ⟨w₁, -, -, hfails⟩ := Session.run_addNode n role w
  have hrefusals : Step.refusals ⟨w, .addNode n role⟩ = [] := by
    refine Step.refusals_of_ne fun problems h => ?_
    obtain ⟨cause, hcause, -⟩ := hfails _ (congrArg Prod.fst (run_of_step_error _ rfl h))
    cases hcause
  rw [Step.announced, hrefusals]
  rfl

theorem tells_addNode (n : Node) (role : Role) :
    w.Tells (Step.announced ⟨w, .addNode n role⟩) ((addNode n role).step w).2 := by
  obtain ⟨w₁, hw, hsilent, -⟩ := Session.run_addNode n role w
  have hstep := step_of_perform_eq (addNode n role) (Session.addNode n role) (fun _ => .done) rfl w
  rw [announced_addNode, hstep]
  -- placing the node does not concern those who listen
  exact World.Silent.tells_telling ⟨hw.silent.listeners_eq, hw.silent.untold⟩ hsilent

theorem tells_reset (keepName : Bool) :
    w.Tells (Step.announced ⟨w, .reset keepName⟩) ((reset keepName).step w).2 := by
  obtain ⟨w₁, hw, hrun⟩ := Session.run_reset keepName w
  have hstep := step_of_perform_eq (reset keepName) (Session.reset keepName) (fun _ => .done) rfl w
  rw [hrun] at hstep
  have hannounced : Step.announced ⟨w, .reset keepName⟩ = [.reset] := by
    simp [Step.announced, Step.placements, Step.renewals, Step.refusals, Step.answer, hstep,
      Except.map]
  rw [hannounced, hstep]
  exact World.Silent.tells_telling ⟨hw.silent.listeners_eq, hw.silent.untold⟩ (.refl _)

theorem tells_saveDraft : w.Tells (Step.announced ⟨w, .saveDraft⟩) (saveDraft.step w).2 := by
  have hstep := step_of_perform_eq saveDraft Session.saveDraft (fun _ => .done) rfl w
  have hrun := Session.saveDraftRun w
  generalize run (Session.saveDraft : Action β σ Unit) w = r at hrun hstep
  simp only [Step.announced, Step.placements, Step.renewals, Step.refusals, Step.answer, hstep]
  cases hrun with
  | refused hverdict hw => exact hw.silent.tells_telling (.refl _)
  | unread hw hget => exact (hw.silent.trans (World.silent_reading _)).tells
  | unwritten hw hget hset =>
    exact ((hw.silent.trans (World.silent_reading _)).trans (World.silent_writing _ _)).tells
  | stored hw hget hset hnotes =>
    exact (((hw.silent.trans (World.silent_reading _)).trans
      (World.silent_writing _ _)).trans hnotes.silent).tells

theorem tells_importDraft (name : String) :
    w.Tells (Step.announced ⟨w, .importDraft name⟩) ((importDraft name).step w).2 := by
  have hstep := step_of_perform_eq (importDraft name) (Session.importDraft name)
    (fun _ => .done) rfl w
  have hrun := Session.importDraftRun name w
  simp only [Step.announced, Step.placements, Step.renewals, Step.refusals, Step.answer, hstep]
  rcases hr : run (Session.importDraft name : Action β σ Unit) w with ⟨answer, w'⟩
  rw [hr] at hrun
  cases hrun with
  | unread hget => exact (World.silent_reading w).tells
  | missing hget hmissing => exact (World.silent_reading w).tells
  | undecodable hget hstored hdecode => exact (World.silent_reading w).tells
  | opened hget hstored hdecode hsession =>
    obtain ⟨w₁, hw, hreset⟩ := Session.run_reset true w.reading
    simp only [Session.importDraft, run_bind, Session.run_readDrafts, hget, hstored, hdecode,
      orFail, run_pure, hreset, run_update, run_session, run_log] at hr
    cases hr
    -- what is loaded once the listeners have been told does not concern them
    have hsilent : w.Silent w₁ :=
      (World.silent_reading w).trans ⟨hw.silent.listeners_eq, hw.silent.untold⟩
    exact hsilent.tells_telling (.of_effect (e := .logged _ _) rfl rfl rfl)

theorem tells_save (nameSpace : String) :
    w.Tells (Step.announced ⟨w, .save nameSpace⟩) ((save nameSpace).step w).2 := by
  have hstep := step_of_perform_eq (save nameSpace) (Session.save nameSpace) .text rfl w
  have hrun := Session.saveRun nameSpace w
  generalize run (Session.save nameSpace : Action β σ String) w = r at hrun hstep
  cases hrun with
  | refused hverdict hw =>
    simp only [Step.announced, Step.placements, Step.renewals, Step.refusals, Step.answer, hstep]
    exact hw.silent.tells_telling (.refl _)
  | rejected hverdict hw hsubmit hnotes =>
    simp only [Step.announced, Step.placements, Step.renewals, Step.refusals, Step.answer, hstep]
    exact ((hw.silent.trans (World.silent_submitting _ _)).trans hnotes.silent).tells
  | taken hverdict hw hsubmit hnotes hquiet hstore =>
    obtain ⟨hanswer, hconcludes, -⟩ := step_save_concludes nameSpace hverdict hsubmit
    simp only [Step.announced, Step.placements, Step.renewals, Step.refusals, Step.answer, hanswer]
    exact .single hconcludes.listeners_eq hconcludes.news_eq

theorem tells_of_isDiscreet {op : Operation} (hop : op.isDiscreet = true) :
    w.Tells (Step.announced ⟨w, op⟩) (op.step w).2 := by
  obtain ⟨hsilent, hvalid⟩ := discreet_perform (β := β) (σ := σ) hop w
  have hannounced : Step.announced ⟨w, op⟩ = [] := Step.announced_of_isDiscreet hop hvalid
  rw [hannounced]
  exact hsilent.tells

/-- The operations that change who listens. -/
def isSubscribing : Operation → Bool
  | .subscribe .. => true
  | .unsubscribe _ => true
  | _ => false

/-- **What a step announces is heard by those who listen,** and nothing else is heard; they go on
listening, unless it is they whom the step is about. -/
theorem tells_step {op : Operation} (hop : op.isSubscribing = false) :
    w.Tells (Step.announced ⟨w, op⟩) (op.step w).2 := by
  cases op with
  | addNode n role => exact tells_addNode w n role
  | save nameSpace => exact tells_save w nameSpace
  | saveDraft => exact tells_saveDraft w
  | importDraft name => exact tells_importDraft w name
  | reset keepName => exact tells_reset w keepName
  | subscribe channel listener => cases hop
  | unsubscribe subscription => cases hop
  | _ => exact tells_of_isDiscreet w rfl

end Operation

namespace Step

/-- **What is announced in a step is heard,** by those who listened before it, and nothing else
is heard. -/
theorem news_after (s : Step β σ) : s.after.news = s.before.news ++ s.heard := by
  obtain ⟨w, op⟩ := s
  by_cases hop : op.isSubscribing = false
  · exact (Operation.tells_step w hop).news_eq
  · cases op with
    | subscribe channel listener => exact (List.append_nil _).symm
    | unsubscribe subscription => exact (List.append_nil _).symm
    | _ => exact absurd rfl hop

/-- **Who listens goes on listening,** unless the step ends just that subscription. -/
theorem mem_active_after {s : Step β σ} {e : Subscription × String}
    (he : e ∈ s.before.session.listeners.active) (hends : s.operation ≠ .unsubscribe e.1) :
    e ∈ s.after.session.listeners.active := by
  obtain ⟨w, op⟩ := s
  by_cases hop : op.isSubscribing = false
  · exact (Operation.tells_step w hop).listeners_eq ▸ he
  · cases op with
    | subscribe channel listener => exact List.mem_append_left _ he
    | unsubscribe subscription =>
      exact List.mem_filter.mpr ⟨he, bne_iff_ne.mpr fun heq => hends (heq ▸ rfl)⟩
    | _ => exact absurd rfl hop

/-- Who listens on the channel of some news hears them. -/
theorem mem_heard {s : Step β σ} {e : Subscription × String} {news : News}
    (he : e ∈ s.before.session.listeners.active) (hnews : news ∈ s.announced)
    (hchannel : news.channel = e.1.channel) : (e.2, news) ∈ s.heard := by
  refine List.mem_flatMap.mpr ⟨news, hnews, List.mem_map.mpr ⟨e.2, ?_, rfl⟩⟩
  exact List.mem_map.mpr ⟨e, List.mem_filter.mpr ⟨he, beq_iff_eq.mpr hchannel.symm⟩, rfl⟩

end Step

namespace Operation

/-- **What is heard in a run is what its steps announce.** -/
theorem news_runAll (ops : List Operation) (w : World β σ) :
    (runAll ops w).news = w.news ++ (history ops w).flatMap Step.heard := by
  induction ops generalizing w with
  | nil => simp [runAll, history]
  | cons op ops ih =>
    have hstep : (op.step w).2.news = w.news ++ Step.heard ⟨w, op⟩ := Step.news_after ⟨w, op⟩
    have hrun : runAll (op :: ops) w = runAll ops (op.step w).2 := rfl
    rw [hrun, ih, hstep, history, List.flatMap_cons, List.append_assoc]

/-- Who listens still does behind a run that does not end the subscription. -/
theorem mem_active_runAll {ops : List Operation} {w : World β σ} {e : Subscription × String}
    (he : e ∈ w.session.listeners.active) (hops : .unsubscribe e.1 ∉ ops) :
    e ∈ (runAll ops w).session.listeners.active := by
  induction ops generalizing w with
  | nil => exact he
  | cons op ops ih =>
    have hstep : op ≠ .unsubscribe e.1 := fun h => hops (h ▸ List.mem_cons_self ..)
    exact ih (Step.mem_active_after (s := ⟨w, op⟩) he hstep)
      fun h => hops (List.mem_cons_of_mem _ h)

/-- **A node is announced before the backend is asked** for the contract that it lacks. -/
theorem effects_step_addNode (n : Node) (role : Role) (w : World β σ) :
    ∃ telling asking : List Effect,
      ((addNode n role).step w).2.effects = w.effects ++ telling ++ asking ∧
      telling.filterMap Effect.news? = Step.heard ⟨w, .addNode n role⟩ ∧
      (∀ e ∈ telling, e.isBackendCall = false) ∧ ∀ e ∈ asking, e.news? = none := by
  obtain ⟨w₁, ⟨notes, hnotes, hw₁⟩, ⟨-, asking, hasking, heffects⟩, -⟩ :=
    Session.run_addNode n role w
  have hheard : Step.heard ⟨w, .addNode n role⟩ =
      w.session.hearing (.added (w.session.nodes.placed n role) role) := by
    rw [Step.heard, announced_addNode, List.flatMap_singleton]
  rw [step_of_perform_eq (addNode n role) (Session.addNode n role) (fun _ => .done) rfl, hheard]
  refine ⟨notes ++ (w.session.hearing (.added (w.session.nodes.placed n role) role)).map
    fun e => .told e.1 e.2, asking, ?_, ?_, ?_, hasking⟩
  · refine heffects.trans (congrArg (· ++ asking) ?_)
    rw [hw₁, World.telling, Session.hearing, List.map_map, List.append_assoc]
    rfl
  · have hnone : notes.filterMap Effect.news? = [] :=
      List.filterMap_eq_nil_iff.mpr fun e he => Effect.news?_of_isNote (hnotes e he)
    rw [List.filterMap_append, hnone, List.filterMap_map]
    exact List.filterMap_some
  · intro e he
    rcases List.mem_append.mp he with hnote | htold
    · have := hnotes e hnote
      cases e <;> simp_all [Effect.isNote, Effect.isBackendCall]
    · obtain ⟨_, -, rfl⟩ := List.mem_map.mp htold
      rfl

end Operation

/-- What comes of placing a node under a role, in the slot behind all other nodes of the role. It
is announced as it was put there, and before the backend is asked for anything; and it stands
there as it was announced, unless the backend tells the contract that it lacks. -/
structure Step.Places (s : Step β σ) (n : Node) (role : Role) (placed : Node) : Prop where
  placed_eq : placed = (n.inSlot role {id | id ≠ n.id ∧ ∃ m,
    s.before.session.nodes.get? id = some m ∧ m.role = role}.ncard).reconcile
  announced_eq : s.announced = [.added placed role]
  telling_asking : ∃ telling asking : List Effect,
    s.after.effects = s.before.effects ++ telling ++ asking ∧
      telling.filterMap Effect.news? = s.heard ∧ (∀ e ∈ telling, e.isBackendCall = false) ∧
      ∀ e ∈ asking, e.news? = none
  stored : s.after.session.nodes.get? n.id = some placed ∨
    n.contract = none ∧ ∃ answers, (Backend.fetch
      (placed.query s.before.session.activeTemplate none) s.before.backend).1 = .ok answers ∧
      s.after.session.nodes.get? n.id =
        some (placed.applyContract (PluginProperties.contract answers))
  stored_of_error : ∀ e, s.answer = .error e → s.after.session.nodes.get? n.id = some placed

namespace Operation

theorem places_addNode (n : Node) (role : Role) (w : World β σ) :
    Step.Places ⟨w, .addNode n role⟩ n role (w.session.nodes.placed n role) := by
  have hplaced := w.session.nodes.placed_eq n role
  have hafter := (get?_step_addNode n role w n.id).trans (if_pos rfl)
  have hsettled := Node.settled_cases n role {id | id ≠ n.id ∧ ∃ m,
    w.session.nodes.get? id = some m ∧ m.role = role}.ncard w.session.activeTemplate w.backend
  dsimp only at hsettled
  rw [← hplaced] at hsettled
  refine ⟨hplaced, announced_addNode w n role, effects_step_addNode n role w, ?_, fun e he => ?_⟩
  · rcases hsettled with hsettled | ⟨hcontract, answers, hfetch, hsettled⟩
    · exact .inl (hafter.trans (congrArg some hsettled))
    · exact .inr ⟨hcontract, answers, hfetch, hafter.trans (congrArg some hsettled)⟩
  · obtain ⟨w₁, -, -, hfails⟩ := Session.run_addNode n role w
    obtain ⟨cause, -, hcause⟩ := hfails e (congrArg Prod.fst (run_of_step_error _ rfl he))
    rcases hsettled with hsettled | ⟨-, answers, hfetch, -⟩
    · exact hafter.trans (congrArg some hsettled)
    · cases hcause.symm.trans hfetch

/-- **What listeners hear.** In any run, with whatever backend and draft store, they hear what
the steps announce, in that order, and nothing else: that a node was placed, that the session
starts anew, that the pipeline is invalid. A node is announced as it was placed, before the
backend is asked about it. And whoever listens hears all that is announced on its channel until
it is itself taken off, whatever else is done. -/
theorem announcing_run (ops : List Operation) (w : World β σ) :
    (runAll ops w).news = w.news ++ (history ops w).flatMap Step.heard ∧
      (∀ s ∈ history ops w, ∀ n role, s.operation = .addNode n role →
        ∃ placed, s.Places n role placed) ∧
      ∀ earlier between op later, ops = earlier ++ between ++ op :: later →
        ∀ e ∈ (runAll earlier w).session.listeners.active, .unsubscribe e.1 ∉ between →
          let s : Step β σ := ⟨runAll between (runAll earlier w), op⟩
          s ∈ history ops w ∧
            ∀ news ∈ s.announced, news.channel = e.1.channel → (e.2, news) ∈ s.heard := by
  refine ⟨news_runAll ops w, fun s _ n role hop => ?_,
    fun earlier between op later hops e he hbetween => ⟨?_, fun news hnews hchannel => ?_⟩⟩
  · obtain ⟨w, op⟩ := s
    cases hop
    exact ⟨_, places_addNode n role w⟩
  · refine mem_history_iff.mpr ⟨earlier ++ between, later, hops, ?_⟩
    exact (runAll_append earlier between w).symm
  · exact Step.mem_heard (mem_active_runAll he hbetween) hnews hchannel

/-- A node of a plugin that the backend does not know is placed, and placed again once the session
has started anew; the listener for nodes hears of both. Between them, saving is refused. -/
theorem announcing_run_unknown_plugin :
    let n : Node := .fresh "a" "Stream" .source
    let subscribing : List Operation :=
      [.subscribe .added "ruler", .subscribe .reset "palette", .subscribe .invalid "panel"]
    let between : List Operation := [.addNode n .source, .reset false, .save "default"]
    let ops := subscribing ++ between ++ [.addNode n .sink]
    let w : World CatalogBackend MemoryStore := World.fresh .empty .empty
    let first : Step CatalogBackend MemoryStore := ⟨runAll subscribing w, .addNode n .source⟩
    (runAll ops w).news =
        [("ruler", .added (n.inSlot .source 0) .source), ("palette", .reset),
          ("panel", .invalid Session.fresh.verdict.1),
          ("ruler", .added (n.inSlot .sink 0) .sink)] ∧
      first.answer =
        .error (.backend (.unknownPlugin "source" "Stream" TemplateKind.batch.name)) ∧
      first.after.session.nodes.get? "a" = some (n.inSlot .source 0) ∧
      ("ruler", .added (n.inSlot .sink 0) .sink) ∈
        Step.heard ⟨runAll between (runAll subscribing w), .addNode n .sink⟩ := by
  intro n subscribing between ops w first
  have hanswer : first.answer =
      .error (.backend (.unknownPlugin "source" "Stream" TemplateKind.batch.name)) := rfl
  have hheard : w.news ++ (history ops w).flatMap Step.heard =
      [("ruler", .added (n.inSlot .source 0) .source), ("palette", .reset),
        ("panel", .invalid Session.fresh.verdict.1),
        ("ruler", .added (n.inSlot .sink 0) .sink)] := by decide +kernel
  have hannounced : first.announced = [.added (n.inSlot .source 0) .source] := by decide +kernel
  have hagain : Step.announced ⟨runAll between (runAll subscribing w), .addNode n .sink⟩ =
      [.added (n.inSlot .sink 0) .sink] := by decide +kernel
  have hlistens : (⟨.added, 1⟩, "ruler") ∈ (runAll subscribing w).session.listeners.active := by
    decide +kernel
  obtain ⟨hnews, hplaces, hhears⟩ := announcing_run ops w
  obtain ⟨placed, hplaced⟩ := hplaces first
    (mem_history_iff.mpr ⟨subscribing, between.tail ++ [.addNode n .sink], rfl, rfl⟩) n .source rfl
  obtain ⟨-, hhears⟩ := hhears subscribing between (.addNode n .sink) [] rfl _ hlistens
    (by simp [between])
  refine ⟨hnews.trans hheard, hanswer, ?_, hhears _ (hagain ▸ List.mem_singleton_self _) rfl⟩
  rw [hplaced.announced_eq] at hannounced
  cases hannounced
  exact hplaced.stored_of_error _ hanswer

end Operation

end PipelineCanvas
