import PipelineCanvas.Proofs.Flattening.Reporting
import PipelineCanvas.Proofs.Session.Replaying

/-!
# What is routine

Most of what a session does leaves little behind: the canvas changes, a contract is asked for,
drafts are looked at, and the log says so. An action is *routine* if nothing else comes of it.
Those who listen hear nothing of it and stay, no pipeline is handed over, nothing is written to
the store, and the log has none of the lines that an audit goes by. Every operation is routine but
for seven: the two that change who listens, and the five that place a node, save, store a draft,
open one, or empty the canvas.

* `Topic`, `Notice.topic?` – the lines about saving, drafts and resets;
* `World.Routinely`, `Action.Routine` – worlds that come routinely out of another, and actions
  that lead only to such;
* **`Operation.routine_perform`** – all but seven operations are routine.
-/

namespace PipelineCanvas

open PipelineCanvas.Action

variable {β σ α γ : Type}

/-! ### Routine effects -/

/-- What an audit asks about: what became of a pipeline, of its draft, of drafts that are stored
and opened, and of the canvas. -/
inductive Topic where
  | saving
  | dropping
  | storing
  | opening
  | resetting
deriving DecidableEq

/-- The topic of a line, if it is one that an audit goes by. -/
def Notice.topic? : Notice → Option Topic
  | .saveStarted .. | .saved .. | .saveRejected .. => some .saving
  | .draftCleared _ | .draftCleanupFailed .. => some .dropping
  | .draftSaved .. => some .storing
  | .draftImported .. => some .opening
  | .sessionReset _ => some .resetting
  | _ => none

/-- Whether an effect is routine. -/
def Effect.isRoutine : Effect → Bool
  | .logged notice _ => notice.topic?.isNone
  | .opened _ | .fetched _ | .storeRead _ => true
  | .submitted _ | .storeWritten .. | .told .. => false

theorem Effect.news?_of_isRoutine {e : Effect} (h : e.isRoutine = true) : e.news? = none := by
  cases e with
  | told listener news => cases h
  | _ => rfl

/-- Flattening is not audited. -/
theorem topic?_of_mem_flatten {nodes : NodeTable} {edges : Edges} {m : Metadata} {n : Notice}
    (h : n ∈ (flatten nodes edges m).notices) : n.topic? = none := by
  rw [notices_flatten] at h
  rcases List.mem_append.mp h with hwarning | hsummary
  · rcases List.mem_append.mp hwarning with hdangling | homitted
    · obtain ⟨e, -, rfl⟩ := List.mem_map.mp hdangling
      rfl
    · split at homitted
      · cases homitted
      · rw [List.mem_singleton.mp homitted]
        rfl
  · rw [List.mem_singleton.mp hsummary]
    rfl

/-- Lines that are not audited are routine. -/
theorem Effect.isRoutine_of_mem_logged {notices : List Notice}
    (h : ∀ n ∈ notices, n.topic? = none) :
    ∀ e ∈ notices.map (Effect.logged · []), e.isRoutine = true := by
  intro e he
  obtain ⟨n, hn, rfl⟩ := List.mem_map.mp he
  rw [Effect.isRoutine, h n hn]
  rfl

variable [Backend β] [DraftStore σ]

namespace World

variable {w w' w'' : World β σ}

/-- A world that comes routinely out of another. -/
structure Routinely (w w' : World β σ) : Prop where
  listeners_eq : w'.session.listeners = w.session.listeners
  replays : ∃ es : List Effect, (∀ e ∈ es, e.isRoutine = true) ∧ w' = w.replaying es w'.session

theorem Routinely.refl (w : World β σ) : w.Routinely w :=
  ⟨rfl, [], List.forall_mem_nil _, (w.replaying_nil _).symm⟩

theorem Routinely.trans (h : w.Routinely w') (h' : w'.Routinely w'') : w.Routinely w'' := by
  obtain ⟨hlisteners, es, hes, hw'⟩ := h
  obtain ⟨hlisteners', fs, hfs, hw''⟩ := h'
  refine ⟨hlisteners'.trans hlisteners, es ++ fs, fun e he => ?_, ?_⟩
  · exact (List.mem_append.mp he).elim (hes e) (hfs e)
  · rw [hw', replaying_replaying] at hw''
    exact hw''

/-- The session may be rewritten, but for those who listen. -/
theorem Routinely.of_session {s : Session} (h : s.listeners = w.session.listeners) :
    w.Routinely { w with session := s } :=
  ⟨h, [], List.forall_mem_nil _, (w.replaying_nil s).symm⟩

theorem routinely_replaying {es : List Effect} (hes : ∀ e ∈ es, e.isRoutine = true) :
    w.Routinely (w.replaying es w.session) := ⟨rfl, es, hes, rfl⟩

end World

/-! ### Routine actions -/

/-- An action that leads only to worlds that come routinely out of those before, and does not fail
because the pipeline is invalid. -/
def Action.Routine (a : Action β σ α) : Prop :=
  ∀ w, w.Routinely (run a w).2 ∧ ∀ problems, (run a w).1 ≠ .error (.invalid problems)

namespace Action.Routine

protected theorem pure (a : α) : Routine (pure a : Action β σ α) := fun w => ⟨.refl w, nofun⟩

protected theorem throw {e : SessionError} (he : ∀ problems, e ≠ .invalid problems) :
    Routine (throw e : Action β σ α) := fun w =>
  ⟨.refl w, fun problems h => he problems (Except.error.inj h)⟩

protected theorem bind {a : Action β σ α} {f : α → Action β σ γ} (ha : Routine a)
    (hf : ∀ x, Routine (f x)) : Routine (a >>= f) := by
  intro w
  obtain ⟨hroutine, hvalid⟩ := ha w
  rw [run_bind]
  rcases hr : run a w with ⟨e | x, w'⟩
  · -- what failed stays as it is, and `f` is not asked
    rw [hr] at hroutine hvalid
    exact ⟨hroutine, fun problems h => hvalid problems (congrArg _ (Except.error.inj h))⟩
  · rw [hr] at hroutine
    exact ⟨hroutine.trans (hf x w').1, (hf x w').2⟩

/-- Doing something for each element of a list. -/
protected theorem forIn {l : List α} {f : α → Action β σ PUnit} (hf : ∀ a, Routine (f a)) :
    Routine (forIn l PUnit.unit fun a _ => do f a; pure (ForInStep.yield PUnit.unit)) := by
  induction l with
  | nil => exact .pure _
  | cons a l ih =>
    simp only [List.forIn_cons, bind_assoc, pure_bind]
    exact (hf a).bind fun _ => ih

protected theorem session : Routine (session : Action β σ Session) := fun w => ⟨.refl w, nofun⟩

protected theorem emit {e : Effect} (he : e.isRoutine = true) (hcall : e.isCall = false) :
    Routine (emit e : Action β σ Unit) := fun w => by
  have hw : w.Routinely (w.replaying [e] w.session) :=
    World.routinely_replaying (by simpa using he)
  rw [World.replaying_of_not_calls (by simpa using hcall)] at hw
  exact ⟨hw, nofun⟩

protected theorem log {notice : Notice} (h : notice.topic? = none) (within : List String) :
    Routine (log notice within : Action β σ Unit) :=
  .emit (by rw [Effect.isRoutine, h]; rfl) rfl

protected theorem logAll {notices : List Notice} (h : ∀ n ∈ notices, n.topic? = none) :
    Routine (logAll notices : Action β σ Unit) := fun w => by
  have hw : w.Routinely (w.replaying (notices.map (.logged · [])) w.session) :=
    World.routinely_replaying (Effect.isRoutine_of_mem_logged h)
  rw [World.replaying_of_not_calls (by simp [Effect.isCall, Effect.isBackendCall,
    Effect.isStoreCall])] at hw
  rw [run_logAll]
  exact ⟨hw, fun problems h => by cases h⟩

/-- The session may be rewritten, but for those who listen. -/
protected theorem update {f : Session → Session}
    (hf : ∀ s : Session, (f s).listeners = s.listeners) :
    Routine (update f : Action β σ Unit) := fun w => ⟨.of_session (hf w.session), nofun⟩

protected theorem orFail {ε : Type} {cause : ε → SessionError}
    (hcause : ∀ e problems, cause e ≠ .invalid problems) (r : Except ε α) :
    Routine (orFail cause r : Action β σ α) := by
  cases r with
  | ok a => exact .pure a
  | error e => exact .throw (hcause e)

protected theorem fetch (q : PropertyQuery) : Routine (fetch q : Action β σ _) := fun w =>
  have hw : w.Routinely (w.replaying [.fetched q] w.session) :=
    World.routinely_replaying (by simp [Effect.isRoutine])
  ⟨hw, nofun⟩

protected theorem readStore (key : String) : Routine (readStore key : Action β σ _) := fun w =>
  have hw : w.Routinely (w.replaying [.storeRead key] w.session) :=
    World.routinely_replaying (by simp [Effect.isRoutine])
  ⟨hw, nofun⟩

end Action.Routine

/-! ### Routine operations -/

namespace Session

theorem routine_resolved (n : Node) (template : TemplateKind) (scope : Option String) :
    Routine (n.resolved template scope : Action β σ Node) := by
  refine Routine.bind ?_ fun _ => .pure _
  refine (Routine.log rfl _).bind fun _ => (Routine.emit rfl rfl).bind fun _ =>
    (Routine.fetch _).bind fun answer => ?_
  cases answer with
  | ok answers => exact (Routine.log rfl _).bind fun _ => .pure _
  | error error => exact (Routine.log rfl _).bind fun _ => .throw nofun

theorem routine_resolveNode (id : String) (template : TemplateKind) (scope : Option String) :
    Routine (resolveNode id template scope : Action β σ Unit) := by
  refine Routine.session.bind fun s => ?_
  split
  · exact .pure _
  · exact (routine_resolved _ _ _).bind fun _ => .update fun _ => rfl

theorem routine_removeNode (id : String) :
    Routine (removeNode id : Action β σ (Option Node)) := by
  refine Routine.session.bind fun s => ?_
  split
  · exact .pure _
  · exact Routine.bind (.update fun _ => rfl) fun _ =>
      (Routine.log rfl _).bind fun _ => .pure _

theorem routine_resolvePending : Routine (resolvePending : Action β σ Nat) :=
  Routine.session.bind fun s =>
    (Routine.forIn fun id => routine_resolveNode id s.activeTemplate none).bind fun _ => .pure _

theorem routine_nodeOrFail (id : String) : Routine (nodeOrFail id : Action β σ Node) := by
  refine Routine.session.bind fun s => ?_
  split
  · exact .pure _
  · exact .throw nofun

theorem routine_changeNode (id : String) (f : Node → Node) :
    Routine (changeNode id f : Action β σ Unit) :=
  (routine_nodeOrFail id).bind fun _ => .update fun _ => rfl

theorem routine_edit (id : String) (scope : Option String) :
    Routine (edit id scope : Action β σ Editor) :=
  Routine.session.bind fun _ => (routine_nodeOrFail id).bind fun _ =>
    (routine_resolved _ _ _).bind fun _ => Routine.bind (.update fun _ => rfl) fun _ =>
      (Routine.log rfl _).bind fun _ => .pure _

theorem routine_finishEdit (editor : Editor) (outcome : Outcome) :
    Routine (finishEdit editor outcome : Action β σ Unit) :=
  Routine.bind (.update fun _ => rfl) fun _ => .log rfl _

theorem routine_teardown : Routine (teardown : Action β σ Unit) := by
  refine Routine.session.bind fun s => ?_
  split
  · exact .pure _
  · exact Routine.bind (.update fun _ => rfl) fun _ => .log rfl _

theorem routine_removeProperty (id key : String) :
    Routine (removeProperty id key : Action β σ (Option String)) :=
  (routine_nodeOrFail id).bind fun _ => (routine_changeNode id _).bind fun _ => .pure _

theorem routine_flattenCanvas : Routine (flattenCanvas : Action β σ Flattening) :=
  Routine.session.bind fun _ =>
    (Routine.logAll fun _ hn => topic?_of_mem_flatten hn).bind fun _ => .pure _

theorem routine_readOutline : Routine (readOutline : Action β σ Outline) :=
  routine_flattenCanvas.bind fun _ => .pure _

theorem routine_readSubmission : Routine (readSubmission : Action β σ Submission) :=
  routine_readOutline.bind fun _ => Routine.session.bind fun _ => .pure _

theorem routine_readDrafts : Routine (readDrafts : Action β σ (List (String × Json))) :=
  (Routine.readStore _).bind fun _ => (Routine.orFail nofun _).bind fun _ => .pure _

end Session

namespace Operation

/-- The operations of which nothing comes but what is routine, whatever they answer. -/
def isDiscreet : Operation → Bool
  | .addNode .. => false
  | .save _ => false
  | .saveDraft => false
  | .importDraft _ => false
  | .reset _ => false
  | .subscribe .. => false
  | .unsubscribe _ => false
  | _ => true

/-- **All but seven operations are routine.** -/
theorem routine_perform {op : Operation} (hop : op.isDiscreet = true) :
    Routine (op.perform : Action β σ Reply) := by
  cases op with
  | removeNode id => exact (Session.routine_removeNode id).bind fun _ => .pure _
  | lookUpNode id => exact Routine.session.bind fun _ => .pure _
  | addEdge edge => exact Routine.bind (.update fun _ => rfl) fun _ => .pure _
  | setEdges edges => exact Routine.bind (.update fun _ => rfl) fun _ => .pure _
  | loadGraph nodes edges => exact Routine.bind (.update fun _ => rfl) fun _ => .pure _
  | resolvePending => exact Session.routine_resolvePending.bind fun _ => .pure _
  | setMetadata metadata => exact Routine.bind (.update fun _ => rfl) fun _ => .pure _
  | setReadOnly value => exact Routine.bind (.update fun _ => rfl) fun _ => .pure _
  | edit id scope => exact (Session.routine_edit id scope).bind fun _ => .pure _
  | finishEdit editor outcome =>
    exact (Session.routine_finishEdit editor outcome).bind fun _ => .pure _
  | teardown => exact Session.routine_teardown.bind fun _ => .pure _
  | setOutputSchema id schema =>
    exact (Session.routine_changeNode id _).bind fun _ => .pure _
  | setProperty id key value => exact (Session.routine_changeNode id _).bind fun _ => .pure _
  | removeProperty id key => exact (Session.routine_removeProperty id key).bind fun _ => .pure _
  | flatten => exact Session.routine_flattenCanvas.bind fun _ => .pure _
  | readOutline => exact Session.routine_readOutline.bind fun _ => .pure _
  | readSubmission => exact Session.routine_readSubmission.bind fun _ => .pure _
  | draftNames => exact (Session.routine_readDrafts.bind fun _ => .pure _).bind fun _ => .pure _
  | _ => cases hop

end Operation

end PipelineCanvas
