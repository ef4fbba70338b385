import Mathlib.Data.List.TakeWhile
import PipelineCanvas.Proofs.Drafts.Candid
import PipelineCanvas.Proofs.Session.History
import PipelineCanvas.Proofs.Session.Trails

/-!
# Auditing the log

An audit compares what the log says with what has happened. What has happened is not read off the
log: the pipelines that the backend took and the calls that the store failed are found by making
the noted calls again, the drafts that were stored and dropped by looking into the store before
and after, and the resets by what listeners were told. For each topic of an audit there is one
list of effects that a step may leave about it, so a line is there exactly when what it says is
so.

* `Topic.among` – what of some effects is about a topic;
* `Step.effects`, `Step.upshots` – what reached out in a step, and what the calls came to;
* `Step.Truthful` – what the log of a step must say, and must not;
* **`Step.truthful_of_unaudited`** – a step of which nothing is audited is truthful if nothing
  has happened in it that should have been.
-/

namespace PipelineCanvas

open PipelineCanvas.Action

variable {β σ : Type}

/-! ### Topics -/

/-- The line that an effect writes to the log, if it does. -/
def Effect.notice? : Effect → Option Notice
  | .logged notice _ => some notice
  | _ => none

/-- The pipeline whose draft could not be dropped, and why. -/
def Notice.cleanupFailure? : Notice → Option (String × String)
  | .draftCleanupFailed pipeline error => some (pipeline, error)
  | _ => none

theorem Notice.cleanupFailure?_of_topic (n : Notice) (h : n.topic? ≠ some .dropping) :
    n.cleanupFailure? = none := by
  cases n with
  | draftCleanupFailed pipeline error => exact absurd rfl h
  | _ => rfl

/-- Whether a line says that a pipeline was saved. -/
def Notice.isSaved : Notice → Bool
  | .saved .. => true
  | _ => false

theorem Notice.isSaved_of_topic (n : Notice) (h : n.topic? ≠ some .saving) :
    n.isSaved = false := by
  cases n with
  | saved nameSpace pipeline template => exact absurd rfl h
  | _ => rfl

namespace Topic

variable {t : Topic} {es fs : List Effect}

/-- The effects about a topic. -/
def among (t : Topic) (es : List Effect) : List Effect := es.filter (·.topic? = some t)

theorem among_append (t : Topic) (es fs : List Effect) :
    t.among (es ++ fs) = t.among es ++ t.among fs := List.filter_append ..

theorem among_eq_nil (h : ∀ e ∈ es, e.topic? = none) (t : Topic) : t.among es = [] :=
  List.filter_eq_nil_iff.mpr fun e he => by simp [h e he]

theorem among_checking (s : Session) (t : Topic) : t.among s.checking = [] :=
  among_eq_nil (fun e he => (s.idle_of_mem_checking e he).1) t

theorem among_drafting (s : Session) (t : Topic) : t.among s.drafting = [] :=
  among_eq_nil (fun e he => (s.idle_of_mem_drafting e he).1) t

theorem among_resetting (s : Session) (keepName : Bool) (t : Topic) :
    t.among (s.resetting keepName) = if t = .resetting then s.resetting keepName else [] := by
  have htopic : ∀ e ∈ s.resetting keepName, e.topic? = some .resetting := by
    refine List.forall_mem_cons.mpr ⟨rfl, fun e he => ?_⟩
    obtain ⟨listener, -, rfl⟩ := List.mem_map.mp he
    rfl
  split
  · next ht =>
    rw [among, List.filter_eq_self]
    exact fun e he => by simp [htopic e he, ht]
  · next ht =>
    rw [among, List.filter_eq_nil_iff]
    exact fun e he => by simpa [htopic e he] using Ne.symm ht

/-- A line is among the effects about its topic. -/
theorem mem_notices_iff {n : Notice} (h : n.topic? = some t) :
    n ∈ es.filterMap Effect.notice? ↔ n ∈ (t.among es).filterMap Effect.notice? := by
  simp only [List.mem_filterMap, among, List.mem_filter, decide_eq_true_eq]
  refine exists_congr fun e => ⟨fun ⟨he, hn⟩ => ⟨⟨he, ?_⟩, hn⟩, fun ⟨⟨he, _⟩, hn⟩ => ⟨he, hn⟩⟩
  cases e with
  | logged notice within =>
    cases hn
    exact h
  | _ => cases hn

/-- What lines say is said by those about its topic. -/
theorem filterMap_notices {γ : Type} {f : Notice → Option γ}
    (hf : ∀ n, n.topic? ≠ some t → f n = none) (es : List Effect) :
    (es.filterMap Effect.notice?).filterMap f =
      ((t.among es).filterMap Effect.notice?).filterMap f := by
  rw [List.filterMap_filterMap, List.filterMap_filterMap, among, List.filterMap_filter]
  refine List.filterMap_congr fun e _ => ?_
  split
  · rfl
  · next htopic =>
    cases e with
    | logged notice within => exact hf notice fun h => htopic (decide_eq_true h)
    | _ => rfl

theorem filter_notices {p : Notice → Bool} (hp : ∀ n, n.topic? ≠ some t → p n = false)
    (es : List Effect) :
    (es.filterMap Effect.notice?).filter p = ((t.among es).filterMap Effect.notice?).filter p := by
  rw [← List.filterMap_eq_filter, filterMap_notices fun n hn => ?_]
  rw [Option.guard, hp n hn]
  rfl

end Topic

variable [Backend β] [DraftStore σ]

/-! ### Steps -/

namespace Step

variable (s : Step β σ)

/-- What reached out in a step. -/
def effects : List Effect := s.after.effects.drop s.before.effects.length

/-- What was written to the log in a step. -/
def notices : List Notice := s.effects.filterMap Effect.notice?

/-- What the calls of a step came to. -/
def upshots : List Upshot := PipelineCanvas.upshots s.effects (s.before.backend, s.before.store)

/-- The pipelines that the backend took in a step. -/
def accepted : List SaveRequest := s.upshots.filterMap Upshot.taken?

/-- The calls that the store failed in a step. -/
def storeErrors : List StoreError := s.upshots.filterMap Upshot.failed?

/-- The calls that the store failed in a step when the backend had taken a pipeline. -/
def lateErrors : List StoreError :=
  (s.upshots.dropWhile (·.taken?.isNone)).filterMap Upshot.failed?

variable {s} {es : List Effect} {t : Session}

theorem effects_eq (h : s.after = s.before.replaying es t) : s.effects = es := by
  rw [effects, h, World.effects_replaying, List.drop_left]

theorem after_eq (h : s.after = s.before.replaying es t) :
    s.after = s.before.replaying s.effects s.after.session := by
  rw [effects_eq h, h, World.session_replaying]

theorem lateErrors_of_accepted (h : s.accepted = []) : s.lateErrors = [] := by
  have hnone : s.upshots.dropWhile (·.taken?.isNone) = [] := by
    -- no pipeline was taken, so none stops the search for one
    rw [List.dropWhile_eq_nil_iff]
    intro u hu
    rw [List.filterMap_eq_nil_iff.mp h u hu]
    rfl
  rw [lateErrors, hnone]
  rfl

/-- A line is not written where nothing is about its topic. -/
theorem not_mem_notices {topic : Topic} (h : topic.among s.effects = []) {n : Notice}
    (hn : n.topic? = some topic) : n ∉ s.notices := by
  rw [notices, Topic.mem_notices_iff hn, h]
  exact List.not_mem_nil

/-- Where nothing is about saving, nothing was handed over. -/
theorem saving_of_quiet (h : Topic.saving.among s.effects = []) :
    s.accepted = [] ∧ Topic.saving.among s.effects = [] := by
  refine ⟨taken?_upshots (fun e he => ?_) _, h⟩
  cases e with
  | submitted request => exact absurd h (List.ne_nil_of_mem (List.mem_filter.mpr ⟨he, rfl⟩))
  | _ => rfl

variable (s) [CandidStore σ]

/-- Saving removes the draft with a name from the store. -/
def Drops (name : String) : Prop :=
  (∃ nameSpace, s.operation = .save nameSpace) ∧
    (CandidStore.draft? s.before.store name).isSome ∧
    CandidStore.draft? s.after.store name = none

open CandidStore in
/-- What the log of a step says of the draft of a pipeline that was taken is so. -/
structure DropsTruly : Prop where
  /-- A draft is said to be cleared exactly when saving removed it, and no call failed: what a call
  that fails makes of the drafts is not known. -/
  cleared_iff : ∀ name, .draftCleared name ∈ s.notices ↔ s.Drops name ∧ s.storeErrors = []
  /-- A call that fails does not remove a draft, in a store that keeps what it holds then. -/
  cleared_iff_of_keep : FailuresKeep σ → ∀ name, .draftCleared name ∈ s.notices ↔ s.Drops name
  /-- A line says that a draft could not be cleared for each call that failed too late. -/
  failures_eq : s.notices.filterMap Notice.cleanupFailure? =
    s.lateErrors.map fun e => (s.before.session.metadata.name, (SessionError.store e).message)

open CandidStore in
/-- **The log of a step tells the truth.** -/
structure Truthful : Prop where
  /-- Every call is noted: what is noted makes of backend and store what the step made of them. -/
  replays : s.after = s.before.replaying s.effects s.after.session
  /-- Nothing is said of saving, or it is said that a pipeline is handed over, and then it is, and
  then what became of it. -/
  saving :
    (s.accepted = [] ∧ Topic.saving.among s.effects = []) ∨
    ∃ r, let started : Notice :=
          .saveStarted r.nameSpace r.name s.before.session.nodes.size
      (s.accepted = [r] ∧ Topic.saving.among s.effects =
        [.logged started [], .submitted r, .logged r.savedNotice []]) ∨
      ∃ e, s.upshots = [.rejected r e] ∧ Topic.saving.among s.effects =
        [.logged started [], .submitted r, .logged (r.rejectedNotice e) []]
  dropping : s.DropsTruly
  /-- A draft is said to be stored exactly when it was, among so many, and in place of another. -/
  draftSaved_iff : ∀ name count replaced, .draftSaved name count replaced ∈ s.notices ↔
    s.operation = .saveDraft ∧ s.answer = .ok .done ∧ name = s.before.session.metadata.name ∧
      count = (drafts s.after.store).length ∧ replaced = (draft? s.before.store name).isSome
  /-- A draft is said to be opened exactly when it was, with what is on the canvas. -/
  draftImported_iff : ∀ name nodes edges,
    (∃ fromCanvas, .draftImported name nodes edges fromCanvas ∈ s.notices) ↔
      s.operation = .importDraft name ∧ s.answer = .ok .done ∧
        nodes = s.after.session.nodes.size ∧ edges = s.after.session.edges.length
  /-- It is said that the canvas was emptied, and all who listen are told; or neither. -/
  resets : Topic.resetting.among s.effects = [] ∨ ∃ keepName,
    Topic.resetting.among s.effects = .logged (.sessionReset keepName) [] ::
      (s.before.session.listeners.on .reset).map (.told · .reset)

/-! ### Topics that a step leaves alone -/

variable {s}

theorem dropsTruly_of_quiet (h : Topic.dropping.among s.effects = []) (haccepted : s.accepted = [])
    (hdrops : ∀ name, ¬ s.Drops name) : s.DropsTruly where
  cleared_iff name := iff_of_false (not_mem_notices h rfl) fun hdropped => hdrops name hdropped.1
  cleared_iff_of_keep _ name := iff_of_false (not_mem_notices h rfl) (hdrops name)
  failures_eq := by
    rw [lateErrors_of_accepted haccepted, notices,
      Topic.filterMap_notices Notice.cleanupFailure?_of_topic, h]
    rfl

theorem not_drops_of_store_eq (h : s.after.store = s.before.store) (name : String) :
    ¬ s.Drops name := fun ⟨_, hsome, hnone⟩ =>
  CandidStore.draft?_ne_of_lost hsome hnone (by rw [h])

theorem not_drops_of_operation (h : ∀ nameSpace, s.operation ≠ .save nameSpace) (name : String) :
    ¬ s.Drops name := fun ⟨⟨nameSpace, hop⟩, _⟩ => h nameSpace hop

theorem draftSaved_iff_of_quiet (h : Topic.storing.among s.effects = [])
    (hstored : s.operation = .saveDraft → s.answer ≠ .ok .done) (name : String) (count : Nat)
    (replaced : Bool) : .draftSaved name count replaced ∈ s.notices ↔
      s.operation = .saveDraft ∧ s.answer = .ok .done ∧ name = s.before.session.metadata.name ∧
        count = (CandidStore.drafts s.after.store).length ∧
          replaced = (CandidStore.draft? s.before.store name).isSome :=
  iff_of_false (not_mem_notices h rfl) fun hsaved => hstored hsaved.1 hsaved.2.1

omit [CandidStore σ] in
theorem draftImported_iff_of_quiet (h : Topic.opening.among s.effects = [])
    (hopened : ∀ name, s.operation = .importDraft name → s.answer ≠ .ok .done) (name : String)
    (nodes edges : Nat) : (∃ fromCanvas, .draftImported name nodes edges fromCanvas ∈ s.notices) ↔
      s.operation = .importDraft name ∧ s.answer = .ok .done ∧
        nodes = s.after.session.nodes.size ∧ edges = s.after.session.edges.length :=
  iff_of_false (fun ⟨_, hn⟩ => not_mem_notices h rfl hn) fun himported =>
    hopened name himported.1 himported.2.1

/-- **Where nothing is audited, nothing may have happened.** -/
theorem truthful_of_unaudited (hafter : s.after = s.before.replaying es t)
    (hes : ∀ e ∈ es, e.topic? = none) (hdrops : ∀ name, ¬ s.Drops name)
    (hstored : s.operation = .saveDraft → s.answer ≠ .ok .done)
    (hopened : ∀ name, s.operation = .importDraft name → s.answer ≠ .ok .done) :
    s.Truthful := by
  have hnone : ∀ topic, Topic.among topic s.effects = [] := fun topic =>
    Topic.among_eq_nil (effects_eq hafter ▸ hes) topic
  have hsaving := saving_of_quiet (hnone .saving)
  exact
    { replays := after_eq hafter
      saving := .inl hsaving
      dropping := dropsTruly_of_quiet (hnone _) hsaving.1 hdrops
      draftSaved_iff := draftSaved_iff_of_quiet (hnone _) hstored
      draftImported_iff := draftImported_iff_of_quiet (hnone _) hopened
      resets := .inl (hnone _) }

end Step

end PipelineCanvas
