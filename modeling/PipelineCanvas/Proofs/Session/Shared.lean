import PipelineCanvas.Backend.Catalog
import PipelineCanvas.Proofs.Session.Drafts
import PipelineCanvas.Proofs.Session.History

/-!
# Sessions that share a store

Several sessions work over one draft store, in turns: one of them performs an operation,
then one of them performs the next. Each turn rewrites the drafts as a whole, or leaves
them as they are; yet a draft that one session has stored does not get lost by what the
others do. The drafts are those that were there at the beginning, brought up to date by
what the answers of all sessions told of them, in the order of the turns.

* `Workspace`, `Turn` – sessions over one store, and what one of them does;
* `Moment` – a turn with what it meets, and `Workspace.history`, all moments of a run;
* `Workspace.updates` – what the answers in a run told of the drafts;
* **`Workspace.drafts_run`** – the drafts behind a run.
-/

namespace PipelineCanvas

open PipelineCanvas.Action FaithfulStore

/-- Sessions, and the draft store that they share. -/
structure Workspace (ι σ : Type) where
  sessions : ι → Session
  store : σ

/-- One of the sessions performs an operation, with a backend that it reaches just then. -/
structure Turn (ι : Type) where
  who : ι
  operation : Operation
  {Service : Type}
  [answers : Backend Service]
  backend : Service

attribute [instance] Turn.answers

/-- A turn and what it meets. -/
structure Moment (ι σ : Type) where
  before : Workspace ι σ
  turn : Turn ι

variable {ι σ : Type} [DraftStore σ]

namespace Moment

/-- What the session does whose turn it is. -/
def step (m : Moment ι σ) : Step m.turn.Service σ :=
  ⟨⟨m.before.sessions m.turn.who, m.turn.backend, m.before.store, []⟩, m.turn.operation⟩

/-- What it is answered. -/
def answer (m : Moment ι σ) : Except SessionError Reply := m.step.answer

/-- What the answer tells of the stored drafts. -/
def draftUpdate? (m : Moment ι σ) : Option DraftUpdate :=
  m.step.operation.draftUpdate? m.step.before

/-- If a pipeline is saved, the store takes the drafts without that of the pipeline, as a
store does whose writes never fail. -/
def Tidies [FaithfulStore σ] (m : Moment ι σ) : Prop := m.step.operation.Tidies m.step.before

/-- What the turn leaves: the other sessions stay as they are. -/
def after [DecidableEq ι] (m : Moment ι σ) : Workspace ι σ where
  sessions := Function.update m.before.sessions m.turn.who m.step.after.session
  store := m.step.after.store

/-- **A turn brings the drafts up to date.** -/
theorem drafts_after [DecidableEq ι] [FaithfulStore σ] {m : Moment ι σ} (h : m.Tidies) :
    drafts m.after.store = DraftUpdate.applyAll m.draftUpdate?.toList (drafts m.before.store) :=
  (m.turn.operation.drafts_step m.step.before).resolve_right fun hkept => hkept.1 h

end Moment

/-- The names of the drafts are those that the store holds. -/
theorem Operation.step_draftNames [FaithfulStore σ] {β : Type} [Backend β] (w : World β σ) :
    (draftNames.step w).1 = .ok (.names ((drafts w.store).map (·.1))) := by
  have hnames : run (Session.draftNames : Action β σ (List String)) w =
      (.ok ((drafts w.store).map (·.1)), w.reading) := by
    rw [Session.draftNames, run_bind, Session.run_readDrafts_faithful]
    rfl
  rw [step_of_perform_eq draftNames Session.draftNames .names rfl, hnames]
  rfl

namespace Workspace

variable [DecidableEq ι]

/-- The moments of a run, in their order. -/
def history : List (Turn ι) → Workspace ι σ → List (Moment ι σ)
  | [], _ => []
  | t :: turns, s => ⟨s, t⟩ :: history turns (Moment.mk s t).after

/-- What a run leaves. -/
def run (turns : List (Turn ι)) (s : Workspace ι σ) : Workspace ι σ :=
  turns.foldl (fun s t => (Moment.mk s t).after) s

/-- What the answers in a run tell of the stored drafts, in their order. -/
def updates (turns : List (Turn ι)) (s : Workspace ι σ) : List DraftUpdate :=
  (history turns s).filterMap Moment.draftUpdate?

theorem updates_cons (t : Turn ι) (turns : List (Turn ι)) (s : Workspace ι σ) :
    updates (t :: turns) s =
      (Moment.mk s t).draftUpdate?.toList ++ updates turns (Moment.mk s t).after := by
  rw [updates, history, List.filterMap_cons]
  cases (Moment.mk s t).draftUpdate? <;> rfl

variable [FaithfulStore σ]

/-- Turn by turn, the updates of a run are all that happens to the drafts. -/
theorem drafts_store_run {turns : List (Turn ι)} {s : Workspace ι σ}
    (h : ∀ m ∈ history turns s, m.Tidies) :
    drafts (run turns s).store = DraftUpdate.applyAll (updates turns s) (drafts s.store) := by
  induction turns generalizing s with
  | nil => rfl
  | cons t turns ih =>
    have hturn := Moment.drafts_after (h ⟨s, t⟩ (List.mem_cons_self ..))
    have hrest := ih fun m hm => h m (List.mem_cons_of_mem _ hm)
    rw [updates_cons, DraftUpdate.applyAll_append, ← hturn]
    exact hrest

/-- **The stored drafts are a map from names to drafts,** whichever sessions work over the
store in whatever order. Behind a run it is the map of the beginning, with the drafts that
were stored since and without those whose pipelines were saved; a name to which neither
happened has the draft it had. Whoever asks for the names is told those of the map, in
order and each once. -/
theorem drafts_run {turns : List (Turn ι)} {s : Workspace ι σ}
    (hascending : Entries.Ascending (drafts s.store))
    (htidies : ∀ m ∈ history turns s, m.Tidies) :
    let behind := run turns s
    ((∀ members, view.contents s.store draftsKey ≠ some (.object members)) → drafts s.store = []) ∧
      (∃ value, (DraftStore.get draftsKey behind.store).1 = .ok value ∧
        Session.draftsOf value = DraftUpdate.applyAll (updates turns s) (drafts s.store)) ∧
      (∀ name, draft? behind.store name =
        match ((updates turns s).filter (·.name = name)).getLast? with
        | some u => u.draft?
        | none => draft? s.store name) ∧
      ∀ t : Turn ι, t.operation = .draftNames →
        ∃ names, (Moment.mk behind t).answer = .ok (.names names) ∧
          names = (drafts behind.store).map (·.1) ∧ names.Pairwise (· < ·) := by
  intro behind
  have hdrafts : drafts behind.store =
      DraftUpdate.applyAll (updates turns s) (drafts s.store) := drafts_store_run htidies
  have hbehind : Entries.Ascending (drafts behind.store) :=
    hdrafts ▸ DraftUpdate.ascending_applyAll _ hascending
  refine ⟨drafts_eq_nil, ⟨_, get_fst _ _, hdrafts⟩, fun name => ?_, fun t ht => ?_⟩
  · rw [draft?, hdrafts]
    exact DraftUpdate.get?_applyAll _ _ name
  · refine ⟨_, ?_, rfl, List.pairwise_map.mpr hbehind⟩
    have hnames := Operation.step_draftNames (Moment.mk behind t).step.before
    rw [← ht] at hnames
    exact hnames

/-- Two sessions over a store that holds something else than drafts; the first has its
pipeline saved, and cannot store the empty one that it starts anew with. -/
theorem drafts_run_two_sessions :
    let drawn : Session :=
      { Session.fresh with
        nodes := .ofNodes [.fresh "a" "Stream" .source, .fresh "k" "Table" .sink]
        edges := [⟨"a", "k"⟩], metadata := .named "orders" }
    let named : Session := { Session.fresh with metadata := .named "events" }
    let s : Workspace Bool MemoryStore :=
      { sessions := fun who => if who then drawn else named
        store := (DraftStore.set draftsKey (.string "none yet") MemoryStore.empty).2 }
    let turn (who : Bool) (op : Operation) : Turn Bool := ⟨who, op, CatalogBackend.empty⟩
    let turns : List (Turn Bool) :=
      [turn true .saveDraft, turn false .saveDraft, turn true (.save "default"),
        turn true .saveDraft]
    let behind := run turns s
    updates turns s =
        [⟨"orders", some drawn.draft.toJson.canonical⟩,
          ⟨"events", some named.draft.toJson.canonical⟩, ⟨"orders", none⟩] ∧
      drafts s.store = [] ∧ draft? behind.store "orders" = none ∧
      draft? behind.store "events" = some named.draft.toJson.canonical ∧
      (Moment.mk behind (turn true .draftNames)).answer = .ok (.names ["events"]) := by
  intro drawn named s turn turns behind
  have hupdates : updates turns s =
      [⟨"orders", some drawn.draft.toJson.canonical⟩,
        ⟨"events", some named.draft.toJson.canonical⟩, ⟨"orders", none⟩] := by decide +kernel
  have hempty : drafts s.store = [] := by decide +kernel
  have htidies : ∀ m ∈ history turns s, m.Tidies := fun _ _ _ _ _ _ => rfl
  have hkeys : (drafts behind.store).map (·.1) = ["events"] := by decide +kernel
  obtain ⟨-, -, hlast, hnames⟩ := drafts_run (hempty ▸ List.Pairwise.nil) htidies
  obtain ⟨names, hanswer, hn, -⟩ := hnames (turn true .draftNames) rfl
  rw [hupdates] at hlast
  rw [hkeys] at hn
  exact ⟨hupdates, hempty, hlast "orders", hlast "events", hn ▸ hanswer⟩

end Workspace

end PipelineCanvas
