import PipelineCanvas.Backend.Catalog
import PipelineCanvas.Drafts.File
import PipelineCanvas.Proofs.Session.Failing

/-!
# Pipelines that were accepted

Once the backend has taken a pipeline there is no way back: what is left to do – dropping
its draft, emptying the canvas – must come to an end whatever the draft store does. It
does, because a store that fails is only noted. The session starts anew then, with the
listeners it had, and since a new session has nothing that could be sent, saving once more
is refused before anything is called. So no pipeline is handed over twice.

* `World.DropCalls` – what is asked of the store on the way;
* `World.Concludes` – what an accepted pipeline leaves;
* **`Operation.step_save_concludes`** – saving a pipeline that is taken leaves just that.
-/

namespace PipelineCanvas

open PipelineCanvas.Action

variable {β σ : Type} {w w₁ w' : World β σ}

namespace World

variable [DraftStore σ]

/-- What is asked of the store when the draft with a name is dropped. -/
inductive DropCalls (name : String) (w w' : World β σ) : Prop where
  /-- The drafts cannot be read, or the draft is not among them: they stay. -/
  | read (hcalls : w'.storeCalls = w.storeCalls ++ [.storeRead draftsKey])
      (hmissing : ∀ value, (DraftStore.get draftsKey w.store).1 = .ok value →
        Entries.get? (Session.draftsOf value) name = none)
  /-- They are written back, all but that draft. -/
  | written {value : Option Json} {stored : Json}
      (hcalls : w'.storeCalls = w.storeCalls ++
        [.storeRead draftsKey,
          .storeWritten draftsKey (.object (Entries.erase name (Session.draftsOf value)))])
      (hget : (DraftStore.get draftsKey w.store).1 = .ok value)
      (hstored : Entries.get? (Session.draftsOf value) name = some stored)

/-- It is the calls to the store that matter, and what the store answered first. -/
theorem DropCalls.congr {u u' : World β σ} {name : String} (h : u.DropCalls name u')
    (hstore : u.store = w.store) (hcalls : u.storeCalls = w.storeCalls)
    (hcalls' : w'.storeCalls = u'.storeCalls) : w.DropCalls name w' := by
  cases h with
  | read hread hmissing =>
    rw [hcalls, ← hcalls'] at hread
    exact .read hread (hstore ▸ hmissing)
  | written hwritten hget hstored =>
    rw [hcalls, ← hcalls'] at hwritten
    exact .written hwritten (hstore ▸ hget) hstored

/-- What a pipeline leaves that was saved to a namespace and taken by the backend. -/
structure Concludes (nameSpace : String) (w w' : World β σ) : Prop where
  nodes_eq : w'.session.nodes = .empty
  edges_eq : w'.session.edges = []
  metadata_eq : w'.session.metadata = .initial
  openEditor_eq : w'.session.openEditor = none
  listeners_eq : w'.session.listeners = w.session.listeners
  readOnly_eq : w'.session.readOnly = w.session.readOnly
  /-- The backend was called once. -/
  backendCalls_eq : w'.backendCalls = w.backendCalls ++ [.submitted (w.session.request nameSpace)]
  /-- Each listener for resets was told, once, and no other listener was told anything. -/
  news_eq : w'.news = w.news ++ (w.session.listeners.on .reset).map fun l => (l, .reset)
  dropCalls : w.DropCalls w.session.metadata.name w'

end World

/-! ### What follows when a pipeline was taken -/

namespace Session

variable [DraftStore σ]

/-- Dropping a draft concerns the store alone. -/
theorem dropCalls_run_cleanUp (name : String) (w : World β σ) :
    let w' := (run (cleanUp name : Action β σ Unit) w).2
    w'.session = w.session ∧ w'.backendCalls = w.backendCalls ∧ w'.news = w.news ∧
      w.DropCalls name w' := by
  have hrun := cleanUpRun name w
  generalize run (cleanUp name : Action β σ Unit) w = r at hrun
  cases hrun with
  | unread hget hnotes =>
    refine ⟨hnotes.session_eq, ?_, ?_, .read ?_ fun value hvalue => ?_⟩
    · rw [hnotes.backendCalls_eq, World.backendCalls_reading]
    · rw [hnotes.news_eq, World.news_reading]
    · rw [hnotes.storeCalls_eq, World.storeCalls_reading]
    · rw [hget] at hvalue
      cases hvalue
  | missing hget hmissing =>
    refine ⟨rfl, w.backendCalls_reading, w.news_reading,
      .read w.storeCalls_reading fun value hvalue => ?_⟩
    rw [hget] at hvalue
    cases hvalue
    exact hmissing
  | written hget hstored hnotes =>
    refine ⟨hnotes.session_eq, ?_, ?_, .written ?_ hget hstored⟩
    · rw [hnotes.backendCalls_eq, World.backendCalls_writing, World.backendCalls_reading]
    · rw [hnotes.news_eq, World.news_writing, World.news_reading]
    · rw [hnotes.storeCalls_eq, World.storeCalls_writing, World.storeCalls_reading,
        List.append_assoc]
      rfl

/-- A session that starts anew has nothing that could be sent: its pipeline has no name. -/
theorem isEmpty_verdict_cleared (s : Session) : (s.cleared false).verdict.1.isEmpty = false := by
  have hfresh : (s.cleared false).verdict = fresh.verdict := rfl
  rw [hfresh]
  decide

end Session

/-! ### Saving a pipeline that is taken -/

variable [Backend β] [DraftStore σ]

namespace Operation

/-- A pipeline that is not valid is refused before anything is called. -/
theorem backendCalls_step_save (nameSpace : String) (h : w.session.verdict.1.isEmpty = false) :
    ((save nameSpace).step w).2.backendCalls = w.backendCalls := by
  rw [step_of_perform_eq (save nameSpace) (Session.save nameSpace) .text rfl]
  have hrun := Session.saveRun nameSpace w
  generalize run (Session.save nameSpace : Action β σ String) w = r at hrun
  cases hrun with
  | refused hverdict hw => exact (World.backendCalls_telling _ _).trans hw.backendCalls_eq
  | rejected hverdict hw hsubmit hnotes =>
    rw [h] at hverdict
    cases hverdict
  | taken hverdict hw hsubmit hnotes hquiet hstore =>
    rw [h] at hverdict
    cases hverdict

/-- **An accepted save is final,** whatever the draft store answers to anything: it returns
the name of the pipeline and leaves a session that starts anew. Saving once more is refused
without a call to the backend. -/
theorem step_save_concludes (nameSpace : String) (hvalid : w.session.verdict.1.isEmpty = true)
    (htaken : (Backend.submit (w.session.request nameSpace) w.backend).1 = .ok ()) :
    let saved := (save nameSpace).step w
    saved.1 = .ok (.text w.session.metadata.name) ∧ w.Concludes nameSpace saved.2 ∧
      ∀ again, (∃ problems, ((save again).step saved.2).1 = .error (.invalid problems)) ∧
        ((save again).step saved.2).2.backendCalls = saved.2.backendCalls := by
  intro saved
  obtain ⟨w₁, w₂, hw, hnotes, hrun⟩ := Session.run_save_of_valid nameSpace hvalid
  simp only [htaken] at hrun
  obtain ⟨hsession, hbackend, hnews, hdrop⟩ :=
    Session.dropCalls_run_cleanUp w.session.metadata.name w₂
  -- the world behind the dropping, and the one in which the canvas is empty
  generalize run (Session.cleanUp w.session.metadata.name : Action β σ Unit) w₂ = cleaned at *
  obtain ⟨w₃, hw₃, hreset⟩ := Session.run_reset false cleaned.2
  have hsaved : saved = (.ok (.text w.session.metadata.name), w₃.telling .reset) := by
    rw [hreset] at hrun
    have hstep := step_of_perform_eq (save nameSpace) (Session.save nameSpace) .text rfl w
    rw [hrun] at hstep
    exact hstep
  have hbefore : w₂.session = w.session := hnotes.session_eq.trans hw.session_eq
  have hcleared : w₃.session = w.session.cleared false := by
    rw [hw₃.session_eq, World.clearing, hsession, hbefore]
  have hanew : (w₃.telling .reset).session = w.session.cleared false := hcleared
  have hverdict : (w₃.telling .reset).session.verdict.1.isEmpty = false :=
    hanew ▸ w.session.isEmpty_verdict_cleared
  rw [hsaved]
  refine ⟨rfl, ?_, fun again => ⟨⟨_, step_save_refused again hverdict⟩,
    backendCalls_step_save again hverdict⟩⟩
  exact
    { nodes_eq := hanew ▸ rfl
      edges_eq := hanew ▸ rfl
      metadata_eq := hanew ▸ rfl
      openEditor_eq := hanew ▸ rfl
      listeners_eq := hanew ▸ rfl
      readOnly_eq := hanew ▸ rfl
      backendCalls_eq := by
        rw [World.backendCalls_telling, hw₃.backendCalls_eq, World.backendCalls_clearing, hbackend,
          hnotes.backendCalls_eq, World.backendCalls_submitting, hw.backendCalls_eq]
      news_eq := by
        rw [World.news_telling, hcleared, hw₃.news_eq, World.news_clearing, hnews,
          hnotes.news_eq, World.news_submitting, hw.news_eq]
        rfl
      dropCalls := by
        refine hdrop.congr (hnotes.store_eq.trans hw.store_eq) ?_ ?_
        · rw [hnotes.storeCalls_eq, World.storeCalls_submitting, hw.storeCalls_eq]
        · rw [World.storeCalls_telling, hw₃.storeCalls_eq, World.storeCalls_clearing] }

/-- The drafts are meant to be kept in a file, but its path is that of a directory. -/
theorem step_save_concludes_unreadable :
    let drawn : Session :=
      { Session.fresh with
        nodes := .ofNodes [.fresh "a" "Stream" .source, .fresh "k" "Table" .sink]
        edges := [⟨"a", "k"⟩], metadata := .named "events", readOnly := true
        openEditor := some "a"
        listeners := ⟨3, [(⟨.reset, 1⟩, "palette"), (⟨.invalid, 2⟩, "panel"), (⟨.reset, 3⟩, "map")]⟩ }
    let w : World CatalogBackend FileStore := ⟨drawn, .empty, ⟨.empty, "/"⟩, []⟩
    let saved := (save "default").step w
    (DraftStore.get draftsKey w.store).1 = .error (.io "Is a directory (os error 21)") ∧
      w.session.verdict.1.isEmpty = true ∧
      saved.1 = .ok (.text "events") ∧ w.Concludes "default" saved.2 ∧
      saved.2.news = [("palette", .reset), ("map", .reset)] ∧
      ((save "default").step saved.2).2.backendCalls = saved.2.backendCalls := by
  intro drawn w saved
  have hvalid : w.session.verdict.1.isEmpty = true := by decide
  obtain ⟨hanswer, hconcludes, hagain⟩ := step_save_concludes "default" hvalid rfl
  have hget : (DraftStore.get draftsKey w.store).1 =
      .error (.io "Is a directory (os error 21)") := by decide +kernel
  exact ⟨hget, hvalid, hanswer, hconcludes, hconcludes.news_eq, (hagain "default").2⟩

end Operation

end PipelineCanvas
