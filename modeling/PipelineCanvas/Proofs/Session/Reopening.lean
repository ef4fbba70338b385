import PipelineCanvas.Backend.Catalog
import PipelineCanvas.Proofs.Session.Drafts
import PipelineCanvas.Proofs.Session.History
import PipelineCanvas.Proofs.Wire.RoundTrip

/-!
# Reopening a draft

A draft is stored by one session and opened by another, perhaps much later. What is
stored is not the session but its submission, which carries one run setting of two, and a
copy of the canvas. The run setting that is lost is one that nothing looks at while the
template stays, so metadata read back from a submission is *alike* (`Metadata.Alike`):
the outline, the submission and the verdict are the same.

* `Session.Reopens` – a session shows the pipeline of another;
* `Session.reopens_opening` – opening the draft of a session leads to one that does;
* `DraftOutlives` – the states of a store that a draft outlives;
* **`importDraft_saved`** – a draft that was stored is opened as the pipeline that it was
  stored from, in whatever session.
-/

namespace PipelineCanvas

open PipelineCanvas.Action FaithfulStore

/-! ### Metadata that is told from a submission -/

/-- Metadata between which neither flattening nor validation nor a submission can tell. -/
structure Metadata.Alike (m m' : Metadata) : Prop where
  name_eq : m.name = m'.name
  description_eq : m.description = m'.description
  kind_eq : m.kind = m'.kind
  schedule_eq : Submission.scheduleFor m = Submission.scheduleFor m'
  instances_eq : Submission.instancesFor m = Submission.instancesFor m'

namespace Metadata.Alike

variable {m m' : Metadata}

theorem flatten_eq (h : m.Alike m') (nodes : NodeTable) (edges : Edges) :
    flatten nodes edges m = flatten nodes edges m' := by
  have hstart : Flattening.start nodes m = Flattening.start nodes m' := by
    rw [Flattening.start, Flattening.start, h.name_eq, h.description_eq, h.kind_eq]
  rw [flatten, flatten, Flattening.walk, Flattening.walk, hstart]

theorem build_eq (h : m.Alike m') (o : Outline) : Submission.build o m = .build o m' := by
  rw [Submission.build, Submission.build, h.kind_eq, h.description_eq, h.schedule_eq,
    h.instances_eq]

/-- Of the run settings only the one that goes with the template is checked. -/
theorem runSettings_eq (h : m.Alike m') :
    Validation.runSettings m = Validation.runSettings m' := by
  have hkind := h.kind_eq
  have hschedule := h.schedule_eq
  have hinstances := h.instances_eq
  cases hk : m.kind with
  | none =>
    rw [hk] at hkind
    simp only [Validation.runSettings, hk, ← hkind]
  | some kind =>
    rw [hk] at hkind
    cases kind with
    | batch =>
      simp only [Submission.scheduleFor, hk, ← hkind, Option.some.injEq] at hschedule
      simp only [Validation.runSettings, hk, ← hkind, hschedule]
    | realtime =>
      simp only [Submission.instancesFor, hk, ← hkind, Option.some.injEq] at hinstances
      simp only [Validation.runSettings, hk, ← hkind, hinstances]

theorem validate_eq (h : m.Alike m') (nodes : NodeTable) (edges : Edges) (o : Outline) :
    validate nodes edges m o = validate nodes edges m' o := by
  have hfindings : Validation.findings nodes edges m o = Validation.findings nodes edges m' o := by
    simp only [Validation.findings, Validation.nameAndTemplate, Validation.nameCharacters,
      h.runSettings_eq, h.name_eq, h.kind_eq]
  rw [validate, validate, hfindings, Validation.verdict, Validation.verdict, h.name_eq]

end Metadata.Alike

/-- **What a submission tells of the metadata it was made with is alike.** -/
theorem Submission.alike_metadata_build (o : Outline) (m : Metadata) :
    ((build o m).metadata m.name).Alike m where
  name_eq := rfl
  description_eq := rfl
  kind_eq := rfl
  schedule_eq := by
    obtain ⟨name, description, ⟨kind, instances, cron⟩⟩ := m
    obtain _ | ⟨_ | _⟩ := kind <;> rfl
  instances_eq := by
    obtain ⟨name, description, ⟨kind, instances, cron⟩⟩ := m
    obtain _ | ⟨_ | _⟩ := kind <;> rfl

/-! ### Sessions that show one pipeline -/

namespace Session

/-- A session shows the pipeline of another: the same canvas, and metadata that is
alike. -/
structure Reopens (t s : Session) : Prop where
  nodes_eq : t.nodes = s.nodes
  edges_eq : t.edges = s.edges
  alike : t.metadata.Alike s.metadata

namespace Reopens

variable {s t : Session}

theorem outline_eq (h : t.Reopens s) : t.outline = s.outline := by
  rw [outline, outline, flattening, flattening, h.nodes_eq, h.edges_eq, h.alike.flatten_eq]

theorem submission_eq (h : t.Reopens s) : t.submission = s.submission := by
  rw [submission, submission, h.outline_eq, h.alike.build_eq]

theorem verdict_eq (h : t.Reopens s) : t.verdict = s.verdict := by
  rw [verdict, verdict, h.outline_eq, h.nodes_eq, h.edges_eq, h.alike.validate_eq]

end Reopens

/-- **The draft of a session, opened in another, shows the pipeline of the first.** -/
theorem reopens_opening {s : Session} (h : s.nodes.Keyed) (t : Session) :
    (t.opening s.draft s.metadata.name).Reopens s where
  nodes_eq := h.ofNodes_values
  edges_eq := rfl
  alike := Submission.alike_metadata_build s.outline s.metadata

end Session

/-! ### Stored and reopened -/

section

variable {β γ σ : Type} [DraftStore σ]

/-- A draft that is read from the store, written as a session writes it, is opened. -/
theorem Session.run_importDraft_of_get {name : String} {d : Draft} {t : World γ σ}
    {value : Option Json} (hvalue : (DraftStore.get draftsKey t.store).1 = .ok value)
    (h : Entries.get? (draftsOf value) name = some d.toJson.canonical) :
    ∃ t' : World γ σ, run (importDraft name : Action γ σ Unit) t = (.ok (), t') ∧
      t'.session = t.session.opening d name := by
  have hrun := importDraftRun name t
  generalize run (importDraft name : Action γ σ Unit) t = r at hrun
  cases hrun with
  | unread hget =>
    rw [hvalue] at hget
    cases hget
  | missing hget hmissing =>
    rw [hvalue] at hget
    cases hget
    rw [h] at hmissing
    cases hmissing
  | undecodable hget hstored hdecode =>
    rw [hvalue] at hget
    cases hget
    rw [h] at hstored
    cases hstored
    rw [Draft.decode_toJson] at hdecode
    cases hdecode
  | opened hget hstored hdecode hsession =>
    rw [hvalue] at hget
    cases hget
    rw [h] at hstored
    cases hstored
    rw [Draft.decode_toJson] at hdecode
    cases hdecode
    exact ⟨_, rfl, hsession⟩

variable [FaithfulStore σ]

/-- A draft that the store holds, written as a session writes it, is opened. -/
theorem Session.run_importDraft_of_draft? {name : String} {d : Draft} {t : World γ σ}
    (h : draft? t.store name = some d.toJson.canonical) :
    ∃ t' : World γ σ, run (importDraft name : Action γ σ Unit) t = (.ok (), t') ∧
      t'.session = t.session.opening d name :=
  run_importDraft_of_get (get_fst _ _) h

variable [Backend β] [Backend γ]

/-- A draft with a name and a template is stored, where writing does not fail. -/
theorem step_saveDraft_of_set {w : World β σ}
    (hverdict : w.session.draftVerdict.1.isEmpty = true)
    (hset : ∀ value (s : σ), (DraftStore.set draftsKey value s).1 = .ok ()) :
    (Operation.saveDraft.step w).1 = .ok .done := by
  rw [Operation.step_of_perform_eq .saveDraft Session.saveDraft (fun _ => .done) rfl]
  have hrun := Session.saveDraftRun w
  generalize run (Session.saveDraft : Action β σ Unit) w = r at hrun
  cases hrun with
  | refused hrefused hw =>
    rw [hverdict] at hrefused
    cases hrefused
  | unread hw hget =>
    rw [get_fst] at hget
    cases hget
  | unwritten hw hget hfails =>
    rw [hset] at hfails
    cases hfails
  | stored hw hget hset hnotes => rfl

/-- A draft that was stored is the one that the store holds under its name. -/
theorem draft?_saveDraft {w : World β σ} (h : (Operation.saveDraft.step w).1 = .ok .done) :
    draft? (Operation.saveDraft.step w).2.store w.session.metadata.name =
      some w.session.draft.toJson.canonical := by
  have hdrafts := Session.drafts_run_saveDraft w
  rw [Operation.step_of_perform_eq .saveDraft Session.saveDraft (fun _ => .done) rfl] at h ⊢
  cases hr : (run (Session.saveDraft : Action β σ Unit) w).1 with
  | error e =>
    rw [hr] at h
    cases h
  | ok _ =>
    rw [hr] at hdrafts
    rw [draft?, hdrafts, Session.withDraft, Entries.get?_insert, if_pos rfl]

/-- The states that a store comes to while the draft with a name is neither overwritten
nor dropped in it. -/
inductive DraftOutlives (name : String) (s : σ) : σ → Prop where
  | refl : DraftOutlives name s s
  /-- A session over the store performs an operation that does not succeed in storing or
  saving a pipeline with the name. -/
  | operation {γ : Type} [Backend γ] {w : World γ σ} {op : Operation}
      (h : DraftOutlives name s w.store) (hop : ¬op.Replaces name w) :
      DraftOutlives name s (op.step w).2.store
  /-- The store is changed by others, who leave the draft with the name. -/
  | elsewhere {s' s'' : σ} (h : DraftOutlives name s s')
      (hleft : draft? s'' name = draft? s' name) : DraftOutlives name s s''

theorem DraftOutlives.draft?_eq {name : String} {s s' : σ} (h : DraftOutlives name s s') :
    draft? s' name = draft? s name := by
  induction h with
  | refl => rfl
  | operation _ hop ih => rw [Operation.draft?_step hop, ih]
  | elsewhere _ hleft ih => rw [hleft, ih]

/-- **A draft is reopened as the pipeline that was stored.** However a session came about,
once it has stored its draft, any session over the store opens that draft as long as it is
neither overwritten nor dropped. The canvas is then the one that was stored, no editor is
open, and outline, submission and verdict are those of the session that stored it. -/
theorem importDraft_saved {w : World β σ} (hreachable : w.session.Reachable)
    (hsaved : (Operation.saveDraft.step w).1 = .ok .done) {t : World γ σ}
    (hkept : DraftOutlives w.session.metadata.name (Operation.saveDraft.step w).2.store t.store) :
    let opened := (Operation.importDraft w.session.metadata.name).step t
    opened.1 = .ok .done ∧
      opened.2.session.nodes = w.session.nodes ∧
      opened.2.session.edges = w.session.edges ∧
      opened.2.session.openEditor = none ∧
      (Operation.readOutline.step opened.2).1 = (Operation.readOutline.step w).1 ∧
      (Operation.readSubmission.step opened.2).1 = (Operation.readSubmission.step w).1 ∧
      opened.2.session.verdict = w.session.verdict := by
  intro opened
  have hstored : draft? t.store w.session.metadata.name =
      some w.session.draft.toJson.canonical := hkept.draft?_eq.trans (draft?_saveDraft hsaved)
  obtain ⟨t', hrun, hsession⟩ := Session.run_importDraft_of_draft? hstored
  have hopened : opened = (.ok .done, t') := by
    have hstep := Operation.step_of_perform_eq (.importDraft w.session.metadata.name)
      (Session.importDraft w.session.metadata.name : Action γ σ Unit) (fun _ => .done) rfl t
    rw [hrun] at hstep
    exact hstep
  have hreopens : t'.session.Reopens w.session := by
    rw [hsession]
    exact Session.reopens_opening hreachable.keyed t.session
  rw [hopened]
  refine ⟨rfl, hreopens.nodes_eq, hreopens.edges_eq, ?_, ?_, ?_, hreopens.verdict_eq⟩
  · dsimp only
    rw [hsession]
    rfl
  · rw [Operation.step_readOutline, Operation.step_readOutline, hreopens.outline_eq]
  · rw [Operation.step_readSubmission, Operation.step_readSubmission, hreopens.submission_eq]

end

/-- A draft with an edge drawn twice and a contract without properties outlives the draft
of another session, and is opened where another canvas was being edited. -/
theorem importDraft_saved_shared_store :
    let nodes : List Node :=
      [.fresh "a" "Stream" .source, .fresh "k" "Table" .sink,
        { Node.fresh "t" "Filter" .transform with contract := some .empty, position := ⟨50, 320⟩ }]
    let edges : Edges := [⟨"a", "t"⟩, ⟨"t", "k"⟩, ⟨"a", "t"⟩]
    let w : World CatalogBackend MemoryStore :=
      ⟨{ Session.fresh with nodes := .ofNodes nodes, edges, metadata := .named "events" }, .empty,
        .empty, []⟩
    let u : World CatalogBackend MemoryStore :=
      ⟨{ Session.fresh with metadata := .named "others" }, .empty,
        (Operation.saveDraft.step w).2.store, []⟩
    let t : World CatalogBackend MemoryStore :=
      ⟨{ Session.fresh with
          nodes := .ofNodes [.fresh "b" "Stream" .source], openEditor := some "b" },
        .empty, (Operation.saveDraft.step u).2.store, []⟩
    w.session.Reachable ∧
      ((Operation.importDraft "events").step t).1 = .ok .done ∧
      ((Operation.importDraft "events").step t).2.session.nodes = w.session.nodes ∧
      ((Operation.importDraft "events").step t).2.session.edges = edges ∧
      ((Operation.importDraft "events").step t).2.session.openEditor = none := by
  intro nodes edges w u t
  have hreachable : w.session.Reachable :=
    .step (w := { World.fresh CatalogBackend.empty MemoryStore.empty with
        session := { Session.fresh with nodes := .ofNodes nodes, edges } })
      (.setMetadata (.named "events")) (.step (w := World.fresh CatalogBackend.empty
        MemoryStore.empty) (.loadGraph nodes edges) .fresh)
  have hsaved : (Operation.saveDraft.step w).1 = .ok .done :=
    step_saveDraft_of_set (by decide) fun _ _ => rfl
  have hname : w.session.metadata.name = "events" := rfl
  have hkept : DraftOutlives w.session.metadata.name (Operation.saveDraft.step w).2.store
      t.store := .operation .refl fun hreplaces => absurd hreplaces.1 (by decide)
  have hopened := importDraft_saved hreachable hsaved hkept
  rw [hname] at hopened
  obtain ⟨hanswer, hnodes, hedges, hclosed, -⟩ := hopened
  exact ⟨hreachable, hanswer, hnodes, hedges, hclosed⟩

end PipelineCanvas
