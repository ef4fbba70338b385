import PipelineCanvas.Backend.Catalog
import PipelineCanvas.Drafts.Memory
import PipelineCanvas.Proofs.Flattening.Chain
import PipelineCanvas.Proofs.Flattening.Path
import PipelineCanvas.Proofs.Session.History
import PipelineCanvas.Proofs.Session.Outcomes

/-!
# What a session would send

A session is asked what the backend would be sent, and answers from its canvas alone. Two
canvases for one pipeline may well have two answers:

* **`step_readSubmission_rebuilt_iff`** – the canvas that the outline is drawn as has the
  answer of the canvas that the outline was made from, unless the outline is a single
  plugin;
* **`step_readSubmission_path`** – of a path, the answer has the transforms in the order of
  their first mention, which need not be that of the path.
-/

namespace PipelineCanvas

variable {β γ σ τ : Type} [Backend β] [Backend γ] [DraftStore σ] [DraftStore τ]

/-- The answer of a session is a submission exactly if the session makes that one. -/
theorem step_readSubmission_eq_iff {w : World β σ} {submission : Submission} :
    (Operation.readSubmission.step w).1 = .ok (.submission submission) ↔
      w.session.submission = submission := by
  rw [Operation.step_readSubmission, Except.ok.injEq, Reply.submission.injEq]

/-! ### The outline, drawn again -/

/-- **A pipeline that is drawn anew from its outline would be sent as before** – in a new
session with the same metadata, whatever was on the canvas that the outline was made from –
exactly when its outline is not a single plugin. -/
theorem step_readSubmission_rebuilt_iff {w : World β σ} (h : w.session.Reachable) (backend : γ)
    (store : τ) :
    let graph := w.session.outline.toGraph
    let rebuilt := Operation.runAll
      [.setMetadata w.session.metadata, .loadGraph graph.1 graph.2] (World.fresh backend store)
    (Operation.readSubmission.step rebuilt).1 = (Operation.readSubmission.step w).1 ↔
      w.session.outline.stages.length ≠ 1 := by
  intro graph rebuilt
  have hrebuilt : rebuilt.session.submission =
      .build (flatten (.ofNodes graph.1) graph.2 w.session.metadata).outline
        w.session.metadata := rfl
  have hanswers : (Operation.readSubmission.step rebuilt).1 =
      (Operation.readSubmission.step w).1 ↔ rebuilt.session.submission = w.session.submission := by
    rw [Operation.step_readSubmission w, step_readSubmission_eq_iff]
  rw [hanswers, hrebuilt]
  exact build_flatten_toGraph_iff h.keyed w.session.edges w.session.metadata

/-- A source and a sink, with a loop at the sink. -/
theorem step_readSubmission_rebuilt_pair :
    let w : World CatalogBackend MemoryStore :=
      ⟨{ Session.fresh with
          nodes := .ofNodes [.fresh "a" "Stream" .source, .fresh "k" "Table" .sink]
          edges := [⟨"k", "k"⟩, ⟨"k", "a"⟩] }, .empty, .empty, []⟩
    let graph := w.session.outline.toGraph
    let rebuilt := Operation.runAll
      [.setMetadata w.session.metadata, .loadGraph graph.1 graph.2]
      (World.fresh CatalogBackend.empty MemoryStore.empty)
    w.session.Reachable ∧ w.session.outline.stages.length = 2 ∧
      (Operation.readSubmission.step rebuilt).1 = (Operation.readSubmission.step w).1 := by
  intro w graph rebuilt
  have hreachable : w.session.Reachable :=
    .step (w := World.fresh CatalogBackend.empty MemoryStore.empty)
      (.loadGraph [.fresh "a" "Stream" .source, .fresh "k" "Table" .sink]
        [⟨"k", "k"⟩, ⟨"k", "a"⟩]) .fresh
  have hlength : w.session.outline.stages.length = 2 := by decide
  exact ⟨hreachable, hlength,
    (step_readSubmission_rebuilt_iff hreachable CatalogBackend.empty MemoryStore.empty).mpr
      (by rw [hlength]; decide)⟩

/-- A source alone, with a loop, would be sent; drawn anew it has no edge, and nothing
would be sent. -/
theorem step_readSubmission_rebuilt_lone :
    let w : World CatalogBackend MemoryStore :=
      ⟨{ Session.fresh with
          nodes := .ofNodes [.fresh "a" "Stream" .source], edges := [⟨"a", "a"⟩] },
        .empty, .empty, []⟩
    let graph := w.session.outline.toGraph
    let rebuilt := Operation.runAll
      [.setMetadata w.session.metadata, .loadGraph graph.1 graph.2]
      (World.fresh CatalogBackend.empty MemoryStore.empty)
    w.session.Reachable ∧
      (Operation.readSubmission.step rebuilt).1 ≠ (Operation.readSubmission.step w).1 := by
  intro w graph rebuilt
  refine ⟨.step (w := World.fresh CatalogBackend.empty MemoryStore.empty)
    (.loadGraph [.fresh "a" "Stream" .source] [⟨"a", "a"⟩]) .fresh, fun heq => ?_⟩
  rw [Operation.step_readSubmission w, step_readSubmission_eq_iff] at heq
  have hsource := congrArg (fun s => s.config.source.isSome) heq
  have hw : w.session.submission.config.source.isSome = true := by decide
  have hrebuilt : rebuilt.session.submission.config.source.isSome = false := by decide
  rw [hw, hrebuilt] at hsource
  cases hsource

/-! ### A path -/

/-- **What would be sent of a path.** The transforms are those of the path, each once, in
the order in which the edges name them, as these were drawn. That is the order of the path
exactly if no edge that leaves a transform is drawn before both edges at the transform in
front of it. -/
theorem step_readSubmission_path {w : World β σ} {source sink : Node} {transforms : List Node}
    (h : FormsPath w.session.nodes w.session.edges source transforms sink) :
    let edges := w.session.edges
    ∃ (submission : Submission) (row : List Node),
      (Operation.readSubmission.step w).1 = .ok (.submission submission) ∧
      submission.config.transforms = row.map (fun n => n.stage.withoutBookkeeping) ∧
      row.Perm transforms ∧
      row.Pairwise (fun m n => edges.ends.idxOf m.id < edges.ends.idxOf n.id) ∧
      (row = transforms ↔
        ∀ a b c d, [a, b, c, d] <:+: pathIds source transforms sink →
          edges.idxOf ⟨a, b⟩ < edges.idxOf ⟨c, d⟩ ∨ edges.idxOf ⟨b, c⟩ < edges.idxOf ⟨c, d⟩) := by
  intro edges
  exact ⟨w.session.submission, FormsPath.row w.session.nodes edges,
    Operation.step_readSubmission w, h.transforms_build w.session.metadata, h.row_perm,
    h.row_pairwise, h.row_eq_iff⟩

/-- The edges of a path with two transforms, the middle one first. -/
theorem step_readSubmission_path_middle_first :
    let source := Node.fresh "s" "Stream" .source
    let transforms := [Node.fresh "a" "Filter" .transform, Node.fresh "b" "Project" .transform]
    let sink := Node.fresh "k" "Table" .sink
    let w : World CatalogBackend MemoryStore :=
      ⟨{ Session.fresh with
          nodes := .ofNodes (source :: transforms ++ [sink])
          edges := [⟨"a", "b"⟩, ⟨"b", "k"⟩, ⟨"s", "a"⟩] }, .empty, .empty, []⟩
    FormsPath w.session.nodes w.session.edges source transforms sink ∧
      ∃ submission, (Operation.readSubmission.step w).1 = .ok (.submission submission) ∧
        submission.config.transforms = transforms.map fun n => n.stage.withoutBookkeeping := by
  intro source transforms sink w
  have h : FormsPath w.session.nodes w.session.edges source transforms sink :=
    { keyed := NodeTable.keyed_ofNodes _
      nodes_perm := by decide
      source_role := rfl
      transforms_role := by decide
      sink_role := rfl
      edges_perm := by decide }
  obtain ⟨submission, row, hanswer, htransforms, -, -, hrow⟩ := step_readSubmission_path h
  refine ⟨h, submission, hanswer, ?_⟩
  rw [htransforms, hrow.mpr]
  intro a b c d hpath
  have hids : [a, b, c, d] = ["s", "a", "b", "k"] := hpath.eq_of_length rfl
  cases hids
  decide

/-- The edges of the same path, the last one first: the transforms change places. -/
theorem step_readSubmission_path_last_first :
    let source := Node.fresh "s" "Stream" .source
    let transforms := [Node.fresh "a" "Filter" .transform, Node.fresh "b" "Project" .transform]
    let sink := Node.fresh "k" "Table" .sink
    let w : World CatalogBackend MemoryStore :=
      ⟨{ Session.fresh with
          nodes := .ofNodes (source :: transforms ++ [sink])
          edges := [⟨"b", "k"⟩, ⟨"s", "a"⟩, ⟨"a", "b"⟩] }, .empty, .empty, []⟩
    FormsPath w.session.nodes w.session.edges source transforms sink ∧
      ∀ submission, (Operation.readSubmission.step w).1 = .ok (.submission submission) →
        submission.config.transforms ≠ transforms.map fun n => n.stage.withoutBookkeeping := by
  intro source transforms sink w
  refine ⟨?_, fun submission hanswer => ?_⟩
  · exact
      { keyed := NodeTable.keyed_ofNodes _
        nodes_perm := by decide
        source_role := rfl
        transforms_role := by decide
        sink_role := rfl
        edges_perm := by decide }
  · rw [← step_readSubmission_eq_iff.mp hanswer]
    decide

end PipelineCanvas
