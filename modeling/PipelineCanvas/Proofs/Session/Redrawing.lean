import PipelineCanvas.Backend.Catalog
import PipelineCanvas.Proofs.Flattening.Generated
import PipelineCanvas.Proofs.Session.Reopening
import PipelineCanvas.Proofs.Session.Submissions

/-!
# Drafts without a canvas

A draft that was not drawn on a canvas is a submission and nothing else. To open it, the
plugins of the submission are drawn in a row, and what the submission tells of the metadata
becomes the metadata (`Session.opening_bare`). Of the two run settings one is lost on the
way, but it is not the one that goes with the template, so the session would send what the
draft says – unless that is a single plugin, which no edge of the row reaches
(**`importDraft_without_canvas`**).
-/

namespace PipelineCanvas

variable {o : Outline} {m : Metadata} {name : String}

/-- What a submission tells of the metadata, under any name, makes the same submission. -/
theorem Submission.build_metadata_build (o o' : Outline) (m : Metadata) (name : String) :
    build o' ((build o m).metadata name) = build o' m :=
  (alike_metadata_build o { m with name }).build_eq o'

namespace Session

/-- **The session on which a submission was opened** draws its plugins in a row, and would
send it again if there is not just one. -/
theorem opening_bare (s : Session) (o : Outline) (m : Metadata) (name : String) :
    let submission := Submission.build o m
    let opened := s.opening ⟨submission, none⟩ name
    (∃ row, DrawnInRow (submission.outline name).roles opened.nodes opened.edges row) ∧
      (opened.submission = submission ↔ submission.stages.length ≠ 1) := by
  intro submission opened
  have hrow := Outline.drawnInRow_toGraph (o := submission.outline name)
    (Submission.bare_of_mem_stages_build o m)
  refine ⟨⟨_, hrow⟩, ?_⟩
  have hsubmission : opened.submission =
      .build (flatten (.ofNodes (submission.outline name).toGraph.1)
        (submission.outline name).toGraph.2 (submission.metadata name)).outline
        (submission.metadata name) := rfl
  have hbuild : Submission.build (submission.outline name) (submission.metadata name) =
      submission :=
    calc Submission.build (submission.outline name) (submission.metadata name)
        = .build (submission.outline name) m := Submission.build_metadata_build _ _ _ _
      _ = submission := Submission.build_outline_build o m name
  have hiff := build_flatten_chain_iff hrow.ids_nodup (submission.metadata name)
  rw [hbuild] at hiff
  rw [hsubmission]
  exact hiff

end Session

variable {β σ : Type} [Backend β] [DraftStore σ] {t : World β σ} {value : Option Json}

/-- **A draft without a canvas is opened as what was submitted.** Whatever outline and
metadata the submission was made of, and whatever session opens it, the canvas then has
just its plugins, in a row, each with its contract pending; the pipeline has the name of
the draft, and what would be sent is the submission, exactly if that is not one plugin. -/
theorem importDraft_without_canvas (hget : (DraftStore.get draftsKey t.store).1 = .ok value)
    (hstored : Entries.get? (Session.draftsOf value) name =
      some (Draft.toJson ⟨.build o m, none⟩).canonical) :
    let submission := Submission.build o m
    let opened := (Operation.importDraft name).step t
    opened.1 = .ok .done ∧
      (∃ row, DrawnInRow (submission.outline name).roles opened.2.session.nodes
        opened.2.session.edges row) ∧
      opened.2.session.metadata.name = name ∧
      ((Operation.readSubmission.step opened.2).1 = .ok (.submission submission) ↔
        submission.stages.length ≠ 1) := by
  intro submission opened
  obtain ⟨t', hrun, hsession⟩ := Session.run_importDraft_of_get hget hstored
  have hopened : opened = (.ok .done, t') := by
    have hstep := Operation.step_of_perform_eq (.importDraft name)
      (Session.importDraft name : Action β σ Unit) (fun _ => .done) rfl t
    rw [hrun] at hstep
    exact hstep
  rw [hopened, step_readSubmission_eq_iff, hsession]
  obtain ⟨hrow, hsubmission⟩ := t.session.opening_bare o m name
  exact ⟨rfl, hrow, rfl, hsubmission⟩

/-- Two transforms and a sink, to run in realtime, opened over another canvas. -/
theorem importDraft_without_canvas_sourceless :
    let filter : Stage :=
      { Stage.blank with name := "Filter", properties := .ofList [("condition", "a > 1")] }
    let sink : Stage := { Stage.blank with id := some "k", name := "Table" }
    let o : Outline := { Outline.blank with transforms := [filter, filter], sink := some sink }
    let m : Metadata := ⟨"orders", "kept", ⟨some .realtime, 3, "0 0 * * *"⟩⟩
    let submission := Submission.build o m
    let stored : Json := .object [("legacy", (Draft.toJson ⟨submission, none⟩).canonical)]
    let t : World CatalogBackend MemoryStore :=
      ⟨{ Session.fresh with nodes := .ofNodes [.fresh "a" "Stream" .source], readOnly := true },
        .empty, (DraftStore.set draftsKey stored MemoryStore.empty).2, []⟩
    let opened := (Operation.importDraft "legacy").step t
    opened.1 = .ok .done ∧
      (∃ row, DrawnInRow (submission.outline "legacy").roles opened.2.session.nodes
        opened.2.session.edges row ∧
        row.map (·.id) = ["transform-0", "transform-1", "sink-2"]) ∧
      (Operation.readSubmission.step opened.2).1 = .ok (.submission submission) := by
  intro filter sink o m submission stored t opened
  have hstored : Entries.get? (Session.draftsOf (some stored)) "legacy" =
      some (Draft.toJson ⟨.build o m, none⟩).canonical := rfl
  obtain ⟨hanswer, ⟨row, hrow⟩, -, hsubmission⟩ :=
    importDraft_without_canvas (t := t) rfl hstored
  refine ⟨hanswer, ⟨row, hrow, ?_⟩, hsubmission.mpr (by decide)⟩
  rw [hrow.ids_eq]
  decide

end PipelineCanvas
