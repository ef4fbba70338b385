import PipelineCanvas.Backend.Catalog
import PipelineCanvas.Drafts.Memory
import PipelineCanvas.Proofs.Session.History
import PipelineCanvas.Proofs.Session.Outcomes

/-!
# Editors that are open at once

Many editors may be open over one canvas. Opening one changes its node twice: the contract
is fetched anew, and then a schema is taken over. The editor keeps the node as it is between
the two (`Session.refreshed?`, `Session.Opens`). Whatever is done then, through whatever
editor, closing it brings back just that node or changes none at all
(**`Operation.closing_reverts`**).
-/

namespace PipelineCanvas

open PipelineCanvas.Action

variable {β σ : Type} [Backend β]

namespace Session

variable {id : String} {scope : Option String} {w w' : World β σ} {editor : Editor}

/-! ### Opening -/

/-- The node with an id as it is right after its contract was fetched anew. -/
def refreshed? (id : String) (scope : Option String) (w : World β σ) : Option Node :=
  (run (resolveNode id w.session.activeTemplate scope : Action β σ Unit) w).2.session.nodes.get? id

/-- An editor was opened on the node with an id, in one world, and another world left. -/
structure Opens (id : String) (scope : Option String) (w : World β σ) (editor : Editor)
    (w' : World β σ) : Prop where
  /-- The editor goes back to the node with its new contract. -/
  refreshed_eq : refreshed? id scope w = some editor.snapshot
  snapshot_id : editor.snapshot.id = id
  /-- On the canvas the node has taken over what flows into it. -/
  get?_eq : w'.session.nodes.get? id = some (takeOver editor.snapshot editor.inputSchema)

/-- **An editor keeps its node between the two changes of its opening.** -/
theorem opens_of_run_edit (hkeyed : w.session.nodes.Keyed)
    (h : run (edit id scope : Action β σ Editor) w = (.ok editor, w')) :
    Opens id scope w editor w' := by
  have hrun := editRun id scope w
  rw [h] at hrun
  cases hrun with
  | @opened n snapshot answers _ _ hn hfetch hsnapshot heditor hsession =>
    have hkept : editor.snapshot = snapshot := by
      rw [heditor]
      rfl
    have hresolved := session_run_resolveNode hn hfetch
    refine ⟨?_, ?_, ?_⟩
    · rw [refreshed?, hresolved, hkept, hsnapshot]
      exact OrderedMap.get?_insert_self _ _ _
    · rw [hkept, hsnapshot, Node.id_applyContract]
      exact NodeTable.keyed_iff.mp hkeyed id n hn
    · rw [hsession, hkept]
      exact OrderedMap.get?_insert_self _ _ _

end Session

/-! ### Closing -/

variable [DraftStore σ]

namespace Operation

/-- An operation that answers with an editor has opened it. -/
theorem run_edit_of_answer {s : Step β σ} {id : String} {scope : Option String} {editor : Editor}
    (h : s.operation = .edit id scope) (hanswer : s.answer = .ok (.editor editor)) :
    run (Session.edit id scope : Action β σ Editor) s.before = (.ok editor, s.after) := by
  rw [Step.answer] at hanswer
  rw [Step.after]
  rw [h, step_of_perform_eq (edit id scope) (Session.edit id scope) .editor rfl] at hanswer ⊢
  generalize run (Session.edit id scope : Action β σ Editor) s.before = r at hanswer ⊢
  obtain ⟨_ | _, w'⟩ := r
  · cases hanswer
  · cases hanswer
    rfl

/-- Opening an editor answers with it. -/
theorem answer_edit {id : String} {scope : Option String} {editor : Editor} {w : World β σ}
    (h : (run (Session.edit id scope : Action β σ Editor) w).1 = .ok editor) :
    ((edit id scope).step w).1 = .ok (.editor editor) := by
  rw [step_of_perform_eq (edit id scope) (Session.edit id scope) .editor rfl, h]
  rfl

/-- Closing an editor leaves edges and metadata alone, and of the nodes at most its own is
not as it was. -/
theorem step_finishEdit (editor : Editor) (outcome : Outcome) (w : World β σ) :
    let closed := ((finishEdit editor outcome).step w).2.session
    closed.nodes =
        (if outcome = .cancel then w.session.nodes.restore editor.snapshot else w.session.nodes) ∧
      closed.edges = w.session.edges ∧ closed.metadata = w.session.metadata := by
  intro closed
  have hstep := step_of_perform_eq (finishEdit editor outcome)
    (Session.finishEdit editor outcome) (fun _ => .done) rfl w
  have hclosed : closed =
      (run (Session.finishEdit editor outcome : Action β σ Unit) w).2.session :=
    congrArg (fun r => r.2.session) hstep
  rw [hclosed, Session.session_run_finishEdit]
  exact ⟨rfl, rfl, rfl⟩

/-- **An editor reverts its own node, or none.** In whatever run of a session: between the
opening of an editor and its closing there may be any operations, other editors opened and
closed among them. If the editor is cancelled, its node is the one right after the contract
was fetched at its opening; if it is not, no node changes. No other node changes in either
case, and neither do the edges and the metadata. -/
theorem closing_reverts {w : World β σ} (hreachable : w.session.Reachable) {ops : List Operation}
    {opening closing : Step β σ} (hsteps : [opening, closing].Sublist (history ops w))
    {id : String} {scope : Option String} (hopening : opening.operation = .edit id scope)
    {editor : Editor} (hanswer : opening.answer = .ok (.editor editor)) {outcome : Outcome}
    (hclosing : closing.operation = .finishEdit editor outcome) :
    let before := closing.before.session
    let after := closing.after.session
    ∃ refreshed, Session.refreshed? id scope opening.before = some refreshed ∧
      opening.after.session.nodes.get? id =
        some (Session.takeOver refreshed editor.inputSchema) ∧
      (outcome = .cancel → after.nodes.get? id = some refreshed) ∧
      (outcome = .keep → after.nodes = before.nodes) ∧
      (∀ other, other ≠ id → after.nodes.get? other = before.nodes.get? other) ∧
      after.edges = before.edges ∧ after.metadata = before.metadata := by
  intro before after
  have hkeyed : opening.before.session.nodes.Keyed :=
    keyed_of_mem_history hreachable.keyed (hsteps.subset (List.mem_cons_self ..))
  have hopens : Session.Opens id scope opening.before editor opening.after :=
    Session.opens_of_run_edit hkeyed (run_edit_of_answer hopening hanswer)
  have hclosed := step_finishEdit editor outcome closing.before
  rw [← hclosing] at hclosed
  obtain ⟨hnodes, hedges, hmetadata⟩ := hclosed
  have hafter : after.nodes = if outcome = .cancel then before.nodes.restore editor.snapshot
      else before.nodes := hnodes
  refine ⟨_, hopens.refreshed_eq, hopens.get?_eq, ?_, ?_, ?_, hedges, hmetadata⟩
  · intro hcancel
    rw [hafter, if_pos hcancel, NodeTable.restore, hopens.snapshot_id]
    exact OrderedMap.get?_insert_self _ _ _
  · intro hkeep
    rw [hafter, if_neg (by rw [hkeep]; decide)]
  · intro other hother
    rw [hafter]
    split
    · rw [NodeTable.restore, OrderedMap.get?_insert, hopens.snapshot_id, if_neg (Ne.symm hother)]
    · rfl

/-- Two editors are open at once: that of a source is kept, that of the transform behind it,
opened before, is cancelled. -/
theorem closing_reverts_two_editors :
    let source : Node := { Node.fresh "a" "Stream" .source with outputSchema := "[]" }
    let filter := Node.fresh "t" "Filter" .transform
    let contract : Contract := .ofList [("schema", .ofKind "schema" "string")]
    let backend :=
      (CatalogBackend.empty.register .source "Stream" .empty).register .transform "Filter" contract
    let w : World CatalogBackend MemoryStore :=
      ⟨{ Session.fresh with nodes := .ofNodes [source, filter], edges := [⟨"a", "t"⟩] },
        backend, .empty, []⟩
    let filterEditor := Editor.ofSnapshot (filter.applyContract contract) "[]" .batch false
    let sourceEditor := Editor.ofSnapshot (source.applyContract .empty) "" .batch false
    let ops := [.edit "t" none, .setProperty "t" "condition" "a > 1", .edit "a" none,
      .setOutputSchema "a" none, .finishEdit sourceEditor .keep]
    let changed := runAll ops w
    let closed := ((finishEdit filterEditor .cancel).step changed).2
    w.session.Reachable ∧
      changed.session.nodes.get? "t" =
        some (((filter.applyContract contract).setOutputSchema (some "[]")).setProperty
          "condition" "a > 1") ∧
      closed.session.nodes.get? "t" = some (filter.applyContract contract) ∧
      closed.session.nodes.get? "a" =
        some { source with contract := some .empty, outputSchema := "" } := by
  intro source filter contract backend w filterEditor sourceEditor ops changed closed
  have hreachable : w.session.Reachable :=
    .step (w := World.fresh backend MemoryStore.empty) (.loadGraph [source, filter] [⟨"a", "t"⟩])
      .fresh
  let opening : Step CatalogBackend MemoryStore := ⟨w, .edit "t" none⟩
  let closing : Step CatalogBackend MemoryStore := ⟨changed, .finishEdit filterEditor .cancel⟩
  have hsteps : [opening, closing].Sublist
      (history (ops ++ [.finishEdit filterEditor .cancel]) w) :=
    .cons_cons _ (.cons _ (.cons _ (.cons _ (.cons _ (.cons_cons _ .slnil)))))
  have hopening : opening.operation = .edit "t" none := rfl
  have hanswer : opening.answer = .ok (.editor filterEditor) := answer_edit (by decide +kernel)
  obtain ⟨refreshed, hrefreshed, -, hcancel, -, hothers, -⟩ :=
    closing_reverts hreachable hsteps hopening hanswer rfl
  have hfilter : Session.refreshed? "t" none w = some (filter.applyContract contract) := by
    decide +kernel
  refine ⟨hreachable, by decide +kernel, ?_, ?_⟩
  · rw [← hfilter]
    exact (hcancel rfl).trans hrefreshed.symm
  · exact (hothers "a" (by decide)).trans (by decide +kernel)

end Operation

end PipelineCanvas
