import PipelineCanvas.Proofs.Session.Editors

/-!
# Editors that are closed late

The handle of an editor is a copy of its node in the hands of whoever opened it. The session
itself marks no more than the id of the node that an editor is open on, and nothing that
happens to the node, to the canvas or to the mark reaches the copy. So an editor can still be
closed when its node is long gone, or when the session has closed it already, and to cancel
it then puts the copy back as ever (`Operation.nodes_closing`):

* **`Operation.closing_keys`** – a node that was taken off the canvas is on it again;
* **`Operation.closing_torn_down`** – the edits that tearing down has kept are lost again.
-/

namespace PipelineCanvas

open PipelineCanvas.Action

variable {β σ : Type} [Backend β] [DraftStore σ]

namespace Operation

variable {w : World β σ} {ops : List Operation} {opening torn closing : Step β σ} {id : String}
  {scope : Option String} {editor : Editor} {outcome : Outcome}

/-- An editor that was opened somewhere in a run keeps its node between the two changes of
its opening. -/
theorem opens_of_mem_history (hreachable : w.session.Reachable) (hs : opening ∈ history ops w)
    (hopening : opening.operation = .edit id scope)
    (hanswer : opening.answer = .ok (.editor editor)) :
    Session.Opens id scope opening.before editor opening.after :=
  Session.opens_of_run_edit (keyed_of_mem_history hreachable.keyed hs)
    (run_edit_of_answer hopening hanswer)

/-- What closing an editor does to the nodes depends on the copy that it holds, and on
nothing else. -/
theorem nodes_closing (hid : editor.snapshot.id = id)
    (hclosing : closing.operation = .finishEdit editor outcome) :
    closing.after.session.nodes =
      if outcome = .cancel then closing.before.session.nodes.insert id editor.snapshot
      else closing.before.session.nodes := by
  have hclosed := (step_finishEdit editor outcome closing.before).1
  rw [← hclosing, NodeTable.restore, hid] at hclosed
  exact hclosed

/-! ### Nodes that are gone -/

/-- **Cancelling puts a node on the canvas that is no longer there.** In whatever run: if the
editor is kept, or if its node is on the canvas, closing it leaves the ids on the canvas what
they are, and otherwise the id of the editor's node is one of them again. -/
theorem closing_keys (hreachable : w.session.Reachable)
    (hsteps : [opening, closing].Sublist (history ops w))
    (hopening : opening.operation = .edit id scope)
    (hanswer : opening.answer = .ok (.editor editor))
    (hclosing : closing.operation = .finishEdit editor outcome) :
    let before := closing.before.session.nodes
    let after := closing.after.session.nodes
    (after.keys = before.keys ↔ outcome = .keep ∨ before.contains id = true) ∧
      ∀ k, after.contains k = true ↔ before.contains k = true ∨ outcome = .cancel ∧ k = id := by
  intro before after
  have hopens := opens_of_mem_history hreachable (hsteps.subset (List.mem_cons_self ..)) hopening
    hanswer
  have hafter : after = if outcome = .cancel then before.insert id editor.snapshot else before :=
    nodes_closing hopens.snapshot_id hclosing
  have hcontains : ∀ k,
      after.contains k = true ↔ before.contains k = true ∨ outcome = .cancel ∧ k = id := by
    intro k
    rw [hafter]
    cases outcome with
    | cancel =>
      rw [if_pos rfl, OrderedMap.contains_insert]
      tauto
    | keep =>
      rw [if_neg (by decide)]
      tauto
  refine ⟨⟨fun hkeys => ?_, fun hsame => ?_⟩, hcontains⟩
  · cases outcome with
    | keep => exact .inl rfl
    | cancel =>
      have hback : after.contains id = true := (hcontains id).mpr (.inr ⟨rfl, rfl⟩)
      rw [OrderedMap.keys_eq_iff.mp hkeys id] at hback
      exact .inr hback
  · rw [OrderedMap.keys_eq_iff]
    intro k
    rw [Bool.eq_iff_iff, hcontains]
    refine or_iff_left_of_imp ?_
    rintro ⟨rfl, rfl⟩
    exact hsame.resolve_left (by decide)

/-- The node of the editor is still there; another node has gone since it was opened. -/
theorem closing_keys_other_gone :
    let nodes := [Node.fresh "a" "Stream" .source, Node.fresh "t" "Filter" .transform]
    let backend := CatalogBackend.empty.register .transform "Filter" .empty
    let w : World CatalogBackend MemoryStore := World.fresh backend .empty
    let editor := Editor.ofSnapshot ((Node.fresh "t" "Filter" .transform).applyContract .empty) ""
      .batch false
    let ops := [.loadGraph nodes [], .edit "t" none, .removeNode "a"]
    let left := runAll ops w
    left.session.nodes.keys = ["t"] ∧
      ((finishEdit editor .cancel).step left).2.session.nodes.keys = ["t"] := by
  intro nodes backend w editor ops left
  let drawn := ((loadGraph nodes []).step w).2
  let opening : Step CatalogBackend MemoryStore := ⟨drawn, .edit "t" none⟩
  let closing : Step CatalogBackend MemoryStore := ⟨left, .finishEdit editor .cancel⟩
  have hsteps : [opening, closing].Sublist (history (ops ++ [.finishEdit editor .cancel]) w) :=
    .cons _ (.cons_cons _ (.cons _ (.cons_cons _ .slnil)))
  have hanswer : opening.answer = .ok (.editor editor) := answer_edit (by decide +kernel)
  have hkeys : left.session.nodes.keys = ["t"] := by decide +kernel
  obtain ⟨hsame, -⟩ := closing_keys .fresh hsteps rfl hanswer rfl
  exact ⟨hkeys, (hsame.mpr (.inr (by decide +kernel))).trans hkeys⟩

/-- An editor is cancelled after its node was removed, the session was reset, another canvas
was loaded or the pipeline was saved: the node comes back each time. -/
theorem closing_keys_gone :
    let source := Node.fresh "a" "Stream" .source
    let backend := CatalogBackend.empty.register .source "Stream" .empty
    let editor := Editor.ofSnapshot (source.applyContract .empty) "" .batch false
    let drawn := runAll
      [.loadGraph [source, .fresh "k" "Table" .sink] [⟨"a", "k"⟩], .setMetadata (.named "events")]
      (World.fresh backend MemoryStore.empty)
    ((edit "a" none).step drawn).1 = .ok (.editor editor) ∧
      ∀ gone ∈ [.removeNode "a", .reset false, .loadGraph [] [], .save "default"],
        let left := runAll [.edit "a" none, gone] drawn
        left.session.nodes.contains "a" = false ∧
          ((finishEdit editor .cancel).step left).2.session.nodes.contains "a" = true := by
  intro source backend editor drawn
  exact ⟨answer_edit (by decide +kernel), by decide +kernel⟩

/-! ### Edits that were kept -/

/-- Tearing down closes the open editor and changes nothing else. -/
theorem step_teardown (hopen : w.session.openEditor = some id) :
    (teardown.step w).2 =
      { w with
        session := { w.session with openEditor := none }
        effects := w.effects ++ [.logged (.editorClosed id false) []] } := by
  rw [step_of_perform_eq teardown Session.teardown (fun _ => .done) rfl]
  simp only [Session.teardown, run_bind, run_session, hopen, run_update, run_log]

/-- **Edits that tearing down has kept are not kept for good.** In whatever run: tearing down
closes the editor that is open, as one that is not reverted, and leaves the nodes. If the
editor is closed once more later, no node changes exactly if it is kept this time, or if its
node happens to be as it was right after its contract was fetched at the opening. If it is
cancelled, that is what the node becomes, without the edits made before the tearing down or
since. -/
theorem closing_torn_down (hreachable : w.session.Reachable)
    (hsteps : [opening, torn, closing].Sublist (history ops w))
    (hopening : opening.operation = .edit id scope)
    (hanswer : opening.answer = .ok (.editor editor)) (htorn : torn.operation = .teardown)
    (hopen : torn.before.session.openEditor = some id)
    (hclosing : closing.operation = .finishEdit editor outcome) :
    torn.after =
        { torn.before with
          session := { torn.before.session with openEditor := none }
          effects := torn.before.effects ++ [.logged (.editorClosed id false) []] } ∧
      ∃ refreshed, Session.refreshed? id scope opening.before = some refreshed ∧
        (closing.after.session.nodes = closing.before.session.nodes ↔
          outcome = .keep ∨ closing.before.session.nodes.get? id = some refreshed) ∧
        (outcome = .cancel → closing.after.session.nodes.get? id = some refreshed) := by
  have hopens := opens_of_mem_history hreachable (hsteps.subset (List.mem_cons_self ..)) hopening
    hanswer
  have hnodes := nodes_closing hopens.snapshot_id hclosing
  refine ⟨?_, editor.snapshot, hopens.refreshed_eq, ?_, fun hcancel => ?_⟩
  · rw [Step.after, htorn]
    exact step_teardown hopen
  · rw [hnodes]
    cases outcome with
    | cancel =>
      rw [if_pos rfl, OrderedMap.insert_eq_self_iff]
      exact (or_iff_right (by decide)).symm
    | keep =>
      rw [if_neg (by decide)]
      exact iff_of_true rfl (.inl rfl)
  · rw [hnodes, if_pos hcancel]
    exact OrderedMap.get?_insert_self _ _ _

/-- The editor was torn down with an edit made, and is kept when it is closed once more. -/
theorem closing_torn_down_kept :
    let source := Node.fresh "a" "Stream" .source
    let backend := CatalogBackend.empty.register .source "Stream" .empty
    let w : World CatalogBackend MemoryStore := World.fresh backend .empty
    let editor := Editor.ofSnapshot (source.applyContract .empty) "" .batch false
    let ops := [.loadGraph [source] [], .edit "a" none, .setProperty "a" "format" "clf", .teardown]
    let torn := runAll ops w
    let closed := ((finishEdit editor .keep).step torn).2
    torn.session.openEditor = none ∧ closed.session.nodes = torn.session.nodes ∧
      closed.session.nodes.get? "a" =
        some ((source.applyContract .empty).setProperty "format" "clf") := by
  intro source backend w editor ops torn closed
  let drawn := ((loadGraph [source] []).step w).2
  let edited := runAll [.edit "a" none, .setProperty "a" "format" "clf"] drawn
  let opening : Step CatalogBackend MemoryStore := ⟨drawn, .edit "a" none⟩
  let tearing : Step CatalogBackend MemoryStore := ⟨edited, .teardown⟩
  let closing : Step CatalogBackend MemoryStore := ⟨torn, .finishEdit editor .keep⟩
  have hsteps : [opening, tearing, closing].Sublist
      (history (ops ++ [.finishEdit editor .keep]) w) :=
    .cons _ (.cons_cons _ (.cons _ (.cons_cons _ (.cons_cons _ .slnil))))
  have hanswer : opening.answer = .ok (.editor editor) := answer_edit (by decide +kernel)
  obtain ⟨htorn, refreshed, -, hnodes, -⟩ := closing_torn_down
    .fresh hsteps rfl hanswer rfl (by decide +kernel) rfl
  have hkept : closed.session.nodes = torn.session.nodes := hnodes.mpr (.inl rfl)
  have hafter : tearing.after = torn := rfl
  refine ⟨?_, hkept, ?_⟩
  · rw [← hafter, htorn]
  · rw [hkept]
    decide +kernel

/-- The same editor is cancelled instead, and the edit is lost. -/
theorem closing_torn_down_cancelled :
    let source := Node.fresh "a" "Stream" .source
    let backend := CatalogBackend.empty.register .source "Stream" .empty
    let editor := Editor.ofSnapshot (source.applyContract .empty) "" .batch false
    let drawn := runAll [.loadGraph [source] []] (World.fresh backend MemoryStore.empty)
    let edited := runAll [.edit "a" none, .setProperty "a" "format" "clf"] drawn
    let torn := (teardown.step edited).2
    let closed := ((finishEdit editor .cancel).step torn).2
    ((edit "a" none).step drawn).1 = .ok (.editor editor) ∧
      edited.session.openEditor = some "a" ∧ torn.session.openEditor = none ∧
      torn.session.nodes = edited.session.nodes ∧ closed.session.nodes ≠ torn.session.nodes := by
  intro source backend editor drawn edited torn closed
  exact ⟨answer_edit (by decide +kernel), by decide +kernel⟩

end Operation

end PipelineCanvas
