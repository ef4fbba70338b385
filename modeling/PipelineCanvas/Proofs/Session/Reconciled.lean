import PipelineCanvas.Backend.Catalog
import PipelineCanvas.Drafts.Memory
import PipelineCanvas.Proofs.Session.Drafts
import PipelineCanvas.Proofs.Session.Origins

/-!
# A value for every declared property

A contract that is fetched comes together with values: each declared property that has none
gets the empty one. From then on the node is *reconciled* (`Node.Reconciled`), wherever it
is kept – on the canvas, in the hands of an editor, in a stored draft. Only dropping a
property, or a canvas from elsewhere, could bring a node that is not, so in a run without
the two all nodes stay reconciled (`World.Reconciled.run`). Pruning to the contract then
drops just the properties that are not declared:

* **`Operation.declared_keys`** – outline and submission show, of every node with a contract,
  the declared properties and no other.
-/

namespace PipelineCanvas

open PipelineCanvas.Action FaithfulStore

variable {β σ : Type}

/-! ### Reconciled nodes -/

namespace Node

/-- Every property that the contract declares has a value. -/
def Reconciled (n : Node) : Prop := ∀ key, n.declares key = true → n.properties.contains key = true

variable {n : Node}

theorem contract_reconcile (n : Node) : n.reconcile.contract = n.contract := by
  unfold reconcile
  split <;> rfl

theorem reconciled_reconcile (n : Node) : n.reconcile.Reconciled := by
  intro key hkey
  rw [declares, contract_reconcile] at hkey
  rw [OrderedMap.contains, get?_reconcile]
  cases n.properties.get? key with
  | some v => rfl
  | none =>
    rw [declares, if_pos hkey]
    rfl

theorem reconciled_applyContract (n : Node) (c : Contract) : (n.applyContract c).Reconciled :=
  reconciled_reconcile _

theorem reconciled_placed (nodes : NodeTable) (n : Node) (role : Role) :
    (nodes.placed n role).Reconciled := reconciled_reconcile _

theorem Reconciled.setProperty (h : n.Reconciled) (key value : String) :
    (n.setProperty key value).Reconciled := fun k hk =>
  OrderedMap.contains_insert.mpr (.inr (h k hk))

theorem Reconciled.setOutputSchema (h : n.Reconciled) (schema : Option String) :
    (n.setOutputSchema schema).Reconciled := by
  unfold Node.setOutputSchema
  dsimp only
  split
  · exact Reconciled.setProperty (n := { n with outputSchema := _ }) h _ _
  · exact h

/-- **Of a reconciled node an outline shows what is declared,** neither more nor less. -/
theorem Reconciled.keys_stage (h : n.Reconciled) {c : Contract} (hc : n.contract = some c) :
    n.stage.properties.keys = c.keys := by
  have hproperties : n.stage.properties = n.properties.keep c.contains := by
    rw [stage, hc]
  rw [hproperties, OrderedMap.keys_eq_iff]
  intro k
  rw [OrderedMap.contains_keep]
  cases hk : c.contains k with
  | false => rfl
  | true =>
    refine h k ?_
    rw [declares, hc]
    exact hk

end Node

/-- Every node of a canvas is reconciled. -/
def NodeTable.Reconciled (t : NodeTable) : Prop := ∀ k n, t.get? k = some n → n.Reconciled

/-! ### Reconciled worlds -/

variable [Backend β] [DraftStore σ] [FaithfulStore σ]

/-- The nodes of a session are reconciled, and so are those of the drafts in the store. -/
structure World.Reconciled (w : World β σ) : Prop where
  nodes : w.session.nodes.Reconciled
  /-- Each draft was stored by a session with reconciled nodes. -/
  drafts : ∀ name stored, draft? w.store name = some stored →
    ∃ s : Session, s.nodes.Reconciled ∧ stored = s.draft.toJson.canonical

omit [Backend β] in
/-- A new session over an empty store has no node that could not be reconciled. -/
theorem World.reconciled_fresh (backend : β) {store : σ} (hempty : drafts store = []) :
    (World.fresh backend store).Reconciled where
  nodes := nofun
  drafts name stored h := by
    rw [draft?, World.fresh, hempty] at h
    cases h

namespace Operation

variable {op : Operation} {w : World β σ} {n : Node}

/-- The operation drops no property and brings no canvas from elsewhere. -/
def keepsValues : Operation → Bool
  | .removeProperty .. => false
  | .loadGraph .. => false
  | _ => true

omit [Backend β] in
/-- What a faithful store answers is the draft that it holds. -/
theorem storedDraft?_eq (name : String) (w : World β σ) :
    Session.storedDraft? name w = draft? w.store name := by
  rw [Session.storedDraft?, get_fst]
  rfl

omit [Backend β] in
theorem Brings.reconciled (h : op.Brings w n) (hw : w.Reconciled) (hop : op.keepsValues = true)
    (hown : ∀ editor outcome, op = .finishEdit editor outcome → editor.snapshot.Reconciled) :
    n.Reconciled := by
  cases h with
  | placed _ => exact Node.reconciled_placed _ _ _
  | loaded heq _ =>
    rw [heq] at hop
    cases hop
  | reopened _ hstored hdecode hn =>
    -- the draft is one that a session with reconciled nodes has stored, and it is read back
    rw [storedDraft?_eq] at hstored
    obtain ⟨s, hs, rfl⟩ := hw.drafts _ _ hstored
    obtain ⟨k, hk⟩ := Session.exists_get?_of_reopened hdecode hn
    exact hs k n hk
  | restored heq => exact hown _ _ heq

/-- **What an operation yields is reconciled,** if what it starts from is. -/
theorem Yields.reconciled (h : op.Yields w n) (hw : w.Reconciled) (hop : op.keepsValues = true)
    (hown : ∀ editor outcome, op = .finishEdit editor outcome → editor.snapshot.Reconciled) :
    n.Reconciled := by
  induction h with
  | kept hn => exact hw.nodes _ _ hn
  | brought hbrings => exact hbrings.reconciled hw hop hown
  | resolved _ _ _ _ => exact Node.reconciled_applyContract _ _
  | described _ schema ih => exact ih.setOutputSchema schema
  | valued _ _ ih => exact ih.setProperty _ _
  | unvalued _ heq _ =>
    rw [heq] at hop
    cases hop

end Operation

/-- **A step keeps a world reconciled.** -/
theorem World.Reconciled.step {w : World β σ} (h : w.Reconciled) {op : Operation}
    (hop : op.keepsValues = true)
    (hown : ∀ editor outcome, op = .finishEdit editor outcome → editor.snapshot.Reconciled) :
    (op.step w).2.Reconciled where
  nodes k n hn := (op.yieldsAll_step w k n hn).reconciled h hop hown
  drafts name stored hstored := by
    rcases Operation.draft?_step_cases hstored with hbefore | hown
    · exact h.drafts name stored hbefore
    · exact ⟨w.session, h.nodes, hown⟩

/-- **A run keeps a world reconciled.** -/
theorem World.Reconciled.run {w : World β σ} (h : w.Reconciled) {ops : List Operation}
    (hops : ∀ op ∈ ops, op.keepsValues = true)
    (hown : ∀ editor outcome, .finishEdit editor outcome ∈ ops → editor.snapshot.Reconciled) :
    (Operation.runAll ops w).Reconciled := by
  induction ops generalizing w with
  | nil => exact h
  | cons op ops ih =>
    have hstep := h.step (hops op (List.mem_cons_self ..)) fun editor outcome heq =>
      hown editor outcome (heq ▸ List.mem_cons_self ..)
    exact ih hstep (fun o ho => hops o (List.mem_cons_of_mem _ ho))
      fun editor outcome ho => hown editor outcome (List.mem_cons_of_mem _ ho)

omit [FaithfulStore σ] in
/-- What an editor goes back to is reconciled. -/
theorem Step.Opened.reconciled {s : Step β σ} {editor : Editor} (h : s.Opened editor) :
    editor.snapshot.Reconciled := by
  obtain ⟨-, -, n, answers, -, -, hsnapshot⟩ := h.resolved
  rw [hsnapshot]
  exact n.reconciled_applyContract _

/-! ### Every run -/

namespace Operation

/-- **Once its contract is known, a node has a value for every declared property, and its
plugin is sent with these properties and no other.** In every run from a new session over a
faithful store without drafts, with whatever backend: as long as no property is dropped, no
canvas is loaded and only editors of the run are closed, every node is reconciled, and the
plugins of the outline and of the submission, which go together one by one, have just the
declared properties. -/
theorem declared_keys (backend : β) {store : σ} (hempty : drafts store = [])
    {ops : List Operation} (hops : ∀ op ∈ ops, op.keepsValues = true)
    (hown : ∀ editor outcome, .finishEdit editor outcome ∈ ops →
      ∃ s ∈ history ops (World.fresh backend store), s.Opened editor) :
    let w := runAll ops (World.fresh backend store)
    (∀ k n, w.session.nodes.get? k = some n → n.Reconciled) ∧
      ∃ outline submission, (readOutline.step w).1 = .ok (.outline outline) ∧
        (readSubmission.step w).1 = .ok (.submission submission) ∧
        List.Forall₂
          (fun sent shown => ∃ n, shown.id = some n.id ∧ w.session.nodes.get? n.id = some n ∧
            ∀ c, n.contract = some c →
              shown.properties.keys = c.keys ∧ sent.properties.keys = c.keys)
          submission.stages outline.stages := by
  intro w
  have hw : w.Reconciled := (World.reconciled_fresh backend hempty).run hops
    fun editor outcome ho => by
      obtain ⟨s, -, hs⟩ := hown editor outcome ho
      exact hs.reconciled
  have hkeyed : w.session.nodes.Keyed := (Session.Reachable.fresh.run ops).keyed
  refine ⟨hw.nodes, _, _, step_readOutline w, step_readSubmission w, ?_⟩
  have ho : w.session.outline =
      .drawn w.session.nodes w.session.edges w.session.metadata := outline_flatten hkeyed _ _
  rw [Session.submission, Submission.stages_build, List.forall₂_map_left_iff, List.forall₂_same]
  intro shown hshown
  rw [ho] at hshown
  obtain ⟨n, hn, rfl⟩ := exists_node_of_mem_stages_drawn hkeyed hshown
  refine ⟨n, rfl, hn, fun c hc => ?_⟩
  have hkeys := (hw.nodes _ n hn).keys_stage hc
  rw [Stage.stripped_stage]
  exact ⟨hkeys, hkeys⟩

/-- A transform is edited, given a property that is not declared, and stored in a draft; the
editor is cancelled after that, and the draft is opened anew. The source behind it is not on
offer, so its contract stays pending. -/
theorem declared_keys_reopened :
    let contract : Contract :=
      .ofList [("condition", .ofKind "condition" "string"), ("schema", .ofKind "schema" "string")]
    let backend := CatalogBackend.empty.register .transform "Filter" contract
    let filter :=
      (NodeTable.placed .empty (.fresh "t" "Filter" .transform) .transform).applyContract contract
    let editor := Editor.ofSnapshot filter "" .batch false
    let ops := [.setMetadata (.named "events"),
      .addNode (.fresh "t" "Filter" .transform) .transform, .addNode (.fresh "a" "Stream" .source)
        .source, .addEdge ⟨"a", "t"⟩, .edit "t" none, .setProperty "t" "condition" "a > 1",
      .setProperty "t" "colour" "red", .saveDraft, .finishEdit editor .cancel, .reset false,
      .importDraft "events"]
    let w := runAll ops (World.fresh backend MemoryStore.empty)
    let reopened := (filter.setProperty "condition" "a > 1").setProperty "colour" "red"
    (∀ op ∈ ops, op.keepsValues = true) ∧
      w.session.nodes.get? "t" = some reopened ∧ reopened.Reconciled ∧
      w.session.submission.stages.map (·.properties.keys) = [[], contract.keys] := by
  intro contract backend filter editor ops w reopened
  have hops : ∀ op ∈ ops, op.keepsValues = true := by decide
  let opening : Step CatalogBackend MemoryStore :=
    ⟨runAll (ops.take 4) (World.fresh backend .empty), .edit "t" none⟩
  have hopened : opening.Opened editor := ⟨⟨"t", none, rfl⟩, answer_edit (by decide +kernel)⟩
  have hown : ∀ e outcome, .finishEdit e outcome ∈ ops →
      ∃ s ∈ history ops (World.fresh backend MemoryStore.empty), s.Opened e := by
    intro e outcome he
    have hsame : e = editor ∧ outcome = .cancel := by simpa [ops] using he
    rw [hsame.1]
    exact ⟨opening, mem_history_iff.mpr ⟨ops.take 4, ops.drop 5, rfl, rfl⟩, hopened⟩
  have hn : w.session.nodes.get? "t" = some reopened := by decide +kernel
  have hempty : drafts MemoryStore.empty = [] := rfl
  obtain ⟨hnodes, -⟩ := declared_keys backend hempty hops hown
  have hw : runAll ops (World.fresh backend MemoryStore.empty) = w := rfl
  rw [hw] at hnodes
  exact ⟨hops, hn, hnodes "t" reopened hn, by decide +kernel⟩

end Operation

end PipelineCanvas
