import PipelineCanvas.Proofs.Canvas.Cascades
import PipelineCanvas.Proofs.Session.Placing

/-!
# Nodes that cover each other

A palette places nodes and takes them off. Whether two nodes then cover each other depends on how
they came there. The slot of a node is the number of other nodes of its role that stood on the
canvas when it was placed last (`Operation.lastSlot?`), and the node keeps it while others come and
go. So two nodes cover each other exactly if they have the same role and that number was the same.

A run in which no node but the last of its cascade is taken off (`Step.TakesLast`) leaves the canvas
packed, and no two nodes cover each other. Nothing less will do: once another node is taken off, the
next one of its role covers one that is left (`Operation.covered_of_removeNode`).

* `Step.position_after` – a step puts a node into its slot, or leaves it where it is;
* `Step.packed_after` – a step that takes off only the last of a cascade leaves the canvas packed;
* **`Operation.covering_run`** – which nodes cover each other behind a run.
-/

namespace PipelineCanvas

/-! ### Where a placed node stands -/

namespace Node

variable {β : Type} [Backend β] (n : Node) (role : Role) (before : Nat) (template : TemplateKind)
  (backend : β)

theorem stands_reconcile : n.reconcile.role = n.role ∧ n.reconcile.position = n.position := by
  unfold reconcile
  split <;> exact ⟨rfl, rfl⟩

/-- Whatever the backend answers, a node that was placed stands in its slot. -/
theorem stands_settled :
    (n.settled role before template backend).role = role ∧
      (n.settled role before template backend).position = .forSlot role before := by
  unfold settled
  split
  · exact stands_reconcile _
  · split
    · exact stands_reconcile _
    · exact ⟨rfl, rfl⟩

end Node

/-! ### Steps of the palette -/

variable {β σ : Type}

/-- The id under which an operation places a node or takes one off, if it does either. -/
def Operation.moves? : Operation → Option String
  | .addNode n _ => some n.id
  | .removeNode id => some id
  | _ => none

namespace Step

/-- The slot that a step puts the node with an id into: the number of nodes of its role under other
ids. -/
def slotFor? (id : String) (s : Step β σ) : Option Nat :=
  match s.operation with
  | .addNode n role =>
    if n.id = id then some (NodeTable.roleCount (s.before.session.nodes.erase id) role) else none
  | _ => none

/-- The node that a step takes off or places anew, if there is one, is the last of its cascade: no
other of its role is further down. -/
def TakesLast (s : Step β σ) : Prop :=
  ∀ n ∈ s.operation.moves?.bind s.before.session.nodes.get?,
    ∀ m ∈ s.before.session.nodes.values, m.role = n.role → m.position.top ≤ n.position.top

instance (s : Step β σ) : Decidable s.TakesLast :=
  inferInstanceAs (Decidable (∀ n ∈ s.operation.moves?.bind s.before.session.nodes.get?,
    ∀ m ∈ s.before.session.nodes.values, m.role = n.role → m.position.top ≤ n.position.top))

variable {s : Step β σ} {id : String} {n : Node}

/-- A slot is not further on than there are nodes. -/
theorem slotFor?_le {i : Nat} (h : s.slotFor? id = some i) :
    i ≤ s.before.session.nodes.size := by
  unfold slotFor? at h
  split at h
  · split at h
    · cases h
      exact (NodeTable.roleCount_le_size _ _).trans (NodeTable.size_erase_le _ _)
    · cases h
  · cases h

variable [Backend β] [DraftStore σ]

/-- A step that places a node puts one into the next slot of the role, under the id of the node. -/
theorem nodes_after_addNode {role : Role} (h : s.operation = .addNode n role) :
    ∃ p : Node, p.role = role ∧
      p.position = .forSlot role (NodeTable.roleCount (s.before.session.nodes.erase n.id) role) ∧
        s.after.session.nodes = (s.before.session.nodes.erase n.id).insert n.id p := by
  obtain ⟨hrole, hposition⟩ := n.stands_settled role
    (NodeTable.roleCount (s.before.session.nodes.erase n.id) role)
    s.before.session.activeTemplate s.before.backend
  refine ⟨_, hrole, hposition, ?_⟩
  rw [after, h, Operation.step_of_perform_eq _ (Session.addNode n role) (fun _ => .done) rfl]
  exact Session.nodes_run_addNode n role s.before

/-- A step that takes off a node leaves the others. -/
theorem nodes_after_removeNode (h : s.operation = .removeNode id) :
    s.after.session.nodes = s.before.session.nodes.erase id := by
  have hremoved := Operation.step_removeNode id s.before
  rw [after, h]
  cases hn : s.before.session.nodes.get? id with
  | none =>
    rw [hn] at hremoved
    rw [hremoved, NodeTable.erase_of_get?_eq_none hn]
  | some n =>
    rw [hn] at hremoved
    rw [hremoved.2]

/-- **A node behind a step** was put into its slot by it, or stands where it stood. -/
theorem position_after (hmoves : s.operation.moves?.isSome)
    (hn : s.after.session.nodes.get? id = some n) :
    (∃ i, s.slotFor? id = some i ∧ n.position = .forSlot n.role i) ∨
      s.slotFor? id = none ∧ s.before.session.nodes.get? id = some n := by
  cases hop : s.operation with
  | addNode m role =>
    obtain ⟨p, hrole, hposition, hnodes⟩ := nodes_after_addNode hop
    rw [hnodes, OrderedMap.get?_insert] at hn
    split at hn
    · next hid =>
      cases hn
      refine .inl ⟨NodeTable.roleCount (s.before.session.nodes.erase m.id) role, ?_, ?_⟩
      · rw [slotFor?, hop]
        dsimp only
        rw [if_pos hid, hid]
      · rw [hrole, hposition]
    · next hid =>
      rw [OrderedMap.get?_erase, if_neg (Ne.symm hid)] at hn
      refine .inr ⟨?_, hn⟩
      rw [slotFor?, hop]
      exact if_neg hid
  | removeNode k =>
    rw [nodes_after_removeNode hop, OrderedMap.get?_erase] at hn
    split at hn
    · cases hn
    · exact .inr ⟨by rw [slotFor?, hop], hn⟩
  | _ =>
    rw [hop] at hmoves
    cases hmoves

/-- **A step that takes off no node but the last of its cascade** leaves the canvas packed. -/
theorem packed_after (hmoves : s.operation.moves?.isSome) (hlast : s.TakesLast)
    (hroom : Position.Exact s.before.session.nodes.size) (h : s.before.session.nodes.Packed) :
    s.after.session.nodes.Packed := by
  have herased : ∀ id, s.operation.moves? = some id →
      NodeTable.Packed (s.before.session.nodes.erase id) := by
    intro id hid
    refine h.erase hroom fun n hn m hm hrole => ?_
    exact hlast n (by rw [hid]; exact hn) m hm hrole
  cases hop : s.operation with
  | addNode n role =>
    have hpacked := herased n.id (by rw [hop]; rfl)
    obtain ⟨p, hrole, hposition, hnodes⟩ := nodes_after_addNode hop
    rw [hnodes]
    refine hpacked.insert (hroom.mono (NodeTable.size_erase_le _ _)) ?_ ?_
    · simp [OrderedMap.get?_erase]
    · rw [hrole, hposition]
  | removeNode id =>
    rw [nodes_after_removeNode hop]
    exact herased id (by rw [hop]; rfl)
  | _ =>
    rw [hop] at hmoves
    cases hmoves

end Step

/-! ### Runs from the palette -/

variable [Backend β] [DraftStore σ]

namespace Operation

/-- The slot that the node with an id was put into when it was placed last. -/
def lastSlot? (ops : List Operation) (w : World β σ) (id : String) : Option Nat :=
  ((history ops w).filterMap (Step.slotFor? id)).getLast?

variable {ops : List Operation} {w : World β σ} {id : String} {n : Node}

theorem lastSlot?_concat (ops : List Operation) (op : Operation) (w : World β σ) (id : String) :
    lastSlot? (ops ++ [op]) w id =
      (Step.slotFor? id ⟨runAll ops w, op⟩).or (lastSlot? ops w id) := by
  rw [lastSlot?, history_append, List.filterMap_append, List.getLast?_append]
  congr 1
  change (List.filterMap (Step.slotFor? id) [⟨runAll ops w, op⟩]).getLast? = _
  cases h : Step.slotFor? id (⟨runAll ops w, op⟩ : Step β σ) <;> simp [h]

theorem lastSlot?_le {i bound : Nat} (h : lastSlot? ops w id = some i)
    (hroom : ∀ s ∈ history ops w, s.before.session.nodes.size ≤ bound) : i ≤ bound := by
  obtain ⟨s, hs, hslot⟩ := List.mem_filterMap.mp (List.mem_of_getLast? h)
  exact (Step.slotFor?_le hslot).trans (hroom s hs)

/-- **Behind a run from the palette** every node stands in the slot that it was put into last. -/
theorem position_runAll (hempty : w.session.nodes = .empty)
    (hmoves : ∀ op ∈ ops, op.moves?.isSome) (hn : (runAll ops w).session.nodes.get? id = some n) :
    ∃ i, lastSlot? ops w id = some i ∧ n.position = .forSlot n.role i := by
  induction ops using List.reverseRecOn with
  | nil =>
    rw [show (runAll [] w).session.nodes = .empty from hempty] at hn
    cases hn
  | append_singleton ops op ih =>
    rw [runAll_append] at hn
    rw [lastSlot?_concat]
    rcases Step.position_after (s := ⟨runAll ops w, op⟩) (hmoves op (by simp)) hn with
      ⟨i, hslot, hposition⟩ | ⟨hslot, hbefore⟩
    · exact ⟨i, by rw [hslot]; rfl, hposition⟩
    · rw [hslot]
      exact ih (fun op hop => hmoves op (by simp [hop])) hbefore

/-- **A run that takes off no node but the last of its cascade** leaves the canvas packed. -/
theorem packed_runAll (h : w.session.nodes.Packed) (hmoves : ∀ op ∈ ops, op.moves?.isSome)
    (hlast : ∀ s ∈ history ops w, s.TakesLast)
    (hroom : ∀ s ∈ history ops w, Position.Exact s.before.session.nodes.size) :
    (runAll ops w).session.nodes.Packed := by
  induction ops generalizing w with
  | nil => exact h
  | cons op ops ih =>
    have hstep := Step.packed_after (s := ⟨w, op⟩) (hmoves op (List.mem_cons_self ..))
      (hlast _ (List.mem_cons_self ..)) (hroom _ (List.mem_cons_self ..)) h
    exact ih hstep (fun op hop => hmoves op (List.mem_cons_of_mem _ hop))
      (fun s hs => hlast s (List.mem_cons_of_mem _ hs))
      (fun s hs => hroom s (List.mem_cons_of_mem _ hs))

/-- **Once a node is taken off that is above another of its role,** on a canvas that was packed, the
next node of the role covers one that is left. -/
theorem covered_of_removeNode (h : w.session.nodes.Packed)
    (hroom : Position.Exact w.session.nodes.size) (hn : w.session.nodes.get? id = some n)
    (hbelow : ∃ m ∈ w.session.nodes.values, m.role = n.role ∧ n.position.top < m.position.top)
    {next : Node} (hnext : w.session.nodes.get? next.id = none) :
    let nodes := (runAll [.removeNode id, .addNode next n.role] w).session.nodes
    ∃ k m p, k ≠ next.id ∧ nodes.get? k = some m ∧ nodes.get? next.id = some p ∧
      m.position = p.position := by
  have hrun : runAll [.removeNode id, .addNode next n.role] w =
      Step.after ⟨((removeNode id).step w).2, .addNode next n.role⟩ := rfl
  rw [hrun]
  intro nodes
  obtain ⟨k, m, hm, hposition⟩ := h.exists_in_next hroom hn hbelow
  have hgone : OrderedMap.get? (w.session.nodes.erase id) next.id = none := by
    rw [OrderedMap.get?_erase, hnext, ite_self]
  have hk : next.id ≠ k := by
    rintro rfl
    rw [hgone] at hm
    cases hm
  have hremoved : ((removeNode id).step w).2.session.nodes = w.session.nodes.erase id :=
    Step.nodes_after_removeNode (s := ⟨w, .removeNode id⟩) rfl
  obtain ⟨p, -, hp, hplaced⟩ := Step.nodes_after_addNode
    (s := ⟨((removeNode id).step w).2, .addNode next n.role⟩) rfl
  simp only [hremoved, NodeTable.erase_of_get?_eq_none hgone] at hp hplaced
  have hnodes : nodes = OrderedMap.insert (w.session.nodes.erase id) next.id p := hplaced
  refine ⟨k, m, p, Ne.symm hk, ?_, ?_, ?_⟩
  · rw [hnodes, OrderedMap.get?_insert, if_neg hk, hm]
  · rw [hnodes, OrderedMap.get?_insert_self]
  · rw [hposition, hp]

/-- **Which nodes cover each other behind a run from the palette.** Two nodes are in the same place
exactly if they have the same role and as many others of that role stood on the canvas when the one
was placed last as when the other was. No two are in the same place as long as no node but the last
of its cascade is taken off; once another one is, the next node of its role covers one that is
left. -/
theorem covering_run (ops : List Operation) (backend : β) (store : σ)
    (hmoves : ∀ op ∈ ops, op.moves?.isSome)
    (hroom : ∀ earlier, earlier <+: ops →
      (runAll earlier (World.fresh backend store)).session.nodes.size < 61000000) :
    let w := World.fresh backend store
    let nodes := (runAll ops w).session.nodes
    (∀ a b m n, a ≠ b → nodes.get? a = some m → nodes.get? b = some n →
      ∃ i j, lastSlot? ops w a = some i ∧ lastSlot? ops w b = some j ∧
        (m.position = n.position ↔ m.role = n.role ∧ i = j)) ∧
      ((∀ s ∈ history ops w, s.TakesLast) →
        (∀ a b m n, a ≠ b → nodes.get? a = some m → nodes.get? b = some n →
          m.position ≠ n.position) ∧
        ∀ a n, nodes.get? a = some n →
          (∃ m ∈ nodes.values, m.role = n.role ∧ n.position.top < m.position.top) →
          ∀ next, nodes.get? next.id = none →
            let nodes' := (runAll (ops ++ [.removeNode a, .addNode next n.role]) w).session.nodes
            ∃ k m p, k ≠ next.id ∧ nodes'.get? k = some m ∧ nodes'.get? next.id = some p ∧
              m.position = p.position) := by
  intro w nodes
  have hfits : Position.Exact 61000000 := by
    rw [Position.exact_iff]
    omega
  have hsizes : ∀ s ∈ history ops w, s.before.session.nodes.size ≤ 61000000 := by
    intro s hs
    obtain ⟨earlier, later, rfl, hbefore⟩ := mem_history_iff.mp hs
    rw [hbefore]
    exact (hroom earlier (List.prefix_append ..)).le
  refine ⟨fun a b m n _ hm hn => ?_, fun hlast => ?_⟩
  · obtain ⟨i, hi, hmi⟩ := position_runAll rfl hmoves hm
    obtain ⟨j, hj, hnj⟩ := position_runAll rfl hmoves hn
    refine ⟨i, j, hi, hj, ?_⟩
    rw [hmi, hnj]
    exact Position.forSlot_eq_iff (hfits.mono (lastSlot?_le hi hsizes))
      (hfits.mono (lastSlot?_le hj hsizes))
  · have hpacked : nodes.Packed := packed_runAll NodeTable.packed_empty hmoves hlast
      fun s hs => hfits.mono (hsizes s hs)
    refine ⟨fun a b m n => hpacked.apart, fun a n hn hbelow next hnext => ?_⟩
    rw [runAll_append]
    exact covered_of_removeNode hpacked (hfits.mono (hroom ops (List.prefix_refl ops)).le) hn hbelow
      hnext

/-- Only last nodes are taken off here, one by removing it and one by placing it again as a sink. No
two nodes cover each other, but once the first source is gone the next one covers the second. -/
theorem covering_run_last_gone :
    let ops : List Operation :=
      [.addNode (.fresh "a" "Stream" .source) .source, .addNode (.fresh "b" "Stream" .source) .source,
        .addNode (.fresh "t" "Filter" .transform) .transform, .removeNode "b",
        .addNode (.fresh "c" "Stream" .source) .source, .addNode (.fresh "d" "Stream" .source) .source,
        .addNode (.fresh "d" "Table" .sink) .sink]
    let w := World.fresh CatalogBackend.empty MemoryStore.empty
    let nodes := (runAll ops w).session.nodes
    let gone := (Node.fresh "a" "Stream" .source).inSlot .source 0
    let next := Node.fresh "e" "Stream" .source
    let nodes' := (runAll (ops ++ [.removeNode "a", .addNode next gone.role]) w).session.nodes
    (∀ op ∈ ops, op.moves?.isSome) ∧
      (∀ earlier, earlier <+: ops → (runAll earlier w).session.nodes.size < 61000000) ∧
      (∀ s ∈ history ops w, s.TakesLast) ∧ nodes.size = 4 ∧ nodes.get? "a" = some gone ∧
      (∀ a b m n, a ≠ b → nodes.get? a = some m → nodes.get? b = some n →
        m.position ≠ n.position) ∧
      ∃ k m p, k ≠ next.id ∧ nodes'.get? k = some m ∧ nodes'.get? next.id = some p ∧
        m.position = p.position := by
  intro ops
  have hmoves : ∀ op ∈ ops, op.moves?.isSome := by decide +kernel
  have hroom : ∀ earlier, earlier <+: ops →
      (runAll earlier (World.fresh CatalogBackend.empty MemoryStore.empty)).session.nodes.size <
        61000000 := by
    simp only [← List.mem_inits]
    decide +kernel
  have hlast : ∀ s ∈ history ops (World.fresh CatalogBackend.empty MemoryStore.empty),
      s.TakesLast := by decide +kernel
  obtain ⟨-, hpalette⟩ := covering_run ops CatalogBackend.empty MemoryStore.empty hmoves hroom
  obtain ⟨hapart, hcovered⟩ := hpalette hlast
  refine ⟨hmoves, hroom, hlast, by decide +kernel, by decide +kernel, hapart, ?_⟩
  exact hcovered "a" _ (by decide +kernel) (by decide +kernel) _ (by decide +kernel)

/-- Two sources, the first of which is taken off: the next one covers the second. -/
theorem covering_run_first_gone :
    let ops : List Operation :=
      [.addNode (.fresh "a" "Stream" .source) .source, .addNode (.fresh "b" "Stream" .source) .source,
        .removeNode "a", .addNode (.fresh "c" "Stream" .source) .source]
    let w := World.fresh (CatalogBackend.empty.register .source "Stream" .empty) MemoryStore.empty
    let nodes := (runAll ops w).session.nodes
    (∀ op ∈ ops, op.moves?.isSome) ∧
      (∀ earlier, earlier <+: ops → (runAll earlier w).session.nodes.size < 61000000) ∧
      ∃ b ∈ nodes.get? "b", ∃ c ∈ nodes.get? "c", b.position = c.position := by
  intro ops w nodes
  simp only [← List.mem_inits]
  decide +kernel

end Operation

end PipelineCanvas
