import Mathlib.Data.Set.Card
import PipelineCanvas.Backend.Catalog
import PipelineCanvas.Drafts.Memory
import PipelineCanvas.Proofs.Session.History

/-!
# Where nodes are placed

The slot of a node that comes from the palette is found by counting: as many nodes of its role
as there are on the canvas already stand in front of it. The count is taken of the nodes
themselves, so it cannot get out of step with them, and of the nodes under other ids, since a
node with the id of the new one is replaced by it.

* `NodeTable.roleCount_eq_ncard`, `NodeTable.sum_roleCount` – what is counted, and that every
  node is counted once;
* `Session.nodes_run_addNode` – what placing a node leaves, whatever the backend answers;
* **`Operation.placing_run`** – the nodes behind any run, and what placing and taking off a
  node does there.
-/

namespace PipelineCanvas

open PipelineCanvas.Action

/-! ### Counting nodes -/

namespace NodeTable

/-- The keys of the entries that pass a test, counted. -/
theorem ncard_keys_filter (t : NodeTable) (p : String → Node → Bool) :
    {id | ∃ n, t.get? id = some n ∧ p id n = true}.ncard =
      (t.entries.filter fun e => p e.1 e.2).length := by
  have hset : {id | ∃ n, t.get? id = some n ∧ p id n = true} =
      ((t.entries.filter fun e => p e.1 e.2).map (·.1)).toFinset := by
    ext id
    simp only [Set.mem_ofPred_eq, List.coe_toFinset, List.mem_map, List.mem_filter,
      OrderedMap.get?_eq_some_iff]
    constructor
    · rintro ⟨n, hn, hp⟩
      exact ⟨(id, n), ⟨hn, hp⟩, rfl⟩
    · rintro ⟨⟨_, n⟩, ⟨hn, hp⟩, rfl⟩
      exact ⟨n, hn, hp⟩
  have hnodup : ((t.entries.filter fun e => p e.1 e.2).map (·.1)).Nodup :=
    t.keys_nodup.sublist (List.filter_sublist.map _)
  rw [hset, Set.ncard_coe_finset, List.toFinset_card_of_nodup hnodup, List.length_map]

/-- **The count of a role is the number of ids with a node of that role.** -/
theorem roleCount_eq_ncard (t : NodeTable) (role : Role) :
    t.roleCount role = {id | ∃ n, t.get? id = some n ∧ n.role = role}.ncard := by
  have hcard := t.ncard_keys_filter fun _ n => n.role == role
  simp only [beq_iff_eq] at hcard
  rw [hcard, roleCount, OrderedMap.values, List.filter_map, List.length_map]
  rfl

/-- Without the node under an id, those under the others are counted. -/
theorem roleCount_erase (t : NodeTable) (id : String) (role : Role) :
    roleCount (t.erase id) role =
      {k | k ≠ id ∧ ∃ n, t.get? k = some n ∧ n.role = role}.ncard := by
  rw [roleCount_eq_ncard]
  congr 1
  ext k
  simp only [Set.mem_ofPred_eq, OrderedMap.get?_erase]
  by_cases hk : k = id
  · simp [hk]
  · simp [hk]

/-- Every node is counted under one role. -/
theorem sum_roleCount (t : NodeTable) :
    t.roleCount .source + t.roleCount .transform + t.roleCount .sink = t.size := by
  have hsum : ∀ nodes : List Node,
      (nodes.filter fun n => n.role == .source).length +
          (nodes.filter fun n => n.role == .transform).length +
          (nodes.filter fun n => n.role == .sink).length = nodes.length := by
    intro nodes
    induction nodes with
    | nil => rfl
    | cons n nodes ih =>
      cases hrole : n.role <;> simp [hrole] <;> omega
  rw [← t.length_values]
  exact hsum t.values

end NodeTable

/-! ### Placing a node -/

namespace Node

/-- A node in the slot behind others of its role. -/
def inSlot (n : Node) (role : Role) (before : Nat) : Node :=
  { n with role, position := .forSlot role before }

variable {β : Type} [Backend β]

/-- A node in its slot when the backend was asked for the contract that it lacks. -/
def settled (n : Node) (role : Role) (before : Nat) (template : TemplateKind) (backend : β) :
    Node :=
  match n.contract with
  | some _ => (n.inSlot role before).reconcile
  | none =>
    match (Backend.fetch ((n.inSlot role before).query template none) backend).1 with
    | .ok answers => (n.inSlot role before).applyContract (PluginProperties.contract answers)
    | .error _ => n.inSlot role before

end Node

variable {β σ : Type} [Backend β]

namespace Session

/-- Resolving a node that is there rewrites it if the backend tells its contract. -/
theorem nodes_run_resolveNode_of_get? {w : World β σ} {id : String} {n : Node}
    (hn : w.session.nodes.get? id = some n) (template : TemplateKind) (scope : Option String) :
    (run (resolveNode id template scope : Action β σ Unit) w).2.session.nodes =
      match (Backend.fetch (n.query template scope) w.backend).1 with
      | .ok answers =>
        w.session.nodes.insert id (n.applyContract (PluginProperties.contract answers))
      | .error _ => w.session.nodes := by
  cases hfetch : (Backend.fetch (n.query template scope) w.backend).1 with
  | ok answers => rw [session_run_resolveNode hn hfetch]
  | error e =>
    obtain ⟨w₁, w₂, hw, hnotes, hrun⟩ := run_resolved n template scope w
    rw [hfetch] at hrun
    simp only [resolveNode, run_bind, run_session, hn, hrun]
    rw [hnotes.session_eq, World.fetching, hw.session_eq]

/-- **Placing a node** puts it under its id, in its slot, and touches no other. -/
theorem nodes_run_addNode (n : Node) (role : Role) (w : World β σ) :
    (run (addNode n role : Action β σ Unit) w).2.session.nodes =
      (w.session.nodes.erase n.id).insert n.id
        (n.settled role (NodeTable.roleCount (w.session.nodes.erase n.id) role)
          w.session.activeTemplate w.backend) := by
  simp only [addNode, run_bind, run_session, run_update, run_log, run_tell]
  unfold Node.settled
  cases hc : n.contract with
  | some contract =>
    have hready : (w.session.nodes.placed n role).isReady = true := by
      simp [NodeTable.placed, Node.reconcile, Node.isReady, hc]
    rw [hready]
    rfl
  | none =>
    have hplaced : w.session.nodes.placed n role =
        n.inSlot role (NodeTable.roleCount (w.session.nodes.erase n.id) role) := by
      simp [NodeTable.placed, Node.reconcile, Node.inSlot, hc]
    have hready : (w.session.nodes.placed n role).isReady = false := by
      rw [hplaced]
      simp [Node.inSlot, Node.isReady, hc]
    rw [hready]
    simp only [Bool.not_false, if_true]
    -- the node that is resolved is the one that was just placed
    rw [nodes_run_resolveNode_of_get? (n := w.session.nodes.placed n role)
      (OrderedMap.get?_insert_self ..), hplaced]
    dsimp only
    split
    · refine OrderedMap.ext_get? fun k => ?_
      rw [NodeTable.place, OrderedMap.get?_insert, OrderedMap.get?_insert, OrderedMap.get?_insert]
      split <;> rfl
    · rw [NodeTable.place, hplaced]

end Session

variable [DraftStore σ]

namespace Operation

/-- Placing a node, as the canvas shows it. -/
theorem get?_step_addNode (n : Node) (role : Role) (w : World β σ) (k : String) :
    ((addNode n role).step w).2.session.nodes.get? k =
      if k = n.id then
        some (n.settled role {k | k ≠ n.id ∧ ∃ m, w.session.nodes.get? k = some m ∧
          m.role = role}.ncard w.session.activeTemplate w.backend)
      else w.session.nodes.get? k := by
  rw [step_of_perform_eq _ (Session.addNode n role) (fun _ => .done) rfl,
    Session.nodes_run_addNode, OrderedMap.get?_insert, NodeTable.roleCount_erase]
  by_cases hk : k = n.id
  · simp [hk]
  · simp [hk, Ne.symm hk, OrderedMap.get?_erase]

/-- **Taking off a node** drops what stands under its id, and does nothing where nothing
does. -/
theorem step_removeNode (id : String) (w : World β σ) :
    match w.session.nodes.get? id with
    | some n =>
      ((removeNode id).step w).1 = .ok (.node (some n)) ∧
        ((removeNode id).step w).2.session =
          { w.session with nodes := w.session.nodes.erase id }
    | none => (removeNode id).step w = (.ok (.node none), w) := by
  rw [step_of_perform_eq _ (Session.removeNode id) .node rfl]
  simp only [Session.removeNode, run_bind _ session, run_session]
  cases w.session.nodes.get? id with
  | none => rfl
  | some n => exact ⟨rfl, rfl⟩

/-- **The nodes behind any run.** Each stands under its own id, the count of a role is the
number of nodes that have it, and every node is counted once. Placing a node puts it into the
slot behind all other nodes of the role it is placed under, gives it what its contract declares
and touches no other node; taking off a node drops that node alone, and where there is none it
does nothing. -/
theorem placing_run (ops : List Operation) (backend : β) (store : σ) :
    let w := runAll ops (World.fresh backend store)
    let nodes := w.session.nodes
    (∀ id n, nodes.get? id = some n → n.id = id) ∧
      (∀ role, nodes.roleCount role = {id | ∃ n, nodes.get? id = some n ∧ n.role = role}.ncard) ∧
      nodes.roleCount .source + nodes.roleCount .transform + nodes.roleCount .sink = nodes.size ∧
      (∀ n role k, ((addNode n role).step w).2.session.nodes.get? k =
        if k = n.id then
          some (n.settled role
            {id | id ≠ n.id ∧ ∃ m, nodes.get? id = some m ∧ m.role = role}.ncard
            w.session.activeTemplate w.backend)
        else nodes.get? k) ∧
      ∀ id,
        match nodes.get? id with
        | some n =>
          ((removeNode id).step w).1 = .ok (.node (some n)) ∧
            ((removeNode id).step w).2.session = { w.session with nodes := nodes.erase id } ∧
            ∀ k, (nodes.erase id).get? k = if k = id then none else nodes.get? k
        | none => (removeNode id).step w = (.ok (.node none), w) := by
  intro w nodes
  have hfresh : (World.fresh backend store).session.Reachable := .fresh
  refine ⟨NodeTable.keyed_iff.mp (hfresh.run ops).keyed, nodes.roleCount_eq_ncard,
    nodes.sum_roleCount, fun n role k => get?_step_addNode n role w k, fun id => ?_⟩
  have hremoved := step_removeNode id w
  split
  · next n hn =>
    rw [hn] at hremoved
    exact ⟨hremoved.1, hremoved.2, nodes.get?_erase id⟩
  · next hn =>
    rw [hn] at hremoved
    exact hremoved

/-- Two sources, the first of which comes back as a sink: the next source stands behind the one
that is left, and the node that comes back in front of all sinks. -/
theorem placing_run_come_back :
    let ops : List Operation :=
      [.addNode (.fresh "a" "Stream" .source) .source, .addNode (.fresh "b" "Stream" .source) .source,
        .addNode (.fresh "a" "Table" .sink) .sink]
    let w := runAll ops (World.fresh CatalogBackend.empty MemoryStore.empty)
    let next : Node := .fresh "c" "Stream" .source
    w.session.nodes.get? "a" = some ((Node.fresh "a" "Table" .sink).inSlot .sink 0) ∧
      ((addNode next .source).step w).2.session.nodes.get? "c" =
        some (next.inSlot .source 1) := by
  intro ops w next
  obtain ⟨-, -, -, hplaced, -⟩ := placing_run ops CatalogBackend.empty MemoryStore.empty
  have hslot : {id | id ≠ next.id ∧ ∃ m, w.session.nodes.get? id = some m ∧
      m.role = .source}.ncard = 1 := (NodeTable.roleCount_erase _ _ _).symm.trans (by decide +kernel)
  have hnext := hplaced next .source next.id
  rw [if_pos rfl, hslot] at hnext
  exact ⟨by decide +kernel, hnext.trans (by decide +kernel)⟩

end Operation

end PipelineCanvas
