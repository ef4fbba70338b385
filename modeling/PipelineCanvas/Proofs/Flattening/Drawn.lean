import PipelineCanvas.Proofs.Flattening.Pruned
import PipelineCanvas.Proofs.Flattening.Reached

/-!
# What flattening computes

Flattening walks along the edges with a list of nodes still to take, and a later
source or sink overwrites an earlier one on the way. What comes out can be said
without any state: list the nodes that the edges reach, in the order in which they
are first named; the transforms among them in that order are the transforms of the
outline, the last source and the last sink are its source and its sink.

* `Node.stage` – what an outline shows of a node;
* `Outline.drawn`, `Coverage.drawn` – the outline and what is reported, said so;
* `Flattening.walk_eq` – the walk behind the last edge, field by field;
* **`flatten_eq_drawn`** – flattening computes `Outline.drawn` and `Coverage.drawn`.
-/

namespace PipelineCanvas

/-! ### The reference -/

/-- What an outline shows of a node: id, plugin and contract, and the properties that
the contract declares. While the contract is pending it shows all of them. -/
def Node.stage (n : Node) : Stage :=
  { id := some n.id
    name := n.name
    properties :=
      match n.contract with
      | none => n.properties
      | some contract => n.properties.keep contract.contains
    contract := n.contract }

namespace Outline

/-- The outline of nodes in a row: the transforms in their order, the last source and
the last sink. -/
def arranged (m : Metadata) (stage : Node → Stage) (nodes : List Node) : Outline :=
  { name := m.name
    description := m.description
    template := m.kind
    source := ((nodes.filter (·.role = .source)).getLast?).map stage
    sink := ((nodes.filter (·.role = .sink)).getLast?).map stage
    transforms := (nodes.filter (·.role = .transform)).map stage }

/-- The outline of a drawing: the nodes that the edges reach, arranged. -/
def drawn (nodes : NodeTable) (edges : Edges) (m : Metadata) : Outline :=
  arranged m Node.stage (nodes.reachedNodes edges.ends)

end Outline

/-- What is reported of a drawing: the nodes that no edge reaches, and the edges with an
end that is no node. -/
def Coverage.drawn (nodes : NodeTable) (edges : Edges) : Coverage :=
  { omitted := nodes.keys.filter fun id => id ∉ nodes.reached edges.ends
    dangling := edges.filter fun e => !(nodes.contains e.source && nodes.contains e.target) }

/-! ### Stages -/

theorem Stage.pruned_ofNode (n : Node) : (Stage.ofNode n).pruned = n.stage := by
  have hprunes : (ofNode n).Prunes n.stage := by
    refine ⟨rfl, rfl, rfl, fun key => ?_⟩
    cases hc : n.contract with
    | none => simp [ofNode, Node.stage, hc]
    | some contract => simp [ofNode, Node.stage, hc, OrderedMap.get?_keep]
  exact (prunes_iff.mp hprunes).symm

namespace Outline

variable (m : Metadata) (stage : Node → Stage)

/-- A node that comes last is added to the outline of those before it. -/
theorem arranged_concat (nodes : List Node) (n : Node) :
    arranged m stage (nodes ++ [n]) = (arranged m stage nodes).add n.role (stage n) := by
  cases hr : n.role <;> simp [arranged, add, hr]

theorem mapStages_arranged (f : Stage → Stage) (nodes : List Node) :
    (arranged m stage nodes).mapStages f = arranged m (fun n => f (stage n)) nodes := by
  simp [arranged, mapStages, Function.comp_def]

theorem pruned_arranged (nodes : List Node) :
    (arranged m .ofNode nodes).pruned = arranged m Node.stage nodes := by
  rw [pruned, mapStages_arranged]
  simp only [Stage.pruned_ofNode]

end Outline

/-! ### The walk -/

namespace Flattening

variable {nodes : NodeTable}

theorem get?_foldl_ids (ns : List Node) (ids : OrderedMap Unit) (k : String) :
    (ns.foldl (fun ids n => ids.insert n.id ()) ids).get? k =
      if ∃ n ∈ ns, n.id = k then some () else ids.get? k := by
  induction ns generalizing ids with
  | nil => simp
  | cons n ns ih =>
    rw [List.foldl_cons, ih, OrderedMap.get?_insert]
    by_cases hk : n.id = k <;> simp [hk]

/-- In a keyed table the ids of the nodes are the keys. -/
theorem nodeIds_eq_keys (h : nodes.Keyed) : nodeIds nodes = nodes.keys := by
  rw [nodeIds, ← OrderedMap.keys_mapValues (fun _ _ => ()) nodes]
  congr 1
  refine OrderedMap.ext_get? fun k => ?_
  rw [get?_foldl_ids, OrderedMap.get?_mapValues]
  cases hk : nodes.get? k with
  | none =>
    have : ¬∃ n ∈ nodes.values, n.id = k := by
      rintro ⟨n, hn, rfl⟩
      rw [h.mem_values_iff, hk] at hn
      cases hn
    simp [this]
  | some n =>
    have hid := NodeTable.keyed_iff.mp h k n hk
    have : ∃ n ∈ nodes.values, n.id = k := ⟨n, OrderedMap.mem_values_iff.mpr ⟨k, hk⟩, hid⟩
    simp [this]

/-- The walk behind some ids, with the edges found dangling so far and the notices of
them: the nodes reached are in the outline, the others remain. -/
def Walk.behind (nodes : NodeTable) (m : Metadata) (ids : List String) (dangling : Edges)
    (notices : List Notice) : Walk :=
  { outline := .arranged m .ofNode (nodes.reachedNodes ids)
    remaining := nodes.keys.filter fun id => id ∉ ids
    dangling
    notices }

/-- One end more. -/
theorem visit_behind (m : Metadata) (ids : List String) (dangling : Edges)
    (notices : List Notice) (id : String) :
    (Walk.behind nodes m ids dangling notices).visit nodes id =
      Walk.behind nodes m (ids ++ [id]) dangling notices := by
  have hremaining (hid : id ∈ ids ∨ id ∉ nodes.keys) :
      nodes.keys.filter (fun k => k ∉ ids ++ [id]) = nodes.keys.filter (fun k => k ∉ ids) := by
    refine List.filter_congr fun k hk => ?_
    have : k = id → k ∈ ids := by
      rintro rfl
      exact hid.resolve_right (not_not_intro hk)
    simp only [List.mem_append, List.mem_singleton, decide_eq_decide]
    grind
  unfold Walk.visit
  cases hn : nodes.get? id with
  | none =>
    have hc : nodes.contains id = false := by simp [OrderedMap.contains, hn]
    have hk : id ∉ nodes.keys := by simp [OrderedMap.mem_keys_iff, hc]
    simp only [Walk.behind, NodeTable.reachedNodes_concat_of_old (.inl hc),
      hremaining (.inr hk)]
  | some n =>
    have hk : id ∈ nodes.keys := by
      simp [OrderedMap.mem_keys_iff, OrderedMap.contains, hn]
    -- the node is taken only where it is named for the first time
    by_cases hid : id ∈ ids
    · have : id ∉ (Walk.behind nodes m ids dangling notices).remaining := by
        simp [Walk.behind, hid]
      simp only [if_neg this]
      simp only [Walk.behind, NodeTable.reachedNodes_concat_of_old (.inr hid),
        hremaining (.inl hid)]
    · have : id ∈ (Walk.behind nodes m ids dangling notices).remaining := by
        simp [Walk.behind, hid, hk]
      simp only [if_pos this]
      simp only [Walk.behind, NodeTable.reachedNodes_concat_of_new hn hid,
        Outline.arranged_concat]
      congr 1
      -- the ids that remain do not repeat, so erasing one is filtering it out
      rw [(nodes.keys_nodup.filter _).erase_eq_filter, List.filter_filter]
      refine List.filter_congr fun k _ => ?_
      by_cases hki : k = id <;> simp [hki]

/-- The notice of a dangling edge. -/
def danglingNotice (e : Edge) : Notice := .danglingSkipped e.source e.target

/-- **The walk behind the last edge.** -/
theorem walk_eq (h : nodes.Keyed) (edges : Edges) (m : Metadata) :
    walk nodes edges m =
      Walk.behind nodes m edges.ends (edges.filter (Walk.isDangling nodes))
        ((edges.filter (Walk.isDangling nodes)).map danglingNotice) := by
  -- a walk is a fold from the left, so the induction takes the last edge off
  induction edges using List.reverseRecOn with
  | nil =>
    simp only [walk, List.foldl_nil, start, Walk.behind, Edges.ends, List.flatMap_nil,
      nodeIds_eq_keys h]
    simp [NodeTable.reachedNodes, NodeTable.reached, Outline.arranged, Outline.blank]
  | append_singleton edges e ih =>
    have hends : Edges.ends (edges ++ [e]) = Edges.ends edges ++ [e.source] ++ [e.target] := by
      simp [Edges.ends, Edge.ends]
    have hstep : walk nodes (edges ++ [e]) m = (walk nodes edges m).follow nodes e := by
      simp [walk]
    rw [hstep, ih, hends, Walk.follow]
    simp only [Edge.ends, List.foldl_cons, List.foldl_nil, visit_behind]
    by_cases hd : Walk.isDangling nodes e = true <;>
      simp [hd, Walk.behind, danglingNotice]

end Flattening

/-! ### The outline and the coverage -/

theorem outline_flatten {nodes : NodeTable} (h : nodes.Keyed) (edges : Edges) (m : Metadata) :
    (flatten nodes edges m).outline = Outline.drawn nodes edges m := by
  simp only [flatten, Flattening.walk_eq h, Flattening.Walk.behind, Outline.pruned_arranged]
  rfl

theorem coverage_flatten {nodes : NodeTable} (h : nodes.Keyed) (edges : Edges) (m : Metadata) :
    (flatten nodes edges m).coverage = Coverage.drawn nodes edges := by
  simp only [flatten, Flattening.walk_eq h, Flattening.Walk.behind, Coverage.drawn]
  congr 1
  · refine List.filter_congr fun id hid => ?_
    simp [NodeTable.mem_reached_iff, OrderedMap.mem_keys_iff.mp hid]
  · refine List.filter_congr fun e _ => ?_
    cases hs : nodes.contains e.source <;> cases ht : nodes.contains e.target <;>
      simp [Flattening.Walk.isDangling, Edge.ends, hs, ht]

/-- The ids that a drawing leaves out ascend, so none is listed twice. -/
theorem omitted_drawn_ascending (nodes : NodeTable) (edges : Edges) :
    (Coverage.drawn nodes edges).omitted.Pairwise (· < ·) :=
  nodes.keys_ascending.filter _

/-- **Flattening computes the outline of the drawing and what is reported of it,** whatever
the edges are: cycles, loops, repeated edges and edges from or to nowhere included. -/
theorem flatten_eq_drawn {nodes : NodeTable} (h : nodes.Keyed) (edges : Edges) (m : Metadata) :
    (flatten nodes edges m).outline = Outline.drawn nodes edges m ∧
      (flatten nodes edges m).coverage = Coverage.drawn nodes edges ∧
      (flatten nodes edges m).coverage.omitted.Pairwise (· < ·) := by
  refine ⟨outline_flatten h edges m, coverage_flatten h edges m, ?_⟩
  rw [coverage_flatten h]
  exact omitted_drawn_ascending nodes edges

/-- Two sources, a loop, a repeated edge, an edge from nowhere and a node apart. -/
theorem flatten_eq_drawn_tangle :
    let nodes := NodeTable.ofNodes
      [.fresh "a" "Stream" .source, .fresh "b" "Stream" .source, .fresh "k" "Table" .sink,
        .fresh "o" "Filter" .transform, .fresh "t" "Filter" .transform]
    let edges : Edges := [⟨"a", "t"⟩, ⟨"?", "b"⟩, ⟨"t", "t"⟩, ⟨"a", "t"⟩, ⟨"t", "k"⟩]
    nodes.Keyed ∧
      (flatten nodes edges .initial).outline = Outline.drawn nodes edges .initial ∧
      (flatten nodes edges .initial).outline.source.bind (·.id) = some "b" ∧
      (flatten nodes edges .initial).coverage = ⟨["o"], [⟨"?", "b"⟩]⟩ := by
  intro nodes edges
  have h : nodes.Keyed := NodeTable.keyed_ofNodes _
  obtain ⟨ho, hc, -⟩ := flatten_eq_drawn h edges .initial
  refine ⟨h, ho, ?_, ?_⟩
  · rw [ho]
    decide
  · rw [hc]
    decide

end PipelineCanvas
