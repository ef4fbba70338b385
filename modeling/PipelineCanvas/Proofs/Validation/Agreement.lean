import PipelineCanvas.Proofs.Flattening.Placed
import PipelineCanvas.Proofs.Validation.Report

/-!
# Validation and flattening see one canvas

Validation does not flatten: it asks of every node whether some edge touches it, and of
every edge whether its ends are nodes. Flattening asks neither: it takes nodes along the
edges and leaves the rest. What they find is the same, on any drawing. And what validation
finds on the outline is what it would find on the nodes themselves, since the properties
that pruning drops are the ones no check looks at.

* `Edges.isConnected_iff` – an edge touches the ids that the edges name;
* `Validation.missingRequired_pruned` – pruning neither hides nor makes a gap;
* **`findings_agree`** – the findings of three checks, said in terms of the flattening.
-/

namespace PipelineCanvas

variable {nodes : NodeTable} {edges : Edges}

/-! ### Nodes apart -/

/-- An edge touches the ids that the edges name. -/
theorem Edges.isConnected_iff {id : String} : edges.isConnected id = true ↔ id ∈ edges.ends := by
  simp only [isConnected, Edge.touches, List.any_eq_true, Bool.or_eq_true, beq_iff_eq,
    mem_ends_iff]

/-- **The nodes that validation finds apart are those that flattening leaves out.** -/
theorem Validation.map_fst_unconnected (h : nodes.Keyed) (edges : Edges) :
    (unconnected nodes edges).map (·.1) = (Coverage.drawn nodes edges).omitted := by
  calc (unconnected nodes edges).map (·.1)
      = (nodes.values.map (·.id)).filter fun id => !edges.isConnected id := by
        rw [unconnected, List.map_map, List.filter_map]
        rfl
    _ = nodes.keys.filter fun id => !edges.isConnected id := by rw [h.map_id_values]
    _ = (Coverage.drawn nodes edges).omitted := by
        refine List.filter_congr fun id hid => ?_
        rw [Bool.eq_iff_iff]
        simp [NodeTable.mem_reached_iff, OrderedMap.mem_keys_iff.mp hid,
          ← Edges.isConnected_iff]

/-! ### Ends that are no node -/

/-- The ends of an edge that are no node, source first. -/
def Edge.missingEnds (nodes : NodeTable) (e : Edge) : List String :=
  e.ends.filter fun id => nodes.get? id = none

/-- What is said of an end that is no node. -/
def Edge.missingFinding (e : Edge) (id : String) : Finding :=
  ("connections", "Connection '" ++ e.source ++ "' -> '" ++ e.target
    ++ "' references missing node '" ++ id ++ "'")

/-- Flattening reports an edge exactly if one of its ends is no node. -/
theorem Edge.missingEnds_ne_nil_iff {e : Edge} :
    e.missingEnds nodes ≠ [] ↔ (!(nodes.contains e.source && nodes.contains e.target)) = true := by
  cases hs : nodes.get? e.source <;> cases ht : nodes.get? e.target <;>
    simp [missingEnds, ends, OrderedMap.contains, hs, ht]

namespace Validation

theorem references_eq (nodes : NodeTable) (e : Edge) :
    references nodes e = (e.missingEnds nodes).map e.missingFinding := by
  have hmissing : e.missingEnds nodes = e.ends.filter fun id => !nodes.contains id := by
    refine List.filter_congr fun id _ => ?_
    cases hget : nodes.get? id <;> simp [OrderedMap.contains, hget]
  rw [hmissing]
  rfl

/-- **What validation says of the edges, it says of those that flattening reports.** -/
theorem flatMap_references (nodes : NodeTable) (edges : Edges) :
    edges.flatMap (references nodes) =
      (Coverage.drawn nodes edges).dangling.flatMap fun e =>
        (e.missingEnds nodes).map e.missingFinding := by
  dsimp only [Coverage.drawn]
  induction edges with
  | nil => rfl
  | cons e edges ih =>
    rw [List.flatMap_cons, List.filter_cons, ih, references_eq]
    split
    · rw [List.flatMap_cons]
    · next he =>
      have hnone : e.missingEnds nodes = [] :=
        not_not.mp (mt Edge.missingEnds_ne_nil_iff.mp he)
      rw [hnone, List.map_nil, List.nil_append]

/-- Validation is silent about the edges exactly if flattening reports none. -/
theorem flatMap_references_ne_nil_iff :
    edges.flatMap (references nodes) ≠ [] ↔
      (Coverage.drawn nodes edges).dangling ≠ [] := by
  rw [flatMap_references, ne_eq, ne_eq, not_iff_not, List.flatMap_eq_nil_iff]
  constructor
  · intro hnil
    refine List.eq_nil_iff_forall_not_mem.mpr fun e he => ?_
    have hdangling := (List.mem_filter.mp he).2
    exact Edge.missingEnds_ne_nil_iff.mpr hdangling (List.map_eq_nil_iff.mp (hnil e he))
  · intro hnil e he
    rw [hnil] at he
    cases he

/-! ### Required properties -/

/-- **Pruning neither hides a missing property nor makes one:** what a contract requires, it
declares. -/
theorem missingRequired_pruned (s : Stage) : missingRequired s.pruned = missingRequired s := by
  cases hc : s.contract with
  | none => rw [Stage.pruned, hc]
  | some contract =>
    by_cases he : s.properties.isEmpty = true
    · simp [Stage.pruned, hc, he]
    · have hpruned : s.pruned = { s with properties := s.properties.keep contract.contains } := by
        simp [Stage.pruned, hc, he]
      simp only [missingRequired, hpruned, hc]
      congr 1
      refine List.filter_congr fun e hentry => ?_
      have hdeclared : contract.contains e.1 = true := by
        rw [OrderedMap.contains, OrderedMap.get?_eq_some_iff.mpr hentry]
        rfl
      rw [OrderedMap.get?_keep, if_pos hdeclared]

theorem requiredProperties_stage (n : Node) :
    requiredProperties n.stage = requiredProperties (.ofNode n) := by
  have hmissing := missingRequired_pruned (.ofNode n)
  rw [Stage.pruned_ofNode] at hmissing
  rw [requiredProperties, hmissing]
  rfl

end Validation

/-! ### The agreement -/

/-- **Validation and flattening see one canvas.** The nodes that validation finds apart are
those that flattening leaves out; of the edges it names those that flattening reports, in
order, once for each end that is no node; and on every plugin of the outline it finds what
is wrong with the node under its id, before any property is pruned. -/
theorem findings_agree (h : nodes.Keyed) (edges : Edges) (m : Metadata) :
    let f := flatten nodes edges m
    let placed := f.outline.placed nodes
    (Validation.unconnected nodes edges).map (·.1) = f.coverage.omitted ∧
    (edges.flatMap (Validation.references nodes) ≠ [] ↔ f.coverage.dangling ≠ []) ∧
    edges.flatMap (Validation.references nodes) =
      f.coverage.dangling.flatMap (fun e => (e.missingEnds nodes).map e.missingFinding) ∧
    f.outline.stages.map (·.id) = placed.map (fun n => some n.id) ∧
    f.outline.stages.map Validation.requiredProperties =
      placed.map fun n => Validation.requiredProperties (.ofNode n) := by
  intro f placed
  have hcoverage : f.coverage = Coverage.drawn nodes edges := coverage_flatten h edges m
  have hstages : f.outline.stages = placed.map Node.stage := stages_flatten h edges m
  rw [hcoverage, hstages, List.map_map, List.map_map]
  refine ⟨Validation.map_fst_unconnected h edges, Validation.flatMap_references_ne_nil_iff,
    Validation.flatMap_references nodes edges, rfl, ?_⟩
  exact List.map_congr_left fun n _ => Validation.requiredProperties_stage n

/-- A loop, a repeated edge, an edge from nowhere to nowhere and one with half an end, a node
apart, and a filter with a property that its contract does not declare instead of the one
that it requires. -/
theorem findings_agree_tangle :
    let contract : Contract :=
      .ofList [("condition", { PropertySpec.ofKind "condition" "string" with required := true })]
    let filter := ((Node.fresh "t" "Filter" .transform).applyContract contract).setProperty
      "note" "x > 1"
    let nodes := NodeTable.ofNodes
      [.fresh "a" "Stream" .source, .fresh "k" "Table" .sink, .fresh "o" "Filter" .transform,
        filter]
    let edges : Edges := [⟨"a", "t"⟩, ⟨"?", "?"⟩, ⟨"t", "t"⟩, ⟨"a", "t"⟩, ⟨"t", "!"⟩, ⟨"t", "k"⟩]
    let f := flatten nodes edges (.named "events")
    nodes.Keyed ∧
      (Validation.unconnected nodes edges).map (·.1) = ["o"] ∧
      f.coverage.dangling = [⟨"?", "?"⟩, ⟨"t", "!"⟩] ∧
      (edges.flatMap (Validation.references nodes)).length = 3 ∧
      f.outline.stages.map Validation.requiredProperties =
        [[], [("t", "'condition' is required for Filter")], []] := by
  intro contract filter nodes edges f
  have h : nodes.Keyed := NodeTable.keyed_ofNodes _
  obtain ⟨homitted, -, hreferences, -, hrequired⟩ := findings_agree h edges (.named "events")
  refine ⟨h, homitted.trans ?_, ?_, ?_, hrequired.trans ?_⟩
  · decide
  · decide
  · rw [hreferences]
    decide
  · decide

end PipelineCanvas
