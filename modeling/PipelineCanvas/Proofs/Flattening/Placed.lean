import PipelineCanvas.Proofs.Flattening.Drawn

/-!
# Whose plugins an outline shows

The walk along the edges adds a plugin to the outline where it takes a node, and nowhere
else. So whatever the edges are, and whether or not the table keeps its nodes under their
ids, every plugin of a flattened canvas is what an outline shows of one of the nodes
(`exists_node_of_mem_stages_flatten`). In a keyed table that node stands under the id of
the plugin, and the nodes that an outline shows can be read off it (`Outline.placed`).

* `Outline.TakenFrom` – every plugin is a node of a table, unpruned: what the walk keeps;
* **`stages_flatten`** – the plugins of a flattened canvas are those of the nodes placed
  in it, pruned;
* `mem_stages_drawn` – a node that an edge names is shown, if no other can take its place.
-/

namespace PipelineCanvas

variable {nodes : NodeTable}

/-! ### The walk takes nodes -/

theorem Outline.mem_stages_add {o : Outline} {role : Role} {s t : Stage}
    (h : t ∈ (o.add role s).stages) : t = s ∨ t ∈ o.stages := by
  cases role <;> simp only [add, stages, List.mem_append, Option.mem_toList,
    Option.some.injEq, List.mem_singleton] at h ⊢ <;> grind

/-- Every plugin of an outline is a node of a table, unpruned. -/
def Outline.TakenFrom (nodes : NodeTable) (o : Outline) : Prop :=
  ∀ s ∈ o.stages, ∃ n ∈ nodes.values, Stage.ofNode n = s

namespace Flattening

variable {w : Walk}

/-- What an end adds is the node under it. -/
theorem Walk.takenFrom_visit (h : w.outline.TakenFrom nodes) (id : String) :
    (w.visit nodes id).outline.TakenFrom nodes := by
  unfold Walk.visit
  cases hn : nodes.get? id with
  | none => exact h
  | some n =>
    dsimp only
    split
    · intro s hs
      rcases Outline.mem_stages_add hs with rfl | hs
      · exact ⟨n, OrderedMap.mem_values_iff.mpr ⟨id, hn⟩, rfl⟩
      · exact h s hs
    · exact h

theorem Walk.takenFrom_follow (h : w.outline.TakenFrom nodes) (e : Edge) :
    (w.follow nodes e).outline.TakenFrom nodes := by
  have hends : ((w.visit nodes e.source).visit nodes e.target).outline.TakenFrom nodes :=
    takenFrom_visit (takenFrom_visit h e.source) e.target
  unfold Walk.follow
  dsimp only
  split
  · exact hends
  · exact hends

/-- **Along the whole walk only nodes are taken.** -/
theorem takenFrom_walk (nodes : NodeTable) (edges : Edges) (m : Metadata) :
    (walk nodes edges m).outline.TakenFrom nodes := by
  induction edges using List.reverseRecOn with
  | nil =>
    intro s hs
    cases hs
  | append_singleton edges e ih =>
    have hstep : walk nodes (edges ++ [e]) m = (walk nodes edges m).follow nodes e := by
      simp [walk]
    rw [hstep]
    exact Walk.takenFrom_follow ih e

end Flattening

/-- **Every plugin of a flattened canvas is what an outline shows of a node.** -/
theorem exists_node_of_mem_stages_flatten {edges : Edges} {m : Metadata} {s : Stage}
    (hs : s ∈ (flatten nodes edges m).outline.stages) : ∃ n ∈ nodes.values, n.stage = s := by
  have hpruned : (flatten nodes edges m).outline = (Flattening.walk nodes edges m).outline.pruned :=
    rfl
  rw [hpruned, Outline.pruned, Outline.stages_mapStages] at hs
  obtain ⟨t, ht, rfl⟩ := List.mem_map.mp hs
  obtain ⟨n, hn, rfl⟩ := Flattening.takenFrom_walk nodes edges m t ht
  exact ⟨n, hn, (Stage.pruned_ofNode n).symm⟩

/-! ### The nodes placed in an outline -/

/-- The nodes that stand under the ids of the plugins of an outline. -/
def Outline.placed (nodes : NodeTable) (o : Outline) : List Node :=
  o.stages.filterMap fun s => s.id.bind nodes.get?

/-- **The plugins of a flattened canvas are those of the nodes placed in it, pruned.** -/
theorem stages_flatten (h : nodes.Keyed) (edges : Edges) (m : Metadata) :
    (flatten nodes edges m).outline.stages =
      ((flatten nodes edges m).outline.placed nodes).map Node.stage := by
  have hget : ∀ s ∈ (flatten nodes edges m).outline.stages,
      (s.id.bind nodes.get?).map Node.stage = some s := by
    intro s hs
    obtain ⟨n, hn, rfl⟩ := exists_node_of_mem_stages_flatten hs
    have hid : n.stage.id = some n.id := rfl
    rw [hid, Option.bind_some, h.mem_values_iff.mp hn, Option.map_some]
  rw [Outline.placed, List.map_filterMap, List.filterMap_congr hget, List.filterMap_some]

/-! ### The nodes that are shown -/

/-- A transform has its place in any case, and the only node of its role comes last. -/
theorem Outline.mem_stages_arranged (m : Metadata) (stage : Node → Stage) {ns : List Node}
    {n : Node} (hn : n ∈ ns)
    (halone : n.role = .transform ∨ (ns.filter (·.role = n.role)).length ≤ 1) :
    stage n ∈ (arranged m stage ns).stages := by
  have hmem : n ∈ ns.filter (·.role = n.role) := List.mem_filter.mpr ⟨hn, decide_eq_true rfl⟩
  have hlast (h : (ns.filter (·.role = n.role)).length ≤ 1) :
      (ns.filter (·.role = n.role)).getLast? = some n := by
    obtain ⟨a, ha⟩ := List.length_eq_one_iff.mp
      (Nat.le_antisymm h (List.length_pos_of_mem hmem))
    rw [ha] at hmem ⊢
    rw [List.mem_singleton.mp hmem]
    rfl
  cases hrole : n.role with
  | source =>
    rw [hrole] at halone hlast
    simp [stages, arranged, hlast (halone.resolve_left (by decide))]
  | transform =>
    rw [hrole] at hmem
    simp only [stages, arranged, List.mem_append, List.mem_map]
    exact .inl (.inr ⟨n, hmem, rfl⟩)
  | sink =>
    rw [hrole] at halone hlast
    simp [stages, arranged, hlast (halone.resolve_left (by decide))]

/-- **A node that an edge names is shown,** if it is a transform or the only node of its
role. -/
theorem mem_stages_drawn (h : nodes.Keyed) {edges : Edges} (m : Metadata) {n : Node}
    (hn : nodes.get? n.id = some n) (hid : n.id ∈ edges.ends)
    (halone : n.role = .transform ∨ nodes.roleCount n.role ≤ 1) :
    n.stage ∈ (Outline.drawn nodes edges m).stages :=
  Outline.mem_stages_arranged m Node.stage
    (h.mem_reachedNodes_iff.mpr ⟨h.mem_values_iff.mpr hn, hid⟩)
    (halone.imp_right fun hcount =>
      Nat.le_trans (h.length_filter_reachedNodes_le edges.ends n.role) hcount)

end PipelineCanvas
