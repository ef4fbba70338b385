import Mathlib.Data.List.Perm.Basic
import PipelineCanvas.Proofs.Validation.Report

/-!
# A pipeline that may be sent is drawn whole

Flattening leaves out nodes that no edge reaches, and a later source or sink takes the
place of an earlier one. On a canvas that passes validation neither happens: every node
is the end of an edge, so the edges reach all of them, and there is one source and one
sink, so there is none to take the place of.

* `Outline.roles_arranged_perm` – nodes with one source and one sink are arranged without
  loss;
* **`Submittable.roles_perm`** – each node is in the outline once, under its role;
* `Submittable.coverage` – nothing is left out;
* `Submission.stages_build` – the plugins of a submission are those of the outline, pruned
  again, which changes nothing (`Stage.pruned_pruned`), and without ids and contracts.
-/

namespace PipelineCanvas

/-! ### Nodes by role -/

/-- Sorting nodes by role loses none. -/
theorem filter_role_perm (ns : List Node) :
    (ns.filter (·.role = .source) ++ ns.filter (·.role = .transform)
      ++ ns.filter (·.role = .sink)).Perm ns := by
  induction ns with
  | nil => exact .nil
  | cons n ns ih =>
    cases hr : n.role with
    | source => simpa [hr] using ih
    | transform =>
      -- the node has to pass the sources behind it
      simp only [List.filter_cons, hr, List.append_assoc] at ih ⊢
      exact List.perm_middle.trans (ih.cons n)
    | sink =>
      simp only [List.filter_cons, hr] at ih ⊢
      exact List.perm_middle.trans (ih.cons n)

/-- A list with one element is its last one. -/
theorem toList_getLast?_of_length_eq_one {α : Type} {l : List α} (h : l.length = 1) :
    l.getLast?.toList = l := by
  obtain ⟨a, rfl⟩ := List.length_eq_one_iff.mp h
  rfl

namespace Outline

variable {m : Metadata} {stage : Node → Stage} {ns : List Node}

/-- With one source and one sink, arranging is sorting by role. -/
theorem roles_arranged (hsource : (ns.filter (·.role = .source)).length = 1)
    (hsink : (ns.filter (·.role = .sink)).length = 1) :
    (arranged m stage ns).roles =
      (ns.filter (·.role = .source) ++ ns.filter (·.role = .transform)
        ++ ns.filter (·.role = .sink)).map fun n => (n.role, stage n) := by
  have hrole (role : Role) : (ns.filter (·.role = role)).map (fun n => (n.role, stage n)) =
      ((ns.filter (·.role = role)).map stage).map (role, ·) := by
    rw [List.map_map]
    refine List.map_congr_left fun n hn => ?_
    have : n.role = role := by simpa using (List.mem_filter.mp hn).2
    simp [this]
  simp only [roles, arranged, Option.toList_map, toList_getLast?_of_length_eq_one hsource,
    toList_getLast?_of_length_eq_one hsink, List.map_append, hrole]

/-- **With one source and one sink, arranging loses no node.** -/
theorem roles_arranged_perm (hsource : (ns.filter (·.role = .source)).length = 1)
    (hsink : (ns.filter (·.role = .sink)).length = 1) :
    (arranged m stage ns).roles.Perm (ns.map fun n => (n.role, stage n)) := by
  rw [roles_arranged hsource hsink]
  exact (filter_role_perm ns).map _

theorem length_roles (o : Outline) : o.roles.length = o.stages.length := by
  rw [← map_snd_roles, List.length_map]

end Outline

/-! ### The canvas of a pipeline that may be sent -/

namespace Submittable

variable {nodes : NodeTable} {edges : Edges} {m : Metadata} {o : Outline}

/-- Every node is named by the edges. -/
theorem id_mem_ends (hs : Submittable nodes edges m o) {n : Node} (hn : n ∈ nodes.values) :
    n.id ∈ edges.ends := Edges.mem_ends_iff.mpr (hs.connected n hn)

theorem reachedNodes_perm (hs : Submittable nodes edges m o) (h : nodes.Keyed) :
    (nodes.reachedNodes edges.ends).Perm nodes.values :=
  h.reachedNodes_perm fun _ hn => hs.id_mem_ends hn

/-- The edges reach one node of a role that one node plays. -/
theorem length_filter_role (hs : Submittable nodes edges m o) (h : nodes.Keyed) {role : Role}
    (hone : ∃! n, n ∈ nodes.values ∧ n.role = role) :
    ((nodes.reachedNodes edges.ends).filter (·.role = role)).length = 1 := by
  rw [((hs.reachedNodes_perm h).filter _).length_eq, ← h.roleCount_eq_one_iff.mpr hone]
  rfl

/-- **Nothing is left out.** -/
theorem coverage (hs : Submittable nodes edges m o) (h : nodes.Keyed) :
    Coverage.drawn nodes edges = .complete := by
  rw [Coverage.drawn, Coverage.complete, Coverage.mk.injEq, List.filter_eq_nil_iff,
    List.filter_eq_nil_iff]
  refine ⟨fun id hid => ?_, fun e he => ?_⟩
  · obtain ⟨n, hn⟩ := Option.isSome_iff_exists.mp (OrderedMap.mem_keys_iff.mp hid)
    have hends := hs.id_mem_ends (OrderedMap.mem_values_iff.mpr ⟨id, hn⟩)
    rw [NodeTable.keyed_iff.mp h id n hn] at hends
    simp [NodeTable.mem_reached_iff, hends, OrderedMap.mem_keys_iff.mp hid]
  · simp [hs.ends_registered e he]

theorem source_isSome (hs : Submittable nodes edges m o) (h : nodes.Keyed) :
    (Outline.drawn nodes edges m).source.isSome = true := by
  obtain ⟨n, hn⟩ := List.length_eq_one_iff.mp (hs.length_filter_role h hs.one_source)
  simp [Outline.drawn, Outline.arranged, hn]

theorem sink_isSome (hs : Submittable nodes edges m o) (h : nodes.Keyed) :
    (Outline.drawn nodes edges m).sink.isSome = true := by
  obtain ⟨n, hn⟩ := List.length_eq_one_iff.mp (hs.length_filter_role h hs.one_sink)
  simp [Outline.drawn, Outline.arranged, hn]

/-- **Each node is in the outline once, under its role.** -/
theorem roles_perm (hs : Submittable nodes edges m o) (h : nodes.Keyed) :
    (Outline.drawn nodes edges m).roles.Perm (nodes.values.map fun n => (n.role, n.stage)) :=
  (Outline.roles_arranged_perm (hs.length_filter_role h hs.one_source)
    (hs.length_filter_role h hs.one_sink)).trans ((hs.reachedNodes_perm h).map _)

/-- Every plugin of the outline is what it shows of some node. -/
theorem exists_node_of_mem_stages (hs : Submittable nodes edges m o) (h : nodes.Keyed)
    {s : Stage} (hmem : s ∈ (Outline.drawn nodes edges m).stages) :
    ∃ n ∈ nodes.values, n.stage = s := by
  rw [← Outline.map_snd_roles] at hmem
  obtain ⟨⟨role, _⟩, hrole, rfl⟩ := List.mem_map.mp hmem
  obtain ⟨n, hn, heq⟩ := List.mem_map.mp ((hs.roles_perm h).mem_iff.mp hrole)
  cases heq
  exact ⟨n, hn, rfl⟩

theorem length_stages (hs : Submittable nodes edges m o) (h : nodes.Keyed) :
    (Outline.drawn nodes edges m).stages.length = nodes.size := by
  rw [← Outline.length_roles, (hs.roles_perm h).length_eq, List.length_map,
    OrderedMap.length_values]

end Submittable

/-! ### The submission -/

namespace Stage

/-- What is sent of a node is what an outline shows of it, but for id and contract. -/
theorem stripped_stage (n : Node) : n.stage.stripped = n.stage.withoutBookkeeping := by
  rw [stripped, ← pruned_ofNode, pruned_pruned]

end Stage

namespace Submission

variable (o : Outline) (m : Metadata)

/-- The plugins of a submission are those of the outline, stripped. -/
theorem stages_build : (build o m).stages = o.stages.map Stage.stripped := by
  have hstages : (build o m).stages = o.stripped.stages := rfl
  rw [hstages, Outline.stripped_eq, Outline.stages_mapStages]

theorem source_build : (build o m).config.source = o.source.map Stage.stripped := by
  rw [build, Outline.stripped_eq]
  rfl

theorem sink_build : (build o m).config.sink = o.sink.map Stage.stripped := by
  rw [build, Outline.stripped_eq]
  rfl

theorem transforms_build :
    (build o m).config.transforms = o.transforms.map Stage.stripped := by
  rw [build, Outline.stripped_eq]
  rfl

theorem length_stages_build : (build o m).stages.length = o.stages.length := by
  rw [stages_build, List.length_map]

end Submission

end PipelineCanvas
