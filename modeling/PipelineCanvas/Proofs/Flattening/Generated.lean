import PipelineCanvas.Proofs.Flattening.Chain

/-!
# Chains of plugins that lost their ids

What is sent to the backend carries no ids. A plugin without an id that is drawn in a chain
gets one from its role and its place, and since the place can be read off the id again, no
two plugins get the same one. Nothing gets lost in such a chain: its canvas has a node for
each plugin.

* `Outline.generatedId` – the id that is made up, with `Outline.generatedId_inj`;
* `DrawnInRow` – a canvas that draws plugins in a row;
* **`drawnInRow_toGraph`** – the canvas that an outline without ids is drawn as.
-/

namespace PipelineCanvas

/-! ### Ids that are made up -/

theorem Text.decimal_injective : Function.Injective Text.decimal := by
  intro m n h
  have hdigits : Nat.toDigits 10 m = Nat.toDigits 10 n := String.ofList_injective h
  have hvalue := congrArg (Nat.ofDigitChars 10 · 0) hdigits
  simpa only [Nat.ofDigitChars_ten_toDigits] using hvalue

namespace Outline

/-- The id that a plugin without one gets in a chain. -/
def generatedId (index : Nat) (role : Role) : String := role.name ++ "-" ++ Text.decimal index

/-- The number in an id begins at the first hyphen, since no name of a role has one. -/
theorem dropWhile_generatedId (index : Nat) (role : Role) :
    (generatedId index role).toList.dropWhile (· ≠ '-') =
      '-' :: (Text.decimal index).toList := by
  cases role <;> simp [generatedId, Role.name]

/-- **The place in the chain can be read off the id.** -/
theorem generatedId_inj {i j : Nat} {r r' : Role} (h : generatedId i r = generatedId j r') :
    i = j := by
  have hrest := dropWhile_generatedId i r
  rw [h, dropWhile_generatedId] at hrest
  have hdecimal : (Text.decimal j).toList = (Text.decimal i).toList := (List.cons.inj hrest).2
  exact (Text.decimal_injective (String.toList_injective hdecimal)).symm

end Outline

/-! ### Plugins in a row -/

/-- A node stands for a plugin with a role; its contract is pending. -/
structure Node.StandsFor (n : Node) (plugin : Role × Stage) : Prop where
  role_eq : n.role = plugin.1
  name_eq : n.name = plugin.2.name
  properties_eq : n.properties = plugin.2.properties
  contract_eq : n.contract = none

/-- A canvas draws plugins in a row: one node for each, under an id that was made up, and
one edge between each two neighbours. -/
structure DrawnInRow (plugins : List (Role × Stage)) (nodes : NodeTable) (edges : Edges)
    (row : List Node) : Prop where
  nodes_perm : nodes.values.Perm row
  standFor : List.Forall₂ Node.StandsFor row plugins
  ids_eq : row.map (·.id) = plugins.mapIdx fun index p => Outline.generatedId index p.1
  ids_nodup : (row.map (·.id)).Nodup
  edges_eq : edges = Edges.chain (row.map (·.id))

namespace Outline

variable {plugins : List (Role × Stage)}

theorem standFor_chainNodes (h : ∀ p ∈ plugins, p.2.Bare) (index : Nat) :
    List.Forall₂ Node.StandsFor (chainNodes index plugins) plugins := by
  induction plugins generalizing index with
  | nil => exact .nil
  | cons p plugins ih =>
    have hcontract := (h p (List.mem_cons_self ..)).contract_eq
    refine .cons ⟨rfl, rfl, rfl, hcontract⟩ ?_
    exact ih (fun q hq => h q (List.mem_cons_of_mem _ hq)) (index + 1)

theorem ids_chainNodes (h : ∀ p ∈ plugins, p.2.Bare) (index : Nat) :
    (chainNodes index plugins).map (·.id) =
      plugins.mapIdx fun i p => generatedId (index + i) p.1 := by
  induction plugins generalizing index with
  | nil => rfl
  | cons p plugins ih =>
    have hid : (chainNode index p.1 p.2).id = generatedId index p.1 := by
      rw [chainNode, (h p (List.mem_cons_self ..)).id_eq]
      rfl
    have hrest := ih (fun q hq => h q (List.mem_cons_of_mem _ hq)) (index + 1)
    rw [chainNodes, List.map_cons, hid, hrest, List.mapIdx_cons]
    simp only [Nat.add_zero, Nat.add_right_comm, Nat.add_assoc]

/-- No two plugins get the same id. -/
theorem nodup_generatedIds (plugins : List (Role × Stage)) :
    (plugins.mapIdx fun index p => generatedId index p.1).Nodup := by
  refine List.pairwise_iff_getElem.mpr fun i j hi hj hlt heq => ?_
  rw [List.getElem_mapIdx, List.getElem_mapIdx] at heq
  exact Nat.ne_of_lt hlt (generatedId_inj heq)

theorem bare_of_mem_roles {o : Outline} (h : ∀ s ∈ o.stages, s.Bare) :
    ∀ p ∈ o.roles, p.2.Bare := fun _ hp => h _ (o.map_snd_roles ▸ List.mem_map_of_mem hp)

/-- **The canvas that an outline without ids is drawn as** has all of its plugins. -/
theorem drawnInRow_toGraph {o : Outline} (h : ∀ s ∈ o.stages, s.Bare) :
    DrawnInRow o.roles (.ofNodes o.toGraph.1) o.toGraph.2 o.toGraph.1 := by
  have hids : o.toGraph.1.map (·.id) = o.roles.mapIdx fun index p => generatedId index p.1 := by
    have hchain := ids_chainNodes (bare_of_mem_roles h) 0
    simp only [Nat.zero_add] at hchain
    exact hchain
  have hnodup : (o.toGraph.1.map (·.id)).Nodup := hids ▸ nodup_generatedIds o.roles
  exact
    { nodes_perm := NodeTable.values_ofNodes_perm hnodup
      standFor := standFor_chainNodes (bare_of_mem_roles h) 0
      ids_eq := hids
      ids_nodup := hnodup
      edges_eq := rfl }

end Outline

/-! ### The plugins of a submission -/

namespace Submission

/-- A submission carries its plugins bare. -/
theorem bare_of_mem_stages_build (o : Outline) (m : Metadata) :
    ∀ s ∈ (build o m).stages, s.Bare := by
  intro s hs
  rw [stages_build] at hs
  obtain ⟨s, -, rfl⟩ := List.mem_map.mp hs
  exact s.bare_stripped

/-- **What a submission tells of its outline makes the same submission.** -/
theorem build_outline_build (o : Outline) (m : Metadata) (name : String) :
    build ((build o m).outline name) m = build o m := by
  refine build_congr m ?_ ?_ ?_ <;>
    simp [outline, source_build, sink_build, transforms_build, Stage.stripped_comp_stripped]

end Submission

end PipelineCanvas
