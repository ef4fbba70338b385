import PipelineCanvas.Proofs.Flattening.Placed
import PipelineCanvas.Proofs.Validation.Whole

/-!
# Drawing an outline as a chain

An outline can be drawn as a canvas again: its plugins in a row, each joined to the next.
Flattening follows the row from its beginning and takes every node once, so the outline
comes back, and with it the submission. The exception is a row of a single plugin. It has
no edge, no edge reaches the plugin, and the outline of the canvas is empty.

* `NodeTable.reached_chain` – the edges of a chain reach its nodes in order;
* `Submission.build_arranged_toGraph` – the nodes of a chain, arranged, make the same
  submission;
* **`build_flatten_chain_iff`** – the submission comes back exactly when the outline does
  not consist of one plugin, if the nodes of the chain have different ids;
  `build_flatten_toGraph_iff`, for the outline of a canvas.
-/

namespace PipelineCanvas

/-! ### Following a chain -/

namespace NodeTable

variable {t : NodeTable}

theorem get?_foldl_restore_of_not_mem {nodes : List Node} {id : String}
    (h : id ∉ nodes.map (·.id)) (t : NodeTable) :
    (nodes.foldl restore t).get? id = t.get? id := by
  induction nodes generalizing t with
  | nil => rfl
  | cons n nodes ih =>
    rw [List.map_cons, List.mem_cons, not_or] at h
    rw [List.foldl_cons, ih h.2, restore, OrderedMap.get?_insert, if_neg (Ne.symm h.1)]

/-- Of nodes with different ids each is stored. -/
theorem get?_foldl_restore {nodes : List Node} (h : (nodes.map (·.id)).Nodup) {n : Node}
    (hn : n ∈ nodes) (t : NodeTable) : (nodes.foldl restore t).get? n.id = some n := by
  induction nodes generalizing t with
  | nil => cases hn
  | cons m nodes ih =>
    obtain ⟨hm, hnodes⟩ := List.nodup_cons.mp h
    rcases List.mem_cons.mp hn with rfl | hn
    · rw [List.foldl_cons, get?_foldl_restore_of_not_mem hm, restore,
        OrderedMap.get?_insert_self]
    · rw [List.foldl_cons, ih hnodes hn]

theorem get?_ofNodes {nodes : List Node} (h : (nodes.map (·.id)).Nodup) {n : Node}
    (hn : n ∈ nodes) : (ofNodes nodes).get? n.id = some n := get?_foldl_restore h hn .empty

theorem mem_of_get?_foldl_restore {nodes : List Node} {t : NodeTable} {id : String} {n : Node}
    (h : (nodes.foldl restore t).get? id = some n) : n ∈ nodes ∨ t.get? id = some n := by
  induction nodes generalizing t with
  | nil => exact .inr h
  | cons m nodes ih =>
    rw [List.foldl_cons] at h
    rcases ih h with hmem | hget
    · exact .inl (List.mem_cons_of_mem _ hmem)
    · rw [restore, OrderedMap.get?_insert] at hget
      split at hget
      · cases hget
        exact .inl (List.mem_cons_self ..)
      · exact .inr hget

/-- **Nodes with different ids are those of the table that stores them.** -/
theorem values_ofNodes_perm {nodes : List Node} (h : (nodes.map (·.id)).Nodup) :
    (ofNodes nodes).values.Perm nodes := by
  have hkeyed := keyed_ofNodes nodes
  refine (List.perm_ext_iff_of_nodup hkeyed.values_nodup (.of_map _ h)).mpr fun n => ?_
  rw [hkeyed.mem_values_iff]
  constructor
  · intro hn
    exact (mem_of_get?_foldl_restore hn).resolve_right (by simp)
  · exact get?_ofNodes h

/-- The rest of a chain, behind ids that end where it begins. -/
theorem reached_append_chain {before rest : List String} {a : String} (ha : a ∈ before)
    (hnew : ∀ id ∈ rest, id ∉ before) (hnodup : rest.Nodup)
    (hnodes : ∀ id ∈ rest, t.contains id = true) :
    t.reached (before ++ (Edges.chain (a :: rest)).ends) = t.reached before ++ rest := by
  induction rest generalizing before a with
  | nil => simp [Edges.chain, Edges.ends]
  | cons b rest ih =>
    have hb := hnew b (List.mem_cons_self ..)
    obtain ⟨hbrest, hrest⟩ := List.nodup_cons.mp hnodup
    have hends : before ++ (Edges.chain (a :: b :: rest)).ends =
        (before ++ [a] ++ [b]) ++ (Edges.chain (b :: rest)).ends := by
      simp [Edges.chain, Edges.ends, Edge.ends]
    have hnew' : ∀ id ∈ rest, id ∉ before ++ [a] ++ [b] := by
      intro id hid hmem
      have hid' := hnew id (List.mem_cons_of_mem _ hid)
      grind
    rw [hends, ih (by simp) hnew' hrest fun id hid => hnodes id (List.mem_cons_of_mem _ hid),
      reached_concat_of_new (hnodes b (List.mem_cons_self ..)) (by grind),
      reached_concat_of_old (.inr ha), List.append_assoc]
    rfl

/-- **The edges of a chain reach its nodes in order,** unless there is one alone. -/
theorem reached_chain {ids : List String} (hnodup : ids.Nodup)
    (hnodes : ∀ id ∈ ids, t.contains id = true) (hlength : ids.length ≠ 1) :
    t.reached (Edges.chain ids).ends = ids := by
  match ids, hlength with
  | [], _ => rfl
  | a :: b :: rest, _ =>
    have hab : b ∉ [a] := by
      have := (List.nodup_cons.mp hnodup).1
      grind
    have hfirst : t.reached [a, b] = [a, b] := by
      calc t.reached [a, b] = t.reached [a] ++ [b] :=
            reached_concat_of_new (hnodes b (by simp)) hab
        _ = t.reached [] ++ [a] ++ [b] := by
            rw [← reached_concat_of_new (hnodes a (by simp)) List.not_mem_nil, List.nil_append]
        _ = [a, b] := rfl
    have hends : (Edges.chain (a :: b :: rest)).ends =
        [a, b] ++ (Edges.chain (b :: rest)).ends := by
      simp [Edges.chain, Edges.ends, Edge.ends]
    rw [hends, reached_append_chain (by simp) (by grind) (by grind) (by grind), hfirst]
    rfl

/-- The nodes that the edges of a chain reach are its nodes, in order. -/
theorem reachedNodes_chain {nodes : List Node} (hnodup : (nodes.map (·.id)).Nodup)
    (hlength : nodes.length ≠ 1) :
    (ofNodes nodes).reachedNodes (Edges.chain (nodes.map (·.id))).ends = nodes := by
  have hnodes : ∀ id ∈ nodes.map (·.id), (ofNodes nodes).contains id = true := by
    intro id hid
    obtain ⟨n, hn, rfl⟩ := List.mem_map.mp hid
    rw [OrderedMap.contains, get?_ofNodes hnodup hn]
    rfl
  rw [reachedNodes, reached_chain hnodup hnodes (by rwa [List.length_map]), List.filterMap_map]
  have hget : ∀ n ∈ nodes, ((ofNodes nodes).get? ∘ fun n => n.id) n = some n := fun n hn =>
    get?_ofNodes hnodup hn
  rw [List.filterMap_congr hget, List.filterMap_some]

end NodeTable

/-! ### The nodes of a chain -/

/-- What is sent of a plugin does not depend on its id. -/
theorem Stage.stripped_of_id (s : Stage) (id : Option String) :
    { s with id }.stripped = s.stripped := by
  simp only [stripped, pruned]
  split
  · rfl
  · split <;> rfl

namespace Outline

@[simp] theorem role_chainNode (index : Nat) (role : Role) (s : Stage) :
    (chainNode index role s).role = role := rfl

/-- A plugin that is drawn as a node and flattened again is sent as it was. -/
@[simp] theorem stripped_stage_chainNode (index : Nat) (role : Role) (s : Stage) :
    (chainNode index role s).stage.stripped = s.stripped := by
  have hdrawn : Stage.ofNode (chainNode index role s) =
      { s with id := some (chainNode index role s).id } := rfl
  rw [Stage.stripped_stage, ← Stage.pruned_ofNode, hdrawn]
  exact Stage.stripped_of_id s _

/-- The nodes of a chain with a role stand for the plugins with that role. -/
theorem filter_chainNodes (role : Role) (index : Nat) (plugins : List (Role × Stage)) :
    ((chainNodes index plugins).filter (·.role = role)).map (fun n => n.stage.stripped) =
      (plugins.filter (·.1 = role)).map fun p => p.2.stripped := by
  induction plugins generalizing index with
  | nil => rfl
  | cons p plugins ih =>
    obtain ⟨r, s⟩ := p
    by_cases hr : r = role
    · subst hr
      simp [chainNodes, ih]
    · simp [chainNodes, hr, ih]

/-- The ids of a chain are those of its plugins, if they have any. -/
theorem map_id_chainNodes {plugins : List (Role × Stage)} (h : ∀ p ∈ plugins, p.2.id.isSome = true)
    (index : Nat) :
    (chainNodes index plugins).map (fun n => some n.id) = plugins.map (·.2.id) := by
  induction plugins generalizing index with
  | nil => rfl
  | cons p plugins ih =>
    obtain ⟨id, hid⟩ := Option.isSome_iff_exists.mp (h p (List.mem_cons_self ..))
    have hnode : (chainNode index p.1 p.2).id = id := by simp [chainNode, Node.fresh, hid]
    rw [chainNodes, List.map_cons, List.map_cons, hnode, hid,
      ih fun q hq => h q (List.mem_cons_of_mem _ hq)]

theorem length_chainNodes (index : Nat) (plugins : List (Role × Stage)) :
    (chainNodes index plugins).length = plugins.length := by
  induction plugins generalizing index with
  | nil => rfl
  | cons p plugins ih => rw [chainNodes, List.length_cons, List.length_cons, ih]

/-! ### The outline and the submission -/

variable (o : Outline)

theorem filter_source_roles : o.roles.filter (·.1 = .source) = o.source.toList.map (.source, ·) := by
  simp [roles, List.filter_map, Function.comp_def]

theorem filter_sink_roles : o.roles.filter (·.1 = .sink) = o.sink.toList.map (.sink, ·) := by
  simp [roles, List.filter_map, Function.comp_def]

theorem filter_transform_roles :
    o.roles.filter (·.1 = .transform) = o.transforms.map (.transform, ·) := by
  simp [roles, List.filter_map, Function.comp_def]

end Outline

/-- A submission is made from what is left of the plugins when they are stripped. -/
theorem Submission.build_congr {o o' : Outline} (m : Metadata)
    (hsource : o.source.map Stage.stripped = o'.source.map Stage.stripped)
    (hsink : o.sink.map Stage.stripped = o'.sink.map Stage.stripped)
    (htransforms : o.transforms.map Stage.stripped = o'.transforms.map Stage.stripped) :
    build o m = build o' m := by
  simp only [build, Outline.stripped_eq, Outline.mapStages, hsource, hsink, htransforms]

/-- **The nodes of a chain, arranged, make the submission of the outline.** -/
theorem Submission.build_arranged_toGraph (o : Outline) (m : Metadata) :
    build (.arranged m Node.stage o.toGraph.1) m = build o m := by
  have hnodes (role : Role) : ((o.toGraph.1.filter (·.role = role)).map Node.stage).map
      Stage.stripped = (o.roles.filter (·.1 = role)).map fun p => p.2.stripped := by
    rw [List.map_map]
    exact Outline.filter_chainNodes role 0 o.roles
  refine build_congr m ?_ ?_ ?_
  · dsimp only [Outline.arranged]
    rw [← List.getLast?_map, ← List.getLast?_map, hnodes, o.filter_source_roles]
    cases o.source <;> rfl
  · dsimp only [Outline.arranged]
    rw [← List.getLast?_map, ← List.getLast?_map, hnodes, o.filter_sink_roles]
    cases o.sink <;> rfl
  · rw [Outline.arranged, hnodes, o.filter_transform_roles, List.map_map]
    rfl

namespace Outline

/-- The plugins of an outline of nodes are those of some of the nodes, each once. -/
theorem exists_nodes_of_arranged (m : Metadata) (stage : Node → Stage) {ns : List Node}
    (h : ns.Nodup) : ∃ picked : List Node, picked.Nodup ∧ (∀ n ∈ picked, n ∈ ns) ∧
      (arranged m stage ns).stages = picked.map stage := by
  have htoList (role : Role) : (ns.filter (·.role = role)).getLast?.toList.Sublist
      (ns.filter (·.role = role)) := by
    cases hlast : (ns.filter (·.role = role)).getLast? with
    | none => exact List.nil_sublist _
    | some n => exact List.singleton_sublist.mpr (List.mem_of_getLast? hlast)
  have hsublist := ((htoList .source).append (.refl (ns.filter (·.role = .transform)))).append
    (htoList .sink)
  refine ⟨_, hsublist.nodup ((filter_role_perm ns).nodup_iff.mpr h), fun n hn => ?_, ?_⟩
  · exact (filter_role_perm ns).mem_iff.mp (hsublist.subset hn)
  · simp [stages, arranged, Option.toList_map]

end Outline

variable {nodes : NodeTable}

/-- Every plugin of an outline is what it shows of some node. -/
theorem exists_node_of_mem_stages_drawn (h : nodes.Keyed) {edges : Edges} {m : Metadata}
    {s : Stage} (hs : s ∈ (Outline.drawn nodes edges m).stages) :
    ∃ n, nodes.get? n.id = some n ∧ n.stage = s := by
  rw [← outline_flatten h] at hs
  obtain ⟨n, hn, hstage⟩ := exists_node_of_mem_stages_flatten hs
  exact ⟨n, h.mem_values_iff.mp hn, hstage⟩

/-- No id is shared among the plugins of an outline, and each has one. -/
theorem map_id_stages_drawn (h : nodes.Keyed) (edges : Edges) (m : Metadata) :
    ((Outline.drawn nodes edges m).stages.map (·.id)).Nodup ∧
      ∀ s ∈ (Outline.drawn nodes edges m).stages, s.id.isSome = true := by
  obtain ⟨picked, hnodup, hpicked, hstages⟩ :=
    Outline.exists_nodes_of_arranged m Node.stage (h.reachedNodes_nodup edges.ends)
  rw [Outline.drawn, hstages, List.map_map]
  refine ⟨hnodup.map_on fun n hn n' hn' heq => ?_, fun s hs => ?_⟩
  · have hget := h.mem_values_iff.mp (h.mem_reachedNodes_iff.mp (hpicked n hn)).1
    have hget' := h.mem_values_iff.mp (h.mem_reachedNodes_iff.mp (hpicked n' hn')).1
    have hid : n.id = n'.id := Option.some.inj heq
    rw [hid, hget'] at hget
    exact (Option.some.inj hget).symm
  · obtain ⟨n, -, rfl⟩ := List.mem_map.mp hs
    rfl

/-- **An outline that is drawn as a chain and flattened again makes the same submission** –
if its nodes have different ids, and exactly if it does not consist of one plugin, which a
chain loses. -/
theorem build_flatten_chain_iff {o : Outline} (hnodup : (o.toGraph.1.map (·.id)).Nodup)
    (m : Metadata) :
    let graph := o.toGraph
    Submission.build (flatten (.ofNodes graph.1) graph.2 m).outline m = .build o m ↔
      o.stages.length ≠ 1 := by
  intro graph
  have hlength : graph.1.length = o.stages.length :=
    (Outline.length_chainNodes 0 o.roles).trans o.length_roles
  rw [outline_flatten (NodeTable.keyed_ofNodes _)]
  constructor
  · -- one node has no neighbour, so no edge reaches it
    intro heq hone
    obtain ⟨n, hn⟩ := List.length_eq_one_iff.mp (hlength.trans hone)
    have hedges : graph.2 = [] := by
      have hgraph : graph.2 = Edges.chain (graph.1.map (·.id)) := rfl
      rw [hgraph, hn]
      rfl
    have hnone : (Outline.drawn (.ofNodes graph.1) graph.2 m).stages = [] := by
      rw [hedges]
      rfl
    have hstages := congrArg (fun s => s.stages.length) heq
    simp only [Submission.length_stages_build, hnone, hone, List.length_nil] at hstages
    cases hstages
  · intro hne
    have hreached : (NodeTable.ofNodes graph.1).reachedNodes graph.2.ends = graph.1 :=
      NodeTable.reachedNodes_chain hnodup (hlength ▸ hne)
    rw [Outline.drawn, hreached]
    exact Submission.build_arranged_toGraph o m

/-- The nodes that a flattened canvas is drawn as have different ids. -/
theorem nodup_map_id_toGraph_flatten (h : nodes.Keyed) (edges : Edges) (m : Metadata) :
    ((flatten nodes edges m).outline.toGraph.1.map (·.id)).Nodup := by
  rw [outline_flatten h]
  obtain ⟨hids, hsome⟩ := map_id_stages_drawn h edges m
  rw [← Outline.map_snd_roles, List.map_map] at hids
  have hplugins : ∀ p ∈ (Outline.drawn nodes edges m).roles, p.2.id.isSome = true := fun p hp =>
    hsome p.2 (Outline.map_snd_roles _ ▸ List.mem_map_of_mem hp)
  have hnodes := Outline.map_id_chainNodes hplugins 0
  refine List.Nodup.of_map some ?_
  rw [List.map_map]
  exact hnodes.symm ▸ hids

/-- **Drawn as a chain and flattened again, a pipeline makes the same submission** – if it
does not consist of one plugin. -/
theorem build_flatten_toGraph_iff (h : nodes.Keyed) (edges : Edges) (m : Metadata) :
    let o := (flatten nodes edges m).outline
    let graph := o.toGraph
    Submission.build (flatten (.ofNodes graph.1) graph.2 m).outline m = .build o m ↔
      o.stages.length ≠ 1 :=
  build_flatten_chain_iff (nodup_map_id_toGraph_flatten h edges m) m

end PipelineCanvas
