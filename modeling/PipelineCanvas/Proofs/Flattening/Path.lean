import Mathlib.Data.List.Chain
import PipelineCanvas.Proofs.Flattening.Drawn
import PipelineCanvas.Proofs.Validation.Whole

/-!
# Drawings of a path

The plugins of a submission carry no edges, and of a path from a source through some
transforms to a sink all that is left is the order of the transforms. That order is not
the order of the path: flattening follows the edges as they were drawn, so the transforms
come in the order in which the drawing first names them. The edges of a path can be drawn
in any order, and a neighbour is named first exactly if the edge that leaves it is drawn
before both edges at the node in front of it.

* `NodeTable.reached_pairwise_idxOf` – nodes are reached in the order of their first
  mention;
* `Edges.idxOf_ends` – where the drawing of a path first names a node;
* `FormsPath` – a canvas that is a path;
* **`FormsPath.transforms_build`** – the transforms of a path as they are sent, and when
  that is the order of the path.
-/

namespace PipelineCanvas

/-! ### First mentions -/

/-- **Nodes are reached in the order of their first mention.** -/
theorem NodeTable.reached_pairwise_idxOf (t : NodeTable) (ids : List String) :
    (t.reached ids).Pairwise fun a b => ids.idxOf a < ids.idxOf b := by
  induction ids using List.reverseRecOn with
  | nil => exact List.Pairwise.nil
  | append_singleton ids id ih =>
    -- a mention at the end leaves the first mentions before it where they are
    have hold : ∀ a ∈ t.reached ids, (ids ++ [id]).idxOf a = ids.idxOf a := fun a ha =>
      List.idxOf_append_of_mem (mem_reached_iff.mp ha).1
    have hbefore : (t.reached ids).Pairwise fun a b =>
        (ids ++ [id]).idxOf a < (ids ++ [id]).idxOf b :=
      ih.imp_of_mem fun {a b} ha hb hlt => by rwa [hold a ha, hold b hb]
    by_cases hid : id ∈ ids
    · rwa [reached_concat_of_old (.inr hid)]
    · cases hc : t.contains id with
      | false => rwa [reached_concat_of_old (.inl hc)]
      | true =>
        rw [reached_concat_of_new hc hid, List.pairwise_append]
        refine ⟨hbefore, List.pairwise_singleton .., fun a ha b hb => ?_⟩
        rw [List.mem_singleton.mp hb, hold a ha, List.idxOf_append_of_notMem hid]
        have := List.idxOf_lt_length_of_mem (mem_reached_iff.mp ha).1
        omega

namespace Edges

theorem idxOf_ends_cons (e : Edge) (es : Edges) (id : String) :
    (Edges.ends (e :: es)).idxOf id =
      if e.source = id then 0 else if e.target = id then 1 else es.ends.idxOf id + 2 := by
  have hends : Edges.ends (e :: es) = e.source :: e.target :: es.ends := rfl
  by_cases hs : e.source = id
  · rw [hends, hs, if_pos rfl, List.idxOf_cons_self]
  · rw [hends, if_neg hs, List.idxOf_cons_ne _ hs]
    by_cases ht : e.target = id
    · rw [ht, if_pos rfl, List.idxOf_cons_self]
    · rw [if_neg ht, List.idxOf_cons_ne _ ht]

/-- **Where a drawing first names a node** that has one edge to it and one from it: as the
target of the one or as the source of the other, whichever is drawn first. -/
theorem idxOf_ends {a b c : String} {es : Edges} (hsource : ∀ e ∈ es, e.source = b → e = ⟨b, c⟩)
    (htarget : ∀ e ∈ es, e.target = b → e = ⟨a, b⟩) :
    es.ends.idxOf b = min (2 * es.idxOf ⟨a, b⟩ + 1) (2 * es.idxOf ⟨b, c⟩) := by
  induction es with
  | nil => rfl
  | cons e es ih =>
    have hrest := ih (fun f hf => hsource f (List.mem_cons_of_mem _ hf))
      fun f hf => htarget f (List.mem_cons_of_mem _ hf)
    have hs := hsource e (List.mem_cons_self ..)
    have ht := htarget e (List.mem_cons_self ..)
    rw [idxOf_ends_cons]
    by_cases hes : e.source = b
    · rw [if_pos hes, hs hes, List.idxOf_cons_self, Nat.mul_zero, Nat.min_zero]
    · have hbc : e ≠ ⟨b, c⟩ := fun he => hes (by rw [he])
      rw [if_neg hes, List.idxOf_cons_ne _ hbc]
      by_cases het : e.target = b
      · rw [if_pos het, ht het, List.idxOf_cons_self]
        omega
      · have hab : e ≠ ⟨a, b⟩ := fun he => het (by rw [he])
        rw [if_neg het, List.idxOf_cons_ne _ hab, hrest]
        omega

/-! ### Neighbours on a chain -/

/-- The edges of a chain join neighbours. -/
theorem mem_chain_iff {ids : List String} {e : Edge} :
    e ∈ chain ids ↔ [e.source, e.target] <:+: ids := by
  induction ids with
  | nil => simp [chain]
  | cons a ids ih =>
    cases ids with
    | nil => simp [chain, List.infix_cons_iff]
    | cons b rest =>
      have hpair : [e.source, e.target] <+: a :: b :: rest ↔ e = ⟨a, b⟩ := by
        obtain ⟨source, target⟩ := e
        simp [List.cons_prefix_cons]
      rw [chain, List.mem_cons, ih, ← hpair, ← List.infix_cons_iff]

/-- Of different ids, neighbours are numbered one after the other. -/
theorem idxOf_of_neighbours {ids : List String} (hnodup : ids.Nodup) {a b : String}
    (h : [a, b] <:+: ids) : ids.idxOf b = ids.idxOf a + 1 := by
  obtain ⟨before, rest, rfl⟩ := h
  rw [List.append_assoc] at hnodup ⊢
  obtain ⟨-, hab, hdisjoint⟩ := List.nodup_append.mp hnodup
  have hne : a ≠ b := by
    rintro rfl
    simp at hab
  have ha : a ∉ before := fun hmem => hdisjoint a hmem a (by simp) rfl
  have hb : b ∉ before := fun hmem => hdisjoint b hmem b (by simp) rfl
  rw [List.idxOf_append_of_notMem ha, List.idxOf_append_of_notMem hb, List.cons_append,
    List.idxOf_cons_self, List.idxOf_cons_ne _ hne, List.cons_append, List.idxOf_cons_self]

/-- **Where a drawing of a chain first names a node** that has a neighbour on both sides. -/
theorem idxOf_ends_of_perm_chain {ids : List String} (hnodup : ids.Nodup) {es : Edges}
    (hes : es.Perm (chain ids)) {a b c : String} (h : [a, b, c] <:+: ids) :
    es.ends.idxOf b = min (2 * es.idxOf ⟨a, b⟩ + 1) (2 * es.idxOf ⟨b, c⟩) := by
  have hab : [a, b] <:+: ids := List.IsInfix.trans ⟨[], [c], rfl⟩ h
  have hbc : [b, c] <:+: ids := List.IsInfix.trans ⟨[a], [], rfl⟩ h
  refine idxOf_ends (fun e he hb => ?_) fun e he hb => ?_
  · have hpair := mem_chain_iff.mp (hes.mem_iff.mp he)
    have hc := idxOf_of_neighbours hnodup hpair
    rw [hb, ← idxOf_of_neighbours hnodup hbc, List.idxOf_inj (hpair.subset (by simp))] at hc
    rw [← hb, ← hc]
  · have hpair := mem_chain_iff.mp (hes.mem_iff.mp he)
    have ha := idxOf_of_neighbours hnodup hpair
    rw [hb, idxOf_of_neighbours hnodup hab, Nat.add_right_cancel_iff,
      List.idxOf_inj (hab.subset (by simp))] at ha
    rw [← hb, ha]

/-- Every node of a chain with two nodes or more is the end of an edge. -/
theorem mem_ends_chain {ids : List String} (hlength : 2 ≤ ids.length) {id : String}
    (h : id ∈ ids) : id ∈ (chain ids).ends := by
  induction ids with
  | nil => cases h
  | cons a ids ih =>
    match ids, hlength with
    | [b], _ => simpa [chain, ends, Edge.ends] using h
    | b :: c :: rest, _ =>
      have hends : (chain (a :: b :: c :: rest)).ends = a :: b :: (chain (b :: c :: rest)).ends :=
        rfl
      rw [hends]
      rcases List.mem_cons.mp h with rfl | h
      · exact List.mem_cons_self ..
      · exact List.mem_cons_of_mem _ (List.mem_cons_of_mem _ (ih (by simp) h))

end Edges

/-- Neighbours inside a list are those with a neighbour on both sides once the list has
got two more ends. -/
theorem neighbours_iff {α : Type} {first last b c : α} {inner : List α} :
    [b, c] <:+: inner ↔ ∃ a d, [a, b, c, d] <:+: first :: inner ++ [last] := by
  constructor
  · rintro ⟨before, rest, rfl⟩
    obtain ⟨before', a, ha⟩ := List.eq_nil_or_concat (first :: before) |>.resolve_left nofun
    obtain ⟨d, rest', hd⟩ := List.exists_cons_of_ne_nil (show rest ++ [last] ≠ [] by simp)
    refine ⟨a, d, before', rest', ?_⟩
    calc before' ++ [a, b, c, d] ++ rest' = (before' ++ [a]) ++ [b, c] ++ (d :: rest') := by simp
      _ = (first :: before) ++ [b, c] ++ (rest ++ [last]) := by
        rw [hd, ha, List.concat_eq_append]
      _ = first :: (before ++ [b, c] ++ rest) ++ [last] := by simp
  · rintro ⟨a, d, before, rest, h⟩
    -- the ends go off: what is left are neighbours of the list itself
    have hinner : inner = (before ++ [a, b, c, d] ++ rest).tail.dropLast := by
      rw [h]
      simp
    obtain ⟨before', hbefore⟩ : ∃ before', (before ++ [a, b, c, d] ++ rest).tail =
        before' ++ [b, c] ++ (d :: rest) := by
      cases before with
      | nil => exact ⟨[], rfl⟩
      | cons x before => exact ⟨before ++ [a], by simp⟩
    refine ⟨before', (d :: rest).dropLast, ?_⟩
    rw [hinner, hbefore, List.dropLast_append_of_ne_nil (List.cons_ne_nil d rest)]

/-- A row is in the order of some numbers if its neighbours are. -/
theorem pairwise_iff_neighbours {α : Type} {f : α → Nat} {l : List α} :
    (l.Pairwise fun a b => f a < f b) ↔ ∀ a b, [a, b] <:+: l → f a < f b := by
  have hmap : (l.Pairwise fun a b => f a < f b) ↔ l.IsChain fun a b => f a < f b := by
    rw [← List.pairwise_map, ← List.isChain_iff_pairwise, List.isChain_map]
  rw [hmap, List.isChain_iff_forall_rel_of_append_cons_cons]
  constructor
  · rintro h a b ⟨before, rest, rfl⟩
    exact h (List.append_assoc before [a, b] rest)
  · rintro h a b before rest rfl
    exact h a b ⟨before, rest, by simp⟩

/-! ### Paths -/

/-- The ids along a path. -/
def pathIds (source : Node) (transforms : List Node) (sink : Node) : List String :=
  (source :: transforms ++ [sink]).map (·.id)

/-- A canvas is a path from a source through transforms to a sink: there are no other
nodes, and the edges are those of the path, drawn in some order. -/
structure FormsPath (nodes : NodeTable) (edges : Edges) (source : Node) (transforms : List Node)
    (sink : Node) : Prop where
  keyed : nodes.Keyed
  nodes_perm : nodes.values.Perm (source :: transforms ++ [sink])
  source_role : source.role = .source
  transforms_role : ∀ n ∈ transforms, n.role = .transform
  sink_role : sink.role = .sink
  edges_perm : edges.Perm (Edges.chain (pathIds source transforms sink))

namespace FormsPath

variable {nodes : NodeTable} {edges : Edges} {source sink : Node} {transforms : List Node}

theorem pathIds_nodup (h : FormsPath nodes edges source transforms sink) :
    (pathIds source transforms sink).Nodup := by
  have hkeys := nodes.keys_nodup
  rw [← h.keyed.map_id_values] at hkeys
  exact (h.nodes_perm.map _).nodup_iff.mp hkeys

/-- The edges of a path reach each node once. -/
theorem reachedNodes_perm (h : FormsPath nodes edges source transforms sink) :
    (nodes.reachedNodes edges.ends).Perm nodes.values := by
  refine h.keyed.reachedNodes_perm fun n hn => ?_
  have hid : n.id ∈ pathIds source transforms sink :=
    List.mem_map_of_mem (h.nodes_perm.mem_iff.mp hn)
  have hends : edges.ends.Perm (Edges.chain (pathIds source transforms sink)).ends :=
    h.edges_perm.flatMap_right _
  exact hends.mem_iff.mpr (Edges.mem_ends_chain (by simp [pathIds]) hid)

/-- The transforms of a path in the order in which they are reached. -/
def row (nodes : NodeTable) (edges : Edges) : List Node :=
  (nodes.reachedNodes edges.ends).filter (·.role = .transform)

theorem row_perm (h : FormsPath nodes edges source transforms sink) :
    (row nodes edges).Perm transforms := by
  have htransforms : (source :: transforms ++ [sink]).filter (·.role = .transform) =
      transforms := by
    have hall : transforms.filter (·.role = .transform) = transforms :=
      List.filter_eq_self.mpr fun n hn => by simp [h.transforms_role n hn]
    simp [h.source_role, h.sink_role, hall]
  have := (h.reachedNodes_perm.trans h.nodes_perm).filter (·.role = .transform)
  rwa [htransforms] at this

theorem row_pairwise (h : FormsPath nodes edges source transforms sink) :
    (row nodes edges).Pairwise fun a b => edges.ends.idxOf a.id < edges.ends.idxOf b.id := by
  have hreached := nodes.reached_pairwise_idxOf edges.ends
  rw [← h.keyed.map_id_reachedNodes, List.pairwise_map] at hreached
  exact hreached.filter _

/-- **When transforms are reached in the order of the path**: always, but where the edge
that leaves one is drawn before both edges at the transform in front of it. -/
theorem row_eq_iff (h : FormsPath nodes edges source transforms sink) :
    row nodes edges = transforms ↔
      ∀ a b c d, [a, b, c, d] <:+: pathIds source transforms sink →
        edges.idxOf ⟨a, b⟩ < edges.idxOf ⟨c, d⟩ ∨ edges.idxOf ⟨b, c⟩ < edges.idxOf ⟨c, d⟩ := by
  have hsorted : row nodes edges = transforms ↔
      (transforms.map (·.id)).Pairwise fun a b => edges.ends.idxOf a < edges.ends.idxOf b := by
    rw [List.pairwise_map]
    constructor
    · intro hrow
      exact hrow ▸ h.row_pairwise
    · intro hsorted
      exact h.row_perm.eq_of_pairwise
        (fun a b _ _ hab hba => absurd hab (Nat.lt_asymm hba)) h.row_pairwise hsorted
  have hids : pathIds source transforms sink =
      source.id :: transforms.map (·.id) ++ [sink.id] := by simp [pathIds]
  have hfirst {a b c d : String} (hpath : [a, b, c, d] <:+: pathIds source transforms sink) :
      edges.ends.idxOf b < edges.ends.idxOf c ↔
        edges.idxOf ⟨a, b⟩ < edges.idxOf ⟨c, d⟩ ∨ edges.idxOf ⟨b, c⟩ < edges.idxOf ⟨c, d⟩ := by
    have hb := Edges.idxOf_ends_of_perm_chain h.pathIds_nodup h.edges_perm
      (List.IsInfix.trans ⟨[], [d], rfl⟩ hpath)
    have hc := Edges.idxOf_ends_of_perm_chain h.pathIds_nodup h.edges_perm
      (List.IsInfix.trans ⟨[a], [], rfl⟩ hpath)
    omega
  rw [hsorted, pairwise_iff_neighbours]
  constructor
  · intro hneighbours a b c d hpath
    exact (hfirst hpath).mp (hneighbours b c (neighbours_iff.mpr ⟨a, d, hids ▸ hpath⟩))
  · intro hpath b c hbc
    obtain ⟨a, d, habcd⟩ := neighbours_iff.mp hbc
    have habcd := hids.symm ▸ habcd
    exact (hfirst habcd).mpr (hpath a b c d habcd)

/-- **The transforms of a path as they are sent**: each once, in the order in which the
drawing first names them. -/
theorem transforms_build (h : FormsPath nodes edges source transforms sink) (m : Metadata) :
    (Submission.build (flatten nodes edges m).outline m).config.transforms =
      (row nodes edges).map fun n => n.stage.withoutBookkeeping := by
  rw [outline_flatten h.keyed, Submission.transforms_build, Outline.drawn, Outline.arranged,
    List.map_map]
  exact List.map_congr_left fun n _ => Stage.stripped_stage n

end FormsPath

end PipelineCanvas
