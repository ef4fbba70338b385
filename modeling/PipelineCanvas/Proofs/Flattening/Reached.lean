import Mathlib.Data.List.Induction
import Mathlib.Data.List.Nodup
import Mathlib.Data.List.Perm.Subperm
import PipelineCanvas.Pipeline.Flattening
import PipelineCanvas.Proofs.Canvas.Keyed

/-!
# What the edges reach

Edges are drawn between ids, and an id may be named many times or name no node at
all. `NodeTable.reached` reads a list of ids – the ends of all edges, in drawing
order – as the nodes it reaches: ids that are no node are dropped, and of an id that
is named several times only the first mention stays.

* `NodeTable.reached`, `NodeTable.reachedNodes` – the ids, and the nodes under them;
* **`NodeTable.Keyed.reachedNodes_perm`** – edges that leave no node out reach each
  node of a keyed table once;
* `NodeTable.reached_perm`, `NodeTable.reached_append_cons_of_mem` – ids in another order
  reach the same, and an id that is named once more reaches nothing new.
-/

namespace PipelineCanvas

/-- The ids that edges name are their sources and targets. -/
theorem Edges.mem_ends_iff {edges : Edges} {id : String} :
    id ∈ edges.ends ↔ ∃ e ∈ edges, e.source = id ∨ e.target = id := by
  simp only [ends, List.mem_flatMap, Edge.ends, List.mem_cons, List.not_mem_nil, or_false,
    eq_comm (a := id)]

namespace NodeTable

/-- The ids of a list that are ids of nodes, each where it is named first. -/
def reached (t : NodeTable) (ids : List String) : List String :=
  (ids.filter t.contains).eraseDups

/-- The nodes under the ids of a list, each where its id is named first. -/
def reachedNodes (t : NodeTable) (ids : List String) : List Node :=
  (t.reached ids).filterMap t.get?

variable {t : NodeTable} {ids : List String} {id : String} {n : Node}

/-! ### The ids -/

theorem mem_reached_iff : id ∈ t.reached ids ↔ id ∈ ids ∧ t.contains id = true := by
  rw [reached, List.mem_eraseDups, List.mem_filter]

/-- An id that is named once more, or is no node, reaches nothing new. -/
theorem reached_concat_of_old (h : t.contains id = false ∨ id ∈ ids) :
    t.reached (ids ++ [id]) = t.reached ids := by
  rw [reached, List.filter_append, List.eraseDups_append]
  rcases h with h | h
  · simp [reached, List.removeAll, h]
  · by_cases hc : t.contains id = true
    · simp [reached, List.removeAll, hc, h]
    · simp [reached, List.removeAll, hc]

/-- An id that was named may be named again anywhere behind. -/
theorem reached_append_cons_of_mem (h : id ∈ ids) (later : List String) :
    t.reached (ids ++ id :: later) = t.reached (ids ++ later) := by
  have hsame : ((id :: later).filter t.contains).removeAll (ids.filter t.contains) =
      (later.filter t.contains).removeAll (ids.filter t.contains) := by
    by_cases hc : t.contains id = true <;> simp [List.removeAll, hc, h]
  rw [reached, reached, List.filter_append, List.filter_append, List.eraseDups_append,
    List.eraseDups_append, hsame]

/-- A node that is named for the first time comes last. -/
theorem reached_concat_of_new (hc : t.contains id = true) (h : id ∉ ids) :
    t.reached (ids ++ [id]) = t.reached ids ++ [id] := by
  rw [reached, List.filter_append, List.eraseDups_append]
  simp [reached, List.removeAll, hc, h, List.eraseDups_cons]

/-- **No id is reached twice.** -/
theorem reached_nodup (t : NodeTable) (ids : List String) : (t.reached ids).Nodup := by
  induction ids using List.reverseRecOn with
  | nil => exact List.nodup_nil
  | append_singleton ids id ih =>
    -- either the id comes last and is new, or nothing changes
    by_cases h : t.contains id = true ∧ id ∉ ids
    · rw [reached_concat_of_new h.1 h.2]
      refine List.nodup_append.mpr ⟨ih, List.nodup_singleton _, ?_⟩
      intro a ha b hb hab
      rw [List.mem_singleton] at hb
      exact h.2 (hb ▸ hab ▸ (mem_reached_iff.mp ha).1)
    · rw [reached_concat_of_old (by grind)]
      exact ih

/-- **In whatever order ids are named, they reach the same.** -/
theorem reached_perm {ids' : List String} (h : ids.Perm ids') :
    (t.reached ids).Perm (t.reached ids') := by
  refine (List.perm_ext_iff_of_nodup (t.reached_nodup ids) (t.reached_nodup ids')).mpr fun id => ?_
  rw [mem_reached_iff, mem_reached_iff, h.mem_iff]

/-! ### The nodes -/

theorem mem_reachedNodes_iff :
    n ∈ t.reachedNodes ids ↔ ∃ id ∈ ids, t.get? id = some n := by
  simp only [reachedNodes, List.mem_filterMap, mem_reached_iff]
  constructor
  · rintro ⟨id, ⟨hid, -⟩, hn⟩
    exact ⟨id, hid, hn⟩
  · rintro ⟨id, hid, hn⟩
    exact ⟨id, ⟨hid, by simp [OrderedMap.contains, hn]⟩, hn⟩

theorem reachedNodes_concat_of_old (h : t.contains id = false ∨ id ∈ ids) :
    t.reachedNodes (ids ++ [id]) = t.reachedNodes ids := by
  rw [reachedNodes, reached_concat_of_old h, reachedNodes]

theorem reachedNodes_concat_of_new (hn : t.get? id = some n) (h : id ∉ ids) :
    t.reachedNodes (ids ++ [id]) = t.reachedNodes ids ++ [n] := by
  have hc : t.contains id = true := by simp [OrderedMap.contains, hn]
  rw [reachedNodes, reached_concat_of_new hc h, List.filterMap_append]
  simp [reachedNodes, hn]

/-- The reached nodes carry the reached ids, in the same order. -/
theorem Keyed.map_id_reachedNodes (h : t.Keyed) (ids : List String) :
    (t.reachedNodes ids).map (·.id) = t.reached ids := by
  have hget : ∀ id ∈ t.reached ids, (t.get? id).map (·.id) = some id := by
    intro id hid
    obtain ⟨n, hn⟩ := Option.isSome_iff_exists.mp (mem_reached_iff.mp hid).2
    rw [hn, Option.map_some, keyed_iff.mp h id n hn]
  rw [reachedNodes, List.map_filterMap, List.filterMap_congr hget, List.filterMap_some]

theorem Keyed.reachedNodes_nodup (h : t.Keyed) (ids : List String) :
    (t.reachedNodes ids).Nodup := by
  have := reached_nodup t ids
  rw [← h.map_id_reachedNodes] at this
  exact List.Nodup.of_map _ this

theorem Keyed.mem_reachedNodes_iff (h : t.Keyed) :
    n ∈ t.reachedNodes ids ↔ n ∈ t.values ∧ n.id ∈ ids := by
  rw [NodeTable.mem_reachedNodes_iff, h.mem_values_iff]
  constructor
  · rintro ⟨id, hid, hn⟩
    have := keyed_iff.mp h id n hn
    subst this
    exact ⟨hn, hid⟩
  · rintro ⟨hn, hid⟩
    exact ⟨n.id, hid, hn⟩

/-- **A list of ids that leaves no node out reaches each node once.** -/
theorem Keyed.reachedNodes_perm (h : t.Keyed) (hall : ∀ n ∈ t.values, n.id ∈ ids) :
    (t.reachedNodes ids).Perm t.values := by
  refine (List.perm_ext_iff_of_nodup (h.reachedNodes_nodup ids) h.values_nodup).mpr ?_
  intro n
  rw [h.mem_reachedNodes_iff]
  exact ⟨And.left, fun hn => ⟨hn, hall n hn⟩⟩

/-- Of the nodes that play a role no more are reached than there are. -/
theorem Keyed.length_filter_reachedNodes_le (h : t.Keyed) (ids : List String) (role : Role) :
    ((t.reachedNodes ids).filter (·.role = role)).length ≤ t.roleCount role := by
  refine (List.subperm_of_subset ((h.reachedNodes_nodup ids).filter _) fun n hn => ?_).length_le
  obtain ⟨hreached, hrole⟩ := List.mem_filter.mp hn
  exact mem_filter_role_iff.mpr ⟨(h.mem_reachedNodes_iff.mp hreached).1, of_decide_eq_true hrole⟩

end NodeTable

end PipelineCanvas
