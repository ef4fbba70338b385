import Mathlib.Data.Set.Card
import PipelineCanvas.Proofs.Flattening.Drawn

/-!
# What flattening reports

Flattening answers three times over: with an outline, with its coverage, and with lines in the
log. The lines come about along the walk, a warning for each dangling edge where it is met,
one for all nodes left out behind the last edge, and a summary at the end. None of this depends
on whether the table keeps its nodes under their ids, so it is proved of the walk itself.

In a keyed table the figures account for every node. A transform that is reached is in the
outline, a node that is not is left out, and a source or a sink that is reached has either its
place in the outline or has lost it to a later one: reached it was in any case.

* `Coverage.warnings`, `Flattening.summary` – what the lines say;
* `Flattening.notices_walk` – the warnings along the walk;
* `NodeTable.Keyed.size_eq` – every node is a transform that is reached, another node that is,
  or left out;
* **`flatten_reports`** – the three answers agree.
-/

namespace PipelineCanvas

variable {nodes : NodeTable}

/-! ### The lines -/

/-- The warnings of a coverage: one for each dangling edge, in their order, and one that lists
all omitted nodes, if there are any. -/
def Coverage.warnings (c : Coverage) : List Notice :=
  c.dangling.map (fun e => .danglingSkipped e.source e.target) ++
    if c.omitted = [] then [] else [.orphansOmitted c.omitted]

/-- The summary of a flattening. -/
def Flattening.summary (f : Flattening) : Notice :=
  .flattened f.outline.name f.outline.transforms.length f.outline.source.isSome
    f.outline.sink.isSome f.coverage.omitted.length

theorem Coverage.level_of_mem_warnings {c : Coverage} {n : Notice} (h : n ∈ c.warnings) :
    n.level = .warn := by
  rcases List.mem_append.mp h with hdangling | homitted
  · obtain ⟨e, -, rfl⟩ := List.mem_map.mp hdangling
    rfl
  · split at homitted
    · cases homitted
    · rw [List.mem_singleton.mp homitted]
      rfl

/-- There is nothing to warn of exactly when the coverage reports nothing. -/
theorem Coverage.warnings_eq_nil_iff {c : Coverage} : c.warnings = [] ↔ c.isClean = true := by
  rw [warnings, List.append_eq_nil_iff, List.map_eq_nil_iff, isClean, Bool.and_eq_true,
    List.isEmpty_iff, List.isEmpty_iff, and_comm]
  by_cases homitted : c.omitted = []
  · simp [homitted]
  · simp [homitted]

/-! ### Along the walk -/

namespace Flattening

/-- Taking a node writes nothing. -/
theorem Walk.visit_report (nodes : NodeTable) (w : Walk) (id : String) :
    (w.visit nodes id).dangling = w.dangling ∧ (w.visit nodes id).notices = w.notices := by
  unfold visit
  split
  · exact ⟨rfl, rfl⟩
  · split <;> exact ⟨rfl, rfl⟩

/-- **Along the walk there is one warning for each edge found dangling.** -/
theorem notices_walk (nodes : NodeTable) (edges : Edges) (m : Metadata) :
    (walk nodes edges m).notices = (walk nodes edges m).dangling.map danglingNotice := by
  -- edges are followed one behind the other, so the induction takes the last one off
  induction edges using List.reverseRecOn with
  | nil => rfl
  | append_singleton edges e ih =>
    have hstep : walk nodes (edges ++ [e]) m = (walk nodes edges m).follow nodes e := by
      simp [walk]
    obtain ⟨hdangling, hnotices⟩ := Walk.visit_report nodes
      ((walk nodes edges m).visit nodes e.source) e.target
    obtain ⟨hdangling', hnotices'⟩ := Walk.visit_report nodes (walk nodes edges m) e.source
    rw [hstep, Walk.follow]
    simp only [Edge.ends, List.foldl_cons, List.foldl_nil]
    -- neither end says anything, so what is new is said of the edge
    split
    · simp only [hdangling, hnotices, hdangling', hnotices', ih, List.map_append]
      rfl
    · rw [hdangling, hnotices, hdangling', hnotices', ih]

end Flattening

theorem notices_flatten (nodes : NodeTable) (edges : Edges) (m : Metadata) :
    (flatten nodes edges m).notices =
      (flatten nodes edges m).coverage.warnings ++ [(flatten nodes edges m).summary] := by
  have hflatten : (flatten nodes edges m).notices =
      (Flattening.walk nodes edges m).notices ++
        (if (Flattening.walk nodes edges m).remaining.isEmpty then []
          else [.orphansOmitted (Flattening.walk nodes edges m).remaining]) ++
        [(flatten nodes edges m).summary] := rfl
  have hcoverage : (flatten nodes edges m).coverage =
      ⟨(Flattening.walk nodes edges m).remaining, (Flattening.walk nodes edges m).dangling⟩ := rfl
  rw [hflatten, Flattening.notices_walk, hcoverage, Coverage.warnings]
  simp only [List.isEmpty_iff]
  rfl

/-! ### Every node is accounted for -/

namespace NodeTable.Keyed

/-- The transforms that are reached, as they stand in the table. -/
theorem length_transforms_drawn (h : nodes.Keyed) (edges : Edges) (m : Metadata) :
    (Outline.drawn nodes edges m).transforms.length =
      ((nodes.values.filter (·.id ∈ edges.ends)).filter (·.role = .transform)).length := by
  have hperm : (nodes.reachedNodes edges.ends).Perm
      (nodes.values.filter fun n => n.id ∈ edges.ends) := by
    refine (List.perm_ext_iff_of_nodup (h.reachedNodes_nodup _)
      (h.values_nodup.filter _)).mpr fun n => ?_
    rw [h.mem_reachedNodes_iff, List.mem_filter, decide_eq_true_eq]
  rw [Outline.drawn, Outline.arranged, List.length_map]
  exact (hperm.filter _).length_eq

/-- The nodes that are left out, as they stand in the table. -/
theorem length_omitted_drawn (h : nodes.Keyed) (edges : Edges) :
    (Coverage.drawn nodes edges).omitted.length =
      (nodes.values.filter fun n => !decide (n.id ∈ edges.ends)).length := by
  have homitted : (Coverage.drawn nodes edges).omitted =
      nodes.keys.filter fun id => !decide (id ∈ edges.ends) := by
    refine List.filter_congr fun id hid => ?_
    simp [mem_reached_iff, OrderedMap.mem_keys_iff.mp hid]
  rw [homitted, ← h.map_id_values, List.filter_map, List.length_map]
  rfl

/-- **Every node is a transform that edges reach, another node that edges reach, or one that
they leave out.** -/
theorem size_eq (h : nodes.Keyed) (edges : Edges) (m : Metadata) :
    (Outline.drawn nodes edges m).transforms.length + (Coverage.drawn nodes edges).omitted.length +
      {n | n ∈ nodes.values ∧ n.role ≠ .transform ∧ n.id ∈ edges.ends}.ncard = nodes.size := by
  have hset : {n | n ∈ nodes.values ∧ n.role ≠ .transform ∧ n.id ∈ edges.ends} =
      ((nodes.values.filter (·.id ∈ edges.ends)).filter fun n =>
        !decide (n.role = .transform)).toFinset := by
    ext n
    simp only [Set.mem_ofPred_eq, List.coe_toFinset, List.mem_filter, Bool.not_eq_true',
      decide_eq_true_eq, decide_eq_false_iff_not]
    exact ⟨fun ⟨hn, hrole, hid⟩ => ⟨⟨hn, hid⟩, hrole⟩, fun ⟨⟨hn, hid⟩, hrole⟩ => ⟨hn, hrole, hid⟩⟩
  -- the table falls into what is reached and what is not, and what is reached into two again
  have hall := nodes.values.length_eq_length_filter_add fun n => decide (n.id ∈ edges.ends)
  have hreached := (nodes.values.filter (·.id ∈ edges.ends)).length_eq_length_filter_add
    fun n => decide (n.role = .transform)
  rw [hset, Set.ncard_coe_finset,
    List.toFinset_card_of_nodup ((h.values_nodup.filter _).filter _),
    h.length_transforms_drawn, h.length_omitted_drawn, ← nodes.length_values, hall, hreached]
  omega

end NodeTable.Keyed

/-! ### The three answers -/

/-- **The log, the coverage and the outline agree.** The lines of flattening are a warning for
each dangling edge, with its ends and in its place, then one that lists the omitted nodes, if
there are any, with their number, then a summary that gives the figures of the outline and of
the omitted nodes. The coverage is clean exactly when there is no warning. And the transforms,
the omitted nodes and the sources and sinks that edges reach, those included that lost their
place to a later one, are all the nodes there are. -/
theorem flatten_reports (nodes : NodeTable) (edges : Edges) (m : Metadata) :
    let f := flatten nodes edges m
    f.notices = f.coverage.warnings ++ [f.summary] ∧
      f.notices.map (·.fields) =
        f.coverage.dangling.map
            (fun e => [("from_node", .text e.source), ("to_node", .text e.target)]) ++
          (if f.coverage.omitted = [] then []
            else [[("node_ids", .text (",".intercalate f.coverage.omitted)),
              ("omitted_count", .count f.coverage.omitted.length)]]) ++
          [[("pipeline", .text f.outline.name),
            ("transform_count", .count f.outline.transforms.length),
            ("has_source", .flag f.outline.source.isSome),
            ("has_sink", .flag f.outline.sink.isSome),
            ("omitted_count", .count f.coverage.omitted.length)]] ∧
      (f.coverage.isClean = true ↔ ∀ n ∈ f.notices, n.level ≠ .warn) ∧
      (nodes.Keyed →
        f.outline.transforms.length + f.coverage.omitted.length +
          {n | n ∈ nodes.values ∧ n.role ≠ .transform ∧ n.id ∈ edges.ends}.ncard = nodes.size) := by
  intro f
  have hnotices : f.notices = f.coverage.warnings ++ [f.summary] := notices_flatten nodes edges m
  refine ⟨hnotices, ?_, ?_, fun h => ?_⟩
  · rw [hnotices, Coverage.warnings, Flattening.summary]
    simp only [List.map_append, List.map_map]
    split <;> rfl
  · rw [← Coverage.warnings_eq_nil_iff, hnotices]
    constructor
    · intro hnone n hn
      rw [hnone, List.nil_append, List.mem_singleton] at hn
      rw [hn]
      exact nofun
    · intro hnone
      refine List.eq_nil_iff_forall_not_mem.mpr fun n hn => ?_
      exact hnone n (List.mem_append_left _ hn) (Coverage.level_of_mem_warnings hn)
  · have ho : f.outline = .drawn nodes edges m := outline_flatten h edges m
    have hc : f.coverage = .drawn nodes edges := coverage_flatten h edges m
    rw [ho, hc]
    exact h.size_eq edges m

/-- The second source takes the place of the first in the outline, and yet both are counted;
one edge comes from nowhere, and one node stands apart. -/
theorem flatten_reports_displaced :
    let nodes := NodeTable.ofNodes
      [.fresh "a" "Stream" .source, .fresh "b" "File" .source, .fresh "k" "Table" .sink,
        .fresh "o" "Filter" .transform, .fresh "t" "Filter" .transform]
    let edges : Edges := [⟨"a", "t"⟩, ⟨"?", "b"⟩, ⟨"t", "k"⟩, ⟨"a", "t"⟩]
    let f := flatten nodes edges .initial
    nodes.Keyed ∧
      f.notices = [.danglingSkipped "?" "b", .orphansOmitted ["o"], .flattened "" 1 true true 1] ∧
      f.coverage.isClean = false ∧
      {n | n ∈ nodes.values ∧ n.role ≠ .transform ∧ n.id ∈ edges.ends}.ncard = 3 := by
  intro nodes edges f
  have h : nodes.Keyed := NodeTable.keyed_ofNodes _
  obtain ⟨hnotices, -, hclean, hsize⟩ := flatten_reports nodes edges .initial
  have htransforms : f.outline.transforms.length = 1 := by decide
  have homitted : f.coverage.omitted.length = 1 := by decide
  have hall : nodes.size = 5 := by decide
  refine ⟨h, hnotices.trans (by decide), ?_, ?_⟩
  · rw [Bool.eq_false_iff]
    intro hc
    have horphans : Notice.orphansOmitted ["o"] ∈ f.notices := by decide
    exact hclean.mp hc _ horphans rfl
  · have hcount : f.outline.transforms.length + f.coverage.omitted.length + _ = _ := hsize h
    rw [htransforms, homitted, hall] at hcount
    omega

end PipelineCanvas
