import PipelineCanvas.Proofs.Flattening.Drawn

/-!
# What the order of drawing decides

Flattening follows the edges in the order in which they were drawn, and which end takes a
node depends on that order. The nodes that are taken in the end do not: they are those that
some edge names (`NodeTable.reached_perm`). So the order decides no more than two things – in
which row the transforms stand, and which of several sources or sinks comes last and is
kept. An edge that is drawn once more decides nothing at all.

* `Outline.kept_eq_of_perm` – of one source, or one sink, none can come last but that;
* **`flatten_perm`** – the same edges, drawn in another order.
-/

namespace PipelineCanvas

/-! ### The last of a list -/

section Last

variable {α : Type} {l l' : List α}

/-- Whether there is a last element does not depend on the order. -/
theorem isSome_getLast?_of_perm (h : l.Perm l') : l.getLast?.isSome = l'.getLast?.isSome := by
  rw [Bool.eq_iff_iff, List.getLast?_isSome, List.getLast?_isSome, ← List.length_pos_iff,
    ← List.length_pos_iff, h.length_eq]

/-- One element comes in one order. -/
theorem eq_of_perm_of_length_le_one (h : l.Perm l') (hlength : l.length ≤ 1) : l = l' := by
  match l, hlength with
  | [], _ => exact h.nil_eq
  | [a], _ => exact (List.perm_singleton.mp h.symm).symm

end Last

/-! ### Nodes in another order -/

namespace Outline

variable {ns ns' : List Node}

theorem transforms_arranged_perm (m : Metadata) (stage : Node → Stage) (h : ns.Perm ns') :
    (arranged m stage ns).transforms.Perm (arranged m stage ns').transforms :=
  (h.filter _).map _

/-- Whether a plugin is kept under a role does not depend on the order. -/
theorem isSome_kept_of_perm (stage : Node → Stage) (role : Role) (h : ns.Perm ns') :
    ((ns.filter (·.role = role)).getLast?.map stage).isSome =
      ((ns'.filter (·.role = role)).getLast?.map stage).isSome := by
  rw [Option.isSome_map, Option.isSome_map]
  exact isSome_getLast?_of_perm (h.filter _)

/-- Of one node with a role, none can come last but that. -/
theorem kept_eq_of_perm (stage : Node → Stage) {role : Role} (h : ns.Perm ns')
    (hone : (ns.filter (·.role = role)).length ≤ 1) :
    (ns.filter (·.role = role)).getLast?.map stage =
      (ns'.filter (·.role = role)).getLast?.map stage := by
  rw [eq_of_perm_of_length_le_one (h.filter _) hone]

end Outline

/-! ### Edges in another order -/

variable {nodes : NodeTable} {edges edges' : Edges}

/-- What is left out of a drawing is what its edges do not reach. -/
theorem omitted_drawn_congr
    (h : ∀ id, id ∈ nodes.reached edges.ends ↔ id ∈ nodes.reached edges'.ends) :
    (Coverage.drawn nodes edges).omitted = (Coverage.drawn nodes edges').omitted :=
  List.filter_congr fun id _ => by simp only [h id]

/-- **An edge that was drawn before reaches nothing new.** -/
theorem reached_ends_again {e : Edge} {earlier : Edges} (h : e ∈ earlier) (later : Edges) :
    nodes.reached (Edges.ends (earlier ++ e :: later)) =
      nodes.reached (Edges.ends (earlier ++ later)) := by
  have hsource : e.source ∈ earlier.ends := Edges.mem_ends_iff.mpr ⟨e, h, .inl rfl⟩
  have htarget : e.target ∈ earlier.ends := Edges.mem_ends_iff.mpr ⟨e, h, .inr rfl⟩
  have hsplit : Edges.ends (earlier ++ e :: later) =
      earlier.ends ++ e.source :: e.target :: Edges.ends later := by
    simp [Edges.ends, Edge.ends]
  rw [hsplit, NodeTable.reached_append_cons_of_mem hsource,
    NodeTable.reached_append_cons_of_mem htarget, Edges.ends, Edges.ends, Edges.ends,
    List.flatMap_append]

/-- **The order of drawing decides on nothing but order.** The same edges in another order
leave out the same nodes and have the same dangling edges, and the transforms of the outline
are the same, in some row. A source, and a sink, is there in both cases or in none; it is the same
one, if no two nodes have that role. An edge that is drawn again behind the first time changes
neither the outline nor what nodes are left out. -/
theorem flatten_perm (h : nodes.Keyed) (m : Metadata) (hperm : edges.Perm edges') :
    let f := flatten nodes edges m
    let f' := flatten nodes edges' m
    f.coverage.omitted = f'.coverage.omitted ∧
      f.coverage.dangling.Perm f'.coverage.dangling ∧
      f.outline.transforms.Perm f'.outline.transforms ∧
      f.outline.source.isSome = f'.outline.source.isSome ∧
      f.outline.sink.isSome = f'.outline.sink.isSome ∧
      (nodes.roleCount .source ≤ 1 → f.outline.source = f'.outline.source) ∧
      (nodes.roleCount .sink ≤ 1 → f.outline.sink = f'.outline.sink) ∧
      f'.outline = { f.outline with
        source := f'.outline.source, sink := f'.outline.sink,
        transforms := f'.outline.transforms } ∧
      ∀ earlier later e, edges = earlier ++ later → e ∈ earlier →
        let again := flatten nodes (earlier ++ e :: later) m
        again.outline = f.outline ∧ again.coverage.omitted = f.coverage.omitted := by
  intro f f'
  have ho : f.outline = .drawn nodes edges m := outline_flatten h edges m
  have ho' : f'.outline = .drawn nodes edges' m := outline_flatten h edges' m
  have hc : f.coverage = .drawn nodes edges := coverage_flatten h edges m
  have hc' : f'.coverage = .drawn nodes edges' := coverage_flatten h edges' m
  have hends : edges.ends.Perm edges'.ends := hperm.flatMap_right _
  have hreached := NodeTable.reached_perm (t := nodes) hends
  have hnodes : (nodes.reachedNodes edges.ends).Perm (nodes.reachedNodes edges'.ends) :=
    hreached.filterMap _
  have hone : ∀ role, nodes.roleCount role ≤ 1 →
      ((nodes.reachedNodes edges.ends).filter (·.role = role)).length ≤ 1 := fun role hrole =>
    Nat.le_trans (h.length_filter_reachedNodes_le _ role) hrole
  rw [ho, ho', hc, hc']
  refine ⟨omitted_drawn_congr fun id => hreached.mem_iff, hperm.filter _,
    Outline.transforms_arranged_perm m _ hnodes, Outline.isSome_kept_of_perm _ .source hnodes,
    Outline.isSome_kept_of_perm _ .sink hnodes,
    fun hsource => Outline.kept_eq_of_perm _ hnodes (hone _ hsource),
    fun hsink => Outline.kept_eq_of_perm _ hnodes (hone _ hsink), rfl, ?_⟩
  rintro earlier later e rfl he again
  have hagain : nodes.reached (Edges.ends (earlier ++ e :: later)) =
      nodes.reached (Edges.ends (earlier ++ later)) := reached_ends_again he later
  refine ⟨?_, ?_⟩
  · rw [outline_flatten h, Outline.drawn, Outline.drawn, NodeTable.reachedNodes, hagain,
      NodeTable.reachedNodes]
  · rw [coverage_flatten h]
    exact omitted_drawn_congr fun id => by rw [hagain]

/-- Two sources, one sink and an edge from nowhere: drawn the other way round, the edges leave
the other source in the outline. -/
theorem flatten_perm_two_sources :
    let nodes := NodeTable.ofNodes
      [.fresh "a" "Stream" .source, .fresh "b" "File" .source, .fresh "k" "Table" .sink,
        .fresh "o" "Filter" .transform]
    let edges : Edges := [⟨"a", "k"⟩, ⟨"?", "k"⟩, ⟨"b", "k"⟩]
    let f := flatten nodes edges .initial
    let f' := flatten nodes edges.reverse .initial
    nodes.Keyed ∧ edges.Perm edges.reverse ∧
      f.coverage.omitted = f'.coverage.omitted ∧ f'.coverage.omitted = ["o"] ∧
      nodes.roleCount .sink ≤ 1 ∧ f.outline.sink = f'.outline.sink ∧
      f.outline.source.bind (·.id) = some "b" ∧ f'.outline.source.bind (·.id) = some "a" ∧
      (flatten nodes (⟨"a", "k"⟩ :: ⟨"?", "k"⟩ :: ⟨"a", "k"⟩ :: [⟨"b", "k"⟩]) .initial).outline =
        f.outline := by
  intro nodes edges f f'
  have h : nodes.Keyed := NodeTable.keyed_ofNodes _
  have hperm : edges.Perm edges.reverse := (List.reverse_perm _).symm
  have hone : nodes.roleCount .sink ≤ 1 := by decide
  obtain ⟨homitted, -, -, -, -, -, hsink, -, hagain⟩ := flatten_perm h .initial hperm
  exact ⟨h, hperm, homitted, by decide, hone, hsink hone, by decide, by decide,
    (hagain [⟨"a", "k"⟩, ⟨"?", "k"⟩] [⟨"b", "k"⟩] ⟨"a", "k"⟩ rfl (by decide)).1⟩

end PipelineCanvas
