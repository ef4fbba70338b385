import PipelineCanvas.Proofs.Flattening.Placed
import PipelineCanvas.Proofs.Validation.Report

/-!
# The nodes that a report points at

Problems of the pipeline are filed under the field they concern, problems of a node under
its id, where the canvas looks them up to highlight the node. Fields and ids are texts
alike, and an id may be any text. So a node is pointed at if it has a problem – no edge
ends at it, or it is in the outline without the value of a required property – and besides
if its id is the name of a field and that field has a problem.

* `Node.HasProblem` – what can be wrong with a node;
* `Violation.fieldKeys` – the names of the fields;
* `contains_validate_iff` – what a report has a key for;
* **`validate_highlights`** – which nodes are pointed at: with the fields' names out of
  the way, exactly those that have a problem, and for no other reason.
-/

namespace PipelineCanvas

/-! ### The vocabulary -/

/-- What can be wrong with a node: no edge ends at it, or it is in the outline and a
required property has no value, or a blank one. -/
def Node.HasProblem (n : Node) (edges : Edges) (o : Outline) : Prop :=
  (∀ e ∈ edges, e.source ≠ n.id ∧ e.target ≠ n.id) ∨
    ∃ s ∈ o.stages, s.id = some n.id ∧ ∃ key, s.Lacks key

namespace Violation

/-- Whether a violation is about a node; the others are about the pipeline. -/
def isAboutNode : Violation → Bool
  | .unconnected _ | .requiredBlank .. => true
  | _ => false

/-- The fields that violations of the pipeline are filed under. -/
def fieldKeys : List String :=
  ["name", "template", "source", "sink", "schedule", "instances", "connections"]

end Violation

/-- A stage lacks a property exactly when the check names one. -/
theorem Stage.exists_lacks_iff {s : Stage} :
    (∃ key, s.Lacks key) ↔ Validation.missingRequired s ≠ [] := by
  simp only [← Violation.mem_missingRequired_iff, ne_eq, List.eq_nil_iff_forall_not_mem,
    not_forall_not]

instance (n : Node) (edges : Edges) (o : Outline) : Decidable (n.HasProblem edges o) :=
  decidable_of_iff
    ((∀ e ∈ edges, e.source ≠ n.id ∧ e.target ≠ n.id) ∨
      ∃ s ∈ o.stages, s.id = some n.id ∧ Validation.missingRequired s ≠ [])
    (by simp only [Node.HasProblem, Stage.exists_lacks_iff])

variable {nodes : NodeTable} {edges : Edges} {m : Metadata} {o : Outline}

/-! ### What is under a key -/

namespace Violation

theorem getD_reported (vs : List Violation) (key : String) :
    (reported vs key).getD [] = (vs.filter fun v => v.key = key).map message := by
  unfold reported
  split
  · next h => rw [h, Option.getD_none]
  · rw [Option.getD_some]

theorem isSome_reported_iff {vs : List Violation} {key : String} :
    (reported vs key).isSome = true ↔ ∃ v ∈ vs, v.key = key := by
  have hnil : (vs.filter fun v => v.key = key).map message = [] ↔ ¬∃ v ∈ vs, v.key = key := by
    simp
  unfold reported
  split
  · next h => simp [hnil.mp h]
  · next h => simp [not_not.mp (mt hnil.mpr h)]

end Violation

/-- The messages under a key are those of the violations with that key. -/
theorem mem_get?_validate_iff {key message : String} :
    message ∈ ((validate nodes edges m o).1.get? key).getD [] ↔
      ∃ v : Violation, v.Occurs nodes edges m o ∧ v.key = key ∧ v.message = message := by
  rw [get?_validate, Violation.getD_reported, List.mem_map]
  simp only [List.mem_filter, Violation.mem_list_iff, decide_eq_true_eq, and_assoc]

/-- **A report has a key exactly for the violations that occur.** -/
theorem contains_validate_iff {key : String} :
    (validate nodes edges m o).1.contains key = true ↔
      ∃ v : Violation, v.Occurs nodes edges m o ∧ v.key = key := by
  have hget : (validate nodes edges m o).1.contains key =
      ((validate nodes edges m o).1.get? key).isSome := rfl
  rw [hget, get?_validate, Violation.isSome_reported_iff]
  simp only [Violation.mem_list_iff]

/-! ### What a violation is about -/

/-- A violation of the pipeline is filed under a field. -/
theorem Violation.Occurs.key_mem_fieldKeys {v : Violation} (hv : v.Occurs nodes edges m o)
    (hpipeline : v.isAboutNode = false) : v.key ∈ fieldKeys := by
  cases v with
  | roleMissing role =>
    cases role with
    | transform => exact absurd rfl hv.1
    | source | sink => simp [key, Role.name, fieldKeys]
  | roleRepeated role count =>
    cases role with
    | transform => exact absurd rfl hv.1
    | source | sink => simp [key, Role.name, fieldKeys]
  | unconnected | requiredBlank => cases hpipeline
  | _ => simp [key, fieldKeys]

/-- **A node has a violation under its id exactly when it has a problem.** The plugins of
the outline carry the ids of nodes, so none is filed under the name of a plugin. -/
theorem Node.hasProblem_iff {n : Node} (hn : n ∈ nodes.values) :
    n.HasProblem edges (flatten nodes edges m).outline ↔
      ∃ v : Violation, v.Occurs nodes edges m (flatten nodes edges m).outline ∧
        v.isAboutNode = true ∧ v.key = n.id := by
  constructor
  · rintro (hapart | ⟨s, hs, hid, key, hlacks⟩)
    · exact ⟨.unconnected n, ⟨hn, hapart⟩, rfl, rfl⟩
    · obtain ⟨index, hindex⟩ := List.mem_iff_getElem?.mp hs
      exact ⟨.requiredBlank index s key, ⟨hindex, hlacks⟩, rfl, by simp [Violation.key, hid]⟩
  · rintro ⟨v, hv, hnode, hkey⟩
    cases v with
    | unconnected n' =>
      have hid : n'.id = n.id := hkey
      exact .inl (hid ▸ hv.2)
    | requiredBlank index s key =>
      have hs := List.mem_of_getElem? hv.1
      obtain ⟨n', -, rfl⟩ := exists_node_of_mem_stages_flatten hs
      have hid : n'.id = n.id := hkey
      exact .inr ⟨n'.stage, hs, congrArg some hid, key, hv.2⟩
    | _ => cases hnode

/-! ### The nodes pointed at -/

/-- **Which nodes a report points at.** It has a key for the id of a node exactly if the
node has a problem, or if the id is the key of a problem of the pipeline. The latter takes
an id that is the name of a field: any other id is a key exactly if the node has a problem,
and all that is reported under it is about a node. -/
theorem validate_highlights (edges : Edges) (m : Metadata) {n : Node} (hn : n ∈ nodes.values) :
    let o := (flatten nodes edges m).outline
    let problems := (validate nodes edges m o).1
    (problems.contains n.id = true ↔
      n.HasProblem edges o ∨
        ∃ v : Violation, v.Occurs nodes edges m o ∧ v.isAboutNode = false ∧ v.key = n.id) ∧
    (n.id ∉ Violation.fieldKeys →
      (problems.contains n.id = true ↔ n.HasProblem edges o) ∧
      (∀ v : Violation, v.Occurs nodes edges m o → v.key = n.id → v.isAboutNode = true) ∧
      ∀ message ∈ (problems.get? n.id).getD [],
        ∃ v : Violation, v.Occurs nodes edges m o ∧ v.key = n.id ∧ v.message = message) := by
  intro o problems
  have hcontains : problems.contains n.id = true ↔
      n.HasProblem edges o ∨
        ∃ v : Violation, v.Occurs nodes edges m o ∧ v.isAboutNode = false ∧ v.key = n.id := by
    rw [contains_validate_iff, Node.hasProblem_iff hn]
    constructor
    · rintro ⟨v, hv, hkey⟩
      cases habout : v.isAboutNode with
      | true => exact .inl ⟨v, hv, habout, hkey⟩
      | false => exact .inr ⟨v, hv, habout, hkey⟩
    · rintro (⟨v, hv, -, hkey⟩ | ⟨v, hv, -, hkey⟩)
      · exact ⟨v, hv, hkey⟩
      · exact ⟨v, hv, hkey⟩
  refine ⟨hcontains, fun hfield => ?_⟩
  -- a violation under this id that were not about a node would make it the name of a field
  have habout (v : Violation) (hv : v.Occurs nodes edges m o) (hkey : v.key = n.id) :
      v.isAboutNode = true := by
    by_contra hnot
    exact hfield (hkey ▸ hv.key_mem_fieldKeys (Bool.eq_false_iff.mpr hnot))
  refine ⟨hcontains.trans (or_iff_left ?_), habout, fun _ => mem_get?_validate_iff.mp⟩
  rintro ⟨v, hv, hpipeline, hkey⟩
  rw [habout v hv hkey] at hpipeline
  cases hpipeline

/-- A filter between two nodes, without its condition, on a canvas with a wrong name. -/
theorem validate_highlights_condition :
    let contract : Contract :=
      .ofList [("condition", { PropertySpec.ofKind "condition" "string" with required := true })]
    let n := (Node.fresh "t" "Filter" .transform).applyContract contract
    let nodes := NodeTable.ofNodes
      [.fresh "a" "Stream" .source, .fresh "k" "Table" .sink, n]
    let edges : Edges := [⟨"a", "t"⟩, ⟨"t", "k"⟩]
    let m := Metadata.named "my pipeline"
    let o := (flatten nodes edges m).outline
    n ∈ nodes.values ∧ n.id ∉ Violation.fieldKeys ∧
      (validate nodes edges m o).1.contains n.id = true ∧ n.HasProblem edges o := by
  intro contract n nodes edges m o
  have hn : n ∈ nodes.values := by decide
  have hid : n.id ∉ Violation.fieldKeys := by decide
  have hcontains : (validate nodes edges m o).1.contains n.id = true := by decide
  obtain ⟨hiff, -⟩ := (validate_highlights edges m hn).2 hid
  exact ⟨hn, hid, hcontains, hiff.mp hcontains⟩

/-- Under the id `name` the canvas finds what is wrong with the name of the pipeline, and
highlights a node that has no problem. -/
theorem validate_highlights_innocent_node :
    let n := Node.fresh "name" "Stream" .source
    let nodes := NodeTable.ofNodes
      [n, .fresh "k" "Table" .sink, .fresh "t" "Filter" .transform]
    let edges : Edges := [⟨"name", "k"⟩]
    let m := Metadata.named "my pipeline"
    let o := (flatten nodes edges m).outline
    let problems := (validate nodes edges m o).1
    nodes.Keyed ∧ n ∈ nodes.values ∧ ¬n.HasProblem edges o ∧ problems.contains n.id = true ∧
      problems.get? n.id =
        some ["Pipeline name may contain only letters, digits, '_' and '-'"] := by
  decide

end PipelineCanvas
