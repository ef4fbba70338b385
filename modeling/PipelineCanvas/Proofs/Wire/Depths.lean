import PipelineCanvas.Proofs.Json.Values
import PipelineCanvas.Wire.Pipeline

/-!
# How deep a draft is

A draft is nested no more than six levels deep, whatever is drawn on its canvas, and it holds no
floating-point number. So there is room for it in any document that has room for drafts.

* `Json.fits_list`, `Json.fits_map`, `Json.fits_optional` – what is made of written values;
* `Submission.fits_toJson`, `Outline.fits_toJson` – submissions and outlines;
* **`Draft.fits_toJson`** – drafts.
-/

namespace PipelineCanvas

variable {p : Binary64 → Prop} {n : Nat}

namespace Json

variable {α : Type} {toJson : α → Json}

theorem fits_optional (h : ∀ a, (toJson a).Fits p n) (a : Option α) :
    (optional toJson a).Fits p n := by
  cases a with
  | none => exact .null
  | some a => exact h a

theorem fits_list (h : ∀ a, (toJson a).Fits p n) (as : List α) :
    (list toJson as).Fits p (n + 1) :=
  .array (List.forall_mem_map.mpr fun a _ => h a)

theorem fits_map (h : ∀ a, (toJson a).Fits p n) (m : OrderedMap α) :
    (map toJson m).Fits p (n + 1) :=
  .object (List.forall_mem_map.mpr fun e _ => h e.2)

theorem fits_member? (h : ∀ a, (toJson a).Fits p n) (name : String) (a : Option α) :
    ∀ m ∈ member? name toJson a, m.2.Fits p n := by
  cases a with
  | none => exact nofun
  | some a => exact List.forall_mem_singleton.mpr (h a)

theorem fits_word (w : UInt32) : (word w).Fits p n := by
  have hw : w.toNat < UInt32.size := w.toNat_lt
  have hsize : UInt32.size ≤ UInt64.size := by decide
  exact .int (by omega) (by omega)

end Json

open Json

theorem PropertySpec.fits_toJson (s : PropertySpec) : s.toJson.Fits p (n + 1) :=
  .object (by simp [Fits.string, Fits.bool])

theorem Contract.fits_toJson (c : Contract) : c.toJson.Fits p (n + 2) :=
  fits_map PropertySpec.fits_toJson c

theorem Position.fits_toJson (x : Position) : x.toJson.Fits p (n + 1) :=
  .object (by simp [Fits.string])

theorem Node.fits_toJson (x : Node) : x.toJson.Fits p (n + 3) := by
  have hposition : x.position.toJson.Fits p (n + 2) := x.position.fits_toJson
  have hproperties : (Json.map .string x.properties).Fits p (n + 2) :=
    fits_map (fun _ => .string) x.properties
  have hcontract : (Json.optional Contract.toJson x.contract).Fits p (n + 2) :=
    fits_optional Contract.fits_toJson x.contract
  exact .object (by simp [Fits.string, Role.toJson, hposition, hproperties, hcontract])

theorem Edge.fits_toJson (e : Edge) : e.toJson.Fits p (n + 1) :=
  .object (by simp [Fits.string])

theorem CanvasCopy.fits_toJson (c : CanvasCopy) : c.toJson.Fits p (n + 5) := by
  have hnodes : (Json.map Node.toJson c.nodes).Fits p (n + 4) := fits_map Node.fits_toJson c.nodes
  have hedges : (Edges.toJson c.edges).Fits p (n + 4) := fits_list Edge.fits_toJson c.edges
  exact .object (by simp [hnodes, hedges])

theorem Stage.fits_toJson (s : Stage) : s.toJson.Fits p (n + 3) := by
  have hproperties : (Json.map .string s.properties).Fits p (n + 2) :=
    fits_map (fun _ => .string) s.properties
  refine .object (List.forall_mem_append.mpr ⟨List.forall_mem_append.mpr ⟨?_, ?_⟩, ?_⟩)
  · exact fits_member? (fun _ => .string) _ _
  · simp [Fits.string, hproperties]
  · exact fits_member? Contract.fits_toJson _ _

theorem SubmissionBody.fits_toJson (b : SubmissionBody) : b.toJson.Fits p (n + 5) := by
  have hstage (s : Option Stage) : (Json.optional Stage.toJson s).Fits p (n + 4) :=
    fits_optional Stage.fits_toJson s
  have htransforms : (Json.list Stage.toJson b.transforms).Fits p (n + 4) :=
    fits_list Stage.fits_toJson b.transforms
  refine .object (List.forall_mem_append.mpr ⟨List.forall_mem_append.mpr ⟨?_, ?_⟩, ?_⟩)
  · simp [hstage, htransforms]
  · exact fits_member? (fun _ => .string) _ _
  · exact fits_member? fits_word _ _

theorem Submission.fits_toJson (s : Submission) : s.toJson.Fits p (n + 6) := by
  have htemplate : (Json.optional TemplateKind.toJson s.template).Fits p (n + 5) :=
    fits_optional (fun _ => .string) _
  have hconfig : s.config.toJson.Fits p (n + 5) := s.config.fits_toJson
  exact .object (by simp [Submission.members, Fits.string, htemplate, hconfig])

theorem Outline.fits_toJson (o : Outline) : o.toJson.Fits p (n + 5) := by
  have htemplate : (Json.optional TemplateKind.toJson o.template).Fits p (n + 4) :=
    fits_optional (fun _ => .string) _
  have hstage (s : Option Stage) : (Json.optional Stage.toJson s).Fits p (n + 4) :=
    fits_optional Stage.fits_toJson s
  have htransforms : (Json.list Stage.toJson o.transforms).Fits p (n + 4) :=
    fits_list Stage.fits_toJson o.transforms
  exact .object (by simp [Fits.string, htemplate, hstage, htransforms])

/-- **A draft is six levels deep at most,** and holds no floating-point number. -/
theorem Draft.fits_toJson (d : Draft) : d.toJson.Fits p (n + 6) := by
  refine .object (List.forall_mem_append.mpr ⟨?_, fits_member? CanvasCopy.fits_toJson _ _⟩)
  have htemplate : (Json.optional TemplateKind.toJson d.submission.template).Fits p (n + 5) :=
    fits_optional (fun _ => .string) _
  have hconfig : d.submission.config.toJson.Fits p (n + 5) := d.submission.config.fits_toJson
  simp [Submission.members, Fits.string, htemplate, hconfig]

end PipelineCanvas
