import PipelineCanvas.Proofs.Wire.Lengths
import PipelineCanvas.Proofs.Wire.Showing
import PipelineCanvas.Wire.Pipeline

/-!
# What is written is read back

Every record of a pipeline is decoded from its canonical form as it was, whatever it
holds: a contract that is pending and one without properties are told apart, edges keep
their order and their repetitions, and coordinates pass through their lengths. Each
record has one proof for all sources that show a JSON value; a draft needs two of them,
since it reads the copy of its canvas from the value and its submission from members
that were set aside.

* `Node.decode_toJson`, `Edges.decode_toJson` – the canvas;
* `Stage.decode_toJson`, `Submission.decode_toJson` – what is sent;
* **`Draft.decode_toJson`** – drafts.
-/

namespace PipelineCanvas

open Decode

/-! ### Reading fields -/

namespace Decode.Field

variable {V α β : Type} (name : String) (item : V → Result β) (set : β → α → α)

@[simp] theorem named_mandatory (key : String) :
    (mandatory name item set).named key = (name == key) := Bool.or_false _

@[simp] theorem named_withDefault (key : String) :
    (withDefault name item set).named key = (name == key) := Bool.or_false _

@[simp] theorem name_mandatory : (mandatory name item set).name = name := rfl

@[simp] theorem name_withDefault : (withDefault name item set).name = name := rfl

@[simp] theorem required_mandatory : (mandatory name item set).required = true := rfl

@[simp] theorem required_withDefault : (withDefault name item set).required = false := rfl

@[simp] theorem read_mandatory (v : V) (a : α) :
    (mandatory name item set).read v a = item v >>= fun b => .ok (set b a) := rfl

@[simp] theorem read_withDefault (v : V) (a : α) :
    (withDefault name item set).read v a = item v >>= fun b => .ok (set b a) := rfl

variable (f : Field V Result α) (other : String)

@[simp] theorem named_orNamed (key : String) :
    (f.orNamed other).named key = (f.named key || other == key) := by
  by_cases h : other = key
  · simp [orNamed, named, h]
  · simp [orNamed, named, h, Ne.symm h]

@[simp] theorem name_orNamed : (f.orNamed other).name = f.name := rfl

@[simp] theorem required_orNamed : (f.orNamed other).required = f.required := rfl

@[simp] theorem read_orNamed : (f.orNamed other).read = f.read := rfl

end Decode.Field

variable {V : Type} [Source V Result] {doc : Json → V}

/-! ### Contracts -/

theorem PropertySpec.decode_toJson (hd : Shows doc) (s : PropertySpec) :
    PropertySpec.decode (doc s.toJson.canonical) = .ok s := by
  have hcanonical : s.toJson.canonical = .object
      [("description", .string s.description), ("name", .string s.name),
        ("required", .bool s.required), ("type", .string s.kind)] := rfl
  rw [hcanonical, decode, record, hd.record, ok_bind]
  simp [fields, readMembers, hd.text, hd.boolean]

theorem Contract.decode_toJson (hd : Shows doc) (c : Contract) :
    Contract.decode (doc c.toJson.canonical) = .ok c := by
  rw [toJson, Json.canonical_map]
  exact mapOf_map hd (PropertySpec.decode_toJson hd) c

/-- A contract without properties is told from one that is pending. -/
theorem Contract.decodePending_toJson (hd : Shows doc) (c : Option Contract) :
    Contract.decodePending (doc (Json.optional Contract.toJson c).canonical) = .ok c := by
  rw [Json.canonical_optional]
  refine optional_optional hd (Contract.decode_toJson hd) (fun c => ?_) c
  rw [toJson, Json.canonical_map]
  simp [Json.map]

/-! ### Nodes and edges -/

theorem Role.decode_toJson (hd : Shows doc) (r : Role) :
    Role.decode (doc r.toJson.canonical) = .ok r := by
  have hknown : r.name ∈ Role.names := List.mem_map_of_mem (Role.mem_all r)
  rw [toJson, Json.canonical, decode, hd.choice hknown, ok_bind, Role.ofName?_name]
  rfl

theorem TemplateKind.decode_toJson (hd : Shows doc) (t : TemplateKind) :
    TemplateKind.decode (doc t.toJson.canonical) = .ok t := by
  have hknown : t.name ∈ TemplateKind.names := by cases t <;> decide
  rw [toJson, Json.canonical, decode, hd.choice hknown, ok_bind, TemplateKind.ofName?_name]
  rfl

/-- **A position is read back from its lengths.** -/
theorem Position.decode_toJson (hd : Shows doc) (p : Position) :
    Position.decode (doc p.toJson.canonical) = .ok p := by
  have hcanonical : p.toJson.canonical = .object
      [("left", .string (lengthText p.left leftUnit)),
        ("top", .string (lengthText p.top topUnit))] := rfl
  have hleft : length? leftUnit (lengthText p.left leftUnit) = some p.left :=
    length?_lengthText _ (by simp [leftUnit, Text.isBlankChar])
  have htop : length? topUnit (lengthText p.top topUnit) = some p.top :=
    length?_lengthText _ (by simp [topUnit, Text.isBlankChar])
  rw [hcanonical, decode, hd.untyped, ok_bind]
  simp [Json.aside, Json.asideMembers, ofUntyped, pair?, given?, coordinate, hleft, htop,
    ofExcept]

/-- **A node is read back as it was.** -/
theorem Node.decode_toJson (hd : Shows doc) (n : Node) :
    Node.decode (doc n.toJson.canonical) = .ok n := by
  have hcanonical : n.toJson.canonical = .object
      [("_backendProperties", (Json.optional Contract.toJson n.contract).canonical),
        ("description", .string n.description), ("icon", .string n.icon),
        ("id", .string n.id), ("name", .string n.name),
        ("outputSchema", .string n.outputSchema),
        ("properties", (Json.map .string n.properties).canonical),
        ("style", n.position.toJson.canonical), ("type", n.role.toJson.canonical)] := rfl
  have hproperties := mapOf_map hd hd.text n.properties
  rw [hcanonical, Json.canonical_map, decode, record, hd.record, ok_bind]
  simp [fields, readMembers, hd.text, Json.canonical, hproperties,
    Contract.decodePending_toJson hd, Role.decode_toJson hd, Position.decode_toJson hd]

theorem Edge.decode_toJson (hd : Shows doc) (e : Edge) :
    Edge.decode (doc e.toJson.canonical) = .ok e := by
  have hcanonical : e.toJson.canonical = .object
      [("source", .string e.source), ("target", .string e.target)] := rfl
  rw [hcanonical, decode, record, hd.record, ok_bind]
  simp [fields, readMembers, hd.text]

theorem Edges.decode_toJson (hd : Shows doc) (es : Edges) :
    Edges.decode (doc es.toJson.canonical) = .ok es := by
  rw [toJson, Json.canonical_list]
  exact listOf_list hd (Edge.decode_toJson hd) es

theorem CanvasCopy.decode_toJson (hd : Shows doc) (c : CanvasCopy) :
    CanvasCopy.decode (doc c.toJson.canonical) = .ok c := by
  have hcanonical : c.toJson.canonical = .object
      [("connections", (Edges.toJson c.edges).canonical),
        ("nodes", (Json.map Node.toJson c.nodes).canonical)] := rfl
  have hnodes := mapOf_map hd (Node.decode_toJson hd) c.nodes
  rw [hcanonical, Json.canonical_map, decode, record, hd.record, ok_bind]
  simp [fields, readMembers, hnodes, Edges.decode_toJson hd]

/-! ### Submissions -/

theorem Stage.decode_toJson (hd : Shows doc) (s : Stage) :
    Stage.decode (doc s.toJson.canonical) = .ok s := by
  have hproperties := mapOf_map hd hd.text s.properties
  have hid := fun i => optional_optional hd hd.text (fun _ => by simp) (some i)
  have hcontract := fun c => Contract.decodePending_toJson hd (some c)
  obtain ⟨id, name, properties, contract⟩ := s
  have hcanonical : (Stage.mk id name properties contract).toJson.canonical = .object
      (Json.member? "_backendProperties" (·.toJson.canonical) contract
        ++ Json.member? "id" .string id
        ++ [("name", .string name), ("properties", (Json.map .string properties).canonical)]) := by
    cases id <;> cases contract <;> rfl
  simp only [Json.optional] at hid hcontract
  rw [hcanonical, Json.canonical_map, decode, record, hd.record, ok_bind]
  -- what only editing needs is left out where it is missing
  cases id <;> cases contract <;>
    simp [Json.member?, fields, Stage.blank, readMembers, hd.text, Json.canonical, hproperties,
      hid, hcontract]

theorem SubmissionBody.decode_toJson (hd : Shows doc) (b : SubmissionBody) :
    SubmissionBody.decode (doc b.toJson.canonical) = .ok b := by
  have hobject : ∀ s : Stage, s.toJson.canonical ≠ .null := fun s => by
    simp [Stage.toJson, Json.canonical]
  have hstage := optional_optional hd (Stage.decode_toJson hd) hobject
  have hstages := listOf_list hd (Stage.decode_toJson hd) b.transforms
  have hschedule := fun i => optional_optional hd hd.text (fun _ => by simp) (some i)
  have hinstances := fun i => optional_optional hd hd.word (fun _ => by simp [Json.word]) (some i)
  obtain ⟨source, sink, transforms, schedule, instances⟩ := b
  have hcanonical : (SubmissionBody.mk source sink transforms schedule instances).toJson.canonical =
      .object (Json.member? "instances" .word instances ++ Json.member? "schedule" .string schedule
        ++ [("sink", (Json.optional Stage.toJson sink).canonical),
          ("source", (Json.optional Stage.toJson source).canonical),
          ("transforms", (Json.list Stage.toJson transforms).canonical)]) := by
    cases schedule <;> cases instances <;> rfl
  simp only [Json.optional] at hschedule hinstances
  rw [hcanonical, Json.canonical_optional, Json.canonical_optional, Json.canonical_list, decode,
    record, hd.record, ok_bind]
  -- a run setting is left out where it is missing
  cases schedule <;> cases instances <;>
    simp [Json.member?, fields, SubmissionBody.blank, readMembers, hstage, hstages, hschedule,
      hinstances]

namespace Submission

/-- The members of a submission in key order. -/
def sortedMembers (s : Submission) : List (String × Json) :=
  [("config", s.config.toJson.canonical), ("description", .string s.description),
    ("template", (Json.optional TemplateKind.toJson s.template).canonical)]

theorem canonical_toJson (s : Submission) : s.toJson.canonical = .object s.sortedMembers := rfl

theorem decode_toJson (hd : Shows doc) (s : Submission) :
    Submission.decode (doc s.toJson.canonical) = .ok s := by
  have htemplate := optional_optional hd (TemplateKind.decode_toJson hd)
    (fun t => by simp [TemplateKind.toJson, Json.canonical]) s.template
  rw [← Json.canonical_optional] at htemplate
  rw [canonical_toJson, decode, record, hd.record, ok_bind]
  simp [sortedMembers, fields, readMembers, hd.text, htemplate, SubmissionBody.decode_toJson hd]

end Submission

/-! ### Drafts -/

namespace Draft

/-- The copy of the canvas comes last among the members of a draft. -/
theorem canonical_toJson (d : Draft) :
    d.toJson.canonical = .object
      (d.submission.sortedMembers ++ Json.member? canvasMember (·.toJson.canonical) d.canvas) := by
  obtain ⟨submission, canvas⟩ := d
  cases canvas <;> rfl

/-- Members other than the copy of the canvas are set aside. -/
theorem decodeMembers_of_ne {members : List (String × Json)}
    (h : ∀ m ∈ members, m.1 ≠ canvasMember) {rest : List (String × Json)}
    {copy canvas : Option (Option CanvasCopy)} {others : List (Untyped × Untyped)}
    (hrest : (decodeMembers rest copy : Result _) = .ok (canvas, others)) :
    (decodeMembers (members ++ rest) copy : Result _) =
      .ok (canvas, Json.asideMembers members ++ others) := by
  induction members with
  | nil => exact hrest
  | cons m members ih =>
    have huntyped : (Source.untyped m.2 : Result Untyped) = .ok m.2.aside := rfl
    rw [List.cons_append, decodeMembers, if_neg (h m (List.mem_cons_self ..)), huntyped,
      ok_bind, ih fun m' hm' => h m' (List.mem_cons_of_mem _ hm')]
    rfl

/-- **A draft is read back as it was,** its submission and the copy of the canvas, if it
has one. -/
theorem decode_toJson (d : Draft) : (Draft.decode d.toJson.canonical : Result Draft) = .ok d := by
  have hothers : ∀ m ∈ d.submission.sortedMembers, m.1 ≠ canvasMember := by
    simp [Submission.sortedMembers, canvasMember]
  have hsubmission :
      Submission.decode (Untyped.map (Json.asideMembers d.submission.sortedMembers)) =
        .ok d.submission := by
    have := Submission.decode_toJson shows_aside d.submission
    rwa [Submission.canonical_toJson, Json.aside] at this
  have hcopy : (decodeMembers (Json.member? canvasMember (·.toJson.canonical) d.canvas) none :
      Result _) = .ok (d.canvas.map some, []) := by
    cases hc : d.canvas with
    | none => rfl
    | some copy =>
      have hread : (optional CanvasCopy.decode copy.toJson.canonical : Result _) =
          .ok (some copy) :=
        optional_optional shows_id (CanvasCopy.decode_toJson shows_id)
          (fun c => by simp [CanvasCopy.toJson, Json.canonical]) (some copy)
      simp [Json.member?, decodeMembers, hread]
  have hmembers := decodeMembers_of_ne hothers hcopy
  rw [List.append_nil] at hmembers
  have hcanvas : (d.canvas.map some).getD none = d.canvas := by cases d.canvas <;> rfl
  have hstream : (Source.members (.record "PipelineDraft") d.toJson.canonical : Result _) =
      .ok ⟨d.submission.sortedMembers
        ++ Json.member? canvasMember (·.toJson.canonical) d.canvas, none⟩ := by
    rw [canonical_toJson]
    rfl
  rw [decode, hstream, ok_bind]
  simp only [hmembers, hsubmission, hcanvas, ok_bind, finish_none, ofExcept, pure_eq_ok]

end Draft

end PipelineCanvas
