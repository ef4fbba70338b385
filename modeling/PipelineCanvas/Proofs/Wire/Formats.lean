import PipelineCanvas.Proofs.Wire.RoundTrip

/-!
# The formats of documents

What is written of a canvas, of its metadata, of a pipeline and of a draft is read back, type
by type (`ReadsBack`). Two formats have something in common: a draft is written as its
submission with one member more, and a reader of submissions passes over a member that it does
not know (`Decode.record_append_of_unnamed`). So a draft can be read as the submission in it,
and a submission as a draft without a canvas. And the keys of an edge may be spelled in four
ways, which all mean the same edge (`Edge.decode_spelled`).

* `Template.decode_toJson`, `Metadata.decode_toJson`, `Outline.decode_toJson` – the records
  that a draft does not consist of;
* `Submission.decode_draft`, `Draft.decode_submission` – one format read as the other;
* **`formats_readBack`** – all formats together.
-/

namespace PipelineCanvas

open Decode

variable {V α : Type} [Source V Result] {doc : Json → V}

/-! ### Metadata and outlines -/

theorem Template.decodeSchedule_object (hd : Shows doc) (cron : String) :
    decodeSchedule (doc (.object [("cron", .string cron)])) = .ok cron := by
  rw [decodeSchedule, record, hd.record, ok_bind]
  simp [readMembers, hd.text]

theorem Template.decode_toJson (hd : Shows doc) (t : Template) :
    Template.decode (doc t.toJson.canonical) = .ok t := by
  have hcanonical : t.toJson.canonical = .object
      [("instance", .word t.instances), ("schedule", .object [("cron", .string t.cron)]),
        ("type", (Json.optional TemplateKind.toJson t.kind).canonical)] := rfl
  have hkind := optional_optional hd (TemplateKind.decode_toJson hd)
    (fun k => by simp [TemplateKind.toJson, Json.canonical]) t.kind
  rw [← Json.canonical_optional] at hkind
  rw [hcanonical, decode, record, hd.record, ok_bind]
  simp [fields, readMembers, hd.word, decodeSchedule_object hd, hkind]

/-- **Metadata is read back as it was,** with the run setting of either template. -/
theorem Metadata.decode_toJson (hd : Shows doc) (m : Metadata) :
    Metadata.decode (doc m.toJson.canonical) = .ok m := by
  have hcanonical : m.toJson.canonical = .object
      [("description", .string m.description), ("name", .string m.name),
        ("template", m.template.toJson.canonical)] := rfl
  rw [hcanonical, decode, record, hd.record, ok_bind]
  simp [fields, readMembers, hd.text, Template.decode_toJson hd]

/-- **An outline is read back as it was,** with ids and contracts. -/
theorem Outline.decode_toJson (hd : Shows doc) (o : Outline) :
    Outline.decode (doc o.toJson.canonical) = .ok o := by
  have hcanonical : o.toJson.canonical = .object
      [("description", .string o.description), ("name", .string o.name),
        ("sink", (Json.optional Stage.toJson o.sink).canonical),
        ("source", (Json.optional Stage.toJson o.source).canonical),
        ("template", (Json.optional TemplateKind.toJson o.template).canonical),
        ("transforms", (Json.list Stage.toJson o.transforms).canonical)] := rfl
  have hstage := optional_optional hd (Stage.decode_toJson hd)
    (fun s => by simp [Stage.toJson, Json.canonical])
  have hstages := listOf_list hd (Stage.decode_toJson hd) o.transforms
  have htemplate := optional_optional hd (TemplateKind.decode_toJson hd)
    (fun k => by simp [TemplateKind.toJson, Json.canonical]) o.template
  rw [hcanonical, Json.canonical_optional, Json.canonical_optional, Json.canonical_optional,
    Json.canonical_list, decode, record, hd.record, ok_bind]
  simp [fields, readMembers, hd.text, hstage, hstages, htemplate]

/-! ### Members that are passed over -/

namespace Decode

variable {fields : List (Field Json Result α)} {rest : List (String × Json)}

theorem readMembers_of_unnamed (h : ∀ m ∈ rest, ∀ f ∈ fields, f.named m.1 = false)
    (given : List String) (a : α) : readMembers fields rest given a = .ok (given, a) := by
  induction rest with
  | nil => rfl
  | cons m rest ih =>
    obtain ⟨key, value⟩ := m
    have hfind : fields.find? (·.named key) = none :=
      List.find?_eq_none.mpr fun f hf => by simp [h (key, value) (List.mem_cons_self ..) f hf]
    rw [readMembers, hfind]
    exact ih fun m' hm' => h m' (List.mem_cons_of_mem _ hm')

/-- Members that name no field change nothing when they come last. -/
theorem readMembers_append_of_unnamed (h : ∀ m ∈ rest, ∀ f ∈ fields, f.named m.1 = false)
    (members : List (String × Json)) (given : List String) (a : α) :
    readMembers fields (members ++ rest) given a = readMembers fields members given a := by
  induction members generalizing given a with
  | nil => exact readMembers_of_unnamed h given a
  | cons m members ih =>
    obtain ⟨key, value⟩ := m
    rw [List.cons_append, readMembers, readMembers]
    simp only [ih]

/-- **A record is read alike whether or not members follow that name none of its fields.** -/
theorem record_append_of_unnamed (h : ∀ m ∈ rest, ∀ f ∈ fields, f.named m.1 = false)
    (name : String) (blank : α) (members : List (String × Json)) :
    record name fields blank (Json.object (members ++ rest)) =
      record name fields blank (Json.object members) := by
  have hshown (members : List (String × Json)) : (Source.record name (Json.object members) :
      Result (RecordForm Json)) = .ok (.named ⟨members, none⟩) := rfl
  rw [record, record, hshown, hshown, ok_bind, ok_bind]
  dsimp only
  rw [readMembers_append_of_unnamed h]

end Decode

/-! ### Drafts and submissions -/

/-- **A draft is read as the submission in it** by a reader of submissions. -/
theorem Submission.decode_draft (d : Draft) :
    (Submission.decode d.toJson.canonical : Result Submission) = .ok d.submission := by
  have hunnamed : ∀ m ∈ Json.member? Draft.canvasMember (·.toJson.canonical) d.canvas,
      ∀ f ∈ (fields : List (Field Json Result Submission)), f.named m.1 = false := by
    cases d.canvas with
    | none => simp [Json.member?]
    | some copy => simp [Json.member?, fields, Draft.canvasMember]
  rw [Draft.canonical_toJson, decode, record_append_of_unnamed hunnamed, ← canonical_toJson]
  exact decode_toJson shows_id d.submission

/-- **A submission is read as a draft without a canvas** by a reader of drafts. -/
theorem Draft.decode_submission (s : Submission) :
    (Draft.decode s.toJson.canonical : Result Draft) = .ok ⟨s, none⟩ := by
  have hcanonical : s.toJson.canonical = (Draft.mk s none).toJson.canonical := rfl
  rw [hcanonical, decode_toJson]

/-! ### The keys of edges -/

/-- The spellings of the key that an end of an edge stands under. -/
inductive EndKey where
  | bare
  /-- The key says that the end is an id. -/
  | asId
deriving DecidableEq

namespace EndKey

/-- The key of the end that an edge starts from. -/
def source : EndKey → String
  | .bare => "source"
  | .asId => "sourceId"

/-- The key of the end that an edge leads to. -/
def target : EndKey → String
  | .bare => "target"
  | .asId => "targetId"

end EndKey

/-- An edge, its keys spelled in one of four ways. -/
def Edge.spelled (e : Edge) (source target : EndKey) : Json :=
  .object [(source.source, .string e.source), (target.target, .string e.target)]

/-- **An edge is the same under all spellings of its keys.** -/
theorem Edge.decode_spelled (hd : Shows doc) (e : Edge) (source target : EndKey) :
    Edge.decode (doc (e.spelled source target).canonical) = .ok e := by
  have hcanonical : (e.spelled source target).canonical = .object
      [(source.source, .string e.source), (target.target, .string e.target)] := by
    cases source <;> cases target <;> rfl
  rw [hcanonical, decode, record, hd.record, ok_bind]
  cases source <;> cases target <;>
    simp [EndKey.source, EndKey.target, fields, readMembers, hd.text]

/-! ### All formats -/

/-- The values of a type are read back from the JSON values that they are written as. -/
def ReadsBack (toJson : α → Json) (decode : Json → Result α) : Prop :=
  ∀ a, decode (toJson a).canonical = .ok a

/-- **What is written is read back,** in every format: nodes, edges one by one and in a list,
metadata, the plugins of an outline and the outline, submissions and drafts. A draft is also
read as its submission, a submission as a draft without a canvas, and an edge under each
spelling of its keys. -/
theorem formats_readBack :
    (ReadsBack Node.toJson Node.decode ∧ ReadsBack Edge.toJson Edge.decode ∧
        ReadsBack Edges.toJson Edges.decode ∧ ReadsBack Metadata.toJson Metadata.decode ∧
        ReadsBack Stage.toJson Stage.decode ∧ ReadsBack Outline.toJson Outline.decode ∧
        ReadsBack Submission.toJson Submission.decode ∧ ReadsBack Draft.toJson Draft.decode) ∧
      (∀ d : Draft, (Submission.decode d.toJson.canonical : Result Submission) =
        .ok d.submission) ∧
      (∀ s : Submission, (Draft.decode s.toJson.canonical : Result Draft) = .ok ⟨s, none⟩) ∧
      ∀ (e : Edge) (source target : EndKey),
        (Edge.decode (e.spelled source target).canonical : Result Edge) = .ok e := by
  refine ⟨⟨?_, ?_, ?_, ?_, ?_, ?_, ?_, ?_⟩, ?_, ?_, ?_⟩
  · exact Node.decode_toJson shows_id
  · exact fun e => Edge.decode_toJson shows_id e
  · exact Edges.decode_toJson shows_id
  · exact Metadata.decode_toJson shows_id
  · exact Stage.decode_toJson shows_id
  · exact Outline.decode_toJson shows_id
  · exact Submission.decode_toJson shows_id
  · exact Draft.decode_toJson
  · exact Submission.decode_draft
  · exact Draft.decode_submission
  · exact Edge.decode_spelled shows_id

end PipelineCanvas
