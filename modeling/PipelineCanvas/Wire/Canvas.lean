import PipelineCanvas.Canvas.Edge
import PipelineCanvas.Canvas.NodeTable
import PipelineCanvas.Decode.Record
import PipelineCanvas.Json.Printer
import PipelineCanvas.Pipeline.Metadata

/-!
# The canvas in documents

How nodes, edges and metadata are written as JSON, and how they are read from any
document. `toJson` lists the members of a record in the order of its declaration.
-/

namespace PipelineCanvas

open Decode

variable {V : Type} {M : Type → Type} [Monad M] [MonadExceptOf Failure M] [Source V M]

/-! ### Names and words -/

/-- Reads a role by its name. -/
def Role.decode (v : V) : M Role := do
  let name ← Source.choice Role.names v
  return (Role.ofName? name).getD .source

/-- Writes a role by its name. -/
def Role.toJson (r : Role) : Json := .string r.name

/-- Reads a template by its name. -/
def TemplateKind.decode (v : V) : M TemplateKind := do
  let name ← Source.choice TemplateKind.names v
  return (TemplateKind.ofName? name).getD .batch

/-- Writes a template by its name. -/
def TemplateKind.toJson (t : TemplateKind) : Json := .string t.name

namespace Json

/-- A value that may be missing, `null` if it is. -/
def optional {α : Type} (toJson : α → Json) : Option α → Json
  | none => .null
  | some a => toJson a

/-- A list of values. -/
def list {α : Type} (toJson : α → Json) (as : List α) : Json := .array (as.map toJson)

/-- A map of values. -/
def map {α : Type} (toJson : α → Json) (m : OrderedMap α) : Json :=
  .object (m.entries.map fun e => (e.1, toJson e.2))

/-- A member that is left out where its value is missing. -/
def member? {α : Type} (name : String) (toJson : α → Json) : Option α → List (String × Json)
  | none => []
  | some a => [(name, toJson a)]

end Json

/-! ### Contracts -/

namespace PropertySpec

/-- The fields of a declaration in documents. -/
def fields : List (Field V M PropertySpec) :=
  [ .withDefault "name" Source.text fun x s => { s with name := x },
    .withDefault "type" Source.text fun x s => { s with kind := x },
    .withDefault "description" Source.text fun x s => { s with description := x },
    .withDefault "required" Source.boolean fun x s => { s with required := x } ]

/-- Reads a declaration. -/
def decode (v : V) : M PropertySpec := record "SchemaField" fields blank v

/-- Writes a declaration. -/
def toJson (s : PropertySpec) : Json :=
  .object [("name", .string s.name), ("type", .string s.kind),
    ("description", .string s.description), ("required", .bool s.required)]

end PropertySpec

namespace Contract

/-- Reads a contract. -/
def decode (v : V) : M Contract := mapOf PropertySpec.decode v

/-- Reads a contract that may be pending. -/
def decodePending (v : V) : M (Option Contract) := optional decode v

/-- Writes a contract. -/
def toJson (c : Contract) : Json := Json.map PropertySpec.toJson c

end Contract

/-! ### Positions -/

namespace Position

/-- A coordinate as it was given: a number, or a text. -/
inductive Given where
  | number (value : UInt32)
  | text (value : String)

/-- A coordinate that was set aside; none if it is neither. -/
def given? : Untyped → Option Given
  | .natural n => (Text.toWord? n).map .number
  | .negated 0 => some (.number 0)
  | .text s => some (.text s)
  | _ => none

/-- The two coordinates while they are looked for. -/
structure Pair where
  left : Option Given
  top : Option Given

/-- Looks for the coordinates among members. A key may also be the number of a
coordinate, without a minus; other keys are passed over. None if a coordinate is given
twice or is neither number nor text, or if a key is no key. -/
def pair? : List (Untyped × Untyped) → Pair → Option Pair
  | [], p => some p
  | (key, v) :: rest, p =>
    let isLeft := match key with
      | .text s => s == "left"
      | .natural n => n == 0
      | _ => false
    let isTop := match key with
      | .text s => s == "top"
      | .natural n => n == 1
      | _ => false
    let isKey := match key with
      | .text _ | .natural _ => true
      | _ => false
    if isLeft then
      if p.left.isSome then none
      else (given? v).bind fun g => pair? rest { p with left := some g }
    else if isTop then
      if p.top.isSome then none
      else (given? v).bind fun g => pair? rest { p with top := some g }
    else if isKey then pair? rest p
    else none

/-- Reads a coordinate. -/
def coordinate (unit : String) : Given → Result UInt32
  | .number w => .ok w
  | .text s =>
    match length? unit s with
    | some w => .ok w
    | none => reject (.notLength s unit)

/-- Reads a position: its two coordinates, or a blank text for a node that was not
placed. -/
def ofUntyped : Untyped → Result Position
  | .map members =>
    match pair? members ⟨none, none⟩ with
    | some ⟨some left, some top⟩ => do
      let left ← coordinate leftUnit left
      let top ← coordinate topUnit top
      return ⟨left, top⟩
    | _ => reject .noStyle
  | .text s => if Text.isBlank s then .ok origin else reject (.notStyle s)
  | _ => reject .noStyle

/-- Reads a position, which is set aside first. -/
def decode (v : V) : M Position := do ofExcept (ofUntyped (← Source.untyped v))

/-- Writes a position as two lengths. -/
def toJson (p : Position) : Json :=
  .object [("left", .string (lengthText p.left leftUnit)),
    ("top", .string (lengthText p.top topUnit))]

end Position

/-! ### Nodes -/

namespace Node

/-- The fields of a node in documents. -/
def fields : List (Field V M Node) :=
  [ .mandatory "id" Source.text fun x n => { n with id := x },
    .mandatory "name" Source.text fun x n => { n with name := x },
    .withDefault "icon" Source.text fun x n => { n with icon := x },
    .withDefault "style" Position.decode fun x n => { n with position := x },
    .withDefault "description" Source.text fun x n => { n with description := x },
    .withDefault "outputSchema" Source.text fun x n => { n with outputSchema := x },
    .withDefault "properties" (mapOf Source.text) fun x n => { n with properties := x },
    .withDefault "_backendProperties" Contract.decodePending fun x n => { n with contract := x },
    .mandatory "type" Role.decode fun x n => { n with role := x } ]

/-- Reads a node. -/
def decode (v : V) : M Node := record "NodeDescriptor" fields default v

/-- Writes a node. -/
def toJson (n : Node) : Json :=
  .object
    [ ("id", .string n.id), ("name", .string n.name), ("icon", .string n.icon),
      ("style", n.position.toJson), ("description", .string n.description),
      ("outputSchema", .string n.outputSchema), ("properties", Json.map .string n.properties),
      ("_backendProperties", Json.optional Contract.toJson n.contract),
      ("type", n.role.toJson) ]

end Node

/-! ### Edges -/

namespace Edge

/-- The fields of an edge in documents. -/
def fields : List (Field V M Edge) :=
  [ (Field.mandatory "source" Source.text fun x e => { e with source := x }).orNamed "sourceId",
    (Field.mandatory "target" Source.text fun x e => { e with target := x }).orNamed
      "targetId" ]

/-- Reads an edge. -/
def decode (v : V) : M Edge := record "Connection" fields ⟨"", ""⟩ v

/-- Writes an edge. -/
def toJson (e : Edge) : Json :=
  .object [("source", .string e.source), ("target", .string e.target)]

end Edge

namespace Edges

/-- Reads a list of edges. -/
def decode (v : V) : M Edges := listOf Edge.decode v

/-- Writes a list of edges. -/
def toJson (es : Edges) : Json := Json.list Edge.toJson es

end Edges

/-! ### Metadata -/

namespace Template

/-- Reads a schedule. -/
def decodeSchedule (v : V) : M String :=
  record "Schedule" [.mandatory "cron" Source.text fun x _ => x] "" v

/-- The fields of run settings in documents. -/
def fields : List (Field V M Template) :=
  [ .withDefault "type" (optional TemplateKind.decode) fun x t => { t with kind := x },
    .withDefault "instance" Source.word fun x t => { t with instances := x },
    .withDefault "schedule" decodeSchedule fun x t => { t with cron := x } ]

/-- Reads run settings. -/
def decode (v : V) : M Template := record "Template" fields (ofKind none) v

/-- Writes run settings. -/
def toJson (t : Template) : Json :=
  .object [("type", Json.optional TemplateKind.toJson t.kind), ("instance", .word t.instances),
    ("schedule", .object [("cron", .string t.cron)])]

end Template

namespace Metadata

/-- The fields of metadata in documents. -/
def fields : List (Field V M Metadata) :=
  [ .withDefault "name" Source.text fun x m => { m with name := x },
    .withDefault "description" Source.text fun x m => { m with description := x },
    .withDefault "template" Template.decode fun x m => { m with template := x } ]

/-- Reads metadata. -/
def decode (v : V) : M Metadata := record "PipelineMetadata" fields initial v

/-- Writes metadata. -/
def toJson (m : Metadata) : Json :=
  .object [("name", .string m.name), ("description", .string m.description),
    ("template", m.template.toJson)]

end Metadata

end PipelineCanvas
