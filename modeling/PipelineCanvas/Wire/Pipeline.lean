import PipelineCanvas.Decode.FromJson
import PipelineCanvas.Pipeline.Submission
import PipelineCanvas.Wire.Canvas

/-!
# Pipelines in documents

How outlines, submissions and drafts are written as JSON and read from documents. A
draft is written as its submission with one member more, and read accordingly: the
members other than the copy of the canvas are set aside, and the submission is read
from those.
-/

namespace PipelineCanvas

open Decode

variable {V : Type} {M : Type → Type} [Monad M] [MonadExceptOf Failure M] [Source V M]

namespace Stage

/-- The fields of a plugin of an outline in documents. -/
def fields : List (Field V M Stage) :=
  [ .withDefault "id" (optional Source.text) fun x s => { s with id := x },
    .mandatory "name" Source.text fun x s => { s with name := x },
    .withDefault "properties" (mapOf Source.text) fun x s => { s with properties := x },
    .withDefault "_backendProperties" Contract.decodePending fun x s =>
      { s with contract := x } ]

/-- Reads a plugin of an outline. -/
def decode (v : V) : M Stage := record "PluginEntry" fields blank v

/-- Writes a plugin of an outline; what only editing needs is left out where it is
missing. -/
def toJson (s : Stage) : Json :=
  .object
    (Json.member? "id" .string s.id
      ++ [("name", .string s.name), ("properties", Json.map .string s.properties)]
      ++ Json.member? "_backendProperties" Contract.toJson s.contract)

end Stage

namespace Outline

/-- The fields of an outline in documents. -/
def fields : List (Field V M Outline) :=
  [ .withDefault "name" Source.text fun x o => { o with name := x },
    .withDefault "description" Source.text fun x o => { o with description := x },
    .withDefault "template" (optional TemplateKind.decode) fun x o => { o with template := x },
    .withDefault "source" (optional Stage.decode) fun x o => { o with source := x },
    .withDefault "sink" (optional Stage.decode) fun x o => { o with sink := x },
    .withDefault "transforms" (listOf Stage.decode) fun x o => { o with transforms := x } ]

/-- Reads an outline. -/
def decode (v : V) : M Outline := record "FlattenedConfig" fields blank v

/-- Writes an outline. -/
def toJson (o : Outline) : Json :=
  .object
    [ ("name", .string o.name), ("description", .string o.description),
      ("template", Json.optional TemplateKind.toJson o.template),
      ("source", Json.optional Stage.toJson o.source),
      ("sink", Json.optional Stage.toJson o.sink),
      ("transforms", Json.list Stage.toJson o.transforms) ]

end Outline

namespace SubmissionBody

/-- The fields of a submission's body in documents. -/
def fields : List (Field V M SubmissionBody) :=
  [ .withDefault "source" (optional Stage.decode) fun x b => { b with source := x },
    .withDefault "sink" (optional Stage.decode) fun x b => { b with sink := x },
    .withDefault "transforms" (listOf Stage.decode) fun x b => { b with transforms := x },
    .withDefault "schedule" (optional Source.text) fun x b => { b with schedule := x },
    .withDefault "instances" (optional Source.word) fun x b => { b with instances := x } ]

/-- Reads a submission's body. -/
def decode (v : V) : M SubmissionBody := record "BackendConfig" fields blank v

/-- Writes a submission's body; a run setting is left out where it is missing. -/
def toJson (b : SubmissionBody) : Json :=
  .object
    ([ ("source", Json.optional Stage.toJson b.source),
        ("sink", Json.optional Stage.toJson b.sink),
        ("transforms", Json.list Stage.toJson b.transforms) ]
      ++ Json.member? "schedule" .string b.schedule
      ++ Json.member? "instances" .word b.instances)

end SubmissionBody

namespace Submission

/-- The fields of a submission in documents. -/
def fields : List (Field V M Submission) :=
  [ .withDefault "template" (optional TemplateKind.decode) fun x s => { s with template := x },
    .withDefault "description" Source.text fun x s => { s with description := x },
    .mandatory "config" SubmissionBody.decode fun x s => { s with config := x } ]

/-- Reads a submission. -/
def decode (v : V) : M Submission := record "BackendSubmission" fields blank v

/-- The members of a written submission. -/
def members (s : Submission) : List (String × Json) :=
  [ ("template", Json.optional TemplateKind.toJson s.template),
    ("description", .string s.description), ("config", s.config.toJson) ]

/-- Writes a submission. -/
def toJson (s : Submission) : Json := .object s.members

end Submission

namespace CanvasCopy

/-- The fields of a copy of a canvas in documents. -/
def fields : List (Field V M CanvasCopy) :=
  [ .withDefault "nodes" (mapOf Node.decode) fun x c => { c with nodes := x },
    .withDefault "connections" Edges.decode fun x c => { c with edges := x } ]

/-- Reads a copy of a canvas. -/
def decode (v : V) : M CanvasCopy := record "DraftUi" fields blank v

/-- Writes a copy of a canvas. -/
def toJson (c : CanvasCopy) : Json :=
  .object [("nodes", Json.map Node.toJson c.nodes), ("connections", Edges.toJson c.edges)]

end CanvasCopy

namespace Draft

/-- The member of a draft that holds the copy of the canvas. -/
def canvasMember : String := "ui"

/-- Reads the members of a draft in order: the copy of the canvas, and the others set
aside. -/
def decodeMembers : List (String × V) → Option (Option CanvasCopy) →
    M (Option (Option CanvasCopy) × List (Untyped × Untyped))
  | [], canvas => pure (canvas, [])
  | (key, v) :: rest, canvas =>
    if key = canvasMember then
      if canvas.isSome then reject (.duplicateField canvasMember)
      else do
        let copy ← optional CanvasCopy.decode v
        decodeMembers rest (some copy)
    else do
      let u ← Source.untyped v
      let (canvas, others) ← decodeMembers rest canvas
      return (canvas, (.text key, u) :: others)

/-- Reads a draft. -/
def decode (v : V) : M Draft := do
  let stream ← Source.members (.record "PipelineDraft") v
  let (canvas, others) ← decodeMembers stream.parts none
  finish stream.stop
  let submission ← ofExcept (Submission.decode (Untyped.map others))
  return ⟨submission, canvas.getD none⟩

/-- Writes a draft. -/
def toJson (d : Draft) : Json :=
  .object (d.submission.members ++ Json.member? canvasMember CanvasCopy.toJson d.canvas)

end Draft

end PipelineCanvas
