import PipelineCanvas.Canvas.Edge
import PipelineCanvas.Canvas.NodeTable
import PipelineCanvas.Decode.FromJson
import PipelineCanvas.Json.Printer

/-!
# Record schemas

Records flow along the edges, and a record schema, a JSON text, names their fields.
A node tells the schema of what it puts out: well-known log formats imply one
(`RecordSchema.preset?`), other nodes carry it as text. What flows *into* a node is
what the first edge into it brings (`RecordSchema.flowingInto`).

A text that is no record schema is no error: it just has no fields to show
(`RecordSchema.fields?`).
-/

namespace PipelineCanvas

open Decode

/-- A field of a record. -/
structure RecordField where
  name : String
  /-- The type as it was written: a name, a list of alternatives or a nested record. -/
  kind : Json
deriving DecidableEq

variable {V : Type} {M : Type → Type} [Monad M] [MonadExceptOf Failure M] [Source V M]

namespace RecordField

/-- Reads a field. -/
def decode (v : V) : M RecordField :=
  record "RecordField"
    [ .mandatory "name" Source.text fun x f => { f with name := x },
      .withDefault "type" Source.untyped fun x f => { f with kind := x.json } ]
    ⟨"", .null⟩ v

/-- Writes a field. -/
def toJson (f : RecordField) : Json :=
  .object [("name", .string f.name), ("type", f.kind)]

/-- A field that may be null. -/
def nullable (kind name : String) : RecordField :=
  ⟨name, .array [.string kind, .string "null"]⟩

end RecordField

namespace RecordSchema

/-- Reads the fields of a record, if it lists them. -/
def decode (v : V) : M (Option (List RecordField)) :=
  record "RecordSchema"
    [.withDefault "fields" (optional (listOf RecordField.decode)) fun x _ => x] none v

/-- The fields that a text names; none if it is no record schema, or lists none. -/
def fields? (text : String) : Option (List RecordField) :=
  match Decode.ofText decode text with
  | .ok fields => fields
  | .error _ => none

/-! ### Presets -/

/-- The text of a preset. -/
def presetText (fields : List RecordField) : String :=
  (Json.object
    [ ("type", .string "record"), ("name", .string "etlSchemaBody"),
      ("fields", .array (fields.map RecordField.toJson)) ]).compact

/-- The fields of a line that a web server logs. -/
def accessLogFields : List RecordField :=
  ["remote_host", "remote_login", "auth_user", "date", "request"].map (.nullable "string")
    ++ ["status", "content_length"].map (.nullable "int")
    ++ ["referrer", "user_agent"].map (.nullable "string")

/-- The fields of a system log line. -/
def systemLogFields : List RecordField :=
  ["timestamp", "logsource", "program", "message", "pid"].map (.nullable "string")

/-- The schema that a well-known log format implies. -/
def preset? (format : String) : Option String :=
  if format = "clf" then some (presetText accessLogFields)
  else if format = "syslog" then some (presetText systemLogFields)
  else none

/-! ### Along the edges -/

/-- The property that names a log format. -/
def formatProperty : String := "format"

/-- The schema of what a node puts out: the preset of its format, or else its output
schema. -/
def putOutBy (n : Node) : String :=
  ((n.properties.get? formatProperty).bind preset?).getD n.outputSchema

/-- The schema of what flows into a node: what the first edge into it brings. A node
without such an edge tells it in its property `schema`. Empty if nothing is known. -/
def flowingInto (nodes : NodeTable) (edges : Edges) (id : String) : String :=
  match (edges.incoming id).head? with
  | some e => ((nodes.get? e.source).map putOutBy).getD ""
  | none => ((nodes.get? id).bind (·.properties.get? Node.schemaProperty)).getD ""

end RecordSchema

end PipelineCanvas
