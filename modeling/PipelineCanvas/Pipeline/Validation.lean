import PipelineCanvas.Pipeline.Flattening
import PipelineCanvas.Pipeline.Problems
import PipelineCanvas.Text.Blank

/-!
# Validation

Before anything is sent to the backend the whole pipeline is checked, and all that
is wrong is reported together. Each check lists what it finds as messages with
their keys; `validate` files them in the order of the checks:

1. the name and the template are chosen;
2. the name has only letters, digits, `_` and `-`;
3. there is one source and one sink;
4. every node is an end of an edge;
5. both ends of every edge are nodes;
6. every required property of an outlined plugin has a value;
7. the run setting of the template makes sense.

A draft passes with the first check alone (`validateDraft`).
-/

namespace PipelineCanvas

/-- A message under its key. -/
abbrev Finding := String × String

namespace Validation

/-- Name and template are chosen. -/
def nameAndTemplate (m : Metadata) : List Finding :=
  (if Text.isBlank m.name then [("name", "Please enter a name for the pipeline")] else [])
    ++ (if m.kind.isNone then [("template", "Please select a template type")] else [])

/-- Letters, digits, `_` and `-`, all of ASCII. -/
def isNameChar (c : Char) : Bool :=
  ('a' ≤ c && c ≤ 'z') || ('A' ≤ c && c ≤ 'Z') || ('0' ≤ c && c ≤ '9') || c == '_' || c == '-'

/-- A name that is not blank is made of allowed characters. -/
def nameCharacters (m : Metadata) : List Finding :=
  if !Text.isBlank m.name && !m.name.toList.all isNameChar then
    [("name", "Pipeline name may contain only letters, digits, '_' and '-'")]
  else []

/-- A role that must be played once. -/
def roleCount (nodes : NodeTable) (role : Role) : List Finding :=
  match nodes.roleCount role with
  | 0 => [(role.name, "A pipeline needs a " ++ role.name)]
  | 1 => []
  | n =>
    [(role.name, "A pipeline can have only one " ++ role.name ++ " (" ++ Text.decimal n
      ++ " found)")]

/-- Source and sink are there, once. -/
def roleCounts (nodes : NodeTable) : List Finding :=
  roleCount nodes .source ++ roleCount nodes .sink

/-- Every node is an end of an edge. -/
def unconnected (nodes : NodeTable) (edges : Edges) : List Finding :=
  (nodes.values.filter fun n => !edges.isConnected n.id).map fun n =>
    (n.id, n.role.name ++ " '" ++ n.name ++ "' is not connected to the pipeline")

/-- Both ends of an edge are nodes. -/
def references (nodes : NodeTable) (e : Edge) : List Finding :=
  (e.ends.filter fun id => !nodes.contains id).map fun id =>
    ("connections", "Connection '" ++ e.source ++ "' -> '" ++ e.target
      ++ "' references missing node '" ++ id ++ "'")

/-- The required properties of a plugin without a value, ascending. -/
def missingRequired (s : Stage) : List String :=
  match s.contract with
  | none => []
  | some contract =>
    (contract.entries.filter fun e =>
      e.2.required && (s.properties.get? e.1).all Text.isBlank).map (·.1)

/-- Every required property of a plugin has a value. -/
def requiredProperties (s : Stage) : List Finding :=
  (missingRequired s).map fun key =>
    (s.id.getD s.name, "'" ++ key ++ "' is required for " ++ s.name)

/-- The run setting of the template makes sense. -/
def runSettings (m : Metadata) : List Finding :=
  match m.kind with
  | some .batch =>
    if Text.isBlank m.template.cron then [("schedule", "Batch pipelines need a schedule")]
    else []
  | some .realtime =>
    if m.template.instances = 0 then
      [("instances", "Realtime pipelines need at least one instance")]
    else []
  | none => []

/-- What all checks find, in the order of the checks. -/
def findings (nodes : NodeTable) (edges : Edges) (m : Metadata) (o : Outline) : List Finding :=
  nameAndTemplate m ++ nameCharacters m ++ roleCounts nodes ++ unconnected nodes edges
    ++ edges.flatMap (references nodes) ++ o.stages.flatMap requiredProperties ++ runSettings m

/-- The notices of what was found: one if there is something. -/
def verdict (m : Metadata) (p : Problems) : List Notice :=
  if p.isEmpty then []
  else [.validationFailed m.name p.messageCount (",".intercalate p.keys)]

end Validation

/-- What is wrong with a pipeline, and the notices of the check. The outline must be
the flattened canvas. -/
def validate (nodes : NodeTable) (edges : Edges) (m : Metadata) (o : Outline) :
    Problems × List Notice :=
  let problems := Problems.none.addAll (Validation.findings nodes edges m o)
  (problems,
    .validationStarted m.name nodes.size edges.length :: Validation.verdict m problems)

/-- What keeps a pipeline from being stored as a draft, and the notices of the check. -/
def validateDraft (m : Metadata) : Problems × List Notice :=
  let problems := Problems.none.addAll (Validation.nameAndTemplate m)
  (problems, Validation.verdict m problems)

end PipelineCanvas
