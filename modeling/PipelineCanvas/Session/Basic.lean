import PipelineCanvas.Canvas.Edge
import PipelineCanvas.Canvas.NodeTable
import PipelineCanvas.Listeners
import PipelineCanvas.Pipeline.Flattening
import PipelineCanvas.Pipeline.Problems
import PipelineCanvas.Pipeline.RecordSchema
import PipelineCanvas.Pipeline.Submission

/-!
# Editing sessions

A session holds one canvas with the metadata of the pipeline drawn on it, the
listeners to tell of changes, and the mark of the node whose properties are being
edited. An `Editor` is what the properties view shows while they are: what flows
into the node, and the node as it was, to go back to.
-/

namespace PipelineCanvas

/-- An editing session. -/
structure Session where
  nodes : NodeTable
  edges : Edges
  metadata : Metadata
  listeners : Listeners
  /-- Whether editors are opened for reading only. -/
  readOnly : Bool
  /-- The node whose editor is open, if one is. -/
  openEditor : Option String
deriving DecidableEq

namespace Session

/-- A new session. -/
def fresh : Session := ⟨.empty, [], .initial, .none, false, none⟩

instance : Inhabited Session := ⟨fresh⟩

/-- The template that contracts are fetched for: the chosen one, or else batch. -/
def activeTemplate (s : Session) : TemplateKind := s.metadata.kind.getD .batch

/-- The flattened canvas. -/
def flattening (s : Session) : Flattening := flatten s.nodes s.edges s.metadata

/-- The outline of the pipeline, for editing. -/
def outline (s : Session) : Outline := s.flattening.outline

/-- What the backend would be sent. -/
def submission (s : Session) : Submission := .build s.outline s.metadata

/-- The draft of the pipeline. -/
def draft (s : Session) : Draft := ⟨s.submission, some ⟨s.nodes, s.edges⟩⟩

/-- The session with another canvas. Nodes stay where they were stored; of several with
one id the last counts. -/
def withGraph (s : Session) (nodes : List Node) (edges : Edges) : Session :=
  { s with nodes := .ofNodes nodes, edges }

/-- The session as it begins, but for listeners, the mark for reading only and, for an
import, the name. -/
def cleared (s : Session) (keepName : Bool) : Session :=
  { s with
    nodes := .empty, edges := [], openEditor := none
    metadata := if keepName then .named s.metadata.name else .initial }

end Session

/-! ### Editors -/

/-- An open editor of a node's properties. -/
structure Editor where
  nodeId : String
  /-- The schema of what flows into the node; empty if nothing is known. -/
  inputSchema : String
  /-- The fields of that schema, if it is one. -/
  inputFields : Option (List RecordField)
  template : TemplateKind
  readOnly : Bool
  /-- The node to go back to. -/
  snapshot : Node
deriving DecidableEq

namespace Editor

/-- The editor of a node. -/
def ofSnapshot (snapshot : Node) (inputSchema : String) (template : TemplateKind)
    (readOnly : Bool) : Editor :=
  { nodeId := snapshot.id, inputSchema, template, readOnly, snapshot
    inputFields :=
      if Text.isBlank inputSchema then none else RecordSchema.fields? inputSchema }

/-- Whether the fields of what flows into the node are known. -/
def hasInputSchema (e : Editor) : Bool := e.inputFields.isSome

end Editor

/-- How an editor is closed. -/
inductive Outcome where
  /-- The node goes back to what it was. -/
  | cancel
  /-- The node stays as it is. -/
  | keep
deriving DecidableEq, Repr

end PipelineCanvas
