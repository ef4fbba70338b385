import PipelineCanvas.Session.Canvas

/-!
# Editing the properties of a node

Opening an editor fetches the contract of the node anew, so the editor shows the
current one. If the node has no output schema yet, it takes over what flows into it.
The editor's snapshot is taken between the two: cancelling undoes the taking over and
all edits since, but not the new contract.
-/

namespace PipelineCanvas

open PipelineCanvas.Action

variable {β σ : Type}

namespace Session

/-- The node with an id, or a failure. -/
def nodeOrFail (id : String) : Action β σ Node := do
  match (← session).nodes.get? id with
  | some n => return n
  | none => throw (.noNode id)

/-- Changes the node with an id; fails if there is none. -/
def changeNode (id : String) (f : Node → Node) : Action β σ Unit := do
  let n ← nodeOrFail id
  update fun s => { s with nodes := s.nodes.insert id (f n) }

/-- A node that takes over a schema if it has no output schema. -/
def takeOver (n : Node) (inputSchema : String) : Node :=
  if n.outputSchema.isEmpty && !inputSchema.isEmpty then n.setOutputSchema (some inputSchema)
  else n

/-- Opens the editor of a node. -/
def edit [Backend β] (id : String) (scope : Option String) : Action β σ Editor := do
  let s ← session
  let n ← nodeOrFail id
  let inputSchema := RecordSchema.flowingInto s.nodes s.edges id
  let snapshot ← n.resolved s.activeTemplate scope
  let editor := Editor.ofSnapshot snapshot inputSchema s.activeTemplate s.readOnly
  update fun s =>
    { s with nodes := s.nodes.insert id (takeOver snapshot inputSchema), openEditor := some id }
  log (.editorOpened id editor.hasInputSchema editor.readOnly) []
  return editor

/-- Closes an editor. -/
def finishEdit (editor : Editor) (outcome : Outcome) : Action β σ Unit := do
  update fun s =>
    { s with
      openEditor := if s.openEditor = some editor.nodeId then none else s.openEditor
      nodes := if outcome = .cancel then s.nodes.restore editor.snapshot else s.nodes }
  log (.editorClosed editor.nodeId (outcome == .cancel)) []

/-- Closes the open editor, if there is one. -/
def teardown : Action β σ Unit := do
  match (← session).openEditor with
  | none => return
  | some id =>
    update fun s => { s with openEditor := none }
    log (.editorClosed id false) []

/-- Replaces the output schema of a node. -/
def setOutputSchema (id : String) (schema : Option String) : Action β σ Unit :=
  changeNode id (·.setOutputSchema schema)

/-- Sets a property of a node. -/
def setProperty (id key value : String) : Action β σ Unit :=
  changeNode id (·.setProperty key value)

/-- Drops a property of a node. Returns the value it had. -/
def removeProperty (id key : String) : Action β σ (Option String) := do
  let n ← nodeOrFail id
  changeNode id (·.removeProperty key)
  return n.properties.get? key

end Session

end PipelineCanvas
