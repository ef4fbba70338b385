import PipelineCanvas.Session.World

/-!
# The canvas of a session

Nodes come from the palette one by one (`Session.addNode`) or from a stored canvas
all together (`Session.loadGraph`). A node that comes without a contract gets it from
the backend: right after it was added, or later with all others that are pending
(`Session.resolvePending`).
-/

namespace PipelineCanvas

open PipelineCanvas.Action

variable {β σ : Type} [Backend β]

/-- The name of the span that a fetch stands in. -/
def fetchSpan : String := "fetch_plugin_properties"

/-- The contract that a query is answered with: that of the first answer; one without
properties if there is no answer. -/
def PluginProperties.contract (answers : List PluginProperties) : Contract :=
  (answers.head?.map (·.properties)).getD .empty

namespace Node

/-- The query for the contract of a node. -/
def query (n : Node) (template : TemplateKind) (scope : Option String) : PropertyQuery :=
  ⟨n.role, n.name, template, scope⟩

/-- Fetches the contract of a node. -/
def fetchContract (n : Node) (template : TemplateKind) (scope : Option String) :
    Action β σ Contract := do
  let started := Notice.fetchStarted n.id n.name template.name
  log started []
  emit (.opened (started.span fetchSpan))
  match ← fetch (n.query template scope) with
  | .ok answers =>
    let contract := PluginProperties.contract answers
    log (.contractResolved n.id n.name contract.size) []
    return contract
  | .error error =>
    log (.fetchFailed n.id n.name error.message) []
    throw (.backend error)

/-- A node with the contract that the backend has for it now. -/
def resolved (n : Node) (template : TemplateKind) (scope : Option String) :
    Action β σ Node :=
  return n.applyContract (← n.fetchContract template scope)

end Node

namespace Session

/-- Gives the node with an id, if there is one, the contract that the backend has for it
now. -/
def resolveNode (id : String) (template : TemplateKind) (scope : Option String) :
    Action β σ Unit := do
  match (← session).nodes.get? id with
  | none => return
  | some n =>
    let n ← n.resolved template scope
    update fun s => { s with nodes := s.nodes.insert id n }

/-- Places a node under a role and tells so. A node without a contract then gets it; if
that fails, the node stays, its contract pending. -/
def addNode (n : Node) (role : Role) : Action β σ Unit := do
  let s ← session
  let placed := s.nodes.placed n role
  update fun s => { s with nodes := s.nodes.place n role }
  log (.nodeAdded n.id n.name role.name placed.isReady) []
  tell (.added placed role)
  if !placed.isReady then resolveNode n.id s.activeTemplate none

/-- Takes a node off the canvas. Its edges stay. -/
def removeNode (id : String) : Action β σ (Option Node) := do
  let s ← session
  match s.nodes.get? id with
  | none => return none
  | some n =>
    let rest := s.nodes.erase id
    update fun s => { s with nodes := rest }
    log (.nodeRemoved id n.role.name rest.size) []
    return some n

/-- Draws an edge. -/
def addEdge (e : Edge) : Action β σ Unit := update fun s => { s with edges := s.edges ++ [e] }

/-- Replaces all edges. -/
def setEdges (edges : Edges) : Action β σ Unit := update fun s => { s with edges }

/-- Replaces the canvas by a stored one. -/
def loadGraph (nodes : List Node) (edges : Edges) : Action β σ Unit :=
  update (·.withGraph nodes edges)

/-- Gives every pending node its contract, in the order of the ids, up to the first
failure. Returns how many there were. -/
def resolvePending : Action β σ Nat := do
  let s ← session
  let pending := s.nodes.pendingIds
  for id in pending do resolveNode id s.activeTemplate none
  return pending.length

end Session

end PipelineCanvas
