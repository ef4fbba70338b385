import PipelineCanvas.Backend.Basic
import PipelineCanvas.Drafts.Store
import PipelineCanvas.Journal
import PipelineCanvas.Session.Basic
import PipelineCanvas.Wire.Pipeline

/-!
# A session at work

Operations of a session reach out of it: they ask the backend, use the draft store,
tell listeners and write to the log. `World` joins the session to all of that, with
the list of what reached out so far, and an `Action` is an operation on it. An
action that fails keeps what it did before.

* `SessionError` – why an operation fails, and `SessionError.message`;
* `Effect` – one thing that reached out;
* `World`, `Action`;
* `Action.fetch`, `Action.submit`, `Action.readStore`, `Action.writeStore` – the
  calls, each noted among the effects.
-/

namespace PipelineCanvas

/-- Why an operation of a session fails. -/
inductive SessionError where
  | invalid (problems : Problems)
  | backend (error : BackendError)
  | store (error : StoreError)
  | noNode (id : String)
  | noDraft (name : String)
  /-- A stored draft does not describe a draft. -/
  | undecodable (why : Decode.Failure)
deriving DecidableEq

/-- The wording of a session error. -/
def SessionError.message : SessionError → String
  | .invalid problems => "Pipeline is not valid: " ++ problems.text
  | .backend error => error.message
  | .store error => error.message
  | .noNode id => "No node with id '" ++ id ++ "' on the canvas"
  | .noDraft name => "No draft named '" ++ name ++ "'"
  | .undecodable why => "Failed to serialize pipeline: " ++ why.message

/-- What listeners are told. -/
inductive News where
  | added (node : Node) (role : Role)
  | reset
  | invalid (problems : Problems)
deriving DecidableEq

/-- The channel that news goes to. -/
def News.channel : News → Channel
  | .added .. => .added
  | .reset => .reset
  | .invalid _ => .invalid

/-- Something that reached out of a session. -/
inductive Effect where
  /-- A line was written to the log, inside the spans with the given names. -/
  | logged (notice : Notice) (within : List String)
  /-- A span was opened. -/
  | opened (span : Span)
  | fetched (query : PropertyQuery)
  | submitted (request : SaveRequest)
  | storeRead (key : String)
  | storeWritten (key : String) (value : Json)
  /-- A listener was told. -/
  | told (listener : String) (news : News)

/-- A session with the backend and the draft store it works with. -/
structure World (β σ : Type) where
  session : Session
  backend : β
  store : σ
  /-- What reached out, oldest first. -/
  effects : List Effect

/-- An operation on a session at work. -/
abbrev Action (β σ α : Type) := ExceptT SessionError (StateM (World β σ)) α

namespace Action

variable {β σ α : Type}

/-- Notes that something reaches out. -/
def emit (e : Effect) : Action β σ Unit :=
  modify fun w => { w with effects := w.effects ++ [e] }

/-- Writes a line to the log. -/
def log (notice : Notice) (within : List String) : Action β σ Unit :=
  emit (.logged notice within)

/-- Writes lines to the log, in order. -/
def logAll (notices : List Notice) : Action β σ Unit := do
  for notice in notices do log notice []

/-- The session. -/
def session : Action β σ Session := return (← get).session

/-- Changes the session. -/
def update (f : Session → Session) : Action β σ Unit :=
  modify fun w => { w with session := f w.session }

/-- Tells the listeners on the channel of the news, in their order. -/
def tell (news : News) : Action β σ Unit := do
  for listener in (← session).listeners.on news.channel do emit (.told listener news)

/-- Asks the backend for the properties of a plugin. -/
def fetch [Backend β] (query : PropertyQuery) :
    Action β σ (Except BackendError (List PluginProperties)) := do
  emit (.fetched query)
  let w ← get
  let (answer, backend) := Backend.fetch query w.backend
  set { w with backend }
  return answer

/-- Hands a pipeline to the backend. -/
def submit [Backend β] (request : SaveRequest) : Action β σ (Except BackendError Unit) := do
  emit (.submitted request)
  let w ← get
  let (answer, backend) := Backend.submit request w.backend
  set { w with backend }
  return answer

/-- Reads a value of the draft store. -/
def readStore [DraftStore σ] (key : String) :
    Action β σ (Except StoreError (Option Json)) := do
  emit (.storeRead key)
  let w ← get
  let (answer, store) := DraftStore.get key w.store
  set { w with store }
  return answer

/-- Writes a value of the draft store. -/
def writeStore [DraftStore σ] (key : String) (value : Json) :
    Action β σ (Except StoreError Unit) := do
  emit (.storeWritten key value)
  let w ← get
  let (answer, store) := DraftStore.set key value w.store
  set { w with store }
  return answer

/-- A value, or a failure with a cause. -/
def orFail {ε : Type} (cause : ε → SessionError) : Except ε α → Action β σ α
  | .ok a => pure a
  | .error e => throw (cause e)

/-- Runs an action to its end. -/
def run (action : Action β σ α) (w : World β σ) : Except SessionError α × World β σ :=
  Id.run (StateT.run (ExceptT.run action) w)

end Action

end PipelineCanvas
