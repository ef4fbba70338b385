import PipelineCanvas.Session.Editing
import PipelineCanvas.Session.Saving

/-!
# All that a session does

`Operation` lists the operations of a session and `Operation.perform` performs one.
A run of a session is a list of operations performed in order, each on the world that
the one before left, whether that one failed or not.
-/

namespace PipelineCanvas

/-- An operation of a session. -/
inductive Operation where
  | addNode (node : Node) (role : Role)
  | removeNode (id : String)
  | lookUpNode (id : String)
  | addEdge (edge : Edge)
  | setEdges (edges : Edges)
  | loadGraph (nodes : List Node) (edges : Edges)
  | resolvePending
  | setMetadata (metadata : Metadata)
  | setReadOnly (value : Bool)
  | edit (id : String) (scope : Option String)
  | finishEdit (editor : Editor) (outcome : Outcome)
  | teardown
  | setOutputSchema (id : String) (schema : Option String)
  | setProperty (id key value : String)
  | removeProperty (id key : String)
  | flatten
  | readOutline
  | readSubmission
  | save (nameSpace : String)
  | saveDraft
  | draftNames
  | importDraft (name : String)
  | reset (keepName : Bool)
  | subscribe (channel : Channel) (listener : String)
  | unsubscribe (subscription : Subscription)

/-- What an operation answers. -/
inductive Reply where
  | done
  | count (n : Nat)
  | flag (value : Bool)
  | text (value : String)
  | optionalText (value : Option String)
  | names (names : List String)
  | node (node : Option Node)
  | editor (editor : Editor)
  | flattening (flattening : Flattening)
  | outline (outline : Outline)
  | submission (submission : Submission)
  | subscription (subscription : Subscription)

namespace Session

open PipelineCanvas.Action

variable {β σ : Type}

/-- Begins a subscription. -/
def subscribe (channel : Channel) (listener : String) : Action β σ Subscription := do
  let (subscription, listeners) := (← session).listeners.subscribe channel listener
  update fun s => { s with listeners }
  return subscription

/-- Ends a subscription. Returns whether it held. -/
def unsubscribe (subscription : Subscription) : Action β σ Bool := do
  let s ← session
  update fun s => { s with listeners := s.listeners.unsubscribe subscription }
  return s.listeners.holds subscription

end Session

namespace Operation

open PipelineCanvas.Action

variable {β σ : Type} [Backend β] [DraftStore σ]

/-- Performs an operation. -/
def perform : Operation → Action β σ Reply
  | .addNode node role => do Session.addNode node role; return .done
  | .removeNode id => return .node (← Session.removeNode id)
  | .lookUpNode id => return .node ((← session).nodes.get? id)
  | .addEdge edge => do Session.addEdge edge; return .done
  | .setEdges edges => do Session.setEdges edges; return .done
  | .loadGraph nodes edges => do Session.loadGraph nodes edges; return .done
  | .resolvePending => return .count (← Session.resolvePending)
  | .setMetadata metadata => do update fun s => { s with metadata }; return .done
  | .setReadOnly readOnly => do update fun s => { s with readOnly }; return .done
  | .edit id scope => return .editor (← Session.edit id scope)
  | .finishEdit editor outcome => do Session.finishEdit editor outcome; return .done
  | .teardown => do Session.teardown; return .done
  | .setOutputSchema id schema => do Session.setOutputSchema id schema; return .done
  | .setProperty id key value => do Session.setProperty id key value; return .done
  | .removeProperty id key => return .optionalText (← Session.removeProperty id key)
  | .flatten => return .flattening (← Session.flattenCanvas)
  | .readOutline => return .outline (← Session.readOutline)
  | .readSubmission => return .submission (← Session.readSubmission)
  | .save nameSpace => return .text (← Session.save nameSpace)
  | .saveDraft => do Session.saveDraft; return .done
  | .draftNames => return .names (← Session.draftNames)
  | .importDraft name => do Session.importDraft name; return .done
  | .reset keepName => do Session.reset keepName; return .done
  | .subscribe channel listener => return .subscription (← Session.subscribe channel listener)
  | .unsubscribe subscription => return .flag (← Session.unsubscribe subscription)

/-- The answer to an operation, and the world behind it. -/
def step (op : Operation) (w : World β σ) : Except SessionError Reply × World β σ :=
  Action.run op.perform w

/-- The world behind a run of operations. -/
def runAll (ops : List Operation) (w : World β σ) : World β σ :=
  ops.foldl (fun w op => (op.step w).2) w

end Operation

end PipelineCanvas
