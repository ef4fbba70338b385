import PipelineCanvas.Pipeline.Submission

/-!
# The backend

The backend knows the plugins and runs the pipelines. A session asks it two things:
what properties a plugin has, and to take a pipeline. `Backend` is what a session
needs of one; its answers may depend on all that it was asked before.
-/

namespace PipelineCanvas

/-- Which plugin's properties are asked for. -/
structure PropertyQuery where
  role : Role
  plugin : String
  template : TemplateKind
  /-- The part of the editor that asks, if one does. -/
  scope : Option String
deriving DecidableEq, Repr

/-- One answer to a query. -/
structure PluginProperties where
  name : String
  properties : Contract
deriving DecidableEq

/-- A pipeline for the backend to take. -/
structure SaveRequest where
  nameSpace : String
  name : String
  submission : Submission
deriving DecidableEq

/-- Why the backend does not answer. -/
inductive BackendError where
  /-- It refuses; the message is its own. -/
  | rejected (status : UInt16) (message : String)
  /-- It cannot be reached. -/
  | unavailable (reason : String)
  /-- It has no such plugin. -/
  | unknownPlugin (role plugin template : String)
deriving DecidableEq, Repr

/-- The wording of a backend error. -/
def BackendError.message : BackendError → String
  | .rejected status message =>
    "Backend rejected the request (" ++ Text.decimal status.toNat ++ "): " ++ message
  | .unavailable reason => "Backend unreachable: " ++ reason
  | .unknownPlugin role plugin template =>
    "No " ++ role ++ " plugin named '" ++ plugin ++ "' for template '" ++ template ++ "'"

/-- A backend whose state is of type `β`. -/
class Backend (β : Type) where
  /-- Asks for the properties of a plugin. Of several answers the first one counts. -/
  fetch : PropertyQuery → β → Except BackendError (List PluginProperties) × β
  /-- Hands a pipeline over. -/
  submit : SaveRequest → β → Except BackendError Unit × β

end PipelineCanvas
