import PipelineCanvas.Json.Basic
import PipelineCanvas.Json.Fault

/-!
# Where drafts are kept

Drafts are kept in a store of JSON values by key. `DraftStore` is what a session
needs of one; its answers may depend on all that it was asked before.
-/

namespace PipelineCanvas

/-- Why a store does not answer. -/
inductive StoreError where
  /-- The medium failed. -/
  | io (reason : String)
  /-- What it holds is no JSON text. -/
  | corrupt (complaint : Json.Complaint)
deriving DecidableEq, Repr

namespace StoreError

/-- What is behind a store error. -/
def reason : StoreError → String
  | .io reason => reason
  | .corrupt complaint => complaint.message

/-- What a store error says before its reason. -/
def title : StoreError → String
  | .io _ => "Draft store I/O failed:"
  | .corrupt _ => "Draft store contents are not valid JSON:"

/-- The wording of a store error. -/
def message (e : StoreError) : String := e.title ++ " " ++ e.reason

end StoreError

/-- A store whose state is of type `σ`. -/
class DraftStore (σ : Type) where
  /-- Reads the value under a key, if there is one. -/
  get : String → σ → Except StoreError (Option Json) × σ
  /-- Puts a value under a key. -/
  set : String → Json → σ → Except StoreError Unit × σ

/-- The key under which a session keeps its drafts, an object with a member for each. -/
def draftsKey : String := "pipelineDrafts"

end PipelineCanvas
