import PipelineCanvas.Pipeline.Validation
import PipelineCanvas.Session.Canvas

/-!
# Drafts and submissions

A pipeline leaves the session in two ways. As a draft it goes to the draft store,
complete or not, as long as it has a name and a template (`Session.saveDraft`), and
comes back from there (`Session.importDraft`). As a submission it goes to the backend,
once it is valid (`Session.save`). When the backend has taken it, its draft is dropped
and the session starts anew; a store that fails then is only noted in the log.
-/

namespace PipelineCanvas

open PipelineCanvas.Action

variable {β σ : Type}

namespace Session

/-- Tells what is wrong with the pipeline, and fails. -/
def refuse (problems : Problems) : Action β σ Unit := do
  tell (.invalid problems)
  throw (.invalid problems)

/-- Fails if there is a problem. -/
def requireValid (verdict : Problems × List Notice) : Action β σ Unit := do
  logAll verdict.2
  if !verdict.1.isEmpty then refuse verdict.1

/-- Empties the canvas. For an import the name is kept. -/
def reset (keepName : Bool) : Action β σ Unit := do
  update (·.cleared keepName)
  log (.sessionReset keepName) []
  tell .reset

/-- Flattens the canvas. -/
def flattenCanvas : Action β σ Flattening := do
  let f := (← session).flattening
  logAll f.notices
  return f

/-- The outline of the pipeline. -/
def readOutline : Action β σ Outline := return (← flattenCanvas).outline

/-- What the backend would be sent. -/
def readSubmission : Action β σ Submission := do
  let o ← readOutline
  return .build o (← session).metadata

/-! ### The stored drafts -/

variable [DraftStore σ]

/-- The drafts of a stored value: the members of an object; other values have none. -/
def draftsOf : Option Json → List (String × Json)
  | some value => value.members?.getD []
  | none => []

/-- The stored drafts by name. -/
def readDrafts : Action β σ (List (String × Json)) := do
  return draftsOf (← orFail .store (← readStore draftsKey))

/-- Replaces the stored drafts. -/
def writeDrafts (drafts : List (String × Json)) : Action β σ Unit := do
  orFail .store (← writeStore draftsKey (.object drafts))

/-- The names of the stored drafts, ascending. -/
def draftNames : Action β σ (List String) := return (← readDrafts).map (·.1)

/-- The name of the span that storing a draft stands in. -/
def draftSpan : String := "save_as_draft"

/-- Stores the pipeline as a draft under its name, in place of one that is there. -/
def saveDraft : Action β σ Unit := do
  let s ← session
  requireValid (validateDraft s.metadata)
  let name := s.metadata.name
  let _ ← readSubmission
  let started := Notice.draftStarted name
  log started []
  emit (.opened (started.span draftSpan))
  let drafts ← readDrafts
  let replaced := (Entries.get? drafts name).isSome
  let drafts := Entries.insert name s.draft.toJson.canonical drafts
  writeDrafts drafts
  log (.draftSaved name drafts.length replaced) []

/-- Opens a stored draft on an empty canvas. -/
def importDraft (name : String) : Action β σ Unit := do
  let drafts ← readDrafts
  let some stored := Entries.get? drafts name | throw (.noDraft name)
  let draft ← orFail .undecodable (Draft.decode stored)
  reset true
  let (nodes, edges) := draft.graph name
  update fun s =>
    { s with metadata := draft.submission.metadata name }.withGraph nodes edges
  let s ← session
  log (.draftImported name s.nodes.size s.edges.length draft.canvas.isSome) []

/-! ### Saving -/

/-- The name of the span that saving stands in. -/
def saveSpan : String := "save_pipeline"

/-- Drops the draft with a name, if there is one. -/
def dropDraft (name : String) : Action β σ Unit := do
  let drafts ← readDrafts
  if (Entries.get? drafts name).isSome then
    writeDrafts (Entries.erase name drafts)
    log (.draftCleared name) [saveSpan]

/-- Drops the draft of a pipeline that the backend took. A store that fails is noted. -/
def cleanUp (name : String) : Action β σ Unit :=
  tryCatch (dropDraft name) fun error => log (.draftCleanupFailed name error.message) []

/-- Submits the pipeline to a namespace of the backend. Returns the name it has there. -/
def save [Backend β] (nameSpace : String) : Action β σ String := do
  let s ← session
  let outline ← readOutline
  requireValid (validate s.nodes s.edges s.metadata outline)
  let name := s.metadata.name
  let submission := Submission.build outline s.metadata
  let started := Notice.saveStarted nameSpace name s.nodes.size
  log started []
  emit (.opened (started.span saveSpan))
  match ← submit ⟨nameSpace, name, submission⟩ with
  | .error error =>
    log (.saveRejected nameSpace name error.message) []
    throw (.backend error)
  | .ok () =>
    log (.saved nameSpace name ((submission.template.map (·.name)).getD "")) []
    cleanUp name
    reset false
    return name

end Session

end PipelineCanvas
