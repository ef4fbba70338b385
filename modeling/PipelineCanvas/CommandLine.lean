import PipelineCanvas.Config.Loading
import PipelineCanvas.Drafts.File
import PipelineCanvas.Drafts.Memory
import PipelineCanvas.Session.Saving

/-!
# The command line

A run loads settings and a canvas, fetches the contracts of the canvas's nodes if the
settings name a catalog, and then does one of four things: it shows the outline of the
pipeline, shows what the backend would be sent, stores a draft, or saves the pipeline.
What it shows is JSON.

* `CommandLine.Command` – the four things;
* `CommandLine.Failure`, `CommandLine.Failure.report` – why a run fails, and what it
  then says;
* **`CommandLine.run`** – a run on a disk.
-/

namespace PipelineCanvas.CommandLine

/-- What a run does in the end. -/
inductive Command where
  | showOutline
  | showSubmission
  | saveDraft
  | save
deriving DecidableEq, Repr

namespace Command

/-- The command with a name. -/
def ofName? : String → Option Command
  | "config" => some .showOutline
  | "backend" => some .showSubmission
  | "draft" => some .saveDraft
  | "save" => some .save
  | _ => none

end Command

/-! ### Failures -/

/-- Why a run fails. -/
inductive Failure where
  /-- The number of arguments is wrong. -/
  | usage
  | unknownCommand (name : String)
  | config (error : ConfigError)
  /-- A contract is not fetched. -/
  | unresolved (error : SessionError)
  | session (error : SessionError)

/-- How the program is called. -/
def usageText (program : String) : String :=
  "Usage: " ++ program ++ " <settings.yaml> <canvas.yaml> <config|backend|draft|save>"

/-- What is behind an error of a session. -/
def sessionCause? : SessionError → Option String
  | .store error => some error.reason
  | .undecodable why => some why.message
  | .invalid _ | .backend _ | .noNode _ | .noDraft _ => none

namespace Failure

/-- The wording of a failure. -/
def message (program : String) : Failure → String
  | .usage => usageText program
  | .unknownCommand name => "Unknown command '" ++ name ++ "'. " ++ usageText program
  | .config error => error.message
  | .unresolved _ => "Failed to resolve plugin properties"
  | .session error => error.message

/-- What is behind a failure, next cause first. -/
def causes : Failure → List String
  | .usage | .unknownCommand _ => []
  | .config error => error.cause?.toList
  | .unresolved error => error.message :: (sessionCause? error).toList
  | .session error => (sessionCause? error).toList

/-- A text with every line behind the first one moved in. -/
def indented (width : Nat) (s : String) : String :=
  String.ofList (s.toList.flatMap fun c =>
    if c = '\n' then c :: List.replicate width ' ' else [c])

/-- Causes in lines of their own, numbered from a number on. -/
def numbered : Nat → List String → String
  | _, [] => ""
  | n, cause :: rest =>
    let number := Text.decimal n
    "\n" ++ String.ofList (List.replicate (5 - number.length) ' ') ++ number ++ ": "
      ++ indented 7 cause ++ numbered (n + 1) rest

/-- The lines on the causes of a failure. A single cause has no number. -/
def causeText : List String → String
  | [] => ""
  | [cause] => "\n\nCaused by:\n    " ++ indented 4 cause
  | causes => "\n\nCaused by:" ++ numbered 0 causes

/-- What a run says that fails. -/
def report (program : String) (f : Failure) : String :=
  "Error: " ++ f.message program ++ causeText f.causes ++ "\n"

end Failure

/-! ### Runs -/

/-- What a run leaves behind. -/
structure Outcome where
  disk : Disk
  /-- What it shows, or why it fails. -/
  shown : Except Failure Json

namespace Outcome

/-- The exit code. -/
def code (o : Outcome) : Nat :=
  match o.shown with
  | .ok _ => 0
  | .error _ => 1

/-- What is printed. -/
def output (o : Outcome) : String :=
  match o.shown with
  | .ok v => v.canonical.pretty ++ "\n"
  | .error _ => ""

end Outcome

/-- All that a run loads before it begins. -/
structure Job where
  command : Command
  settings : Settings
  canvas : CanvasDocument
  /-- The catalog, if the settings name one. -/
  catalog : Option Catalog
  /-- The file that drafts are kept in, if the settings name one. -/
  draftsPath : Option String

/-- The paths of settings and canvas, and the command. -/
def arguments : List String → Except Failure (String × String × Command)
  | [settings, canvas, name] =>
    match Command.ofName? name with
    | some command => .ok (settings, canvas, command)
    | none => .error (.unknownCommand name)
  | _ => .error .usage

/-- Loads a job: settings first, then canvas, then catalog. -/
def loadJob (disk : Disk) (args : List String) : Except Failure Job := do
  let (settingsPath, canvasPath, command) ← arguments args
  let settings ← (disk.loadSettings settingsPath).mapError .config
  let canvas ← (disk.loadCanvas canvasPath).mapError .config
  let catalog ← (settings.catalogPath.mapM fun path =>
    disk.loadCatalog (Path.besides settingsPath path)).mapError .config
  return { command, settings, canvas, catalog
           draftsPath := settings.draftsPath.map (Path.besides settingsPath) }

/-- The paths of the files that a run reads first: settings and canvas. -/
def firstPaths (args : List String) : List String :=
  match arguments args with
  | .ok (settings, canvas, _) => [settings, canvas]
  | .error _ => []

/-- The paths of the files that the settings of a run name. -/
def furtherPaths (disk : Disk) (args : List String) : List String :=
  match arguments args with
  | .ok (path, _, _) =>
    match disk.loadSettings path with
    | .ok settings =>
      (settings.catalogPath.toList ++ settings.draftsPath.toList).map (Path.besides path)
    | .error _ => []
  | .error _ => []

section Work

open PipelineCanvas.Action

variable {σ : Type} [DraftStore σ]

/-- Performs a command, once the contracts are there, and returns what to show. -/
def Command.perform (settings : Settings) : Command → Action CatalogBackend σ Json
  | .showOutline => return (← Session.readOutline).toJson
  | .showSubmission => return (← Session.readSubmission).toJson
  | .saveDraft => do
    Session.saveDraft
    return .object [("drafts", Json.list .string (← Session.draftNames))]
  | .save => do
    let name ← Session.save settings.nameSpace
    let last := (← get).backend.saved.getLast?
    return .object
      [ ("namespace", .string settings.nameSpace), ("name", .string name),
        ("submission", Json.optional (·.submission.toJson) last) ]

/-- The session of a job before it begins. -/
def Job.session (job : Job) : Session :=
  { Session.fresh with metadata := job.canvas.metadata }.withGraph job.canvas.nodes
    job.canvas.edges

/-- The world of a job before it begins. -/
def Job.world (job : Job) (store : σ) : World CatalogBackend σ :=
  { session := job.session, store, effects := []
    backend := .ofCatalog (job.catalog.getD []) }

/-- Fetches the contracts of a job's nodes, if there is a catalog to fetch them from. -/
def Job.resolve (job : Job) : Action CatalogBackend σ Unit := do
  if job.catalog.isSome then discard Session.resolvePending

/-- Does a job. -/
def Job.work (job : Job) (store : σ) : Except Failure Json × σ :=
  match Action.run job.resolve (job.world store) with
  | (.error e, w) => (.error (.unresolved e), w.store)
  | (.ok (), w) =>
    let (shown, w) := Action.run (job.command.perform job.settings) w
    (shown.mapError .session, w.store)

end Work

/-- **A run:** what it shows, and the disk it leaves. -/
def run (disk : Disk) (args : List String) : Outcome :=
  match loadJob disk args with
  | .error failure => ⟨disk, .error failure⟩
  | .ok job =>
    match job.draftsPath with
    | none => ⟨disk, (job.work MemoryStore.empty).1⟩
    | some path =>
      let (shown, store) := job.work (⟨disk, path⟩ : FileStore)
      ⟨store.disk, shown⟩

end PipelineCanvas.CommandLine
