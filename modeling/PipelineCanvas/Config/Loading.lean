import PipelineCanvas.Config.CanvasDocument
import PipelineCanvas.Config.Settings
import PipelineCanvas.Decode.FromYaml
import PipelineCanvas.Disk.Basic
import PipelineCanvas.Wire.Backend

/-!
# Loading documents

Settings, canvases and catalogs are YAML documents in files. A catalog must list no
plugin twice under one role.
-/

namespace PipelineCanvas

/-- Why a document is not loaded. -/
inductive ConfigError where
  /-- The file is not read. -/
  | unreadable (path : String) (why : FileError)
  /-- The text describes no such document. -/
  | unparsable (path : String)
  /-- A catalog lists a plugin twice. -/
  | duplicatePlugin (role : Role) (plugin : String)
deriving DecidableEq, Repr

namespace ConfigError

/-- What a config error says before its cause. -/
def title : ConfigError → String
  | .unreadable path _ => "Failed to read '" ++ path ++ "'"
  | .unparsable path => "Failed to parse '" ++ path ++ "'"
  | .duplicatePlugin role plugin =>
    "Plugin catalog lists " ++ role.name ++ " plugin '" ++ plugin ++ "' more than once"

/-- What is behind a config error. -/
def cause? : ConfigError → Option String
  | .unreadable _ why => some why.message
  | .unparsable _ => some "the document is malformed"
  | .duplicatePlugin .. => none

/-- The wording of a config error. -/
def message (e : ConfigError) : String :=
  match e.cause? with
  | some cause => e.title ++ ": " ++ cause
  | none => e.title

end ConfigError

namespace Disk

/-- Loads the YAML document at a path. -/
def load {α : Type} (item : Yaml.Place → Yaml.Reader α) (d : Disk) (path : String) :
    Except ConfigError α :=
  match d.readText path with
  | .error why => .error (.unreadable path why)
  | .ok text =>
    match Decode.ofYaml item text with
    | some a => .ok a
    | none => .error (.unparsable path)

/-- Loads settings. -/
def loadSettings (d : Disk) (path : String) : Except ConfigError Settings :=
  d.load Settings.decode path

/-- Loads a canvas. -/
def loadCanvas (d : Disk) (path : String) : Except ConfigError CanvasDocument :=
  d.load CanvasDocument.decode path

/-- Loads a catalog that lists no plugin twice under one role. -/
def loadCatalog (d : Disk) (path : String) : Except ConfigError Catalog := do
  let catalog ← d.load Catalog.decode path
  match catalog.firstDuplicate? with
  | some e => .error (.duplicatePlugin e.role e.name)
  | none => .ok catalog

end Disk

end PipelineCanvas
