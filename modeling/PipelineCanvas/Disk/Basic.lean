import PipelineCanvas.Disk.Path
import PipelineCanvas.OrderedMap

/-!
# Files and directories

A disk is a tree of directories with files at its leaves, and a directory where the
program works. A path is followed name by name, and each name on the way must be one
of a directory; the last name may be new.

* `Disk.resolve` – the place that a path leads to;
* `Disk.readText`, `Disk.writeText`, `Disk.createDirectories` – what programs do.
-/

namespace PipelineCanvas

/-- What a file holds. -/
inductive FileBody where
  | text (text : String)
  /-- Bytes that are no text. -/
  | bytes
deriving DecidableEq, Repr

/-- What a place on a disk holds. -/
inductive DiskEntry where
  | file (body : FileBody)
  | directory
deriving DecidableEq, Repr

/-- Why a file is not read or written. -/
inductive FileError where
  | missing
  | isDirectory
  | notDirectory
  | nameTooLong
  | nulInPath
  | notText
deriving DecidableEq, Repr

/-- The wording of a file error. -/
def FileError.message : FileError → String
  | .missing => "No such file or directory (os error 2)"
  | .isDirectory => "Is a directory (os error 21)"
  | .notDirectory => "Not a directory (os error 20)"
  | .nameTooLong => "File name too long (os error 36)"
  | .nulInPath => "file name contained an unexpected NUL byte"
  | .notText => "stream did not contain valid UTF-8"

/-- A place on a disk: the names from the root to it. -/
abbrev Location := List String

/-- The key of a place among the entries of a disk. -/
def Location.key (place : Location) : String := "/".intercalate place

/-- Files and directories. -/
structure Disk where
  /-- The entries under their places' keys. The root has none: it is always a directory. -/
  entries : OrderedMap DiskEntry
  /-- The place that relative paths lead from. -/
  workingDirectory : Location
deriving DecidableEq

namespace Disk

/-- A disk with an empty working directory at the root. -/
def empty : Disk := ⟨.empty, []⟩

instance : Inhabited Disk := ⟨empty⟩

/-- What a place holds. -/
def entry? (d : Disk) (place : Location) : Option DiskEntry :=
  if place = [] then some .directory else d.entries.get? place.key

/-- Puts something in a place. -/
def put (d : Disk) (place : Location) (e : DiskEntry) : Disk :=
  { d with entries := d.entries.insert place.key e }

/-- The longest name that a file can have, in bytes. -/
def longestName : Nat := 255

/-- The longest path that is followed, in bytes. -/
def longestPath : Nat := 4095

/-- Whether a segment of a path is too long for a name. -/
def isTooLong (segment : List Char) : Bool := longestName < (String.ofList segment).utf8ByteSize

/-- The place next to another that a segment of a path leads to. -/
def neighbour (place : Location) (segment : List Char) : Location :=
  if Path.isIdle segment then place
  else if segment = ['.', '.'] then place.dropLast
  else place ++ [String.ofList segment]

/-- Follows a segment of a path. -/
def step (d : Disk) (place : Location) (segment : List Char) : Except FileError Location :=
  match d.entry? place with
  | none => .error .missing
  | some (.file _) => .error .notDirectory
  | some .directory =>
    if isTooLong segment then .error .nameTooLong else .ok (neighbour place segment)

/-- Follows segments in order. -/
def follow (d : Disk) (place : Location) : List (List Char) → Except FileError Location
  | [] => .ok place
  | segment :: rest => do d.follow (← d.step place segment) rest

/-- The place that a path leads from. -/
def startOf (d : Disk) (path : String) : Location :=
  if Path.isAbsolute path then [] else d.workingDirectory

/-- The place that a path leads to. -/
def resolve (d : Disk) (path : String) : Except FileError Location :=
  if path.isEmpty then .error .missing
  else if path.toList.contains '\x00' then .error .nulInPath
  else if longestPath < path.utf8ByteSize then .error .nameTooLong
  else d.follow (d.startOf path) (Path.segments path)

/-- The text of a file. -/
def readText (d : Disk) (path : String) : Except FileError String := do
  match d.entry? (← d.resolve path) with
  | none => .error .missing
  | some .directory => .error .isDirectory
  | some (.file .bytes) => .error .notText
  | some (.file (.text text)) => .ok text

/-- Writes a file, in place of one that is there. -/
def writeText (d : Disk) (path text : String) : Except FileError Disk := do
  let place ← d.resolve path
  match d.entry? place with
  | some .directory => .error .isDirectory
  | _ => .ok (d.put place (.file (.text text)))

/-- Creates the directories on the way along segments, as far as they are missing. What
was created before a segment that fails stays. -/
def createAlong (d : Disk) (place : Location) :
    List (List Char) → Except FileError Unit × Disk
  | [] => (.ok (), d)
  | segment :: rest =>
    let next := neighbour place segment
    if isTooLong segment then (.error .nameTooLong, d)
    else match d.entry? next with
      | some (.file _) => (.error .notDirectory, d)
      | some .directory => d.createAlong next rest
      | none => (d.put next .directory).createAlong next rest

/-- Creates a directory and those it stands in, as far as they are missing. -/
def createDirectories (d : Disk) (path : String) : Except FileError Unit × Disk :=
  d.createAlong (d.startOf path) (Path.segments path)

/-- Puts something where a path leads, with the directories on the way. A path that does
not lead there changes nothing. -/
def plant (d : Disk) (path : String) (e : DiskEntry) : Disk :=
  match d.createAlong (d.startOf path) (Path.segments path).dropLast with
  | (.error _, _) => d
  | (.ok (), created) =>
    match created.resolve path with
    | .error _ => d
    | .ok place => created.put place e

/-- A disk with an empty working directory at a path from the root. -/
def workingIn (path : String) : Disk :=
  let d := empty.plant path .directory
  { d with workingDirectory := (d.resolve path).toOption.getD [] }

end Disk

end PipelineCanvas
