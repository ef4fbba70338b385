import PipelineCanvas.CommandLine

/-!
# The program

The files that a run reads are copied to a disk in memory, the run takes place on that
disk, and the files that it changed there are written back.
-/

namespace PipelineCanvas.CommandLine

/-- The name of the program. -/
def programName : String := "pipeline-canvas"

/-- Copies a file to a disk in memory. -/
def copyIn (disk : Disk) (path : String) : IO Disk := do
  try
    let bytes ← IO.FS.readBinFile path
    let body := match String.fromUTF8? bytes with
      | some text => FileBody.text text
      | none => FileBody.bytes
    return disk.plant path (.file body)
  catch
    | .noFileOrDirectory .. => return disk
    | .inappropriateType .. => return disk.plant path .directory
    | error => throw error

/-- Writes a file back if a run changed it. -/
def copyOut (before after : Disk) (path : String) : IO Unit := do
  match before.readText path, after.readText path with
  | old, .ok text =>
    if old.toOption ≠ some text then
      if let some directory := Path.parent? path then
        if !directory.isEmpty then IO.FS.createDirAll directory
      IO.FS.writeFile path text
  | _, .error _ => return

end PipelineCanvas.CommandLine

open PipelineCanvas CommandLine in
/-- Runs the command line. -/
def main (args : List String) : IO UInt32 := do
  let disk ← (firstPaths args).foldlM copyIn Disk.empty
  let disk ← (furtherPaths disk args).foldlM copyIn disk
  let outcome := run disk args
  for path in furtherPaths disk args do copyOut disk outcome.disk path
  IO.print outcome.output
  if let .error failure := outcome.shown then IO.eprint (failure.report programName)
  return outcome.code.toUInt32
