import PipelineCanvas.Disk.Basic
import PipelineCanvas.Drafts.Store
import PipelineCanvas.Json.Printer
import PipelineCanvas.Json.Spelling
import PipelineCanvas.Text.Blank

/-!
# A store in a file

A file holds one JSON object, with a member for each key. A file that is missing or
blank, or whose value is no object, holds no member. A file that is no JSON text is
an error for readers and writers alike, so it is never overwritten.

* `FileStore.document` – the members that the file holds;
* `FileStore.get`, `FileStore.set` – reading and writing one of them.
-/

namespace PipelineCanvas

/-- A store in a file at a path. -/
structure FileStore where
  disk : Disk
  path : String

namespace FileStore

/-- A file error as the store reports it. -/
def failed (e : FileError) : StoreError := .io e.message

/-- The members that a text holds. -/
def membersOf (text : String) : Except StoreError (List (String × Json)) :=
  if Text.isBlank text then .ok []
  else
    match Json.ofText text with
    | .ok v => .ok (v.members?.getD [])
    | .error complaint => .error (.corrupt complaint)

/-- The members that the file holds. -/
def document (s : FileStore) : Except StoreError (List (String × Json)) :=
  match s.disk.readText s.path with
  | .ok text => membersOf text
  | .error .missing => .ok []
  | .error e => .error (failed e)

/-- Reads the member under a key. -/
def get (key : String) (s : FileStore) : Except StoreError (Option Json) × FileStore :=
  (s.document.map (Entries.get? · key), s)

/-- The text that a member list is written as. -/
def textOf (members : List (String × Json)) : String := (Json.object members).pretty

/-- Creates the directory that the file stands in. -/
def createDirectory (s : FileStore) : Except FileError Unit × Disk :=
  match Path.parent? s.path with
  | none | some "" => (.ok (), s.disk)
  | some directory => s.disk.createDirectories directory

/-- Writes a member list to the file. A directory that was created for it stays if the
file is not written. -/
def write (s : FileStore) (members : List (String × Json)) : Except FileError Unit × Disk :=
  match s.createDirectory with
  | (.error e, disk) => (.error e, disk)
  | (.ok (), disk) =>
    match disk.writeText s.path (textOf members) with
    | .error e => (.error e, disk)
    | .ok written => (.ok (), written)

/-- Puts a member under a key; the others stay. -/
def set (key : String) (value : Json) (s : FileStore) : Except StoreError Unit × FileStore :=
  match s.document with
  | .error e => (.error e, s)
  | .ok members =>
    let (outcome, disk) := s.write (Entries.insert key value members)
    (outcome.mapError failed, { s with disk })

instance : DraftStore FileStore := ⟨get, set⟩

end FileStore

end PipelineCanvas
