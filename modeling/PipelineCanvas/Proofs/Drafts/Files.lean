import PipelineCanvas.Drafts.File
import PipelineCanvas.Proofs.Disk.Writing
import PipelineCanvas.Proofs.Json.Printed

/-!
# What a store in a file holds

A store in a file writes its whole document anew, and the next call reads it again. So the document
that was written must be the one that is read, and the file must be there: what is read from a file
fits in a text, and a file that was written once can be written again.

* `FileStore.document_fits` – every document that is read fits in a text, in canonical form;
* `FileStore.rewritten_write`, `FileStore.sameFiles_write` – a write changes the file, or fails and
  changes none;
* `FileStore.Writable`, `FileStore.Writable.write` – files that can be written, again and again;
* **`FileStore.document_write`** – the document that was written is the one that is read.
-/

namespace PipelineCanvas.FileStore

open Disk (SameFiles Rewritten KeepsDirectories)

variable {s : FileStore} {members : List (String × Json)} {key : String} {value : Json}

/-! ### Documents -/

/-- What is read from a text fits in a text, and is in canonical form. -/
theorem membersOf_fits {text : String} (h : membersOf text = .ok members) :
    (Json.object members).Fits (fun _ => True) Json.deepestLevel ∧
      (Json.object members).canonical = .object members := by
  have hnone : (Json.object []).Fits (fun _ => True) Json.deepestLevel ∧
      (Json.object []).canonical = .object [] := ⟨.object (List.forall_mem_nil _), rfl⟩
  unfold membersOf at h
  split at h
  · cases h
    exact hnone
  · split at h
    · next v hv =>
      cases h
      cases v with
      | object members => exact Json.fits_of_ofText hv
      | _ => exact hnone
    · cases h

/-- **What is read from a file fits in a text,** and is in canonical form. -/
theorem document_fits (h : s.document = .ok members) :
    (Json.object members).Fits (fun _ => True) Json.deepestLevel ∧
      (Json.object members).canonical = .object members := by
  unfold document at h
  split at h
  · exact membersOf_fits h
  · cases h
    exact ⟨.object (List.forall_mem_nil _), rfl⟩
  · cases h

theorem document_ascending (h : s.document = .ok members) : Entries.Ascending members :=
  (Json.canonical_object_iff.mp (document_fits h).2).1

theorem isBlank_textOf (members : List (String × Json)) : Text.isBlank (textOf members) = false := by
  have hbrace : Text.isBlankChar '\x7b' = false := by decide
  cases members with
  | nil => simp [Text.isBlank, textOf, Json.pretty, Json.prettyAt, hbrace]
  | cons m rest => simp [Text.isBlank, textOf, Json.pretty, Json.prettyAt, hbrace]

/-- Members that fit in a text are read from the text that they are written as. -/
theorem membersOf_textOf
    (hfits : (Json.object members).Fits Binary64.ReadsBack Json.deepestLevel)
    (hcanonical : (Json.object members).canonical = .object members) :
    membersOf (textOf members) = .ok members := by
  have hread : Json.ofText (textOf members) = .ok (.object members) := by
    rw [textOf, Json.ofText_pretty hfits, hcanonical]
  rw [membersOf, isBlank_textOf, if_neg Bool.false_ne_true, hread]
  rfl

/-! ### Writes -/

/-- A path names a directory to be created, or none. -/
theorem createDirectory_cases (path : String) :
    (∀ disk, createDirectory ⟨disk, path⟩ = (.ok (), disk)) ∨
      ∃ directory, ∀ disk, createDirectory ⟨disk, path⟩ = disk.createDirectories directory := by
  unfold createDirectory
  simp only
  split
  · exact .inl fun _ => rfl
  · exact .inl fun _ => rfl
  · next directory _ _ => exact .inr ⟨directory, fun _ => rfl⟩

theorem keepsDirectories_createDirectory (s : FileStore) :
    KeepsDirectories s.disk s.createDirectory.2 := by
  rcases createDirectory_cases s.path with hnone | ⟨directory, hsome⟩
  · rw [hnone s.disk]
    exact .refl _
  · rw [hsome s.disk]
    exact Disk.keepsDirectories_createAlong _ _ _

theorem sameFiles_createDirectory (s : FileStore) : SameFiles s.disk s.createDirectory.2 := by
  rcases createDirectory_cases s.path with hnone | ⟨directory, hsome⟩
  · rw [hnone s.disk]
    exact fun _ => rfl
  · rw [hsome s.disk]
    exact Disk.sameFiles_createAlong _ _ _

/-- A directory that was created is there when it is created again. -/
theorem createDirectory_of_keeps {created disk : Disk}
    (h : s.createDirectory = (.ok (), created)) (hkeeps : KeepsDirectories created disk) :
    createDirectory ⟨disk, s.path⟩ = (.ok (), disk) := by
  have hworking : disk.workingDirectory = s.disk.workingDirectory := by
    have hcreated := keepsDirectories_createDirectory s
    rw [h] at hcreated
    exact hkeeps.workingDirectory.trans hcreated.workingDirectory
  rcases createDirectory_cases s.path with hnone | ⟨directory, hsome⟩
  · exact hnone disk
  · rw [hsome s.disk] at h
    rw [hsome disk, Disk.createDirectories, Disk.startOf, hworking]
    exact Disk.createAlong_of_keeps h hkeeps

/-- A file can be written: its directory is there or can be created, and it is none itself. -/
def Writable (s : FileStore) : Prop :=
  ∃ created place, s.createDirectory = (.ok (), created) ∧
    created.resolve s.path = .ok place ∧ created.entry? place ≠ some .directory

theorem write_eq_ok_iff {disk : Disk} : s.write members = (.ok (), disk) ↔
    ∃ created, s.createDirectory = (.ok (), created) ∧
      created.writeText s.path (textOf members) = .ok disk := by
  unfold write
  rcases s.createDirectory with ⟨e | ⟨⟩, created⟩
  · simp
  · cases hwritten : created.writeText s.path (textOf members) <;> simp [hwritten]

/-- A write that fails leaves the directory that was created for it, and no more. -/
theorem snd_of_write_error {e : FileError} {disk : Disk} (h : s.write members = (.error e, disk)) :
    disk = s.createDirectory.2 := by
  unfold write at h
  generalize s.createDirectory = outcome at h ⊢
  obtain ⟨e | ⟨⟩, created⟩ := outcome
  · exact (congrArg Prod.snd h).symm
  · simp only at h
    split at h
    · exact (congrArg Prod.snd h).symm
    · cases h

/-- **A write that fails changes no file.** -/
theorem sameFiles_write {e : FileError} {disk : Disk} (h : s.write members = (.error e, disk)) :
    SameFiles s.disk disk := by
  rw [snd_of_write_error h]
  exact sameFiles_createDirectory s

/-- **A write that succeeds puts its text in the file,** and leaves all other files. -/
theorem rewritten_write {disk : Disk} (h : s.write members = (.ok (), disk)) :
    Rewritten s.disk disk s.path (textOf members) := by
  obtain ⟨created, hcreated, hwritten⟩ := write_eq_ok_iff.mp h
  have hsame := sameFiles_createDirectory s
  rw [hcreated] at hsame
  exact .of_sameFiles hsame (Disk.rewritten_writeText hwritten)

/-- Whether a file is written does not depend on what is written to it. -/
theorem Writable.write (h : s.Writable) (members : List (String × Json)) :
    ∃ disk, s.write members = (.ok (), disk) ∧ Writable ⟨disk, s.path⟩ := by
  obtain ⟨created, place, hcreated, hresolve, hplace⟩ := h
  have hkeeps := Disk.keepsDirectories_put hplace (.file (.text (textOf members)))
  refine ⟨created.put place (.file (.text (textOf members))), ?_, ?_⟩
  · exact write_eq_ok_iff.mpr ⟨created, hcreated,
      Disk.writeText_eq_ok_iff.mpr ⟨place, hresolve, hplace, rfl⟩⟩
  · refine ⟨_, place, createDirectory_of_keeps hcreated hkeeps,
      Disk.resolve_of_keeps hkeeps hresolve, ?_⟩
    rw [Disk.entry?_put, if_neg (Disk.ne_nil_of_ne_directory hplace), if_pos rfl]
    exact nofun

/-- A file can be written if some members, whichever, are written to it. -/
theorem writable_iff : s.Writable ↔ ∃ disk, s.write members = (.ok (), disk) := by
  constructor
  · intro h
    obtain ⟨disk, hwrite, -⟩ := h.write members
    exact ⟨disk, hwrite⟩
  · rintro ⟨disk, hwrite⟩
    obtain ⟨created, hcreated, hwritten⟩ := write_eq_ok_iff.mp hwrite
    obtain ⟨place, hresolve, hplace, -⟩ := Disk.writeText_eq_ok_iff.mp hwritten
    exact ⟨created, place, hcreated, hresolve, hplace⟩

/-- **The document that was written is the one that is read.** -/
theorem document_write {disk : Disk} (h : s.write members = (.ok (), disk))
    (hfits : (Json.object members).Fits Binary64.ReadsBack Json.deepestLevel)
    (hcanonical : (Json.object members).canonical = .object members) :
    document ⟨disk, s.path⟩ = .ok members := by
  rw [document, (rewritten_write h).readText]
  exact membersOf_textOf hfits hcanonical

/-! ### Calls -/

theorem set_of_document (h : s.document = .ok members) (key : String) (value : Json) :
    s.set key value =
      ((s.write (Entries.insert key value members)).1.mapError failed,
        ⟨(s.write (Entries.insert key value members)).2, s.path⟩) := by
  rw [set, h]

theorem set_of_document_error {e : StoreError} (h : s.document = .error e) (key : String)
    (value : Json) : s.set key value = (.error e, s) := by
  rw [set, h]

/-- **A member is put into the document and the document written, or no file is changed.** -/
theorem set_cases (s : FileStore) (key : String) (value : Json) :
    (∃ members disk, s.document = .ok members ∧
        s.write (Entries.insert key value members) = (.ok (), disk) ∧
        s.set key value = (.ok (), ⟨disk, s.path⟩)) ∨
      ((s.set key value).1 ≠ .ok () ∧ SameFiles s.disk (s.set key value).2.disk) := by
  cases hdocument : s.document with
  | error e =>
    rw [set_of_document_error hdocument]
    exact .inr ⟨nofun, fun _ => rfl⟩
  | ok members =>
    rw [set_of_document hdocument]
    rcases hwrite : s.write (Entries.insert key value members) with ⟨e | ⟨⟩, disk⟩
    · exact .inr ⟨nofun, sameFiles_write hwrite⟩
    · exact .inl ⟨members, disk, rfl, hwrite, rfl⟩

end PipelineCanvas.FileStore
