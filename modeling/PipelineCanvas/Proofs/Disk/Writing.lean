import PipelineCanvas.Disk.Basic
import PipelineCanvas.Proofs.Json.Tokens

/-!
# Files that are written

What a write changes is one file, and what it adds are directories. A directory that was there
stays one, so every path that leads somewhere still leads there, and a directory that was created
once is there when it is created again.

* `Disk.body?`, `Disk.SameFiles`, `Disk.Rewritten` – what files hold, and disks that differ in
  none or in one of them;
* `Disk.KeepsDirectories`, **`Disk.resolve_of_keeps`** – disks on which paths lead where they led;
* **`Disk.sameFiles_createAlong`**, **`Disk.rewritten_writeText`** – what becomes of files.
-/

namespace PipelineCanvas.Disk

variable {d d' d'' : Disk} {place other : Location} {e : DiskEntry} {path text : String}

/-! ### Places -/

/-- What the file in a place holds. -/
def body? (d : Disk) (place : Location) : Option FileBody :=
  match d.entry? place with
  | some (.file body) => some body
  | some .directory | none => none

/-- The files of two disks hold the same. -/
def SameFiles (d d' : Disk) : Prop := ∀ place, d'.body? place = d.body? place

/-- A file at a path holds a text, and all others hold what they held. -/
def Rewritten (d d' : Disk) (path text : String) : Prop :=
  ∃ place, d'.resolve path = .ok place ∧ d'.body? place = some (.text text) ∧
    ∀ other, other.key ≠ place.key → d'.body? other = d.body? other

theorem entry?_put (d : Disk) (place other : Location) (e : DiskEntry) :
    entry? (d.put place e) other =
      if other = [] then some .directory
      else if place.key = other.key then some e else d.entry? other := by
  unfold entry? put
  split
  · rfl
  · exact OrderedMap.get?_insert _ _ _ _

theorem body?_eq_some_iff {body : FileBody} :
    d.body? place = some body ↔ d.entry? place = some (.file body) := by
  unfold body?
  cases d.entry? place with
  | none => simp
  | some e => cases e <;> simp

/-- The root is a directory. -/
theorem ne_nil_of_ne_directory (h : d.entry? place ≠ some .directory) : place ≠ [] := by
  rintro rfl
  exact h rfl

/-- Where something else is put, a file stays as it is. -/
theorem body?_put_of_ne (h : other.key ≠ place.key) (e : DiskEntry) :
    (d.put place e).body? other = d.body? other := by
  have hentry : entry? (d.put place e) other = d.entry? other := by
    rw [entry?_put, if_neg h.symm]
    split
    · next hroot => rw [hroot]; rfl
    · rfl
  rw [body?, body?, hentry]

/-- A directory where nothing was is no file. -/
theorem sameFiles_put_directory (h : d.entry? place = none) :
    SameFiles d (d.put place .directory) := by
  intro other
  by_cases hkey : other.key = place.key
  · by_cases hroot : other = []
    · rw [hroot]
      rfl
    · have hplace : place ≠ [] := ne_nil_of_ne_directory (by rw [h]; exact nofun)
      have hother : d.entry? other = none := by
        unfold entry? at h ⊢
        rw [if_neg hplace] at h
        rw [if_neg hroot, hkey, h]
      rw [body?, body?, entry?_put, if_neg hroot, if_pos hkey.symm, hother]
  · exact body?_put_of_ne hkey _

/-! ### Directories that stay -/

/-- Paths that lead somewhere on a disk lead there on another. -/
structure KeepsDirectories (d d' : Disk) : Prop where
  workingDirectory : d'.workingDirectory = d.workingDirectory
  directory : ∀ place, d.entry? place = some .directory → d'.entry? place = some .directory

theorem KeepsDirectories.refl (d : Disk) : KeepsDirectories d d := ⟨rfl, fun _ h => h⟩

theorem KeepsDirectories.trans (h : KeepsDirectories d d') (h' : KeepsDirectories d' d'') :
    KeepsDirectories d d'' :=
  ⟨h'.workingDirectory.trans h.workingDirectory, fun place hp => h'.directory place (h.directory place hp)⟩

/-- What is put in no directory's place leaves all directories. -/
theorem keepsDirectories_put (h : d.entry? place ≠ some .directory) (e : DiskEntry) :
    KeepsDirectories d (d.put place e) where
  workingDirectory := rfl
  directory other hother := by
    have hplace := ne_nil_of_ne_directory h
    rw [entry?_put]
    split
    · rfl
    · next hne =>
      rw [if_neg, hother]
      intro hkey
      unfold Disk.entry? at h hother
      rw [if_neg hplace] at h
      rw [if_neg hne, ← hkey] at hother
      exact h hother

theorem follow_of_keeps (h : KeepsDirectories d d') {segments : List (List Char)}
    {start : Location} (hfollow : d.follow start segments = .ok place) :
    d'.follow start segments = .ok place := by
  induction segments generalizing start with
  | nil => exact hfollow
  | cons segment rest ih =>
    obtain ⟨next, hstep, hrest⟩ := bind_eq_ok_iff.mp hfollow
    refine bind_eq_ok_iff.mpr ⟨next, ?_, ih hrest⟩
    unfold step at hstep ⊢
    split at hstep
    · cases hstep
    · cases hstep
    · next hdirectory => rw [h.directory start hdirectory]; exact hstep

/-- **A path leads where it led** while directories stay. -/
theorem resolve_of_keeps (h : KeepsDirectories d d') (hresolve : d.resolve path = .ok place) :
    d'.resolve path = .ok place := by
  unfold resolve at hresolve ⊢
  split at hresolve
  · cases hresolve
  · split at hresolve
    · cases hresolve
    · split at hresolve
      · cases hresolve
      · next hempty hnul hlong =>
        rw [if_neg hempty, if_neg hnul, if_neg hlong, startOf, h.workingDirectory]
        exact follow_of_keeps h hresolve

/-! ### Directories that are created -/

section Created

variable {segments : List (List Char)} {start : Location}

theorem keepsDirectories_createAlong (d : Disk) (start : Location)
    (segments : List (List Char)) : KeepsDirectories d (d.createAlong start segments).2 := by
  induction segments generalizing d start with
  | nil => exact .refl d
  | cons segment rest ih =>
    rw [createAlong]
    split
    · exact .refl d
    · split
      · exact .refl d
      · exact ih d _
      · next hnone =>
        exact (keepsDirectories_put (by rw [hnone]; exact nofun) _).trans (ih _ _)

/-- **Creating directories changes no file,** whether it comes to its end or not. -/
theorem sameFiles_createAlong (d : Disk) (start : Location) (segments : List (List Char)) :
    SameFiles d (d.createAlong start segments).2 := by
  induction segments generalizing d start with
  | nil => exact fun _ => rfl
  | cons segment rest ih =>
    intro other
    rw [createAlong]
    split
    · rfl
    · split
      · rfl
      · exact ih d _ other
      · next hnone =>
        exact (ih _ _ other).trans (sameFiles_put_directory hnone other)

/-- What was created is there when it is created again. -/
theorem createAlong_of_keeps (h : d.createAlong start segments = (.ok (), d'))
    (hkeeps : KeepsDirectories d' d'') : d''.createAlong start segments = (.ok (), d'') := by
  induction segments generalizing d start with
  | nil => rfl
  | cons segment rest ih =>
    -- the next place is a directory, of old or as of now, and stays one
    have hnext {d : Disk} (h : d.createAlong (neighbour start segment) rest = (.ok (), d'))
        (hdirectory : d.entry? (neighbour start segment) = some .directory) :
        d''.entry? (neighbour start segment) = some .directory := by
      have hkept := keepsDirectories_createAlong d (neighbour start segment) rest
      rw [h] at hkept
      exact hkeeps.directory _ (hkept.directory _ hdirectory)
    rw [createAlong] at h ⊢
    split at h
    · cases h
    · next hlong =>
      rw [if_neg hlong]
      split at h
      · cases h
      · next hdirectory =>
        simp only [hnext h hdirectory]
        exact ih h
      · next hnone =>
        have hdirectory : entry? (d.put (neighbour start segment) .directory)
            (neighbour start segment) = some .directory := by
          rw [entry?_put]
          split <;> simp
        simp only [hnext h hdirectory]
        exact ih h

end Created

/-! ### Files -/

theorem writeText_eq_ok_iff : d.writeText path text = .ok d' ↔
    ∃ place, d.resolve path = .ok place ∧ d.entry? place ≠ some .directory ∧
      d' = d.put place (.file (.text text)) := by
  rw [writeText, bind_eq_ok_iff]
  refine exists_congr fun place => and_congr_right fun _ => ?_
  split
  · next hdirectory => simp [hdirectory]
  · next hother =>
    exact ⟨fun h => ⟨hother, (Except.ok.inj h).symm⟩, fun h => congrArg Except.ok h.2.symm⟩

theorem readText_eq_ok_iff : d.readText path = .ok text ↔
    ∃ place, d.resolve path = .ok place ∧ d.body? place = some (.text text) := by
  rw [readText, bind_eq_ok_iff]
  refine exists_congr fun place => and_congr_right fun _ => ?_
  rw [body?_eq_some_iff]
  split <;> simp_all

/-- **A write leaves its text in the file, and all other files as they were.** -/
theorem rewritten_writeText (h : d.writeText path text = .ok d') : Rewritten d d' path text := by
  obtain ⟨place, hresolve, hplace, rfl⟩ := writeText_eq_ok_iff.mp h
  refine ⟨place, resolve_of_keeps (keepsDirectories_put hplace _) hresolve, ?_,
    fun other hother => body?_put_of_ne hother _⟩
  rw [body?_eq_some_iff, entry?_put, if_neg (ne_nil_of_ne_directory hplace), if_pos rfl]

/-- What was written is read. -/
theorem Rewritten.readText (h : Rewritten d d' path text) : d'.readText path = .ok text := by
  obtain ⟨place, hresolve, hbody, -⟩ := h
  exact readText_eq_ok_iff.mpr ⟨place, hresolve, hbody⟩

/-- A write that is preceded by what changes no file. -/
theorem Rewritten.of_sameFiles (h : SameFiles d d') (hw : Rewritten d' d'' path text) :
    Rewritten d d'' path text := by
  obtain ⟨place, hresolve, hbody, hothers⟩ := hw
  exact ⟨place, hresolve, hbody, fun other hother => (hothers other hother).trans (h other)⟩

end PipelineCanvas.Disk
