import PipelineCanvas.CommandLine
import PipelineCanvas.Proofs.Drafts.Refinement
import PipelineCanvas.Proofs.Session.Origins
import PipelineCanvas.Proofs.Wire.Depths

/-!
# What a run changes

A run writes at most one file, the one that its settings keep drafts in, and that only at its end:
everything that can fail comes before the write, or after it only with a file that can be read
again, because it was just written. So a run that fails leaves every file alone. What is written
is the document that was there, with the drafts in it replaced, and among these only the one under
the name of the pipeline.

* `Disk.ReplacesDrafts` – two disks that differ in the drafts of one document;
* `Session.saveDraft_cases`, `Session.cleanUp_cases` – what operations do to a file;
* `CommandLine.Job.Leaves`, **`CommandLine.Job.leaves_work`** – what a job comes to;
* `CommandLine.Job.Changes`, **`CommandLine.run_changes`** – what a run changes.
-/

namespace PipelineCanvas

open PipelineCanvas.Action
open Disk (SameFiles Rewritten)

/-! ### The drafts in a file -/

/-- The drafts in the document of a file are replaced: the document has all its other members
still, and no other file is changed. -/
def Disk.ReplacesDrafts (before after : Disk) (path : String)
    (drafts drafts' : List (String × Json)) : Prop :=
  ∃ members, FileStore.document ⟨before, path⟩ = .ok members ∧
    drafts = Session.draftsOf (Entries.get? members draftsKey) ∧
    FileStore.document ⟨after, path⟩ =
      .ok (Entries.insert draftsKey (.object drafts') members) ∧
    ∃ text, Rewritten before after path text

namespace FileStore

variable {s : FileStore} {members : List (String × Json)} {p : Binary64 → Prop} {n : Nat}

/-- A store that is the same leaves all files alone. -/
theorem sameFiles_of_eq {s' : FileStore} (h : s' = s) : SameFiles s.disk s'.disk := by
  subst h
  exact fun _ => rfl

/-- Drafts in a document fit below it. -/
theorem fits_draftsOf (h : (Json.object members).Fits p (n + 2)) (key : String) :
    (Json.object (Session.draftsOf (Entries.get? members key))).Fits p (n + 1) := by
  cases hvalue : Entries.get? members key with
  | none => exact .object (List.forall_mem_nil _)
  | some value =>
    have hfits : value.Fits p (n + 1) := Json.Fits.object_iff.mp h _ (Entries.mem_of_get? hvalue)
    cases value with
    | object drafts => exact hfits
    | _ => exact .object (List.forall_mem_nil _)

theorem canonical_draftsOf (h : (Json.object members).canonical = .object members)
    (key : String) :
    (Json.object (Session.draftsOf (Entries.get? members key))).canonical =
      .object (Session.draftsOf (Entries.get? members key)) := by
  cases hvalue : Entries.get? members key with
  | none => rfl
  | some value =>
    have hcanonical : value.canonical = value :=
      (Json.canonical_object_iff.mp h).2 _ (Entries.mem_of_get? hvalue)
    cases value with
    | object drafts => exact hcanonical
    | _ => rfl

/-- What a store answers is read from the document. -/
theorem get_eq_ok_iff {key : String} {value : Option Json} :
    (DraftStore.get key s).1 = .ok value ↔
      ∃ members, s.document = .ok members ∧ value = Entries.get? members key := by
  change s.document.map _ = _ ↔ _
  cases s.document with
  | error e => exact ⟨nofun, nofun⟩
  | ok members => simp [Except.map, eq_comm]

/-- **Drafts that are written are the drafts of the file from then on,** when they fit as those
fitted that were there. -/
theorem replacesDrafts_of_write {drafts drafts' : List (String × Json)} {disk : Disk}
    (hdocument : s.document = .ok members)
    (hfloats : ∀ x ∈ (Json.object members).floats, x.ReadsBack)
    (hdrafts : drafts = Session.draftsOf (Entries.get? members draftsKey))
    (hfits : (Json.object drafts).Fits Binary64.ReadsBack 126 →
      (Json.object drafts').Fits Binary64.ReadsBack 126)
    (hcanonical : (Json.object drafts).canonical = .object drafts →
      (Json.object drafts').canonical = .object drafts')
    (hwrite : s.write (Entries.insert draftsKey (.object drafts') members) = (.ok (), disk)) :
    s.disk.ReplacesDrafts disk s.path drafts drafts' := by
  subst hdrafts
  obtain ⟨hmembers, hold⟩ := document_fits hdocument
  have hreads : (Json.object members).Fits Binary64.ReadsBack Json.deepestLevel :=
    hmembers.of_floats hfloats
  have hnew : (Json.object (Entries.insert draftsKey (.object drafts') members)).Fits
      Binary64.ReadsBack Json.deepestLevel :=
    hreads.object_insert (hfits (fits_draftsOf hreads draftsKey))
  exact ⟨members, hdocument, rfl,
    document_write hwrite hnew
      (Json.canonical_object_insert hold (hcanonical (canonical_draftsOf hold draftsKey))),
    _, rewritten_write hwrite⟩

end FileStore

/-! ### What operations do to a file -/

namespace Session

variable {β : Type}

/-- There is room for a draft among drafts. -/
theorem fits_withDraft {p : Binary64 → Prop} (s : Session) {drafts : List (String × Json)}
    (h : (Json.object drafts).Fits p 126) : (Json.object (s.withDraft drafts)).Fits p 126 :=
  h.object_insert (s.draft.fits_toJson (n := 119)).canonical

theorem canonical_withDraft (s : Session) {drafts : List (String × Json)}
    (h : (Json.object drafts).canonical = .object drafts) :
    (Json.object (s.withDraft drafts)).canonical = .object (s.withDraft drafts) :=
  Json.canonical_object_insert h (Json.canonical_canonical _)

/-- What becomes of a file when drafts are read from it and written to it. -/
theorem store_writing {w w₁ : World β FileStore} (hw : w.Notes w₁)
    (drafts : List (String × Json)) :
    (w₁.reading.writing drafts).store = (w.store.set draftsKey (.object drafts)).2 := by
  change (w₁.store.set draftsKey (.object drafts)).2 = _
  rw [hw.store_eq]

/-- **Storing a draft writes the document with it, or fails and changes no file.** -/
theorem saveDraft_cases (w : World β FileStore) :
    (∃ members disk, w.store.document = .ok members ∧
        w.store.write (Entries.insert draftsKey (.object (w.session.withDraft
          (draftsOf (Entries.get? members draftsKey)))) members) = (.ok (), disk) ∧
        (run (saveDraft : Action β FileStore Unit) w).1 = .ok () ∧
        (run (saveDraft : Action β FileStore Unit) w).2.store = ⟨disk, w.store.path⟩) ∨
      ((∃ e, (run (saveDraft : Action β FileStore Unit) w).1 = .error e) ∧
        SameFiles w.store.disk (run (saveDraft : Action β FileStore Unit) w).2.store.disk) := by
  have hrun := saveDraftRun w
  generalize run (saveDraft : Action β FileStore Unit) w = r at hrun
  cases hrun with
  | refused hverdict hw => exact .inr ⟨⟨_, rfl⟩, FileStore.sameFiles_of_eq hw.store_eq⟩
  | unread hw hget => exact .inr ⟨⟨_, rfl⟩, FileStore.sameFiles_of_eq hw.store_eq⟩
  | @unwritten w₁ value e hw hget hset =>
    have hset : (w.store.set draftsKey (.object (w.session.withDraft (draftsOf value)))).1 =
      .error e := hset
    refine .inr ⟨⟨_, rfl⟩, ?_⟩
    rcases w.store.set_cases draftsKey (.object (w.session.withDraft (draftsOf value))) with
      ⟨members, disk, -, -, hdone⟩ | ⟨-, hsame⟩
    · rw [hdone] at hset
      cases hset
    · dsimp only
      rw [store_writing hw]
      exact hsame
  | @stored w₁ w₂ value hw hget hset hnotes =>
    have hset : (w.store.set draftsKey (.object (w.session.withDraft (draftsOf value)))).1 =
      .ok () := hset
    have hstore := hnotes.store_eq.trans (store_writing hw _)
    rcases w.store.set_cases draftsKey (.object (w.session.withDraft (draftsOf value))) with
      ⟨members, disk, hdocument, hwrite, hdone⟩ | ⟨hfailed, -⟩
    · obtain ⟨_, hdocument', rfl⟩ := FileStore.get_eq_ok_iff.mp hget
      rw [hdocument] at hdocument'
      cases hdocument'
      exact .inl ⟨members, disk, hdocument, hwrite, rfl, by rw [hstore, hdone]⟩
    · exact absurd hset hfailed

/-- **Dropping a draft writes the document without it, if it is there, or changes no file.** -/
theorem cleanUp_cases (name : String) (w : World β FileStore) :
    (∃ members disk stored, w.store.document = .ok members ∧
        Entries.get? (draftsOf (Entries.get? members draftsKey)) name = some stored ∧
        w.store.write (Entries.insert draftsKey (.object (Entries.erase name
          (draftsOf (Entries.get? members draftsKey)))) members) = (.ok (), disk) ∧
        (run (cleanUp name : Action β FileStore Unit) w).2.store = ⟨disk, w.store.path⟩) ∨
      SameFiles w.store.disk (run (cleanUp name : Action β FileStore Unit) w).2.store.disk := by
  have hrun := cleanUpRun name w
  generalize run (cleanUp name : Action β FileStore Unit) w = r at hrun
  cases hrun with
  | unread hget hnotes => exact .inr (FileStore.sameFiles_of_eq hnotes.store_eq)
  | missing hget hmissing => exact .inr (FileStore.sameFiles_of_eq rfl)
  | @written w₁ value stored hget hstored hnotes =>
    have hstore := hnotes.store_eq.trans (store_writing (.refl w) _)
    dsimp only
    rw [hstore]
    rcases w.store.set_cases draftsKey (.object (Entries.erase name (draftsOf value))) with
      ⟨members, disk, hdocument, hwrite, hdone⟩ | ⟨-, hsame⟩
    · obtain ⟨_, hdocument', rfl⟩ := FileStore.get_eq_ok_iff.mp hget
      rw [hdocument] at hdocument'
      cases hdocument'
      exact .inl ⟨members, disk, stored, hdocument, hstored, hwrite, by rw [hdone]⟩
    · exact .inr hsame

/-! ### What fetching contracts leaves alone -/

section Fetching

variable {σ : Type} [Backend β]

/-- Resolving a node concerns neither the store nor the metadata. -/
theorem store_run_resolveNode (id : String) (template : TemplateKind) (scope : Option String)
    (w : World β σ) :
    (run (resolveNode id template scope : Action β σ Unit) w).2.store = w.store ∧
      (run (resolveNode id template scope : Action β σ Unit) w).2.session.metadata =
        w.session.metadata := by
  cases hn : w.session.nodes.get? id with
  | none =>
    simp only [resolveNode, run_bind, run_session, hn, run_pure, and_self]
  | some n =>
    obtain ⟨w₁, w₂, hw, hnotes, hrun⟩ := run_resolved n template scope w
    have hstore : w₂.store = w.store := hnotes.store_eq.trans hw.store_eq
    have hsession : w₂.session = w.session := hnotes.session_eq.trans hw.session_eq
    simp only [resolveNode, run_bind, run_session, hn, hrun]
    cases (Backend.fetch (n.query template scope) w.backend).1 with
    | ok answers =>
      simp only [run_update]
      exact ⟨hstore, by rw [hsession]⟩
    | error e => exact ⟨hstore, by rw [hsession]⟩

theorem store_run_resolvePending (w : World β σ) :
    (run (resolvePending : Action β σ Nat) w).2.store = w.store ∧
      (run (resolvePending : Action β σ Nat) w).2.session.metadata = w.session.metadata := by
  have hloop := Action.forIn_induction
    (P := fun w' : World β σ => w'.store = w.store ∧ w'.session.metadata = w.session.metadata)
    (l := w.session.nodes.pendingIds)
    (f := fun id => resolveNode id w.session.activeTemplate none)
    (fun id w' h => by
      obtain ⟨hstore, hmetadata⟩ :=
        store_run_resolveNode id w.session.activeTemplate none w'
      exact ⟨hstore.trans h.1, hmetadata.trans h.2⟩) (w := w) ⟨rfl, rfl⟩
  simp only [resolvePending, run_bind, run_session]
  split
  · next hr =>
    rw [hr] at hloop
    exact hloop
  · next hr =>
    rw [hr] at hloop
    exact hloop

end Fetching

end Session

namespace CommandLine

/-! ### Jobs -/

section Jobs

variable {σ : Type}

/-- The session of a job when its contracts are fetched. -/
def Job.drawn (job : Job) (store : σ) : Session :=
  (Action.run (job.resolve : Action CatalogBackend σ Unit) (job.world store)).2.session

/-- Fetching the contracts of a job concerns neither the store nor the metadata. -/
theorem Job.store_run_resolve (job : Job) (w : World CatalogBackend σ) :
    (Action.run (job.resolve : Action CatalogBackend σ Unit) w).2.store = w.store ∧
      (Action.run (job.resolve : Action CatalogBackend σ Unit) w).2.session.metadata =
        w.session.metadata := by
  have hpending := Session.store_run_resolvePending w
  unfold Job.resolve
  split
  · have hdiscard : (discard Session.resolvePending : Action CatalogBackend σ Unit) =
        Session.resolvePending >>= fun _ => pure () := rfl
    rw [hdiscard, run_bind]
    split
    · next hr =>
      rw [hr] at hpending
      exact hpending
    · next hr =>
      rw [hr] at hpending
      exact hpending
  · exact ⟨rfl, rfl⟩

theorem Job.metadata_drawn (job : Job) (store : σ) :
    (job.drawn store).metadata = job.canvas.metadata :=
  (job.store_run_resolve (job.world store)).2

end Jobs

/-- What a job comes to, with its drafts in a file. -/
inductive Job.Leaves (job : Job) (s : FileStore) : Except Failure Json × FileStore → Prop where
  /-- No file is changed, and no draft was stored. -/
  | untouched {shown : Except Failure Json} {s' : FileStore} (hsame : SameFiles s.disk s'.disk)
      (hdraft : job.command = .saveDraft → ∃ e, shown = .error e) : Leaves job s (shown, s')
  /-- The draft of the canvas is stored under the name of the pipeline. -/
  | stored {v : Json} {s' : FileStore} {drafts : List (String × Json)}
      (hcommand : job.command = .saveDraft)
      (hdrafts : s.disk.ReplacesDrafts s'.disk s.path drafts (Entries.insert
        job.canvas.metadata.name (job.drawn s).draft.toJson.canonical drafts)) :
      Leaves job s (.ok v, s')
  /-- The pipeline is saved, and the draft under its name dropped. -/
  | dropped {v : Json} {s' : FileStore} {drafts : List (String × Json)}
      (hcommand : job.command = .save)
      (hname : (Entries.get? drafts job.canvas.metadata.name).isSome)
      (hdrafts : s.disk.ReplacesDrafts s'.disk s.path drafts
        (Entries.erase job.canvas.metadata.name drafts)) :
      Leaves job s (.ok v, s')

section Leaving

variable {job : Job} {s : FileStore}
  (hfloats : ∀ members, s.document = .ok members →
    ∀ x ∈ (Json.object members).floats, x.ReadsBack)
  {w : World CatalogBackend FileStore}

include hfloats

/-- Storing a draft and listing the names of all drafts: what was written can be read. -/
theorem Job.leaves_saveDraft (hcommand : job.command = .saveDraft) (hstore : w.store = s)
    (hsession : w.session = job.drawn s) :
    job.Leaves s
      ((Action.run (Command.perform job.settings .saveDraft) w).1.mapError Failure.session,
        (Action.run (Command.perform job.settings .saveDraft) w).2.store) := by
  subst hstore
  simp only [Command.perform, run_bind]
  rcases hr : Action.run (Session.saveDraft : Action CatalogBackend FileStore Unit) w with
    ⟨shown, w'⟩
  rcases Session.saveDraft_cases w with
    ⟨members, disk, hdocument, hwrite, hok, hwritten⟩ | ⟨⟨e, herror⟩, hsame⟩
  · rw [hr] at hok hwritten
    obtain rfl : shown = .ok () := hok
    have hwritten : w'.store = ⟨disk, w.store.path⟩ := hwritten
    have hdrafts := FileStore.replacesDrafts_of_write hdocument (hfloats members hdocument) rfl
      w.session.fits_withDraft w.session.canonical_withDraft hwrite
    have hread : ∃ value, (DraftStore.get draftsKey w'.store).1 = .ok value := by
      obtain ⟨_, -, -, hread, -⟩ := hdrafts
      exact ⟨_, FileStore.get_eq_ok_iff.mpr ⟨_, hwritten ▸ hread, rfl⟩⟩
    obtain ⟨value, hget⟩ := hread
    simp only [Session.draftNames, run_bind, Session.run_readDrafts, hget, run_pure]
    rw [Session.withDraft, hsession, job.metadata_drawn] at hdrafts
    have hdisk : w'.reading.store.disk = disk := congrArg FileStore.disk hwritten
    exact .stored hcommand (hdisk ▸ hdrafts)
  · rw [hr] at herror hsame
    obtain rfl : shown = .error e := herror
    exact .untouched hsame fun _ => ⟨_, rfl⟩

/-- Saving: what fails, fails before the drafts are touched. -/
theorem Job.leaves_save (hcommand : job.command = .save) (hstore : w.store = s)
    (hsession : w.session = job.drawn s) :
    job.Leaves s
      ((Action.run (Command.perform job.settings .save) w).1.mapError Failure.session,
        (Action.run (Command.perform job.settings .save) w).2.store) := by
  subst hstore
  have hdraft : job.command = .saveDraft → False := by
    rw [hcommand]
    exact nofun
  simp only [Command.perform, run_bind]
  have hrun := Session.saveRun job.settings.nameSpace w
  generalize Action.run (Session.save job.settings.nameSpace : Action CatalogBackend FileStore _) w =
    r at hrun
  cases hrun with
  | refused hverdict hw =>
    exact .untouched (FileStore.sameFiles_of_eq hw.store_eq) fun h => (hdraft h).elim
  | rejected hverdict hw hsubmit hnotes =>
    exact .untouched (FileStore.sameFiles_of_eq (hnotes.store_eq.trans hw.store_eq))
      fun h => (hdraft h).elim
  | @taken w₁ w₂ w₃ hverdict hw hsubmit hnotes hquiet hcleaned =>
    have hstore : w₂.store = w.store := hnotes.store_eq.trans hw.store_eq
    have hname : w.session.metadata.name = job.canvas.metadata.name := by
      rw [hsession, job.metadata_drawn]
    change job.Leaves w.store (.ok _, w₃.store)
    rw [hcleaned, hname]
    rcases Session.cleanUp_cases job.canvas.metadata.name w₂ with
      ⟨members, disk, stored, hdocument, hstored, hwrite, hwritten⟩ | hsame
    · rw [hstore] at hdocument hwrite hwritten
      have hdrafts := FileStore.replacesDrafts_of_write hdocument (hfloats members hdocument) rfl
        (·.object_erase job.canvas.metadata.name)
        (Json.canonical_object_erase · job.canvas.metadata.name) hwrite
      rw [hwritten]
      exact .dropped hcommand (Option.isSome_iff_exists.mpr ⟨stored, hstored⟩) hdrafts
    · rw [hstore] at hsame
      exact .untouched hsame fun h => (hdraft h).elim

/-- **What a job comes to.** -/
theorem Job.leaves_work : job.Leaves s (job.work s) := by
  obtain ⟨hstore, -⟩ := job.store_run_resolve (job.world s)
  have hsession : (Action.run (job.resolve : Action CatalogBackend FileStore Unit)
      (job.world s)).2.session = job.drawn s := rfl
  unfold Job.work
  rcases hresolve : Action.run (job.resolve : Action CatalogBackend FileStore Unit)
    (job.world s) with ⟨e | ⟨⟩, w⟩
  all_goals
    rw [hresolve] at hstore hsession
    have hsame : SameFiles s.disk w.store.disk := FileStore.sameFiles_of_eq hstore
  · exact .untouched hsame fun _ => ⟨_, rfl⟩
  · change job.Leaves s ((Action.run (job.command.perform job.settings) w).1.mapError .session,
      (Action.run (job.command.perform job.settings) w).2.store)
    cases hcommand : job.command with
    | showOutline =>
      simp only [Command.perform, run_bind, Session.run_readOutline, run_pure]
      exact .untouched hsame (by rw [hcommand]; exact nofun)
    | showSubmission =>
      simp only [Command.perform, run_bind, Session.run_readSubmission, run_pure]
      exact .untouched hsame (by rw [hcommand]; exact nofun)
    | saveDraft => exact leaves_saveDraft hfloats hcommand hstore hsession
    | save => exact leaves_save hfloats hcommand hstore hsession

end Leaving

/-! ### Runs -/

/-- Where the parts of a job are loaded from. -/
theorem loadJob_sources {disk : Disk} {args : List String} {job : Job}
    (h : loadJob disk args = .ok job) :
    ∃ settingsPath canvasPath, arguments args = .ok (settingsPath, canvasPath, job.command) ∧
      disk.loadSettings settingsPath = .ok job.settings ∧
      disk.loadCanvas canvasPath = .ok job.canvas ∧
      job.draftsPath = job.settings.draftsPath.map (Path.besides settingsPath) := by
  obtain ⟨⟨settingsPath, canvasPath, command⟩, harguments, h⟩ := bind_eq_ok_iff.mp h
  obtain ⟨settings, hsettings, h⟩ := bind_eq_ok_iff.mp h
  obtain ⟨canvas, hcanvas, h⟩ := bind_eq_ok_iff.mp h
  obtain ⟨catalog, -, h⟩ := bind_eq_ok_iff.mp h
  cases h
  exact ⟨settingsPath, canvasPath, harguments, mapError_eq_ok_iff.mp hsettings,
    mapError_eq_ok_iff.mp hcanvas, rfl⟩

/-- What a job changes that succeeds: nothing when it only shows something or keeps no drafts in
a file; when it stores a draft, the draft under the name of the pipeline; when it saves, at most
that the draft under this name, if there is one, goes. -/
def Job.Changes (job : Job) (before after : Disk) : Prop :=
  match job.command, job.draftsPath with
  | .saveDraft, some path => ∃ drafts, before.ReplacesDrafts after path drafts
      (Entries.insert job.canvas.metadata.name
        (job.drawn (⟨before, path⟩ : FileStore)).draft.toJson.canonical drafts)
  | .save, some path => SameFiles before after ∨
      ∃ drafts, (Entries.get? drafts job.canvas.metadata.name).isSome ∧
        before.ReplacesDrafts after path drafts
          (Entries.erase job.canvas.metadata.name drafts)
  | _, _ => SameFiles before after

/-- A job that leaves all files alone has changed what it should, unless it was to store a
draft in one. -/
theorem Job.Changes.of_sameFiles {job : Job} {before after : Disk}
    (hsame : SameFiles before after)
    (h : job.command = .saveDraft → job.draftsPath = none) : job.Changes before after := by
  unfold Changes
  split
  · next hcommand hpath => exact absurd (h hcommand) (by rw [hpath]; exact nofun)
  · exact .inl hsame
  · exact hsame

theorem Job.Leaves.changes {job : Job} {disk : Disk} {path : String} {v : Json}
    {s' : FileStore} (hpath : job.draftsPath = some path)
    (h : job.Leaves ⟨disk, path⟩ (.ok v, s')) : job.Changes disk s'.disk := by
  cases h with
  | untouched hsame hdraft =>
    refine .of_sameFiles hsame fun hcommand => ?_
    obtain ⟨_, hfailed⟩ := hdraft hcommand
    cases hfailed
  | stored hcommand hdrafts =>
    rw [Changes, hcommand, hpath]
    exact ⟨_, hdrafts⟩
  | dropped hcommand hname hdrafts =>
    rw [Changes, hcommand, hpath]
    exact .inr ⟨_, hname, hdrafts⟩

/-- Only a job that succeeds has changed a file. -/
theorem Job.Leaves.sameFiles {job : Job} {s s' : FileStore} {e : Failure}
    (h : job.Leaves s (.error e, s')) : SameFiles s.disk s'.disk := by
  cases h with
  | untouched hsame _ => exact hsame

theorem Outcome.code_eq_zero_iff {o : Outcome} : o.code = 0 ↔ ∃ v, o.shown = .ok v := by
  unfold code
  cases o.shown <;> simp

theorem Outcome.code_ne_zero_iff {o : Outcome} : o.code ≠ 0 ↔ ∃ e, o.shown = .error e := by
  unfold code
  cases o.shown <;> simp

/-- **What a run changes that has loaded its job.** -/
theorem changes_of_loadJob {disk : Disk} {args : List String} {job : Job}
    (hjob : loadJob disk args = .ok job)
    (hfloats : ∀ path members, job.draftsPath = some path →
      FileStore.document ⟨disk, path⟩ = .ok members →
      ∀ x ∈ (Json.object members).floats, x.ReadsBack) :
    (∀ e, (run disk args).shown = .error e → SameFiles disk (run disk args).disk) ∧
      ∀ v, (run disk args).shown = .ok v → job.Changes disk (run disk args).disk := by
  cases hpath : job.draftsPath with
  | none =>
    have hrun : run disk args = ⟨disk, (job.work MemoryStore.empty).1⟩ := by
      simp only [run, hjob, hpath]
    rw [hrun]
    exact ⟨fun _ _ _ => rfl, fun _ _ => .of_sameFiles (fun _ => rfl) fun _ => hpath⟩
  | some path =>
    have hleaves : job.Leaves ⟨disk, path⟩ (job.work (⟨disk, path⟩ : FileStore)) :=
      Job.leaves_work fun members => hfloats path members hpath
    rcases hwork : job.work (⟨disk, path⟩ : FileStore) with ⟨shown, s'⟩
    have hrun : run disk args = ⟨s'.disk, shown⟩ := by simp only [run, hjob, hpath, hwork]
    rw [hwork] at hleaves
    rw [hrun]
    constructor
    · rintro e rfl
      exact hleaves.sameFiles
    · rintro v rfl
      exact hleaves.changes hpath

/-- **A run changes no file but that of the drafts.** One that fails changes none. One that
succeeds changes what its command says, in the file that the settings name. The floats of a file
that is written anew must be read as they are printed. -/
theorem run_changes (disk : Disk) (args : List String)
    (hfloats : ∀ job path members, loadJob disk args = .ok job → job.draftsPath = some path →
      FileStore.document ⟨disk, path⟩ = .ok members →
      ∀ x ∈ (Json.object members).floats, x.ReadsBack) :
    ((run disk args).code ≠ 0 → SameFiles disk (run disk args).disk) ∧
      ((run disk args).code = 0 → ∃ settingsPath canvasPath job,
        arguments args = .ok (settingsPath, canvasPath, job.command) ∧
        disk.loadSettings settingsPath = .ok job.settings ∧
        disk.loadCanvas canvasPath = .ok job.canvas ∧
        job.draftsPath = job.settings.draftsPath.map (Path.besides settingsPath) ∧
        loadJob disk args = .ok job ∧ job.Changes disk (run disk args).disk) := by
  rw [Outcome.code_ne_zero_iff, Outcome.code_eq_zero_iff]
  cases hjob : loadJob disk args with
  | error failure =>
    have hrun : run disk args = ⟨disk, .error failure⟩ := by rw [run, hjob]
    rw [hrun]
    exact ⟨fun _ _ => rfl, fun ⟨_, h⟩ => nomatch h⟩
  | ok job =>
    obtain ⟨hfailed, hdone⟩ := changes_of_loadJob hjob fun path members => hfloats job path members hjob
    obtain ⟨settingsPath, canvasPath, harguments, hsettings, hcanvas, hdrafts⟩ :=
      loadJob_sources hjob
    exact ⟨fun ⟨e, h⟩ => hfailed e h, fun ⟨v, h⟩ => ⟨settingsPath, canvasPath, job, harguments,
      hsettings, hcanvas, hdrafts, rfl, hdone v h⟩⟩

/-- A disk with settings, a canvas, and a draft of its pipeline. -/
def draftedDisk : Disk :=
  ((Disk.empty.plant "settings.yaml"
    (.file (.text "namespace: ns\ndrafts_path: drafts.json\n"))).plant "canvas.yaml"
    (.file (.text ("metadata: \x7bname: p\x7d\nnodes:\n" ++
      "- \x7bid: a, name: A, type: source\x7d\n- \x7bid: b, name: B, type: sink\x7d\n" ++
      "connections:\n- \x7bsourceId: a, targetId: b\x7d\n")))).plant "drafts.json"
    (.file (.text "\x7b\"kept\": 1.5, \"pipelineDrafts\": \x7b\"p\": 2\x7d\x7d"))

/-- The pipeline is saved, and its draft goes. -/
theorem run_changes_draft_goes :
    (run draftedDisk ["settings.yaml", "canvas.yaml", "save"]).code = 0 ∧
      ∃ drafts, (Entries.get? drafts "p").isSome ∧
        draftedDisk.ReplacesDrafts (run draftedDisk ["settings.yaml", "canvas.yaml", "save"]).disk
          "drafts.json" drafts (Entries.erase "p" drafts) := by
  obtain ⟨hloaded, hcode, hbody⟩ :
      (loadJob draftedDisk ["settings.yaml", "canvas.yaml", "save"]).toOption.map
        (fun job => (job.command, job.draftsPath, job.canvas.metadata.name)) =
          some (.save, some "drafts.json", "p") ∧
      (run draftedDisk ["settings.yaml", "canvas.yaml", "save"]).code = 0 ∧
      (run draftedDisk ["settings.yaml", "canvas.yaml", "save"]).disk.body? ["drafts.json"] ≠
        draftedDisk.body? ["drafts.json"] := by decide +kernel
  have hjobs : ∀ job, loadJob draftedDisk ["settings.yaml", "canvas.yaml", "save"] = .ok job →
      job.command = .save ∧ job.draftsPath = some "drafts.json" ∧ job.canvas.metadata.name = "p" := by
    intro job hjob
    rw [hjob] at hloaded
    simpa only [Except.toOption, Option.map_some, Option.some.injEq, Prod.mk.injEq] using hloaded
  have hread : ∀ x ∈ ((FileStore.document ⟨draftedDisk, "drafts.json"⟩).toOption.elim []
      fun members => (Json.object members).floats), x.ReadsBack := by decide +kernel
  obtain ⟨-, hdone⟩ := run_changes draftedDisk ["settings.yaml", "canvas.yaml", "save"] (by
    intro job path members hjob hpath hdocument
    rw [(hjobs job hjob).2.1] at hpath
    cases hpath
    rw [hdocument] at hread
    exact hread)
  obtain ⟨_, _, job, -, -, -, -, hjob, hchanges⟩ := hdone hcode
  obtain ⟨hcommand, hdrafts, hname⟩ := hjobs job hjob
  rw [Job.Changes, hcommand, hdrafts, hname] at hchanges
  exact ⟨hcode, hchanges.resolve_left fun hsame => hbody (hsame _)⟩

end CommandLine

end PipelineCanvas
