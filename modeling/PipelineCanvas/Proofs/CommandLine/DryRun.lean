import PipelineCanvas.Proofs.CommandLine.Changes
import PipelineCanvas.Proofs.Session.Required
import PipelineCanvas.Proofs.Session.Resolving

/-!
# The dry run

Before a pipeline is saved, its outline and its submission can be looked at. They are shown in
runs of their own, which load everything anew; a run that saves goes a longer way, by way of the
backend and of the drafts, and empties the session before it prints what was saved. What is shown
is what is saved all the same, since all of it is found in one session: that of the canvas with
its contracts, which comes about before the command makes a difference, and in which the drafts
have no part.

* `CommandLine.Job.Resolves` – the session of a job, whatever its drafts are kept in, and
  **`CommandLine.Job.resolves_or_fails`**;
* `CommandLine.run_perform_save` – what is shown of a pipeline that is saved;
* `CommandLine.Job.Resolves.work_save` and its like – what a job shows, whatever its store is;
* `CommandLine.loadJob_of_readText` – a job is loaded from the files of its pipeline;
* `CommandLine.Outcome.Prints` – a run that prints a value;
* **`CommandLine.dryRun_shows_saved`** – the dry run shows what is saved.
-/

namespace PipelineCanvas

open PipelineCanvas.Action

/-! ### A backend that takes every pipeline -/

namespace CatalogBackend

theorem rejection_ofCatalog (c : Catalog) : (ofCatalog c).rejection = none := by
  have hfold : ∀ b : CatalogBackend, (c.foldl offer b).rejection = b.rejection := by
    induction c with
    | nil => exact fun _ => rfl
    | cons e c ih => exact fun b => ih (b.offer e)
  exact hfold empty

/-- Asking a backend for contracts does not make it refuse pipelines. -/
theorem rejection_replies (queries : List PropertyQuery) (b : CatalogBackend) :
    (Backend.replies queries b).backend.rejection = b.rejection := by
  induction queries generalizing b with
  | nil => rfl
  | cons q queries ih =>
    rcases hfetch : Backend.fetch q b with ⟨e | answer, b'⟩
    all_goals
      have hb' : b'.rejection = b.rejection := by
        have hsnd : b' = (Backend.fetch q b).2 := (congrArg Prod.snd hfetch).symm
        rw [hsnd]
        rfl
    · rw [Backend.replies_cons_of_error hfetch]
      exact hb'
    · rw [Backend.replies_cons_of_ok hfetch]
      exact (ih b').trans hb'

/-- A backend that refuses no pipeline takes each, and keeps it behind those it has. -/
theorem submit_of_rejection {b : CatalogBackend} (h : b.rejection = none) (r : SaveRequest) :
    Backend.submit r b = (.ok (), { b with saves := b.saves + 1, saved := b.saved ++ [r] }) := by
  change submit r b = _
  simp only [submit, h]

end CatalogBackend

namespace CommandLine

/-! ### Fetching the contracts of a job -/

namespace Job

/-- What the catalog of a job replies when it is asked for the contracts of the canvas. -/
def replies (job : Job) : Backend.Replies CatalogBackend :=
  Backend.replies (job.session.nodes.pending.map (·.query job.session.activeTemplate none))
    (.ofCatalog (job.catalog.getD []))

/-- The contracts of the canvas of a job can be fetched, whatever its drafts are kept in; the
session comes to be the given one, and the backend takes every pipeline then. -/
def Resolves (job : Job) (s : Session) : Prop :=
  ∀ (σ : Type) (store : σ), ∃ w : World CatalogBackend σ,
    Action.run job.resolve (job.world store) = (.ok (), w) ∧ w.session = s ∧
      w.backend.rejection = none

variable {job : Job}

theorem run_resolvePending {σ : Type} (job : Job) (store : σ) :
    ∃ w : World CatalogBackend σ,
      (job.world store).Resolves job.session.nodes.pending job.session.activeTemplate
        job.replies w ∧
        Action.run Session.resolvePending (job.world store) =
          match job.replies.failure with
          | none => (.ok job.session.nodes.pending.length, w)
          | some e => (.error (.backend e), w) :=
  Session.run_resolvePending (w := job.world store) (NodeTable.keyed_ofNodes _)

/-- **What drafts are kept in does not matter to the contracts of a canvas:** either they are
fetched whatever it is, or they are not. -/
theorem resolves_or_fails (job : Job) :
    (∃ s, job.Resolves s) ∨ ∃ e, ∀ (σ : Type) (store : σ),
      (Action.run job.resolve (job.world store)).1 = .error e := by
  have hrejection := CatalogBackend.rejection_ofCatalog (job.catalog.getD [])
  by_cases hcatalog : job.catalog.isSome = true
  · have hresolve (σ : Type) : (job.resolve : Action CatalogBackend σ Unit) =
        Session.resolvePending >>= fun _ => pure () := by
      rw [Job.resolve, if_pos hcatalog]
      rfl
    cases hfailure : job.replies.failure with
    | none =>
      let nodes := job.session.nodes.resolving (job.session.nodes.pending.zip job.replies.answers)
      refine .inl ⟨{ job.session with nodes }, fun σ store => ?_⟩
      obtain ⟨w, hresolves, hrun⟩ := job.run_resolvePending store
      rw [hfailure] at hrun
      refine ⟨w, ?_, hresolves.session_eq, ?_⟩
      · rw [hresolve, run_bind, hrun]
        rfl
      · rw [hresolves.backend_eq]
        exact (CatalogBackend.rejection_replies _ _).trans hrejection
    | some e =>
      refine .inr ⟨.backend e, fun σ store => ?_⟩
      obtain ⟨w, -, hrun⟩ := job.run_resolvePending store
      rw [hfailure] at hrun
      rw [hresolve, run_bind, hrun]
  · have hresolve (σ : Type) : (job.resolve : Action CatalogBackend σ Unit) = pure () := by
      rw [Job.resolve, if_neg hcatalog]
    exact .inl ⟨job.session, fun σ store => ⟨_, by rw [hresolve, run_pure], rfl, hrejection⟩⟩

/-- The command of a job has no part in that. -/
theorem Resolves.withCommand {s : Session} (h : job.Resolves s) (command : Command) :
    Job.Resolves { job with command } s := h

theorem Resolves.metadata_eq {s : Session} (h : job.Resolves s) :
    s.metadata = job.canvas.metadata := by
  obtain ⟨w, hrun, rfl, -⟩ := h Unit ()
  rw [← job.metadata_drawn (), Job.drawn, hrun]

end Job

/-! ### Performing a command -/

section Performing

variable {σ : Type} [DraftStore σ] {w : World CatalogBackend σ}

/-- What is shown of a pipeline that is saved. -/
def savedJson (settings : Settings) (s : Session) : Json :=
  .object [("namespace", .string settings.nameSpace), ("name", .string s.metadata.name),
    ("submission", s.submission.toJson)]

theorem fits_savedJson {p : Binary64 → Prop} {n : Nat} (settings : Settings) (s : Session) :
    (savedJson settings s).Fits p (n + 7) := by
  have hsubmission : s.submission.toJson.Fits p (n + 6) := s.submission.fits_toJson
  exact .object (by simp [Json.Fits.string, hsubmission])

/-- **Saving shows what the backend was handed,** if the pipeline is valid. -/
theorem run_perform_save (settings : Settings) (hvalid : w.session.verdict.1.isEmpty = true)
    (hrejection : w.backend.rejection = none) :
    (Action.run (Command.perform settings .save) w).1 = .ok (savedJson settings w.session) := by
  have hsubmit := CatalogBackend.submit_of_rejection hrejection
    (w.session.request settings.nameSpace)
  have hbackend := Operation.backend_step_save_of_valid settings.nameSpace hvalid
  obtain ⟨w₁, w₂, -, -, hrun⟩ := Session.run_save_of_valid settings.nameSpace hvalid
  rw [Operation.step_of_perform_eq (.save settings.nameSpace) (Session.save settings.nameSpace)
    .text rfl, hsubmit] at hbackend
  rw [hsubmit] at hrun
  dsimp only at hbackend hrun
  rw [Command.perform, run_bind, hrun]
  rw [hrun] at hbackend
  dsimp only at hbackend ⊢
  -- of the world behind, in which the session is empty, only what the backend keeps matters
  generalize (Action.run (Session.reset false : Action CatalogBackend σ Unit) _).2 = w'
    at hbackend ⊢
  have hlast : w'.backend.saved.getLast? = some (w.session.request settings.nameSpace) := by
    rw [hbackend]
    exact List.getLast?_concat ..
  have hget : Action.run (get : Action CatalogBackend σ _) w' = (.ok w', w') := rfl
  simp only [run_bind, hget, run_pure, hlast]
  rfl

/-- Only a valid pipeline is saved. -/
theorem isEmpty_verdict_of_save {settings : Settings} {v : Json}
    (h : (Action.run (Command.perform settings .save) w).1 = .ok v) :
    w.session.verdict.1.isEmpty = true := by
  have hrun := Session.saveRun settings.nameSpace w
  rw [Command.perform, run_bind] at h
  generalize Action.run (Session.save settings.nameSpace : Action CatalogBackend σ _) w = r
    at hrun h
  cases hrun with
  | refused hverdict hw => cases h
  | rejected hverdict hw hsubmit hnotes => exact hverdict
  | taken hverdict hw hsubmit hnotes hquiet hstore => exact hverdict

end Performing

/-! ### Doing a job -/

namespace Job

variable {job : Job} {s : Session} {σ : Type} [DraftStore σ]

/-- A job whose contracts can be fetched performs its command on the session with them. -/
theorem Resolves.work_fst (h : job.Resolves s) (store : σ) :
    ∃ w : World CatalogBackend σ, w.session = s ∧ w.backend.rejection = none ∧
      (job.work store).1 =
        (Action.run (job.command.perform job.settings) w).1.mapError .session := by
  obtain ⟨w, hrun, hsession, hrejection⟩ := h σ store
  refine ⟨w, hsession, hrejection, ?_⟩
  rw [Job.work, hrun]

theorem Resolves.work_showOutline (h : job.Resolves s) (hcommand : job.command = .showOutline)
    (store : σ) : (job.work store).1 = .ok s.outline.toJson := by
  obtain ⟨w, rfl, -, hwork⟩ := h.work_fst store
  rw [hwork, hcommand, Command.perform, run_bind, Session.run_readOutline]
  rfl

theorem Resolves.work_showSubmission (h : job.Resolves s)
    (hcommand : job.command = .showSubmission) (store : σ) :
    (job.work store).1 = .ok s.submission.toJson := by
  obtain ⟨w, rfl, -, hwork⟩ := h.work_fst store
  rw [hwork, hcommand, Command.perform, run_bind, Session.run_readSubmission]
  rfl

theorem Resolves.work_save (h : job.Resolves s) (hcommand : job.command = .save)
    (hvalid : s.verdict.1.isEmpty = true) (store : σ) :
    (job.work store).1 = .ok (savedJson job.settings s) := by
  obtain ⟨w, rfl, hrejection, hwork⟩ := h.work_fst store
  rw [hwork, hcommand, run_perform_save job.settings hvalid hrejection]
  rfl

/-- **A pipeline that is saved** is valid, and its contracts can be fetched. -/
theorem resolves_of_save {store : σ} {v : Json} (hcommand : job.command = .save)
    (h : (job.work store).1 = .ok v) : ∃ s, job.Resolves s ∧ s.verdict.1.isEmpty = true := by
  rcases job.resolves_or_fails with ⟨s, hresolves⟩ | ⟨e, hfails⟩
  · refine ⟨s, hresolves, ?_⟩
    obtain ⟨w, rfl, -, hwork⟩ := hresolves.work_fst store
    rw [hwork, hcommand, mapError_eq_ok_iff] at h
    exact isEmpty_verdict_of_save h
  · have hfails := hfails σ store
    rw [Job.work] at h
    rcases hrun : Action.run job.resolve (job.world store) with ⟨e' | ⟨⟩, w⟩
    · rw [hrun] at h
      cases h
    · rw [hrun] at hfails
      cases hfails

end Job

/-! ### Loading a job -/

/-- The files that the pipeline of a run comes from: settings, canvas, and the catalog that the
settings name, if they do. -/
def pipelinePaths (settings : Settings) (settingsPath canvasPath : String) : List String :=
  [settingsPath, canvasPath] ++ settings.catalogPath.toList.map (Path.besides settingsPath)

/-- What a job is loaded from. -/
theorem loadJob_eq_ok_iff {disk : Disk} {settingsPath canvasPath name : String} {job : Job} :
    loadJob disk [settingsPath, canvasPath, name] = .ok job ↔
      Command.ofName? name = some job.command ∧ disk.loadSettings settingsPath = .ok job.settings ∧
        disk.loadCanvas canvasPath = .ok job.canvas ∧
        (job.settings.catalogPath.mapM fun path =>
          disk.loadCatalog (Path.besides settingsPath path)) = .ok job.catalog ∧
        job.draftsPath = job.settings.draftsPath.map (Path.besides settingsPath) := by
  have harguments {p : String × String × Command} :
      arguments [settingsPath, canvasPath, name] = .ok p ↔
        ∃ command, Command.ofName? name = some command ∧
          p = (settingsPath, canvasPath, command) := by
    rw [arguments]
    cases Command.ofName? name <;> simp [eq_comm]
  simp only [loadJob, bind_eq_ok_iff, mapError_eq_ok_iff, harguments]
  constructor
  · rintro ⟨_, ⟨command, hname, rfl⟩, settings, hsettings, canvas, hcanvas, catalog, hcatalog, h⟩
    cases h
    exact ⟨hname, hsettings, hcanvas, hcatalog, rfl⟩
  · rintro ⟨hname, hsettings, hcanvas, hcatalog, hdrafts⟩
    refine ⟨_, ⟨_, hname, rfl⟩, _, hsettings, _, hcanvas, _, hcatalog, ?_⟩
    rw [← hdrafts]
    rfl

/-- What is read alike is loaded alike. -/
theorem load_of_readText {α : Type} {disk disk' : Disk} {path : String}
    (h : disk'.readText path = disk.readText path) (item : Yaml.Place → Yaml.Reader α) :
    disk'.load item path = disk.load item path := by
  rw [Disk.load, h, Disk.load]

/-- **A job is loaded from the files of its pipeline,** for whatever command, and from no
other. -/
theorem loadJob_of_readText {disk disk' : Disk} {settingsPath canvasPath name name' : String}
    {job : Job} {command : Command} (hjob : loadJob disk [settingsPath, canvasPath, name] = .ok job)
    (hread : ∀ path ∈ pipelinePaths job.settings settingsPath canvasPath,
      disk'.readText path = disk.readText path)
    (hname : Command.ofName? name' = some command) :
    loadJob disk' [settingsPath, canvasPath, name'] = .ok { job with command } := by
  obtain ⟨-, hsettings, hcanvas, hcatalog, hdrafts⟩ := loadJob_eq_ok_iff.mp hjob
  refine loadJob_eq_ok_iff.mpr ⟨hname, ?_, ?_, ?_, hdrafts⟩
  · exact (load_of_readText (hread _ (by simp [pipelinePaths])) _).trans hsettings
  · exact (load_of_readText (hread _ (by simp [pipelinePaths])) _).trans hcanvas
  · cases hpath : job.settings.catalogPath with
    | none =>
      rw [hpath] at hcatalog
      exact hcatalog
    | some path =>
      have hloaded : disk'.loadCatalog (Path.besides settingsPath path) =
          disk.loadCatalog (Path.besides settingsPath path) := by
        rw [Disk.loadCatalog, load_of_readText (hread _ (by simp [pipelinePaths, hpath])),
          Disk.loadCatalog]
      rw [hpath] at hcatalog
      rw [Option.mapM_some, hloaded]
      exact hcatalog

/-- What a run shows that has loaded its job is what the job shows with some store. -/
theorem exists_work_of_loadJob {disk : Disk} {args : List String} {job : Job}
    (hjob : loadJob disk args = .ok job) :
    ∃ (σ : Type) (_ : DraftStore σ) (store : σ), (run disk args).shown = (job.work store).1 := by
  cases hpath : job.draftsPath with
  | none =>
    refine ⟨MemoryStore, inferInstance, .empty, ?_⟩
    simp only [run, hjob, hpath]
  | some path =>
    refine ⟨FileStore, inferInstance, ⟨disk, path⟩, ?_⟩
    simp only [run, hjob, hpath]

/-! ### Printing -/

/-- A run that prints a value: it exits with 0, and what it prints is read as the value. -/
structure Outcome.Prints (o : Outcome) (v : Json) : Prop where
  code_eq : o.code = 0
  reads : Json.ofText o.output = .ok v

theorem Outcome.prints_of_shown {o : Outcome} {v : Json} (h : o.shown = .ok v)
    (hfits : v.Fits Binary64.ReadsBack Json.deepestLevel) : o.Prints v.canonical := by
  refine ⟨Outcome.code_eq_zero_iff.mpr ⟨v, h⟩, ?_⟩
  have houtput : o.output = v.canonical.pretty ++ "\n" := by rw [Outcome.output, h]
  rw [houtput, Json.ofText_pretty_line hfits.canonical, Json.canonical_canonical]

/-! ### The dry run -/

/-- What a job shows whatever its store is printed of the files of its pipeline. -/
theorem prints_of_work {disk disk' : Disk} {settingsPath canvasPath name name' : String}
    {job : Job} {command : Command} {v : Json}
    (hjob : loadJob disk [settingsPath, canvasPath, name] = .ok job)
    (hread : ∀ path ∈ pipelinePaths job.settings settingsPath canvasPath,
      disk'.readText path = disk.readText path)
    (hname : Command.ofName? name' = some command)
    (hwork : ∀ {σ : Type} [DraftStore σ] (store : σ),
      (Job.work { job with command } store).1 = .ok v)
    (hfits : v.Fits Binary64.ReadsBack Json.deepestLevel) :
    (run disk' [settingsPath, canvasPath, name']).Prints v.canonical := by
  obtain ⟨_, _, store, hshown⟩ := exists_work_of_loadJob (loadJob_of_readText hjob hread hname)
  exact Outcome.prints_of_shown (hshown.trans (hwork store)) hfits

/-- **The dry run shows what is saved.** If a run saves the pipeline, its outline and its
submission can be shown as well; what is shown as the submission is what is printed of the
pipeline that was saved, beside its name and the namespace. All this depends on the files that
the pipeline comes from and on no other: whatever else is changed on the disk, the drafts that
the settings name above all, the same is printed. -/
theorem dryRun_shows_saved {disk : Disk} {settingsPath canvasPath : String}
    (hsaved : (run disk [settingsPath, canvasPath, "save"]).code = 0) :
    ∃ settings canvas outline submission,
      disk.loadSettings settingsPath = .ok settings ∧ disk.loadCanvas canvasPath = .ok canvas ∧
      ∀ disk' : Disk, (∀ path ∈ pipelinePaths settings settingsPath canvasPath,
          disk'.readText path = disk.readText path) →
        (run disk' [settingsPath, canvasPath, "config"]).Prints outline ∧
        (run disk' [settingsPath, canvasPath, "backend"]).Prints submission ∧
        (run disk' [settingsPath, canvasPath, "save"]).Prints
          (.object [("name", .string canvas.metadata.name),
            ("namespace", .string settings.nameSpace), ("submission", submission)]) := by
  obtain ⟨v, hshown⟩ := Outcome.code_eq_zero_iff.mp hsaved
  cases hjob : loadJob disk [settingsPath, canvasPath, "save"] with
  | error failure =>
    rw [run, hjob] at hshown
    cases hshown
  | ok job =>
    obtain ⟨hname, hsettings, hcanvas, -⟩ := loadJob_eq_ok_iff.mp hjob
    obtain ⟨σ, _, store, hwork⟩ := exists_work_of_loadJob hjob
    rw [hshown] at hwork
    obtain ⟨s, hresolves, hvalid⟩ := Job.resolves_of_save (Option.some.inj hname).symm hwork.symm
    refine ⟨job.settings, job.canvas, s.outline.toJson.canonical, s.submission.toJson.canonical,
      hsettings, hcanvas, fun disk' hread => ⟨?_, ?_, ?_⟩⟩
    · exact prints_of_work hjob hread rfl
        (fun store => (hresolves.withCommand .showOutline).work_showOutline rfl store)
        s.outline.fits_toJson
    · exact prints_of_work hjob hread rfl
        (fun store => (hresolves.withCommand .showSubmission).work_showSubmission rfl store)
        s.submission.fits_toJson
    · rw [← hresolves.metadata_eq]
      exact prints_of_work hjob hread rfl
        (fun store => (hresolves.withCommand .save).work_save rfl hvalid store)
        (fits_savedJson job.settings s)

/-- A disk with a catalog beside what a drafted pipeline is loaded from. -/
def cataloguedDisk : Disk :=
  (draftedDisk.plant "settings.yaml" (.file (.text
    "namespace: ns\ncatalog_path: catalog.yaml\ndrafts_path: drafts.json\n"))).plant "catalog.yaml"
    (.file (.text ("plugins:\n- \x7bname: A, type: source\x7d\n" ++
      "- \x7bname: B, type: sink\x7d\n")))

/-- The drafts are lost, but the same is shown, and the same is saved. -/
theorem dryRun_shows_saved_drafts_lost :
    let lost := cataloguedDisk.plant "drafts.json" (.file .bytes)
    (run cataloguedDisk ["settings.yaml", "canvas.yaml", "save"]).code = 0 ∧
      ∃ submission,
        (run cataloguedDisk ["settings.yaml", "canvas.yaml", "backend"]).Prints submission ∧
        (run lost ["settings.yaml", "canvas.yaml", "save"]).Prints
          (.object [("name", .string "p"), ("namespace", .string "ns"),
            ("submission", submission)]) := by
  intro lost
  obtain ⟨hsaved, hsettings, hcanvas⟩ :
      (run cataloguedDisk ["settings.yaml", "canvas.yaml", "save"]).code = 0 ∧
      cataloguedDisk.loadSettings "settings.yaml" =
        .ok ⟨"ns", some "drafts.json", some "catalog.yaml"⟩ ∧
      (cataloguedDisk.loadCanvas "canvas.yaml").toOption.map (·.metadata.name) = some "p" := by
    decide +kernel
  have hread : ∀ path ∈ pipelinePaths ⟨"ns", some "drafts.json", some "catalog.yaml"⟩
      "settings.yaml" "canvas.yaml", lost.readText path = cataloguedDisk.readText path := by
    decide +kernel
  obtain ⟨settings, canvas, _, submission, hsettings', hcanvas', hprints⟩ :=
    dryRun_shows_saved hsaved
  rw [hsettings] at hsettings'
  cases hsettings'
  rw [hcanvas'] at hcanvas
  have hname : canvas.metadata.name = "p" := Option.some.inj hcanvas
  obtain ⟨-, hshown, -⟩ := hprints cataloguedDisk fun _ _ => rfl
  obtain ⟨-, -, hlost⟩ := hprints lost hread
  rw [hname] at hlost
  exact ⟨hsaved, submission, hshown, hlost⟩

end CommandLine

end PipelineCanvas
