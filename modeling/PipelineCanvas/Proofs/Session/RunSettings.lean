import PipelineCanvas.Proofs.Session.Reopening

/-!
# What a draft keeps of the run settings

A session keeps a schedule and a number of instances side by side, whatever the template, so
that switching the template loses neither. A draft has no metadata of its own. It carries its
submission, and a submission has no more than the run setting of its template. The other
setting is *idle*: nothing looks at it until the template is switched, and a draft does not
store it. Whoever opens the draft gets the default in its place.

* `Template.stored` – what comes back of run settings out of a draft;
* `Template.stored_eq_iff`, `Template.switchedTo_stored_iff` – it is all of them exactly when
  the idle settings are the default ones;
* **`importDraft_metadata`** – the metadata of a draft that is opened.
-/

namespace PipelineCanvas

open FaithfulStore

namespace Template

variable (t : Template)

/-- The run settings when another template is chosen. -/
def switchedTo (kind : TemplateKind) : Template := { t with kind := some kind }

/-- What comes back of run settings that are stored in a draft: the one of the chosen
template, and the default in place of an idle one. -/
def stored : Template :=
  match t.kind with
  | some .batch => { ofKind (some .batch) with cron := t.cron }
  | some .realtime => { ofKind (some .realtime) with instances := t.instances }
  | none => ofKind none

/-- A run setting that does not go with the chosen template is the default one. -/
structure IdleUnset : Prop where
  cron_eq : t.kind ≠ some .batch → t.cron = defaultCron
  instances_eq : t.kind ≠ some .realtime → t.instances = defaultInstances

@[simp] theorem kind_stored : t.stored.kind = t.kind := by
  obtain ⟨kind, instances, cron⟩ := t
  obtain _ | ⟨_ | _⟩ := kind <;> rfl

theorem cron_stored : t.stored.cron = if t.kind = some .batch then t.cron else defaultCron := by
  obtain ⟨kind, instances, cron⟩ := t
  obtain _ | ⟨_ | _⟩ := kind <;> rfl

theorem instances_stored :
    t.stored.instances = if t.kind = some .realtime then t.instances else defaultInstances := by
  obtain ⟨kind, instances, cron⟩ := t
  obtain _ | ⟨_ | _⟩ := kind <;> rfl

variable {t}

/-- No run setting is lost exactly when the idle ones are the default ones. -/
theorem settings_stored_iff :
    t.stored.cron = t.cron ∧ t.stored.instances = t.instances ↔ t.IdleUnset := by
  rw [cron_stored, instances_stored]
  constructor
  · rintro ⟨hcron, hinstances⟩
    refine ⟨fun hkind => ?_, fun hkind => ?_⟩
    · rw [← hcron, if_neg hkind]
    · rw [← hinstances, if_neg hkind]
  · intro h
    refine ⟨?_, ?_⟩
    · split
      · rfl
      · next hkind => exact (h.cron_eq hkind).symm
    · split
      · rfl
      · next hkind => exact (h.instances_eq hkind).symm

/-- **Run settings come back whole exactly when the idle ones are the default ones.** -/
theorem stored_eq_iff : t.stored = t ↔ t.IdleUnset := by
  rw [← settings_stored_iff]
  constructor
  · intro h
    exact ⟨congrArg cron h, congrArg instances h⟩
  · rintro ⟨hcron, hinstances⟩
    have hkind := t.kind_stored
    generalize t.stored = t' at hcron hinstances hkind
    obtain ⟨_, _, _⟩ := t'
    cases hcron
    cases hinstances
    cases hkind
    rfl

/-- **Switching the template tells stored settings from those that were set,** unless the idle
ones are the default ones. It makes no difference what is switched to: both settings are there
to be seen in the session. -/
theorem switchedTo_stored_iff (kind : TemplateKind) :
    t.stored.switchedTo kind = t.switchedTo kind ↔ t.IdleUnset := by
  rw [← settings_stored_iff, switchedTo, switchedTo, mk.injEq]
  exact ⟨fun ⟨_, hinstances, hcron⟩ => ⟨hcron, hinstances⟩,
    fun ⟨hcron, hinstances⟩ => ⟨rfl, hinstances, hcron⟩⟩

end Template

/-- **What a submission tells of the metadata that it was made with.** -/
theorem Submission.metadata_build (o : Outline) (m : Metadata) :
    (build o m).metadata m.name = { m with template := m.template.stored } := by
  obtain ⟨name, description, ⟨kind, instances, cron⟩⟩ := m
  obtain _ | ⟨_ | _⟩ := kind <;> rfl

section

variable {β γ σ : Type} [Backend β] [Backend γ] [DraftStore σ] [FaithfulStore σ]

/-- A draft that was stored, and neither overwritten nor dropped since, is opened. -/
theorem step_importDraft_saved {w : World β σ}
    (hsaved : (Operation.saveDraft.step w).1 = .ok .done) {t : World γ σ}
    (hkept : DraftOutlives w.session.metadata.name (Operation.saveDraft.step w).2.store t.store) :
    ∃ t' : World γ σ, (Operation.importDraft w.session.metadata.name).step t = (.ok .done, t') ∧
      t'.session = t.session.opening w.session.draft w.session.metadata.name := by
  have hstored : draft? t.store w.session.metadata.name =
      some w.session.draft.toJson.canonical := hkept.draft?_eq.trans (draft?_saveDraft hsaved)
  obtain ⟨t', hrun, hsession⟩ := Session.run_importDraft_of_draft? hstored
  refine ⟨t', ?_, hsession⟩
  rw [Operation.step_of_perform_eq (.importDraft w.session.metadata.name)
    (Session.importDraft w.session.metadata.name : Action γ σ Unit) (fun _ => .done) rfl, hrun]
  rfl

/-- The metadata of an opened draft is that of the session that stored it, but for the idle
run settings. -/
theorem metadata_step_importDraft {w : World β σ}
    (hsaved : (Operation.saveDraft.step w).1 = .ok .done) {t : World γ σ}
    (hkept : DraftOutlives w.session.metadata.name (Operation.saveDraft.step w).2.store t.store) :
    let opened := (Operation.importDraft w.session.metadata.name).step t
    opened.1 = .ok .done ∧
      opened.2.session.metadata =
        { w.session.metadata with template := w.session.metadata.template.stored } := by
  obtain ⟨t', hstep, hsession⟩ := step_importDraft_saved hsaved hkept
  rw [hstep]
  refine ⟨rfl, ?_⟩
  dsimp only
  rw [hsession]
  exact Submission.metadata_build w.session.outline w.session.metadata

/-- **The metadata of a draft that is opened.** Whatever session stored it and whatever session
opens it: as long as the draft is neither overwritten nor dropped it is opened, with the name,
the description, the template and the run setting of that template. The metadata is that of the
session that stored it – and switching the template leads to the same settings as it would
have led to there – exactly when the run settings idle there were the default ones. -/
theorem importDraft_metadata {w : World β σ}
    (hsaved : (Operation.saveDraft.step w).1 = .ok .done) {t : World γ σ}
    (hkept : DraftOutlives w.session.metadata.name (Operation.saveDraft.step w).2.store t.store) :
    let opened := (Operation.importDraft w.session.metadata.name).step t
    let before := w.session.metadata
    let after := opened.2.session.metadata
    opened.1 = .ok .done ∧
      after = { before with template := before.template.stored } ∧
      (after = before ↔ before.template.IdleUnset) ∧
      ∀ kind, after.template.switchedTo kind = before.template.switchedTo kind ↔
        before.template.IdleUnset := by
  intro opened before after
  obtain ⟨hanswer, hafter⟩ : opened.1 = .ok .done ∧
      after = { before with template := before.template.stored } :=
    metadata_step_importDraft hsaved hkept
  refine ⟨hanswer, hafter, ?_, fun kind => ?_⟩
  · rw [hafter, ← Template.stored_eq_iff]
    constructor
    · exact congrArg Metadata.template
    · intro hstored
      rw [hstored]
  · rw [hafter]
    exact Template.switchedTo_stored_iff kind

end

/-- A realtime pipeline with the default schedule is reopened with its four instances, and has
that schedule when it is switched to batch. -/
theorem importDraft_metadata_realtime :
    let m : Metadata := ⟨"events", "hourly", ⟨some .realtime, 4, Template.defaultCron⟩⟩
    let w : World CatalogBackend MemoryStore :=
      ⟨{ Session.fresh with metadata := m }, .empty, .empty, []⟩
    let t : World CatalogBackend MemoryStore :=
      ⟨{ Session.fresh with metadata := .named "others" }, .empty,
        (Operation.saveDraft.step w).2.store, []⟩
    (Operation.saveDraft.step w).1 = .ok .done ∧
      ((Operation.importDraft "events").step t).1 = .ok .done ∧
      ((Operation.importDraft "events").step t).2.session.metadata = m ∧
      ((Operation.importDraft "events").step t).2.session.metadata.template.switchedTo .batch =
        m.template.switchedTo .batch := by
  intro m w t
  have hsaved : (Operation.saveDraft.step w).1 = .ok .done :=
    step_saveDraft_of_set (by decide) fun _ _ => rfl
  have hkept : DraftOutlives w.session.metadata.name (Operation.saveDraft.step w).2.store
      t.store := .refl
  have hidle : m.template.IdleUnset := ⟨fun _ => rfl, fun h => absurd rfl h⟩
  have hopened := importDraft_metadata hsaved hkept
  have hmetadata : w.session.metadata = m := rfl
  have hname : m.name = "events" := rfl
  rw [hmetadata, hname] at hopened
  obtain ⟨hanswer, -, hrestored, hswitched⟩ := hopened
  exact ⟨hsaved, hanswer, hrestored.mpr hidle, (hswitched .batch).mpr hidle⟩

/-- A batch pipeline with a number of instances has lost it when its draft is opened, and runs
a single instance when it is switched to realtime. -/
theorem importDraft_metadata_batch_instances :
    let m : Metadata := ⟨"events", "hourly", ⟨some .batch, 4, "0 * * * *"⟩⟩
    let w : World CatalogBackend MemoryStore :=
      ⟨{ Session.fresh with metadata := m }, .empty, .empty, []⟩
    let t : World CatalogBackend MemoryStore :=
      ⟨Session.fresh, .empty, (Operation.saveDraft.step w).2.store, []⟩
    (Operation.saveDraft.step w).1 = .ok .done ∧
      ((Operation.importDraft "events").step t).1 = .ok .done ∧
      ((Operation.importDraft "events").step t).2.session.metadata ≠ m ∧
      ((Operation.importDraft "events").step t).2.session.metadata.template.switchedTo .realtime =
        ⟨some .realtime, 1, "0 * * * *"⟩ := by
  intro m w t
  have hsaved : (Operation.saveDraft.step w).1 = .ok .done :=
    step_saveDraft_of_set (by decide) fun _ _ => rfl
  have hkept : DraftOutlives w.session.metadata.name (Operation.saveDraft.step w).2.store
      t.store := .refl
  have hopened := metadata_step_importDraft hsaved hkept
  have hmetadata : w.session.metadata = m := rfl
  have hname : m.name = "events" := rfl
  rw [hmetadata, hname] at hopened
  obtain ⟨hanswer, hafter⟩ := hopened
  refine ⟨hsaved, hanswer, ?_, ?_⟩
  · rw [hafter]
    decide
  · rw [hafter]
    rfl

end PipelineCanvas
