import Mathlib.Data.List.Forall2
import PipelineCanvas.Pipeline.Submission

/-!
# Pruning once is enough

An outline is pruned whenever it is made, and once more when a submission is made from it;
what is stripped has lost the contracts that the next pruning would go by. Neither does
harm. What pruning leaves of a plugin is fixed by the plugin (`Stage.prunes_iff`): the
properties that the contract declares, all of them while it is pending. A second pass finds
only such properties, and a pass behind the stripping finds every contract pending.

* `Stage.Prunes` – what pruning leaves of a plugin, with `Stage.prunes_iff`;
* `Stage.Bare` – a plugin as a submission carries it;
* `Outline.Placewise` – two outlines, compared plugin by plugin in their places;
* **`Outline.pruning_stable`** – what pruning and stripping make of any outline, and of one
  another.
-/

namespace PipelineCanvas

/-! ### One plugin -/

namespace Stage

/-- What pruning leaves of a plugin: all of its properties while the contract is pending,
and then those that the contract declares. -/
structure Prunes (s s' : Stage) : Prop where
  id_eq : s'.id = s.id
  name_eq : s'.name = s.name
  contract_eq : s'.contract = s.contract
  get?_eq : ∀ key, s'.properties.get? key =
    if s.contract.all (·.contains key) then s.properties.get? key else none

/-- **Pruning leaves what it should.** -/
theorem prunes_pruned (s : Stage) : s.Prunes s.pruned := by
  cases hc : s.contract with
  | none => exact ⟨by simp [pruned, hc], by simp [pruned, hc], by simp [pruned, hc],
      fun key => by simp [pruned, hc]⟩
  | some contract =>
    by_cases he : s.properties.isEmpty = true
    · -- nothing is dropped here, and nothing is there that could be
      have hnone (key : String) : s.properties.get? key = none := by
        simp [OrderedMap.get?, List.isEmpty_iff.mp he, Entries.get?]
      exact ⟨by simp [pruned, hc, he], by simp [pruned, hc, he], by simp [pruned, hc, he],
        fun key => by simp [pruned, hc, he, hnone]⟩
    · exact ⟨by simp [pruned, hc, he], by simp [pruned, hc, he], by simp [pruned, hc, he],
        fun key => by simp [pruned, hc, he, OrderedMap.get?_keep]⟩

/-- There is one way to prune a plugin. -/
theorem Prunes.unique {s a b : Stage} (ha : s.Prunes a) (hb : s.Prunes b) : a = b := by
  obtain ⟨_, _, aproperties, _⟩ := a
  obtain ⟨_, _, bproperties, _⟩ := b
  have hproperties : aproperties = bproperties :=
    OrderedMap.ext_get? fun key => (ha.get?_eq key).trans (hb.get?_eq key).symm
  rw [Stage.mk.injEq]
  exact ⟨ha.id_eq.trans hb.id_eq.symm, ha.name_eq.trans hb.name_eq.symm, hproperties,
    ha.contract_eq.trans hb.contract_eq.symm⟩

theorem prunes_iff {s s' : Stage} : s.Prunes s' ↔ s' = s.pruned :=
  ⟨fun h => h.unique s.prunes_pruned, fun h => h ▸ s.prunes_pruned⟩

/-- **Pruning twice is pruning once.** -/
theorem pruned_pruned (s : Stage) : s.pruned.pruned = s.pruned := by
  have hs := s.prunes_pruned
  have hp := s.pruned.prunes_pruned
  refine prunes_iff.mp ⟨hp.id_eq.trans hs.id_eq, hp.name_eq.trans hs.name_eq,
    hp.contract_eq.trans hs.contract_eq, fun key => ?_⟩
  rw [hp.get?_eq, hs.get?_eq, hs.contract_eq]
  split <;> rfl

/-- A plugin as a submission carries it, without what only editing needs. -/
structure Bare (s : Stage) : Prop where
  id_eq : s.id = none
  contract_eq : s.contract = none

theorem bare_stripped (s : Stage) : s.stripped.Bare := ⟨rfl, rfl⟩

/-- Nothing is left to prune of a bare plugin. -/
theorem Bare.pruned_eq {s : Stage} (h : s.Bare) : s.pruned = s := by
  rw [pruned, h.contract_eq]

/-- Nothing is left to strip of a bare plugin. -/
theorem Bare.stripped_eq {s : Stage} (h : s.Bare) : s.stripped = s := by
  obtain ⟨id, name, properties, contract⟩ := s
  obtain ⟨rfl, rfl⟩ := h
  rfl

/-- Stripping twice is stripping once. -/
theorem stripped_comp_stripped : stripped ∘ stripped = stripped :=
  funext fun s => s.bare_stripped.stripped_eq

end Stage

/-! ### Outlines, plugin by plugin -/

namespace Outline

/-- Two outlines of the same name, description and template with as many plugins in each
place, and each two of the same place in a relation. -/
structure Placewise (R : Stage → Stage → Prop) (o o' : Outline) : Prop where
  name_eq : o'.name = o.name
  description_eq : o'.description = o.description
  template_eq : o'.template = o.template
  source : Option.Rel R o.source o'.source
  transforms : List.Forall₂ R o.transforms o'.transforms
  sink : Option.Rel R o.sink o'.sink

/-- A plugin that is changed stays in its place. -/
theorem placewise_mapStages {R : Stage → Stage → Prop} {f : Stage → Stage}
    (h : ∀ s, R s (f s)) (o : Outline) : o.Placewise R (o.mapStages f) := by
  have hslot (s? : Option Stage) : Option.Rel R s? (s?.map f) := by
    cases s? with
    | none => exact .none
    | some s => exact .some (h s)
  exact
    { name_eq := rfl
      description_eq := rfl
      template_eq := rfl
      source := hslot o.source
      transforms := List.forall₂_map_right_iff.mpr (List.forall₂_same.mpr fun s _ => h s)
      sink := hslot o.sink }

theorem mapStages_mapStages (f g : Stage → Stage) (o : Outline) :
    (o.mapStages f).mapStages g = o.mapStages (g ∘ f) := by
  simp only [mapStages, Option.map_map, List.map_map]

/-- Stripping prunes and drops at once. -/
theorem stripped_eq (o : Outline) : o.stripped = o.mapStages Stage.stripped :=
  mapStages_mapStages ..

theorem pruned_pruned (o : Outline) : o.pruned.pruned = o.pruned := by
  have htwice : Stage.pruned ∘ Stage.pruned = Stage.pruned := funext Stage.pruned_pruned
  rw [pruned, pruned, mapStages_mapStages, htwice]

theorem stripped_pruned (o : Outline) : o.pruned.stripped = o.stripped := by
  rw [stripped, stripped, pruned_pruned]

/-- A pass behind the stripping finds every contract pending. -/
theorem pruned_stripped (o : Outline) : o.stripped.pruned = o.stripped := by
  have hbare : Stage.pruned ∘ Stage.stripped = Stage.stripped :=
    funext fun s => s.bare_stripped.pruned_eq
  rw [stripped_eq, pruned, mapStages_mapStages, hbare]

theorem stripped_stripped (o : Outline) : o.stripped.stripped = o.stripped := by
  rw [stripped_eq, stripped_eq, mapStages_mapStages, Stage.stripped_comp_stripped]

/-- **Pruning keeps what the contracts declare, and no pass harms another.** In an outline
that is pruned each plugin keeps its place, id, name and contract, and of its properties
those that the contract declares, or all while it is pending. In one that is stripped the
same plugins stand without ids and contracts. Either pass changes nothing when it is made
twice, stripping is the same before and behind pruning, and the submission of an outline is
that of the outline pruned or stripped. -/
theorem pruning_stable (o : Outline) :
    o.Placewise Stage.Prunes o.pruned ∧
      o.pruned.Placewise (fun s s' => s' = { s with id := none, contract := none })
        o.stripped ∧
      o.pruned.pruned = o.pruned ∧ o.stripped.stripped = o.stripped ∧
      o.pruned.stripped = o.stripped ∧ o.stripped.pruned = o.stripped ∧
      ∀ m, Submission.build o.pruned m = Submission.build o m ∧
        Submission.build o.stripped m = Submission.build o m := by
  have hdropped : o.pruned.Placewise (fun s s' => s' = { s with id := none, contract := none })
      o.stripped := by
    refine placewise_mapStages (fun s => ?_) o.pruned
    rfl
  refine ⟨placewise_mapStages Stage.prunes_pruned o, hdropped, o.pruned_pruned,
    o.stripped_stripped, o.stripped_pruned, o.pruned_stripped, fun m => ?_⟩
  -- a submission sees no more of an outline than its stripping
  have hbuild {o' : Outline} (h : o'.stripped = o.stripped) :
      Submission.build o' m = Submission.build o m := by
    rw [Submission.build, Submission.build, h]
  exact ⟨hbuild o.stripped_pruned, hbuild o.stripped_stripped⟩

/-- A key that the contract does not declare goes in the first pass. The second pass, with no
contract left to go by, lets the rest stand. -/
example :
    let contract : Contract := .ofList [("drop", ⟨"drop", "string", "", false⟩)]
    let s : Stage := ⟨some "t", "Filter", .ofList [("drop", "a"), ("scratch", "b")], some contract⟩
    s.stripped.properties = .ofList [("drop", "a")] ∧ s.stripped.stripped = s.stripped := by
  decide

end Outline

end PipelineCanvas
