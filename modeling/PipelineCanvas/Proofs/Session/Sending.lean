import PipelineCanvas.Backend.Catalog
import PipelineCanvas.Drafts.Memory
import PipelineCanvas.Proofs.Session.History
import PipelineCanvas.Proofs.Validation.Whole

/-!
# What the backend is sent

A pipeline is checked in one shape, the outline that is pruned for editing, and sent in
another, pruned again and without ids and contracts. Pruning twice is pruning once
(`Stage.pruned_pruned`), so what was checked is what is sent.

* `SaveRequest.Sound` – a request that a backend may count on;
* **`Operation.history_sound`** – a run of a session hands over sound requests only, each
  while saving;
* **`save_sends_whole_canvas`** – a pipeline that passes validation is sent with all its
  nodes.
-/

namespace PipelineCanvas

/-! ### Sound requests -/

/-- What a plugin that is sent owes to the node that it comes from. -/
structure Stage.Meets (s : Stage) (n : Node) : Prop where
  name_eq : s.name = n.name
  id_eq : s.id = none
  contract_eq : s.contract = none
  /-- Once the contract is known, only declared properties are sent. -/
  declared : ∀ contract, n.contract = some contract →
    ∀ key, s.properties.contains key = true → contract.contains key = true
  /-- Once the contract is known, every required property has a value. -/
  required : ∀ contract, n.contract = some contract →
    ∀ key spec, contract.get? key = some spec → spec.required = true →
      ∃ v, s.properties.get? key = some v ∧ Text.isBlank v = false

theorem Stage.meets_stripped_stage {n : Node} (h : n.stage.Complete) :
    n.stage.stripped.Meets n := by
  rw [stripped_stage]
  refine ⟨rfl, rfl, rfl, ?_, h⟩
  intro contract hc key hkey
  simp only [withoutBookkeeping, Node.stage, hc, OrderedMap.contains_keep,
    Bool.and_eq_true] at hkey
  exact hkey.1

variable {β σ : Type} [Backend β] [DraftStore σ]

/-- A request that a backend may count on, made in a world. Its plugins go together one
by one with those of the outline that the session shows in that world, and these tell by
their id which node is meant. -/
structure SaveRequest.Sound (r : SaveRequest) (w : World β σ) : Prop where
  name_eq : r.name = w.session.metadata.name
  name_ne_empty : r.name ≠ ""
  name_allowed : ∀ c ∈ r.name.toList, AllowedInName c
  /-- It is what the session answers when asked for the submission. -/
  submission_eq : (Operation.readSubmission.step w).1 = .ok (.submission r.submission)
  template_chosen : r.submission.template.isSome = true
  has_source : r.submission.config.source.isSome = true
  has_sink : r.submission.config.sink.isSome = true
  scheduled : r.submission.template = some .batch →
    (∃ cron, r.submission.config.schedule = some cron ∧ Text.isBlank cron = false) ∧
      r.submission.config.instances = none
  instanced : r.submission.template = some .realtime →
    (∃ count, r.submission.config.instances = some count ∧ 1 ≤ count) ∧
      r.submission.config.schedule = none
  plugins : List.Forall₂
    (fun sent shown => ∃ n, shown.id = some n.id ∧ w.session.nodes.get? n.id = some n ∧
      sent.Meets n)
    r.submission.stages w.session.outline.stages

/-- The request of a session that passes validation is sound. -/
theorem Session.sound_request {w : World β σ} (h : w.session.nodes.Keyed)
    (hvalid : w.session.verdict.1.isEmpty = true) (nameSpace : String) :
    (w.session.request nameSpace).Sound w := by
  have hs := (isEmpty_validate h _ _ _).mp hvalid
  have ho : w.session.outline =
      .drawn w.session.nodes w.session.edges w.session.metadata := outline_flatten h _ _
  have hkind := Option.isSome_iff_ne_none.mpr hs.template_chosen
  have hschedule : (w.session.request nameSpace).submission.config.schedule =
      Submission.scheduleFor w.session.metadata := rfl
  have hinstances : (w.session.request nameSpace).submission.config.instances =
      Submission.instancesFor w.session.metadata := rfl
  refine
    { name_eq := rfl
      name_ne_empty := hs.name_ne_empty
      name_allowed := hs.name_allowed
      submission_eq := ?_
      template_chosen := hkind
      has_source := ?_
      has_sink := ?_
      scheduled := fun hbatch => ?_
      instanced := fun hrealtime => ?_
      plugins := ?_ }
  · rw [Operation.step, Operation.perform, Action.run_bind_of_fst (x := w.session.submission)]
    · rfl
    · rw [Session.run_readSubmission]
  · rw [Session.request, Session.submission, Submission.source_build, Option.isSome_map, ho]
    exact hs.source_isSome h
  · rw [Session.request, Session.submission, Submission.sink_build, Option.isSome_map, ho]
    exact hs.sink_isSome h
  · have hk : w.session.metadata.kind = some .batch := hbatch
    rw [hschedule, hinstances, Submission.scheduleFor, Submission.instancesFor, hk]
    exact ⟨⟨_, rfl, hs.scheduled hk⟩, rfl⟩
  · have hk : w.session.metadata.kind = some .realtime := hrealtime
    rw [hschedule, hinstances, Submission.scheduleFor, Submission.instancesFor, hk]
    exact ⟨⟨_, rfl, hs.instanced hk⟩, rfl⟩
  · rw [Session.request, Session.submission, Submission.stages_build, List.forall₂_map_left_iff,
      List.forall₂_same]
    intro s hmem
    have hcomplete := hs.complete s hmem
    rw [ho] at hmem
    -- what was checked is the stage of a node, and what is sent is that stage stripped
    obtain ⟨n, hn, rfl⟩ := hs.exists_node_of_mem_stages h hmem
    exact ⟨n, rfl, h.mem_values_iff.mp hn, Stage.meets_stripped_stage hcomplete⟩

/-! ### Every run -/

/-- **Nothing invalid ever reaches the backend.** In every run from a new session, with
whatever backend and draft store, each request is handed over by a step of the run, and
a step hands over at most one. It is then saving, it does not answer that the pipeline is
invalid, and the request is sound in the world that it meets. -/
theorem Operation.history_sound (ops : List Operation) (backend : β) (store : σ) :
    let steps := history ops (World.fresh backend store)
    (runAll ops (World.fresh backend store)).requests = steps.flatMap Step.sent ∧
      ∀ s ∈ steps, s.after.requests = s.before.requests ++ s.sent ∧ s.sent.length ≤ 1 ∧
        ∀ r ∈ s.sent, s.operation = .save r.nameSpace ∧
          (∀ problems, s.answer ≠ .error (.invalid problems)) ∧ r.Sound s.before := by
  intro steps
  refine ⟨by rw [requests_runAll, World.requests_fresh, List.nil_append], fun s hs => ?_⟩
  have hkeyed := keyed_of_mem_history (World.keyed_fresh backend store) hs
  refine ⟨s.requests_after, ?_⟩
  rcases s.operation.step_cases s.before with
    hquiet | ⟨nameSpace, hop, hvalid, hsent, hanswer⟩
  · rw [Step.sent_of_follows hquiet]
    refine ⟨Nat.zero_le 1, fun r hr => ?_⟩
    cases hr
  · rw [Step.sent_of_handsOver hsent]
    refine ⟨Nat.le_refl 1, fun r hr => ?_⟩
    rw [List.mem_singleton.mp hr]
    exact ⟨hop, hanswer, Session.sound_request hkeyed hvalid nameSpace⟩

/-- A pipeline is drawn and saved twice; the canvas is empty by then, and the second save
hands nothing over. -/
theorem Operation.history_sound_saved_twice :
    let ops : List Operation :=
      [.loadGraph [.fresh "a" "Stream" .source, .fresh "k" "Table" .sink] [⟨"a", "k"⟩],
        .setMetadata (.named "events"), .save "default", .save "default"]
    let w := World.fresh CatalogBackend.empty MemoryStore.empty
    (history ops w).map (·.sent.length) = [0, 0, 1, 0] ∧
      (runAll ops w).requests.map (·.name) = ["events"] ∧
      ∃ s ∈ history ops w, ∃ r ∈ s.sent, s.operation = .save r.nameSpace ∧ r.Sound s.before := by
  intro ops w
  obtain ⟨-, hsteps⟩ := history_sound ops CatalogBackend.empty MemoryStore.empty
  have hlengths : (history ops w).map (·.sent.length) = [0, 0, 1, 0] := by decide
  refine ⟨hlengths, by decide, ?_⟩
  have hone : 1 ∈ (history ops w).map (·.sent.length) := by simp [hlengths]
  obtain ⟨s, hs, hlength⟩ := List.mem_map.mp hone
  obtain ⟨r, hr⟩ := List.length_eq_one_iff.mp hlength
  have hsent : r ∈ s.sent := by simp [hr]
  obtain ⟨hop, -, hsound⟩ := (hsteps s hs).2.2 r hsent
  exact ⟨s, hs, r, hsent, hop, hsound⟩

/-! ### Nothing is lost on the way -/

/-- **A pipeline that passes validation is sent whole.** Flattening leaves out no node and
no edge, there are a source and a sink, and each node is in the outline once, under its
role. So saving hands over a submission with as many plugins as there are nodes. -/
theorem save_sends_whole_canvas {nodes : NodeTable} (h : nodes.Keyed) {edges : Edges}
    {m : Metadata}
    (hvalid : (validate nodes edges m (flatten nodes edges m).outline).1.isEmpty = true) :
    let f := flatten nodes edges m
    let submission := Submission.build f.outline m
    (f.coverage = .complete ∧ f.coverage.isClean = true) ∧
      (f.outline.source.isSome = true ∧ f.outline.sink.isSome = true) ∧
      f.outline.roles.Perm (nodes.values.map fun n => (n.role, n.stage)) ∧
      (f.outline.stages.map (·.id)).Perm (nodes.keys.map some) ∧
      submission.stages.length = nodes.size ∧
      ∀ (w : World β σ) (nameSpace : String), w.session.nodes = nodes →
        w.session.edges = edges → w.session.metadata = m →
        ((Operation.save nameSpace).step w).2.requests =
          w.requests ++ [⟨nameSpace, m.name, submission⟩] := by
  intro f submission
  have hs := (isEmpty_validate h _ _ _).mp hvalid
  have ho : f.outline = .drawn nodes edges m := outline_flatten h edges m
  have hclean : f.coverage = .complete := (coverage_flatten h edges m).trans (hs.coverage h)
  have hroles : f.outline.roles.Perm (nodes.values.map fun n => (n.role, n.stage)) := by
    rw [ho]
    exact hs.roles_perm h
  have hids : (f.outline.stages.map (·.id)).Perm (nodes.keys.map some) := by
    rw [← Outline.map_snd_roles, List.map_map, ← h.map_id_values, List.map_map]
    have := hroles.map fun p => p.2.id
    rwa [List.map_map] at this
  refine ⟨⟨hclean, by rw [hclean]; rfl⟩, ?_, hroles, hids, ?_, ?_⟩
  · rw [ho]
    exact ⟨hs.source_isSome h, hs.sink_isSome h⟩
  · rw [Submission.length_stages_build, ho]
    exact hs.length_stages h
  · rintro w nameSpace rfl rfl rfl
    have hsent := (Operation.step_save_accepted (w := w) nameSpace hvalid).1.requests_eq
    rwa [Session.request, Session.submission, Session.outline, Session.flattening] at hsent

/-- A node on the way from source to sink that is drawn before the source, and a loop. -/
theorem save_sends_whole_canvas_loop :
    let nodes := NodeTable.ofNodes
      [.fresh "a" "Stream" .source, .fresh "k" "Table" .sink, .fresh "t" "Filter" .transform]
    let edges : Edges := [⟨"t", "k"⟩, ⟨"a", "t"⟩, ⟨"t", "t"⟩]
    let m := Metadata.named "events"
    let f := flatten nodes edges m
    let w : World CatalogBackend MemoryStore :=
      ⟨{ Session.fresh with nodes, edges, metadata := m }, .empty, .empty, []⟩
    nodes.Keyed ∧ (validate nodes edges m f.outline).1.isEmpty = true ∧
      f.coverage.isClean = true ∧ (Submission.build f.outline m).stages.length = 3 ∧
      ((Operation.save "default").step w).2.requests =
        [⟨"default", "events", Submission.build f.outline m⟩] := by
  intro nodes edges m f w
  have h : nodes.Keyed := NodeTable.keyed_ofNodes _
  have hvalid : (validate nodes edges m f.outline).1.isEmpty = true := by decide
  obtain ⟨⟨-, hclean⟩, -, -, -, hlength, hsent⟩ :=
    save_sends_whole_canvas (β := CatalogBackend) (σ := MemoryStore) h hvalid
  exact ⟨h, hvalid, hclean, hlength, hsent w "default" rfl rfl rfl⟩

end PipelineCanvas
