import PipelineCanvas.Proofs.Session.Opening
import PipelineCanvas.Proofs.Session.Placing
import PipelineCanvas.Proofs.Session.Reconciled

/-!
# Values under changing contracts

A node may get a contract many times: when it is placed, when it is resolved, and anew
whenever an editor is opened on it. Each contract leaves the values that are there, so they
pile up on the node, and only the outline and the submission go by the contract that came
last. A value whose property is no longer declared is therefore out of sight and not lost: it
is back as soon as a contract declares the property again.

* `Node.Receives` – what gives a node a contract, and `Node.ReceivesAll` – contracts in a row;
* `Node.PilesUp` – what contracts in a row make of a node, with `Node.ReceivesAll.pilesUp`;
* `Node.TakesOn.reconcileCount_eq` – what reconciling counts is what it adds;
* **`Operation.values_survive`** – values under whatever contracts, on the node and in what is
  read off the canvas.
-/

namespace PipelineCanvas

open PipelineCanvas.Action

/-! ### One contract -/

namespace Node

variable {n n' : Node} {c : Contract}

/-- The contract that a node took on can be read off it. -/
theorem TakesOn.of_contract {d : Contract} (h : n.TakesOn d n') (hc : n'.contract = some c) :
    n.TakesOn c n' := by
  cases h.contract_eq.symm.trans hc
  exact h

/-- A contract that is applied again is reconciled with. -/
theorem applyContract_of_contract (h : n.contract = some c) : n.applyContract c = n.reconcile := by
  rw [applyContract, ← h]

/-- **What reconciling counts is the values that it adds.** -/
theorem TakesOn.reconcileCount_eq (h : n.TakesOn c n') :
    reconcileCount { n with contract := some c } =
      (n'.properties.keys.filter fun key => !n.properties.contains key).length := by
  have hperm : (c.keys.filter fun key => !n.properties.contains key).Perm
      (n'.properties.keys.filter fun key => !n.properties.contains key) := by
    refine (List.perm_ext_iff_of_nodup (c.keys_nodup.filter _)
      (n'.properties.keys_nodup.filter _)).mpr fun key => ?_
    simp only [List.mem_filter, OrderedMap.mem_keys_iff, and_congr_left_iff]
    intro hnew
    rw [OrderedMap.contains, OrderedMap.contains, h.get?_eq]
    cases hvalue : n.properties.get? key with
    | some value => simp [OrderedMap.contains, hvalue] at hnew
    | none => cases hkey : (c.get? key).isSome <;> simp [OrderedMap.contains, hkey]
  exact hperm.length_eq

/-- A node that settles with a contract takes that on in its slot. -/
theorem takesOn_settled {β : Type} [Backend β] {role : Role} {before : Nat}
    {template : TemplateKind} {backend : β}
    (h : (n.settled role before template backend).contract = some c) :
    (n.inSlot role before).TakesOn c (n.settled role before template backend) := by
  unfold settled at h ⊢
  cases hc : n.contract with
  | some own =>
    simp only [hc, contract_reconcile] at h ⊢
    rw [← applyContract_of_contract h]
    exact takesOn_applyContract _ c
  | none =>
    simp only [hc] at h ⊢
    cases hfetch : (Backend.fetch ((n.inSlot role before).query template none) backend).1 with
    | error e =>
      rw [hfetch] at h
      cases hc.symm.trans h
    | ok answers =>
      rw [hfetch] at h
      exact (takesOn_applyContract (n.inSlot role before) _).of_contract h

/-- A session gives a node a contract, and the node is another one from then on. -/
inductive Receives (n : Node) (c : Contract) (n' : Node) : Prop where
  /-- It was placed on a canvas, with a contract of its own or without one. -/
  | placed {β σ : Type} [Backend β] [DraftStore σ] {w : World β σ} {role : Role}
      (hn' : ((Operation.addNode n role).step w).2.session.nodes.get? n.id = some n')
      (hc : n'.contract = some c)
  /-- It stood on a canvas without one, and the pending nodes were resolved. -/
  | resolved {β σ : Type} [Backend β] [DraftStore σ] {w : World β σ}
      (hw : w.session.Reachable) (hn : w.session.nodes.get? n.id = some n)
      (hpending : n.contract = none)
      (hn' : (Operation.resolvePending.step w).2.session.nodes.get? n.id = some n')
      (hc : n'.contract = some c)
  /-- An editor was opened on it, and this is the node that the editor goes back to. -/
  | refreshed {β σ : Type} [Backend β] [DraftStore σ] {w : World β σ} {id : String}
      {scope : Option String} {editor : Editor} (hn : w.session.nodes.get? id = some n)
      (hanswer : ((Operation.edit id scope).step w).1 = .ok (.editor editor))
      (hn' : n' = editor.snapshot) (hc : n'.contract = some c)
  /-- An editor was opened on it, and this is the node on the canvas, which took over nothing
  into its properties. -/
  | opened {β σ : Type} [Backend β] [DraftStore σ] {w : World β σ} {id : String}
      {scope : Option String} {editor : Editor} (hn : w.session.nodes.get? id = some n)
      (hanswer : ((Operation.edit id scope).step w).1 = .ok (.editor editor))
      (hn' : ((Operation.edit id scope).step w).2.session.nodes.get? id = some n')
      (hproperties : n'.properties = editor.snapshot.properties) (hc : n'.contract = some c)

end Node

/-- An editor that is opened goes back to its node with the contract that the backend had, and
on the canvas that node has taken over what flows into it. -/
theorem Operation.opened_of_answer {β σ : Type} [Backend β] [DraftStore σ] {w : World β σ}
    {n : Node} {id : String} {scope : Option String} {editor : Editor}
    (hn : w.session.nodes.get? id = some n)
    (hanswer : ((edit id scope).step w).1 = .ok (.editor editor)) :
    (∃ c, n.TakesOn c editor.snapshot) ∧
      ∃ shown, ((edit id scope).step w).2.session.nodes.get? id = some shown ∧
        editor.snapshot.TakesOver editor.inputSchema shown := by
  have hrun := Session.editRun id scope w
  rw [run_edit_of_answer (s := ⟨w, edit id scope⟩) rfl hanswer] at hrun
  cases hrun with
  | opened hn' hfetch hsnapshot heditor hsession =>
    rw [hn] at hn'
    cases hn'
    subst heditor hsnapshot
    refine ⟨⟨_, n.takesOn_applyContract _⟩, _, ?_, Node.takesOver_takeOver _ _⟩
    change (Step.after ⟨w, edit id scope⟩).session.nodes.get? id = _
    rw [hsession]
    exact OrderedMap.get?_insert_self ..

namespace Node

variable {n n' : Node} {c : Contract}

/-- **A node that is given a contract takes that on,** wherever it comes to stand. -/
theorem Receives.takesOn (h : n.Receives c n') : ∃ role position outputSchema,
    Node.TakesOn { n with role, position, outputSchema } c n' := by
  cases h with
  | placed hn' hc =>
    rw [Operation.get?_step_addNode, if_pos rfl] at hn'
    cases hn'
    exact ⟨_, _, n.outputSchema, takesOn_settled hc⟩
  | @resolved β σ _ _ w hw hn hpending hn' hc =>
    refine ⟨n.role, n.position, n.outputSchema, ?_⟩
    rw [(Operation.step_resolvePending_of_keyed hw.keyed).2] at hn'
    rcases hw.keyed.get?_resolving_cases (Backend.replies _ w.backend).answers n.id with
      ⟨p, -, -, hbefore, hafter⟩ | ⟨-, hsame⟩
    · have hp : p.1 = n := Option.some.inj (hbefore.symm.trans hn)
      cases hafter.symm.trans hn'
      rw [hp] at hc ⊢
      exact (n.takesOn_applyContract _).of_contract hc
    · cases (hsame.trans hn).symm.trans hn'
      cases hpending.symm.trans hc
  | refreshed hn hanswer hn' hc =>
    obtain ⟨⟨_, htakesOn⟩, -⟩ := Operation.opened_of_answer hn hanswer
    rw [← hn'] at htakesOn
    exact ⟨n.role, n.position, n.outputSchema, htakesOn.of_contract hc⟩
  | @opened β σ _ _ w id scope editor hn hanswer hn' hproperties hc =>
    obtain ⟨⟨d, htakesOn⟩, shown, hshown, htakesOver⟩ := Operation.opened_of_answer hn hanswer
    cases hshown.symm.trans hn'
    refine ⟨n.role, n.position, n'.outputSchema, .of_contract (d := d) ⟨?_, fun key => ?_⟩ hc⟩
    · rw [htakesOver.eq, htakesOn.eq]
    · rw [hproperties]
      exact htakesOn.get?_eq key

end Node

/-! ### Contracts in a row -/

/-- A plugin on offer for every template is told of for any. -/
theorem CatalogBackend.fetch_register (b : CatalogBackend) (q : PropertyQuery) (c : Contract) :
    (Backend.fetch q (b.register q.role q.plugin c)).1 = .ok [⟨q.plugin, c⟩] := by
  have hlookup : (b.register q.role q.plugin c).lookup? q = some ⟨q.plugin, q.role, [], c⟩ := by
    simp [lookup?, register, offer, CatalogEntry.key, CatalogEntry.answers, Option.filter]
  simp only [Backend.fetch, fetch, hlookup]

namespace Node

variable {n n' : Node} {c : Contract}

/-- Sessions give a node contracts, one after another. -/
inductive ReceivesAll : Node → List Contract → Node → Prop where
  | nil (n : Node) : ReceivesAll n [] n
  | cons {n m n' : Node} {c : Contract} {contracts : List Contract} (h : n.Receives c m)
      (hrest : ReceivesAll m contracts n') : ReceivesAll n (c :: contracts) n'

/-- What contracts in a row make of a node: it has the last one, all values that it had, and
an empty one for whatever else was ever declared. -/
structure PilesUp (n : Node) (contracts : List Contract) (n' : Node) : Prop where
  id_eq : n'.id = n.id
  name_eq : n'.name = n.name
  contract_eq : n'.contract = contracts.getLast?.or n.contract
  get?_eq : ∀ key, n'.properties.get? key =
    (n.properties.get? key).or (if contracts.any (·.contains key) then some "" else none)

variable {m : Node} {contracts contracts' : List Contract}

theorem PilesUp.refl (n : Node) : n.PilesUp [] n where
  id_eq := rfl
  name_eq := rfl
  contract_eq := rfl
  get?_eq key := by simp

theorem PilesUp.trans (h : n.PilesUp contracts m) (h' : m.PilesUp contracts' n') :
    n.PilesUp (contracts ++ contracts') n' where
  id_eq := h'.id_eq.trans h.id_eq
  name_eq := h'.name_eq.trans h.name_eq
  contract_eq := by rw [h'.contract_eq, h.contract_eq, List.getLast?_append, Option.or_assoc]
  get?_eq key := by
    rw [h'.get?_eq, h.get?_eq, Option.or_assoc, List.any_append]
    cases contracts.any (·.contains key) <;> simp

theorem Receives.pilesUp (h : n.Receives c m) : n.PilesUp [c] m := by
  obtain ⟨role, position, outputSchema, htakesOn⟩ := h.takesOn
  refine ⟨?_, ?_, htakesOn.contract_eq, fun key => ?_⟩
  · rw [htakesOn.eq]
  · rw [htakesOn.eq]
  · rw [htakesOn.get?_eq, List.any_cons, List.any_nil, Bool.or_false]

/-- **Contracts in a row pile up,** whatever gives them. -/
theorem ReceivesAll.pilesUp (h : n.ReceivesAll contracts n') : n.PilesUp contracts n' := by
  induction h with
  | nil n => exact .refl n
  | cons h _ ih => exact h.pilesUp.trans ih

/-- Any contract can be given to any node: a backend may have it when an editor is opened. -/
theorem exists_receives (n : Node) (c : Contract) : ∃ n', n.Receives c n' := by
  let w : World CatalogBackend MemoryStore :=
    { World.fresh (CatalogBackend.empty.register n.role n.name c) .empty with
      session := { Session.fresh with nodes := NodeTable.restore .empty n } }
  have hn : w.session.nodes.get? n.id = some n := OrderedMap.get?_insert_self ..
  have hfetch : (Backend.fetch (n.query w.session.activeTemplate none) w.backend).1 =
      .ok [⟨n.name, c⟩] := CatalogBackend.fetch_register ..
  exact ⟨_, .refreshed hn (Operation.step_edit_of_fetch hn hfetch).1 rfl rfl⟩

/-- **Any contracts can be given to any node, in any order.** -/
theorem exists_receivesAll (n : Node) (contracts : List Contract) :
    ∃ n', n.ReceivesAll contracts n' := by
  induction contracts generalizing n with
  | nil => exact ⟨n, .nil n⟩
  | cons c contracts ih =>
    obtain ⟨m, hm⟩ := n.exists_receives c
    obtain ⟨n', hn'⟩ := ih m
    exact ⟨n', .cons hm hn'⟩

end Node

/-! ### What is shown of them -/

/-- A plugin shows of a node just what a contract declares, with the values that the node has
and empty ones for the rest. -/
structure Stage.Shows (s : Stage) (n : Node) (c : Contract) : Prop where
  name_eq : s.name = n.name
  keys_eq : s.properties.keys = c.keys
  get?_eq : ∀ key, s.properties.get? key =
    if c.contains key then some ((n.properties.get? key).getD "") else none

/-- **The last contract decides what is shown, of all values that there ever were.** -/
theorem Node.PilesUp.shows {n n' : Node} {contracts : List Contract} {c : Contract}
    (h : n.PilesUp contracts n') (hlast : contracts.getLast? = some c) : n'.stage.Shows n c := by
  have hc : n'.contract = some c := by rw [h.contract_eq, hlast, Option.some_or]
  have hany (key : String) (hkey : c.contains key = true) :
      contracts.any (·.contains key) = true :=
    List.any_eq_true.mpr ⟨c, List.mem_of_getLast? hlast, hkey⟩
  have hproperties : n'.stage.properties = n'.properties.keep c.contains := by rw [stage, hc]
  have hget (key : String) : n'.stage.properties.get? key =
      if c.contains key then some ((n.properties.get? key).getD "") else none := by
    rw [hproperties, OrderedMap.get?_keep, h.get?_eq]
    split
    · next hkey =>
      rw [hany key hkey]
      cases n.properties.get? key <;> rfl
    · rfl
  refine ⟨h.name_eq, OrderedMap.keys_eq_iff.mpr fun key => ?_, hget⟩
  rw [OrderedMap.contains, hget]
  cases hkey : c.contains key <;> rfl

namespace Session

variable {s : Session} {n n' : Node} {c : Contract}

theorem outline_of_keyed (h : s.nodes.Keyed) : s.outline = .drawn s.nodes s.edges s.metadata :=
  outline_flatten h _ _

/-- What is shown and what is sent go together, plugin by plugin, and those with the id of a node
are both the plugin of that node. -/
theorem forall₂_shows (h : s.nodes.Keyed) (hn' : s.nodes.get? n.id = some n')
    (hshows : n'.stage.Shows n c) :
    List.Forall₂ (fun sent shown => shown.id = some n.id → shown.Shows n c ∧ sent.Shows n c)
      s.submission.stages s.outline.stages := by
  rw [submission, Submission.stages_build, List.forall₂_map_left_iff, List.forall₂_same]
  intro shown hshown hid
  rw [outline_of_keyed h] at hshown
  obtain ⟨m, hm, rfl⟩ := exists_node_of_mem_stages_drawn h hshown
  have hsame : m.id = n.id := Option.some.inj hid
  rw [hsame, hn'] at hm
  cases hm
  rw [Stage.stripped_stage]
  exact ⟨hshows, ⟨hshows.name_eq, hshows.keys_eq, hshows.get?_eq⟩⟩

/-- A node that an edge names is among what is shown, if no other can take its place. -/
theorem exists_shown (h : s.nodes.Keyed) (hn : s.nodes.get? n.id = some n)
    (hedge : ∃ e ∈ s.edges, e.source = n.id ∨ e.target = n.id)
    (halone : n.role = .transform ∨ s.nodes.roleCount n.role ≤ 1) :
    ∃ shown ∈ s.outline.stages, shown.id = some n.id := by
  have hends : n.id ∈ s.edges.ends := Edges.mem_ends_iff.mpr hedge
  rw [outline_of_keyed h]
  exact ⟨n.stage, mem_stages_drawn h _ hn hends halone, rfl⟩

end Session

namespace Operation

variable {β σ : Type} [Backend β] [DraftStore σ]

/-- Reading the canvas leaves it as it is. -/
theorem session_step_of_reads {op : Operation}
    (h : op = .flatten ∨ op = .readOutline ∨ op = .readSubmission) (w : World β σ) :
    (op.step w).2.session = w.session := by
  rcases h with rfl | rfl | rfl
  · rw [step_of_perform_eq .flatten Session.flattenCanvas .flattening rfl]
    simp only [Session.flattenCanvas, run_bind, run_session, run_logAll, run_pure]
  · rw [step_of_perform_eq .readOutline Session.readOutline .outline rfl, Session.run_readOutline]
  · rw [step_of_perform_eq .readSubmission Session.readSubmission .submission rfl,
      Session.run_readSubmission]

/-- **Values survive every change of contract.** Whatever contracts a node is given in a row –
any can be given – when it is placed, when it is resolved and when editors are opened on it: it
has the last one in the end, and all values that it had, and an empty one for each property that
any of them declared and that had none. Each time it is reconciled, what is counted is what is
added. Reading the canvas that it stands on leaves the canvas alone, and the plugin that is shown
or sent of it, which is there if an edge names the node and no other can take its place, has just
the properties of the last contract, with the values that the node had from the beginning,
whether or not the contracts between declared them. -/
theorem values_survive (n : Node) {contracts : List Contract} {c : Contract}
    (hlast : contracts.getLast? = some c) :
    (∃ n', n.ReceivesAll contracts n') ∧
    (∀ (m m' : Node) (d : Contract), m.Receives d m' →
      m'.properties = (Node.reconcile { m with contract := some d }).properties ∧
        Node.reconcileCount { m with contract := some d } =
          (m'.properties.keys.filter fun key => !m.properties.contains key).length) ∧
    ∀ n', n.ReceivesAll contracts n' →
      n'.id = n.id ∧ n'.contract = some c ∧
      (∀ key, n'.properties.get? key = (n.properties.get? key).or
        (if contracts.any (·.contains key) then some "" else none)) ∧
      ∀ (β σ : Type) [Backend β] [DraftStore σ] (w : World β σ), w.session.Reachable →
        w.session.nodes.get? n.id = some n' →
        (∀ op : Operation, op = .flatten ∨ op = .readOutline ∨ op = .readSubmission →
          (op.step w).2.session = w.session) ∧
        ∃ outline submission, (readOutline.step w).1 = .ok (.outline outline) ∧
          (readSubmission.step w).1 = .ok (.submission submission) ∧
          List.Forall₂ (fun sent shown => shown.id = some n.id →
            shown.Shows n c ∧ sent.Shows n c) submission.stages outline.stages ∧
          ((∃ e ∈ w.session.edges, e.source = n.id ∨ e.target = n.id) →
            n'.role = .transform ∨ w.session.nodes.roleCount n'.role ≤ 1 →
            ∃ shown ∈ outline.stages, shown.id = some n.id) := by
  refine ⟨n.exists_receivesAll contracts, fun m m' d hm => ?_, fun n' hn' => ?_⟩
  · obtain ⟨role, position, outputSchema, htakesOn⟩ := hm.takesOn
    refine ⟨OrderedMap.ext_get? fun key => ?_, htakesOn.reconcileCount_eq⟩
    rw [htakesOn.get?_eq, ← (m.takesOn_applyContract d).get?_eq, Node.applyContract]
  have hpiles := hn'.pilesUp
  have hshows := hpiles.shows hlast
  refine ⟨hpiles.id_eq, ?_, hpiles.get?_eq, fun β σ _ _ w hreachable hstands => ?_⟩
  · rw [hpiles.contract_eq, hlast, Option.some_or]
  refine ⟨fun op hop => session_step_of_reads hop w, _, _, step_readOutline w,
    step_readSubmission w, Session.forall₂_shows hreachable.keyed hstands hshows, ?_⟩
  rw [← hpiles.id_eq] at hstands ⊢
  exact Session.exists_shown hreachable.keyed hstands

/-- A transform comes with a condition, which its contract does not declare. When an editor is
opened on it, the backend has another contract, and the condition is sent. -/
theorem values_survive_redeclared :
    let without : Contract := .ofList [("path", .ofKind "path" "string")]
    let both : Contract :=
      .ofList [("condition", .ofKind "condition" "string"), ("path", .ofKind "path" "string")]
    let n := (Node.fresh "t" "Filter" .transform).setProperty "condition" "a > 1"
    let backend := CatalogBackend.empty.register .transform "Filter" without
    let w : World CatalogBackend MemoryStore :=
      ((loadGraph [] [⟨"a", "t"⟩]).step (World.fresh backend .empty)).2
    let w₁ := ((addNode n .transform).step w).2
    let w₂ := ((edit "t" none).step
      { w₁ with backend := w₁.backend.register .transform "Filter" both }).2
    [without, both].getLast? = some both ∧
    ∃ n₁ n₂, n.Receives without n₁ ∧ n₁.Receives both n₂ ∧
      w₁.session.nodes.get? "t" = some n₁ ∧ w₂.session.nodes.get? "t" = some n₂ ∧
      n₂.properties.get? "condition" = some "a > 1" ∧ n₂.properties.get? "path" = some "" ∧
      w₁.session.submission.stages.map (·.properties.get? "condition") = [none] ∧
      w₂.session.submission.stages.map (·.properties.get? "condition") = [some "a > 1"] ∧
      ∃ outline, (readOutline.step w₂).1 = .ok (.outline outline) ∧
        ∃ shown ∈ outline.stages, shown.id = some "t" := by
  intro without both n backend w w₁ w₂
  let n₁ := (n.inSlot .transform 0).applyContract without
  let n₂ := n₁.applyContract both
  have hn₁ : w₁.session.nodes.get? "t" = some n₁ := by decide +kernel
  have hn₂ : w₂.session.nodes.get? "t" = some n₂ := by decide +kernel
  have hplaced : n.Receives without n₁ := .placed hn₁ rfl
  let changed : World CatalogBackend MemoryStore :=
    { w₁ with backend := w₁.backend.register .transform "Filter" both }
  let editor := Editor.ofSnapshot n₂ "" .batch false
  have hchanged : changed.session.nodes.get? "t" = some n₁ := hn₁
  have hanswer : ((edit "t" none).step changed).1 = .ok (.editor editor) :=
    answer_edit (by decide +kernel)
  have hopened : n₁.Receives both n₂ := .opened hchanged hanswer hn₂ rfl rfl
  have hlast : [without, both].getLast? = some both := rfl
  have hreachable : w₂.session.Reachable := .step _ (.step _ (.step _ .fresh))
  have hedge : (⟨"a", "t"⟩ : Edge) ∈ w₂.session.edges := by decide +kernel
  have hfirst : w₁.session.submission.stages.map (·.properties.get? "condition") = [none] := by
    decide +kernel
  have hsecond : w₂.session.submission.stages.map (·.properties.get? "condition") =
      [some "a > 1"] := by
    decide +kernel
  -- the rest follows from these facts, whatever the worlds are
  clear_value w₂ w₁
  obtain ⟨-, -, hall⟩ := values_survive n hlast
  obtain ⟨-, -, hget, hread⟩ := hall n₂ (.cons hplaced (.cons hopened (.nil n₂)))
  obtain ⟨-, outline, -, houtline, -, -, hshown⟩ := hread _ _ w₂ hreachable hn₂
  refine ⟨hlast, n₁, n₂, hplaced, hopened, hn₁, hn₂, ?_, ?_, hfirst, hsecond, outline, houtline,
    hshown ⟨_, hedge, .inr rfl⟩ (.inl rfl)⟩
  · rw [hget]
    decide +kernel
  · rw [hget]
    decide +kernel

end Operation

end PipelineCanvas
