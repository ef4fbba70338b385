import PipelineCanvas.Proofs.Flattening.Chain
import PipelineCanvas.Proofs.Session.Failing
import PipelineCanvas.Proofs.Session.History

/-!
# Resolving the pending nodes

The nodes that are pending are resolved one after another, in the order of their ids, and the
first for which the backend has no contract ends it. Each round changes one node, and the node
of a later round is not among those changed, so it is asked for as it was in the beginning.
What the backend replies to all these queries (`Backend.replies`) is then all there is to know:
the answers up to the first failure say which nodes are resolved, and how.

* `Backend.Replies`, `Backend.replies` – what a backend replies to queries in a row;
* `Node.TakesOn` – a node with a contract that it did not have, or had not the values for;
* `NodeTable.pending` – the pending nodes, and `World.Resolves` – what resolving some leaves;
* **`Session.run_resolveEach`** – resolving nodes one after another leaves just that;
* **`Operation.step_resolvePending`** – what becomes of the pending nodes of a session.
-/

namespace PipelineCanvas

open PipelineCanvas.Action

variable {β σ : Type}

/-! ### Queries in a row -/

namespace Backend

/-- What a backend replies to queries that it is asked one after another, up to the first that
it does not answer. -/
structure Replies (β : Type) where
  /-- The answers, in the order of the queries. -/
  answers : List (List PluginProperties)
  /-- Why the next query is not answered, if one is left. -/
  failure : Option BackendError
  /-- The state that the backend is in then. -/
  backend : β

variable [Backend β]

/-- What a backend replies to queries in a row. -/
def replies : List PropertyQuery → β → Replies β
  | [], b => ⟨[], none, b⟩
  | q :: queries, b =>
    match fetch q b with
    | (.ok answer, b') =>
      let rest := replies queries b'
      { rest with answers := answer :: rest.answers }
    | (.error e, b') => ⟨[], some e, b'⟩

variable {q : PropertyQuery} {b b' : β}

theorem replies_cons_of_ok {answer : List PluginProperties} (h : fetch q b = (.ok answer, b'))
    (queries : List PropertyQuery) :
    replies (q :: queries) b =
      { replies queries b' with answers := answer :: (replies queries b').answers } := by
  rw [replies, h]

theorem replies_cons_of_error {e : BackendError} (h : fetch q b = (.error e, b'))
    (queries : List PropertyQuery) : replies (q :: queries) b = ⟨[], some e, b'⟩ := by
  rw [replies, h]

/-- All queries are answered, or one is left that is not. -/
theorem length_answers_replies (queries : List PropertyQuery) (b : β) :
    match (replies queries b).failure with
    | none => (replies queries b).answers.length = queries.length
    | some _ => (replies queries b).answers.length < queries.length := by
  induction queries generalizing b with
  | nil => rfl
  | cons q queries ih =>
    rcases hfetch : fetch q b with ⟨e | answer, b'⟩
    · rw [replies_cons_of_error hfetch]
      exact Nat.zero_lt_succ _
    · have hrest := ih b'
      rw [replies_cons_of_ok hfetch]
      dsimp only
      cases hfailure : (replies queries b').failure with
      | none =>
        rw [hfailure] at hrest
        exact congrArg Nat.succ hrest
      | some e =>
        rw [hfailure] at hrest
        exact Nat.succ_lt_succ hrest

end Backend

/-! ### Nodes that get a contract -/

namespace Node

/-- A node takes on a contract: whatever that declares has a value from then on, an empty one
where there was none, and all else stays. -/
structure TakesOn (n : Node) (c : Contract) (n' : Node) : Prop where
  eq : n' = { n with contract := some c, properties := n'.properties }
  get?_eq : ∀ key, n'.properties.get? key =
    (n.properties.get? key).or (if c.contains key then some "" else none)

theorem takesOn_applyContract (n : Node) (c : Contract) : n.TakesOn c (n.applyContract c) where
  eq := rfl
  get?_eq key := by
    rw [applyContract, get?_reconcile]
    cases n.properties.get? key <;> rfl

theorem TakesOn.contract_eq {n n' : Node} {c : Contract} (h : n.TakesOn c n') :
    n'.contract = some c := by
  rw [h.eq]

/-- A node differs from another at most in its contract, and has every value of the other. -/
structure Extends (n n' : Node) : Prop where
  eq : n' = { n with contract := n'.contract, properties := n'.properties }
  get?_eq : ∀ key value, n.properties.get? key = some value →
    n'.properties.get? key = some value

theorem Extends.refl (n : Node) : n.Extends n := ⟨rfl, fun _ _ h => h⟩

theorem TakesOn.extends {n n' : Node} {c : Contract} (h : n.TakesOn c n') : n.Extends n' where
  eq := by rw [h.eq]
  get?_eq key value hvalue := by rw [h.get?_eq, hvalue, Option.some_or]

end Node

namespace NodeTable

variable {t : NodeTable} {n : Node}

/-- The nodes whose contract is pending, in the order of their ids. -/
def pending (t : NodeTable) : List Node := t.values.filter fun n => !n.isReady

theorem Keyed.mem_pending_iff (h : t.Keyed) :
    n ∈ t.pending ↔ t.get? n.id = some n ∧ n.contract = none := by
  rw [pending, List.mem_filter, h.mem_values_iff]
  simp [Node.isReady]

theorem Keyed.pending_ascending (h : t.Keyed) : t.pending.Pairwise fun a b => a.id < b.id :=
  h.values_ascending.filter _

theorem Keyed.nodup_pending (h : t.Keyed) : (t.pending.map (·.id)).Nodup := by
  refine List.pairwise_map.mpr (h.pending_ascending.imp fun {a b} hlt heq => ?_)
  exact String.lt_irrefl _ (heq ▸ hlt)

/-- The table in which nodes have the contracts of the answers that there are. -/
def resolving (t : NodeTable) (resolved : List (Node × List PluginProperties)) : NodeTable :=
  (resolved.map fun p => p.1.applyContract (PluginProperties.contract p.2)).foldl restore t

variable {resolved : List (Node × List PluginProperties)}

theorem get?_resolving_of_ne {id : String} (h : ∀ p ∈ resolved, p.1.id ≠ id) :
    (t.resolving resolved).get? id = t.get? id := by
  refine get?_foldl_restore_of_not_mem ?_ t
  simp only [List.map_map, List.mem_map, not_exists, not_and]
  exact h

theorem get?_resolving (hnodup : (resolved.map (·.1.id)).Nodup)
    {p : Node × List PluginProperties} (hp : p ∈ resolved) :
    (t.resolving resolved).get? p.1.id =
      some (p.1.applyContract (PluginProperties.contract p.2)) := by
  refine get?_foldl_restore ?_ (List.mem_map_of_mem hp) t
  rwa [List.map_map]

/-- Nodes with different ids that get answers have different ids. -/
theorem nodup_zip {ns : List Node} (h : (ns.map (·.id)).Nodup)
    (answers : List (List PluginProperties)) : ((ns.zip answers).map (·.1.id)).Nodup := by
  have hsublist : ((ns.zip answers).map Prod.fst).Sublist ns := by
    rw [List.zip_eq_zip_take_min, List.map_fst_zip (by simp)]
    exact List.take_sublist _ _
  have hids := hsublist.map (·.id)
  rw [List.map_map] at hids
  exact h.sublist hids

/-- **A node whose contract was pending has the answer for it,** if there is one; any other node
is what it was. -/
theorem Keyed.get?_resolving_cases (h : t.Keyed) (answers : List (List PluginProperties))
    (id : String) :
    let resolved := t.pending.zip answers
    (∃ p ∈ resolved, p.1.id = id ∧ t.get? id = some p.1 ∧
      (t.resolving resolved).get? id =
        some (p.1.applyContract (PluginProperties.contract p.2))) ∨
    ((∀ p ∈ resolved, p.1.id ≠ id) ∧ (t.resolving resolved).get? id = t.get? id) := by
  intro resolved
  by_cases hid : ∃ p ∈ resolved, p.1.id = id
  · obtain ⟨p, hp, rfl⟩ := hid
    have hpending : p.1 ∈ t.pending := (List.of_mem_zip hp).1
    exact .inl ⟨p, hp, rfl, (h.mem_pending_iff.mp hpending).1,
      get?_resolving (nodup_zip h.nodup_pending answers) hp⟩
  · have hne : ∀ p ∈ resolved, p.1.id ≠ id := fun p hp hpid => hid ⟨p, hp, hpid⟩
    exact .inr ⟨hne, get?_resolving_of_ne hne⟩

/-- Resolving nodes keeps the ids. -/
theorem Keyed.keys_resolving (h : t.Keyed) (answers : List (List PluginProperties)) :
    (t.resolving (t.pending.zip answers)).keys = t.keys := by
  refine OrderedMap.keys_eq_iff.mpr fun id => ?_
  rw [OrderedMap.contains, OrderedMap.contains]
  rcases h.get?_resolving_cases answers id with ⟨p, -, -, hbefore, hafter⟩ | ⟨-, hsame⟩
  · rw [hbefore, hafter]
    rfl
  · rw [hsame]

/-- Resolving nodes takes nothing from any. -/
theorem Keyed.extends_resolving (h : t.Keyed) (answers : List (List PluginProperties))
    {id : String} (hn : t.get? id = some n) :
    ∃ n', (t.resolving (t.pending.zip answers)).get? id = some n' ∧ n.Extends n' := by
  rcases h.get?_resolving_cases answers id with ⟨p, -, -, hbefore, hafter⟩ | ⟨-, hsame⟩
  · rw [hn] at hbefore
    cases hbefore
    exact ⟨_, hafter, (p.1.takesOn_applyContract _).extends⟩
  · exact ⟨n, hsame.trans hn, .refl n⟩

/-- If there is an answer for every pending node, none is pending any more. -/
theorem Keyed.pending_resolving (h : t.Keyed) {answers : List (List PluginProperties)}
    (hlength : answers.length = t.pending.length) :
    (t.resolving (t.pending.zip answers)).pending = [] := by
  refine List.eq_nil_iff_forall_not_mem.mpr fun n hn => ?_
  obtain ⟨hmem, hpending⟩ := List.mem_filter.mp hn
  obtain ⟨id, hid⟩ := OrderedMap.mem_values_iff.mp hmem
  rcases h.get?_resolving_cases answers id with ⟨p, -, -, -, hafter⟩ | ⟨hne, hsame⟩
  · rw [hafter] at hid
    cases hid
    cases hpending
  · -- a node that is still pending was so before, and then there is an answer for it
    have hbefore : n ∈ t.pending :=
      List.mem_filter.mpr ⟨OrderedMap.mem_values_iff.mpr ⟨id, hsame ▸ hid⟩, hpending⟩
    have hzip : (t.pending.zip answers).map Prod.fst = t.pending :=
      List.map_fst_zip (Nat.le_of_eq hlength.symm)
    rw [← hzip] at hbefore
    obtain ⟨p, hp, rfl⟩ := List.mem_map.mp hbefore
    exact hne p hp (keyed_iff.mp h id p.1 (hsame ▸ hid))

end NodeTable

/-! ### One after another -/

namespace World

variable {w w' : World β σ}

@[simp] theorem backendCalls_fetching [Backend β] (w : World β σ) (q : PropertyQuery) :
    (w.fetching q).backendCalls = w.backendCalls ++ [.fetched q] := by
  simp [backendCalls, fetching, Effect.isBackendCall]

/-- What resolving nodes one after another leaves. -/
structure Resolves (w : World β σ) (ns : List Node) (template : TemplateKind)
    (replies : Backend.Replies β) (w' : World β σ) : Prop where
  session_eq : w'.session =
    { w.session with nodes := w.session.nodes.resolving (ns.zip replies.answers) }
  backend_eq : w'.backend = replies.backend
  store_eq : w'.store = w.store
  /-- The query that was not answered was asked as well. -/
  backendCalls_eq : w'.backendCalls = w.backendCalls ++
    (ns.take (replies.answers.length + 1)).map fun n => .fetched (n.query template none)

variable {n : Node} {ns : List Node} {template : TemplateKind} {b : β}

/-- A node that is not resolved ends it. -/
theorem Resolves.last {e : BackendError} (h : w.Resolves [n] template ⟨[], some e, b⟩ w') :
    w.Resolves (n :: ns) template ⟨[], some e, b⟩ w' :=
  ⟨h.session_eq, h.backend_eq, h.store_eq, h.backendCalls_eq⟩

/-- Behind a node that is resolved come those that are left. -/
theorem Resolves.cons {w₁ : World β σ} {answer : List PluginProperties}
    {replies : Backend.Replies β} (h : w.Resolves [n] template ⟨[answer], none, b⟩ w₁)
    (h' : w₁.Resolves ns template replies w') :
    w.Resolves (n :: ns) template { replies with answers := answer :: replies.answers } w' where
  session_eq := by
    rw [h'.session_eq, h.session_eq]
    rfl
  backend_eq := h'.backend_eq
  store_eq := h'.store_eq.trans h.store_eq
  backendCalls_eq := by
    rw [h'.backendCalls_eq, h.backendCalls_eq, List.append_assoc]
    rfl

end World

namespace Session

variable [Backend β] {template : TemplateKind} {n : Node} {ns : List Node} {w : World β σ}

/-- Resolving one node. -/
theorem run_resolveNode (hn : w.session.nodes.get? n.id = some n) (template : TemplateKind) :
    ∃ w' : World β σ,
      w.Resolves [n] template (Backend.replies [n.query template none] w.backend) w' ∧
        run (resolveNode n.id template none : Action β σ Unit) w =
          match (Backend.fetch (n.query template none) w.backend).1 with
          | .ok _ => (.ok (), w')
          | .error e => (.error (.backend e), w') := by
  obtain ⟨w₁, w₂, hw, hnotes, hrun⟩ := run_resolved n template none w
  have hsession : w₂.session = w.session := hnotes.session_eq.trans hw.session_eq
  have hbackend : w₂.backend = (Backend.fetch (n.query template none) w.backend).2 := by
    rw [hnotes.backend_eq, World.fetching, hw.backend_eq]
  have hstore : w₂.store = w.store := hnotes.store_eq.trans hw.store_eq
  have hcalls : w₂.backendCalls = w.backendCalls ++ [.fetched (n.query template none)] := by
    rw [hnotes.backendCalls_eq, World.backendCalls_fetching, hw.backendCalls_eq]
  simp only [resolveNode, run_bind, run_session, hn, hrun]
  rcases hfetch : Backend.fetch (n.query template none) w.backend with ⟨e | answer, b⟩
  · rw [hfetch] at hbackend
    rw [Backend.replies_cons_of_error hfetch]
    exact ⟨w₂, ⟨hsession, hbackend, hstore, hcalls⟩, rfl⟩
  · rw [hfetch] at hbackend
    rw [Backend.replies_cons_of_ok hfetch]
    simp only [run_update]
    refine ⟨_, ?_, rfl⟩
    refine ⟨?_, hbackend, hstore, hcalls⟩
    rw [hsession]
    rfl

/-- **Resolving nodes one after another.** With different ids none is in the way of another. -/
theorem run_resolveEach (template : TemplateKind) (hnodup : (ns.map (·.id)).Nodup)
    (hns : ∀ n ∈ ns, w.session.nodes.get? n.id = some n) :
    ∃ w' : World β σ,
      w.Resolves ns template (Backend.replies (ns.map (·.query template none)) w.backend) w' ∧
        run (forIn (ns.map (·.id)) PUnit.unit fun id _ => do
          resolveNode id template none; pure (ForInStep.yield PUnit.unit)) w =
          match (Backend.replies (ns.map (·.query template none)) w.backend).failure with
          | none => (.ok PUnit.unit, w')
          | some e => (.error (.backend e), w') := by
  induction ns generalizing w with
  | nil => exact ⟨w, ⟨rfl, rfl, rfl, (List.append_nil _).symm⟩, rfl⟩
  | cons n ns ih =>
    obtain ⟨hn, hrest⟩ := List.nodup_cons.mp hnodup
    obtain ⟨w₁, hresolves, hrun⟩ := run_resolveNode (hns n (List.mem_cons_self ..)) template
    simp only [List.map_cons, List.forIn_cons, bind_assoc, pure_bind]
    rw [run_bind, hrun]
    rcases hfetch : Backend.fetch (n.query template none) w.backend with ⟨e | answer, b⟩
    · rw [Backend.replies_cons_of_error hfetch] at hresolves ⊢
      exact ⟨w₁, hresolves.last, rfl⟩
    · rw [Backend.replies_cons_of_ok hfetch] at hresolves ⊢
      -- the nodes that are left are still what they were
      have hleft : ∀ m ∈ ns, w₁.session.nodes.get? m.id = some m := by
        intro m hm
        rw [hresolves.session_eq]
        refine (NodeTable.get?_resolving_of_ne ?_).trans (hns m (List.mem_cons_of_mem _ hm))
        intro p hp heq
        cases List.mem_singleton.mp hp
        exact hn (List.mem_map.mpr ⟨m, hm, heq.symm⟩)
      obtain ⟨w', hothers, hloop⟩ := ih hrest hleft
      rw [hresolves.backend_eq] at hothers hloop
      exact ⟨w', hresolves.cons hothers, hloop⟩

/-- **Resolving all pending nodes,** of a canvas that keeps its nodes under their ids. -/
theorem run_resolvePending (hkeyed : w.session.nodes.Keyed) :
    let pending := w.session.nodes.pending
    let replies := Backend.replies (pending.map (·.query w.session.activeTemplate none)) w.backend
    ∃ w' : World β σ, w.Resolves pending w.session.activeTemplate replies w' ∧
      run (resolvePending : Action β σ Nat) w =
        match replies.failure with
        | none => (.ok pending.length, w')
        | some e => (.error (.backend e), w') := by
  intro pending replies
  obtain ⟨w', hresolves, hloop⟩ := run_resolveEach w.session.activeTemplate
    hkeyed.nodup_pending fun n hn => (hkeyed.mem_pending_iff.mp hn).1
  refine ⟨w', hresolves, ?_⟩
  have hids : w.session.nodes.pendingIds = pending.map (·.id) := rfl
  simp only [resolvePending, run_bind, run_session, hids]
  rw [hloop, List.length_map]
  cases replies.failure <;> rfl

/-- Where no node is pending, there is nothing to do. -/
theorem run_resolvePending_of_nil (h : w.session.nodes.pending = []) :
    run (resolvePending : Action β σ Nat) w = (.ok 0, w) := by
  have hids : w.session.nodes.pendingIds = [] := congrArg (List.map Node.id) h
  simp only [resolvePending, run_bind, run_session, hids]
  rfl

end Session

/-! ### The pending nodes of a session -/

namespace Operation

variable [Backend β] [DraftStore σ]

/-- Resolving the pending nodes, as far as answer and session go. -/
theorem step_resolvePending_of_keyed {w : World β σ} (hkeyed : w.session.nodes.Keyed) :
    let pending := w.session.nodes.pending
    let replies := Backend.replies (pending.map (·.query w.session.activeTemplate none)) w.backend
    (resolvePending.step w).1 =
        (match replies.failure with
          | none => .ok (.count pending.length)
          | some e => .error (.backend e)) ∧
      (resolvePending.step w).2.session =
        { w.session with nodes := w.session.nodes.resolving (pending.zip replies.answers) } := by
  intro pending replies
  obtain ⟨w', hresolves, hrun⟩ := Session.run_resolvePending hkeyed
  rw [step_of_perform_eq resolvePending Session.resolvePending .count rfl, hrun,
    ← hresolves.session_eq]
  constructor <;> cases replies.failure <;> rfl

/-- **What becomes of the pending nodes of a session.** The backend is asked for their contracts,
in the order of their ids and for the template of the pipeline, up to the first that it does not
tell; for no other node is it asked. If it tells all, the answer is how many there were, no node
is pending any more, and resolving once more asks for nothing. If it does not, the answer is
its error. The nodes that it told the contract of take that on, and no other node changes. -/
theorem step_resolvePending {w : World β σ} (hreachable : w.session.Reachable) :
    let pending := w.session.nodes.pending
    let queries := pending.map fun n =>
      PropertyQuery.mk n.role n.name (w.session.metadata.kind.getD .batch) none
    let replies := Backend.replies queries w.backend
    let resolved := pending.zip replies.answers
    let after := (resolvePending.step w).2
    (pending.Pairwise (fun n m => n.id < m.id) ∧
      ∀ n, n ∈ pending ↔ w.session.nodes.get? n.id = some n ∧ n.contract = none) ∧
    after.backendCalls =
      w.backendCalls ++ (queries.take (replies.answers.length + 1)).map .fetched ∧
    (match replies.failure with
      | none => replies.answers.length = pending.length ∧
          (resolvePending.step w).1 = .ok (.count pending.length) ∧
          after.session.nodes.pending = [] ∧ resolvePending.step after = (.ok (.count 0), after)
      | some e => replies.answers.length < pending.length ∧
          (resolvePending.step w).1 = .error (.backend e)) ∧
    (∀ p ∈ resolved, ∃ n, after.session.nodes.get? p.1.id = some n ∧
      p.1.TakesOn ((p.2.head?.map (·.properties)).getD .empty) n) ∧
    (∀ id, (∀ p ∈ resolved, p.1.id ≠ id) →
      after.session.nodes.get? id = w.session.nodes.get? id) ∧
    after.session.nodes.keys = w.session.nodes.keys ∧
    (∀ id n, w.session.nodes.get? id = some n →
      ∃ n', after.session.nodes.get? id = some n' ∧ n.Extends n') ∧
    after.session = { w.session with nodes := after.session.nodes } ∧ after.store = w.store := by
  intro pending queries replies resolved after
  have hkeyed := hreachable.keyed
  have hstep := step_of_perform_eq resolvePending Session.resolvePending .count rfl w
  obtain ⟨w', hresolves, hrun⟩ := Session.run_resolvePending hkeyed
  change w.Resolves pending _ replies w' at hresolves
  change _ = match replies.failure with | none => _ | some e => _ at hrun
  have hafter : after = w' := by
    change (resolvePending.step w).2 = w'
    rw [hstep, hrun]
    split <;> rfl
  have hnodes : after.session.nodes = w.session.nodes.resolving resolved := by
    rw [hafter, hresolves.session_eq]
  have hlength := Backend.length_answers_replies queries w.backend
  rw [List.length_map] at hlength
  change match replies.failure with | none => _ | some e => _ at hlength
  refine ⟨⟨hkeyed.pending_ascending, fun n => hkeyed.mem_pending_iff⟩,
    ?_, ?_, ?_, ?_, ?_, ?_, ?_, ?_⟩
  · rw [hafter, hresolves.backendCalls_eq, ← List.map_take, List.map_map]
    rfl
  · rw [hstep, hrun]
    cases hfailure : replies.failure with
    | none =>
      rw [hfailure] at hlength
      have hdone : after.session.nodes.pending = [] := by
        rw [hnodes]
        exact hkeyed.pending_resolving hlength
      refine ⟨hlength, rfl, hdone, ?_⟩
      rw [step_of_perform_eq resolvePending Session.resolvePending .count rfl,
        Session.run_resolvePending_of_nil hdone]
      rfl
    | some e =>
      rw [hfailure] at hlength
      exact ⟨hlength, rfl⟩
  · intro p hp
    refine ⟨_, ?_, p.1.takesOn_applyContract _⟩
    rw [hnodes]
    exact NodeTable.get?_resolving (NodeTable.nodup_zip hkeyed.nodup_pending _) hp
  · intro id hid
    rw [hnodes]
    exact NodeTable.get?_resolving_of_ne hid
  · rw [hnodes]
    exact hkeyed.keys_resolving _
  · intro id n hn
    rw [hnodes]
    exact hkeyed.extends_resolving _ hn
  · rw [hafter, hresolves.session_eq]
  · rw [hafter, hresolves.store_eq]

/-- The second of three pending nodes is of a plugin that the backend does not know. The first is
resolved, the third is not even asked for, and the node in front of them has its contract. -/
theorem step_resolvePending_unknown :
    let contract : Contract := .ofList [("path", .ofKind "path" "string")]
    let backend := CatalogBackend.empty.register .sink "Table" contract
    let source : Node := { Node.fresh "a" "Stream" .source with contract := some .empty }
    let pending := [Node.fresh "k" "Table" .sink, Node.fresh "t" "Filter" .transform,
      Node.fresh "z" "Table" .sink]
    let w : World CatalogBackend MemoryStore :=
      ((loadGraph (source :: pending) []).step (World.fresh backend .empty)).2
    let after := (resolvePending.step w).2
    (resolvePending.step w).1 =
        .error (.backend (.unknownPlugin "transform" "Filter" TemplateKind.batch.name)) ∧
      after.backendCalls = [.fetched ⟨.sink, "Table", .batch, none⟩,
        .fetched ⟨.transform, "Filter", .batch, none⟩] ∧
      (∃ n, after.session.nodes.get? "k" = some n ∧
        (Node.fresh "k" "Table" .sink).TakesOn contract n) ∧
      after.session.nodes.get? "z" = some (.fresh "z" "Table" .sink) := by
  intro contract backend source pending w after
  let queries := pending.map fun n => PropertyQuery.mk n.role n.name .batch none
  have hreachable : w.session.Reachable := .step _ .fresh
  have hpending : w.session.nodes.pending = pending := by decide +kernel
  have hkind : w.session.metadata.kind.getD .batch = .batch := rfl
  have hfailure : (Backend.replies queries w.backend).failure =
      some (.unknownPlugin "transform" "Filter" TemplateKind.batch.name) := by decide +kernel
  have hanswers : (Backend.replies queries w.backend).answers = [[⟨"Table", contract⟩]] := by
    decide +kernel
  have hbefore : w.backendCalls = [] := rfl
  have hz : w.session.nodes.get? "z" = some (.fresh "z" "Table" .sink) := by decide +kernel
  -- the rest follows from these facts, whatever the world is
  clear_value w
  obtain ⟨-, hcalls, hanswer, hresolved, hothers, -⟩ := step_resolvePending hreachable
  rw [hpending, hkind] at hcalls hanswer hresolved hothers
  change match (Backend.replies queries w.backend).failure with | none => _ | some e => _ at hanswer
  rw [hfailure] at hanswer
  rw [hanswers] at hcalls hresolved hothers
  refine ⟨hanswer.2, hcalls.trans (by rw [hbefore]; rfl), hresolved _ (List.mem_cons_self ..), ?_⟩
  refine (hothers "z" fun p hp => ?_).trans hz
  cases List.mem_singleton.mp hp
  decide

end Operation

end PipelineCanvas
