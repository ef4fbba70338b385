import Mathlib.Logic.Relation
import PipelineCanvas.Proofs.Flattening.Chain
import PipelineCanvas.Proofs.Session.Accepting
import PipelineCanvas.Proofs.Session.Editors
import PipelineCanvas.Proofs.Wire.RoundTrip

/-!
# Where the nodes come from

A node that is on the canvas after an operation was there before, or has come onto it, and
may have been changed on the way. There are few ways of coming – out of the palette, with a
stored canvas, with a draft, out of an editor – and few changes. `Operation.Brings` lists the
ones and `Operation.Yields` the others, with what the operation had at hand, so what is to
hold of all nodes of a session is proved for the constructors, once.

* `Backend.Asked` – the states that a backend comes to by being asked for contracts;
* `Operation.Brings`, `Operation.Yields` – the nodes that an operation brings onto the canvas,
  and those that it may leave there;
* **`Operation.yieldsAll_step`** – it leaves no other;
* `Step.Opened` – a step that opened an editor, which goes back to a node that is resolved
  (`Step.Opened.resolved`).
-/

namespace PipelineCanvas

open PipelineCanvas.Action

variable {β σ α : Type} [Backend β] [DraftStore σ]

/-! ### Asking for contracts -/

/-- A backend was asked for contracts, any number of times, and handed nothing. -/
abbrev Backend.Asked : β → β → Prop :=
  Relation.ReflTransGen fun b b' => ∃ q, b' = (Backend.fetch q b).2

/-- A world in which the backend was at most asked for contracts since another. -/
def World.OnlyAsks (w w' : World β σ) : Prop := Backend.Asked w.backend w'.backend

instance : Admits (World.OnlyAsks (β := β) (σ := σ)) where
  refl _ := .refl
  trans := .trans
  emit _ _ := .refl
  update _ := .refl
  fetch q _ := .single ⟨q, rfl⟩
  readStore _ _ := .refl

namespace Session

omit [DraftStore σ] in
/-- Resolving a node changes that node alone, and only if the backend tells its contract. -/
theorem nodes_run_resolveNode (id : String) (template : TemplateKind) (scope : Option String)
    (w : World β σ) :
    (run (resolveNode id template scope : Action β σ Unit) w).2.session.nodes = w.session.nodes ∨
      ∃ n answers, w.session.nodes.get? id = some n ∧
        (Backend.fetch (n.query template scope) w.backend).1 = .ok answers ∧
        (run (resolveNode id template scope : Action β σ Unit) w).2.session.nodes =
          w.session.nodes.insert id (n.applyContract (PluginProperties.contract answers)) := by
  cases hn : w.session.nodes.get? id with
  | none =>
    left
    simp only [resolveNode, run_bind, run_session, hn, run_pure]
  | some n =>
    cases hfetch : (Backend.fetch (n.query template scope) w.backend).1 with
    | ok answers =>
      refine .inr ⟨n, answers, rfl, hfetch, ?_⟩
      rw [session_run_resolveNode hn hfetch]
    | error e =>
      obtain ⟨w₁, w₂, hw, hnotes, hrun⟩ := run_resolved n template scope w
      rw [hfetch] at hrun
      left
      simp only [resolveNode, run_bind, run_session, hn, hrun]
      rw [hnotes.session_eq, World.fetching, hw.session_eq]

/-- What is read back of a draft that a session has stored are nodes of that session. -/
theorem exists_get?_of_reopened {s : Session} {name : String} {draft : Draft} {n : Node}
    (hdecode : Draft.decode s.draft.toJson.canonical = .ok draft)
    (hn : n ∈ (draft.graph name).1) : ∃ k, s.nodes.get? k = some n := by
  rw [Draft.decode_toJson] at hdecode
  cases hdecode
  exact OrderedMap.mem_values_iff.mp hn

/-- What the store answers under the name of a draft, if it does. -/
def storedDraft? (name : String) (w : World β σ) : Option Json :=
  match (DraftStore.get draftsKey w.store).1 with
  | .ok value => Entries.get? (draftsOf value) name
  | .error _ => none

end Session

omit [Backend β] [DraftStore σ] in
/-- What each round of a loop preserves, the loop preserves, wherever it breaks off. -/
theorem Action.forIn_induction {P : World β σ → Prop} {l : List α} {f : α → Action β σ PUnit}
    (hf : ∀ a w, P w → P (run (f a) w).2) {w : World β σ} (h : P w) :
    P (run (forIn l PUnit.unit fun a _ => do f a; pure (ForInStep.yield PUnit.unit)) w).2 := by
  induction l generalizing w with
  | nil => exact h
  | cons a l ih =>
    have hround := hf a w h
    simp only [List.forIn_cons, bind_assoc, pure_bind]
    rw [run_bind]
    rcases hr : run (f a) w with ⟨e | x, w'⟩
    · rw [hr] at hround
      exact hround
    · rw [hr] at hround
      exact ih hround

namespace Operation

/-! ### What an operation leaves -/

/-- The nodes that an operation brings onto the canvas. -/
inductive Brings (op : Operation) (w : World β σ) : Node → Prop where
  /-- It is placed under a role. -/
  | placed {n : Node} {role : Role} (hop : op = .addNode n role) :
      Brings op w (w.session.nodes.placed n role)
  /-- It is one of a stored canvas. -/
  | loaded {nodes : List Node} {edges : Edges} {n : Node} (hop : op = .loadGraph nodes edges)
      (hn : n ∈ nodes) : Brings op w n
  /-- It is one of a stored draft. -/
  | reopened {name : String} {stored : Json} {draft : Draft} {n : Node}
      (hop : op = .importDraft name) (hstored : Session.storedDraft? name w = some stored)
      (hdecode : Draft.decode stored = .ok draft) (hn : n ∈ (draft.graph name).1) : Brings op w n
  /-- An editor goes back to it. -/
  | restored {editor : Editor} (hop : op = .finishEdit editor .cancel) :
      Brings op w editor.snapshot

omit [Backend β] in
/-- Cancelling an editor brings nothing but what the editor goes back to. -/
theorem Brings.eq_snapshot {w : World β σ} {editor : Editor} {n : Node}
    (h : (finishEdit editor .cancel).Brings w n) : n = editor.snapshot := by
  cases h with
  | restored heq =>
    cases heq
    rfl
  | placed heq => cases heq
  | loaded heq _ => cases heq
  | reopened heq _ _ _ => cases heq

omit [Backend β] in
/-- Opening a draft brings nothing but nodes of the session that has stored it. -/
theorem Brings.exists_get?_of_stored {w : World β σ} {name : String} {n : Node} {s : Session}
    (h : (importDraft name).Brings w n)
    (hstored : Session.storedDraft? name w = some s.draft.toJson.canonical) :
    ∃ k, s.nodes.get? k = some n := by
  cases h with
  | reopened heq hread hdecode hn =>
    cases heq
    rw [hstored] at hread
    cases hread
    exact Session.exists_get?_of_reopened hdecode hn
  | placed heq => cases heq
  | loaded heq _ => cases heq
  | restored heq => cases heq

/-- The nodes that an operation may leave on the canvas, by what becomes of them. -/
inductive Yields (op : Operation) (w : World β σ) : Node → Prop where
  /-- It was there. -/
  | kept {k : String} {n : Node} (hn : w.session.nodes.get? k = some n) : Yields op w n
  | brought {n : Node} (h : op.Brings w n) : Yields op w n
  /-- It gets the contract that the backend has for it. -/
  | resolved {n : Node} {b : β} {scope : Option String} {answers : List PluginProperties}
      (h : Yields op w n) (hasked : Backend.Asked w.backend b)
      (hfetch : (Backend.fetch (n.query w.session.activeTemplate scope) b).1 = .ok answers) :
      Yields op w (n.applyContract (PluginProperties.contract answers))
  /-- Its output schema is replaced. -/
  | described {n : Node} (h : Yields op w n) (schema : Option String) :
      Yields op w (n.setOutputSchema schema)
  /-- A property is set. -/
  | valued {id key value : String} {n : Node} (h : Yields op w n)
      (hop : op = .setProperty id key value) : Yields op w (n.setProperty key value)
  /-- A property is dropped. -/
  | unvalued {id key : String} {n : Node} (h : Yields op w n) (hop : op = .removeProperty id key) :
      Yields op w (n.removeProperty key)

/-- The operation may leave each of the nodes. -/
def YieldsAll (op : Operation) (w : World β σ) (nodes : NodeTable) : Prop :=
  ∀ k n, nodes.get? k = some n → op.Yields w n

variable {op : Operation} {w : World β σ} {nodes : NodeTable}

namespace YieldsAll

theorem kept (op : Operation) (w : World β σ) : op.YieldsAll w w.session.nodes :=
  fun _ _ hn => .kept hn

theorem insert (h : op.YieldsAll w nodes) {n : Node} (hn : op.Yields w n) (id : String) :
    op.YieldsAll w (nodes.insert id n) := by
  intro k m hm
  rw [OrderedMap.get?_insert] at hm
  split at hm
  · cases hm
    exact hn
  · exact h k m hm

theorem erase (h : op.YieldsAll w nodes) (id : String) : op.YieldsAll w (nodes.erase id) := by
  intro k m hm
  rw [OrderedMap.get?_erase] at hm
  split at hm
  · cases hm
  · exact h k m hm

theorem ofNodes {ns : List Node} (h : ∀ n ∈ ns, op.Yields w n) : op.YieldsAll w (.ofNodes ns) :=
  fun _ n hn => h n ((NodeTable.mem_of_get?_foldl_restore hn).resolve_right (by simp))

protected theorem empty : op.YieldsAll w .empty := fun _ _ hn => nomatch hn

end YieldsAll

/-! ### Fetching contracts -/

/-- A world on the way through an operation, as long as that has done no more than to fetch
contracts for what it yields. -/
structure Fetching (op : Operation) (w u : World β σ) : Prop where
  nodes : op.YieldsAll w u.session.nodes
  asked : Backend.Asked w.backend u.backend

/-- Resolving a node is a step on the way. -/
theorem Fetching.resolveNode {u : World β σ} (h : op.Fetching w u) (id : String)
    (scope : Option String) :
    op.Fetching w
      (run (Session.resolveNode id w.session.activeTemplate scope : Action β σ Unit) u).2 := by
  refine ⟨?_, h.asked.trans (Session.leads_resolveNode (R := World.OnlyAsks) _ _ _ u)⟩
  rcases Session.nodes_run_resolveNode id w.session.activeTemplate scope u with
    hsame | ⟨n, answers, hn, hfetch, hnodes⟩
  · rw [hsame]
    exact h.nodes
  · rw [hnodes]
    exact h.nodes.insert (.resolved (h.nodes id n hn) h.asked hfetch) id

theorem yieldsAll_addNode (n : Node) (role : Role) (w : World β σ) :
    (addNode n role).YieldsAll w ((addNode n role).step w).2.session.nodes := by
  have hplaced : (addNode n role).YieldsAll w (w.session.nodes.place n role) :=
    ((YieldsAll.kept _ w).erase n.id).insert (.brought (.placed rfl)) n.id
  rw [step_of_perform_eq _ (Session.addNode n role) (fun _ => .done) rfl]
  simp only [Session.addNode, run_bind, run_session, run_update, run_log, run_tell]
  split
  · refine (Fetching.resolveNode (w := w) ?_ n.id none).nodes
    exact ⟨hplaced, .refl⟩
  · exact hplaced

theorem yieldsAll_resolvePending (w : World β σ) :
    resolvePending.YieldsAll w (resolvePending.step w).2.session.nodes := by
  rw [step_of_perform_eq _ Session.resolvePending .count rfl]
  simp only [Session.resolvePending, run_bind _ session, run_session]
  have hloop := forIn_induction (l := w.session.nodes.pendingIds)
    (fun id u (hu : resolvePending.Fetching w u) => hu.resolveNode id none)
    ⟨YieldsAll.kept _ w, .refl⟩
  rw [run_bind]
  split
  · next hr =>
    rw [hr] at hloop
    exact hloop.nodes
  · next hr =>
    rw [hr] at hloop
    exact hloop.nodes

/-! ### Editing -/

/-- Changing a node of the canvas. -/
theorem yieldsAll_changeNode {id : String} {f : Node → Node}
    (h : ∀ n, op.Yields w n → op.Yields w (f n)) :
    op.YieldsAll w (run (Session.changeNode id f : Action β σ Unit) w).2.session.nodes := by
  rw [Session.run_changeNode]
  cases hn : w.session.nodes.get? id with
  | none => exact YieldsAll.kept op w
  | some n => exact (YieldsAll.kept op w).insert (h n (.kept hn)) id

theorem Yields.takeOver {n : Node} (h : op.Yields w n) (inputSchema : String) :
    op.Yields w (Session.takeOver n inputSchema) := by
  unfold Session.takeOver
  split
  · exact .described h _
  · exact h

theorem yieldsAll_edit (id : String) (scope : Option String) (w : World β σ) :
    (edit id scope).YieldsAll w ((edit id scope).step w).2.session.nodes := by
  rw [step_of_perform_eq _ (Session.edit id scope) .editor rfl]
  have hrun := Session.editRun id scope w
  generalize run (Session.edit id scope : Action β σ Editor) w = r at hrun
  cases hrun with
  | noNode hn => exact YieldsAll.kept _ w
  | unanswered hn hw hfetch hnotes =>
    rw [hnotes.session_eq, World.fetching, hw.session_eq]
    exact YieldsAll.kept _ w
  | opened hn hfetch hsnapshot heditor hsession =>
    rw [hsession, hsnapshot]
    exact (YieldsAll.kept _ w).insert ((Yields.resolved (.kept hn) .refl hfetch).takeOver _) id

/-! ### Drafts and saving -/

theorem yieldsAll_importDraft (name : String) (w : World β σ) :
    (importDraft name).YieldsAll w ((importDraft name).step w).2.session.nodes := by
  rw [step_of_perform_eq _ (Session.importDraft name) (fun _ => .done) rfl]
  have hrun := Session.importDraftRun name w
  generalize run (Session.importDraft name : Action β σ Unit) w = r at hrun
  cases hrun with
  | unread hget => exact YieldsAll.kept _ w
  | missing hget hmissing => exact YieldsAll.kept _ w
  | undecodable hget hstored hdecode => exact YieldsAll.kept _ w
  | @opened _ stored _ _ hget hstored hdecode hsession =>
    rw [hsession]
    have hread : Session.storedDraft? name w = some stored := by
      rw [Session.storedDraft?, hget]
      exact hstored
    exact YieldsAll.ofNodes fun n hn => .brought (.reopened rfl hread hdecode hn)

/-- Storing a draft leaves session and backend alone. -/
theorem step_saveDraft_keeps (w : World β σ) :
    (saveDraft.step w).2.session = w.session ∧ (saveDraft.step w).2.backend = w.backend := by
  rw [step_of_perform_eq _ Session.saveDraft (fun _ => .done) rfl]
  have hrun := Session.saveDraftRun w
  generalize run (Session.saveDraft : Action β σ Unit) w = r at hrun
  cases hrun with
  | refused hverdict hw => exact ⟨hw.session_eq, hw.backend_eq⟩
  | unread hw hget => exact ⟨hw.session_eq, hw.backend_eq⟩
  | unwritten hw hget hset => exact ⟨hw.session_eq, hw.backend_eq⟩
  | stored hw hget hset hnotes =>
    exact ⟨hnotes.session_eq.trans hw.session_eq, hnotes.backend_eq.trans hw.backend_eq⟩

theorem yieldsAll_saveDraft (w : World β σ) :
    saveDraft.YieldsAll w (saveDraft.step w).2.session.nodes := by
  rw [(step_saveDraft_keeps w).1]
  exact YieldsAll.kept _ w

theorem yieldsAll_save (nameSpace : String) (w : World β σ) :
    (save nameSpace).YieldsAll w ((save nameSpace).step w).2.session.nodes := by
  have hstep := step_of_perform_eq (save nameSpace) (Session.save nameSpace) .text rfl w
  have hrun := Session.saveRun nameSpace w
  generalize run (Session.save nameSpace : Action β σ String) w = r at hstep hrun
  cases hrun with
  | refused hverdict hw =>
    rw [hstep, World.telling, hw.session_eq]
    exact YieldsAll.kept _ w
  | rejected hverdict hw hsubmit hnotes =>
    rw [hstep, hnotes.session_eq, World.submitting, hw.session_eq]
    exact YieldsAll.kept _ w
  | taken hverdict hw hsubmit hnotes hquiet hstore =>
    rw [(step_save_concludes nameSpace hverdict hsubmit).2.1.nodes_eq]
    exact .empty

/-- **What an operation leaves.** -/
theorem yieldsAll_step (op : Operation) (w : World β σ) :
    op.YieldsAll w (op.step w).2.session.nodes := by
  have hkept := YieldsAll.kept op w
  cases op with
  | addNode node role => exact yieldsAll_addNode node role w
  | removeNode id =>
    rw [step_of_perform_eq _ (Session.removeNode id) .node rfl]
    simp only [Session.removeNode, run_bind, run_session]
    cases w.session.nodes.get? id with
    | none => exact hkept
    | some n => exact hkept.erase id
  | loadGraph nodes edges => exact YieldsAll.ofNodes fun n hn => .brought (.loaded rfl hn)
  | resolvePending => exact yieldsAll_resolvePending w
  | edit id scope => exact yieldsAll_edit id scope w
  | finishEdit editor outcome =>
    rw [(step_finishEdit editor outcome w).1]
    cases outcome with
    | cancel => exact hkept.insert (.brought (.restored rfl)) _
    | keep => exact hkept
  | teardown =>
    rw [step_of_perform_eq _ Session.teardown (fun _ => .done) rfl]
    simp only [Session.teardown, run_bind, run_session]
    cases w.session.openEditor <;> exact hkept
  | setOutputSchema id schema =>
    rw [step_of_perform_eq _ (Session.setOutputSchema id schema) (fun _ => .done) rfl]
    exact yieldsAll_changeNode fun n hn => .described hn schema
  | setProperty id key value =>
    rw [step_of_perform_eq _ (Session.setProperty id key value) (fun _ => .done) rfl]
    exact yieldsAll_changeNode fun n hn => .valued hn rfl
  | removeProperty id key =>
    rw [step_of_perform_eq _ (Session.removeProperty id key) .optionalText rfl,
      Session.run_removeProperty]
    cases hn : w.session.nodes.get? id with
    | none => exact hkept
    | some n => exact hkept.insert (.unvalued (.kept hn) rfl) id
  | flatten =>
    rw [step_of_perform_eq _ Session.flattenCanvas .flattening rfl]
    simp only [Session.flattenCanvas, run_bind, run_session, run_logAll, run_pure]
    exact hkept
  | readOutline =>
    rw [step_of_perform_eq _ Session.readOutline .outline rfl, Session.run_readOutline]
    exact hkept
  | readSubmission =>
    rw [step_of_perform_eq _ Session.readSubmission .submission rfl, Session.run_readSubmission]
    exact hkept
  | save nameSpace => exact yieldsAll_save nameSpace w
  | saveDraft => exact yieldsAll_saveDraft w
  | draftNames =>
    rw [step_of_perform_eq _ Session.draftNames .names rfl]
    simp only [Session.draftNames, run_bind, Session.run_readDrafts]
    cases (DraftStore.get draftsKey w.store).1 <;> exact hkept
  | importDraft name => exact yieldsAll_importDraft name w
  | reset keepName =>
    rw [step_of_perform_eq _ (Session.reset keepName) (fun _ => .done) rfl]
    obtain ⟨w₁, hw, hrun⟩ := Session.run_reset keepName w
    rw [hrun, World.telling, hw.session_eq, World.clearing]
    exact .empty
  -- none of the others concerns the nodes
  | _ => exact hkept

end Operation

/-! ### Out of an editor -/

namespace Step

/-- A step has opened an editor. -/
def Opened (s : Step β σ) (editor : Editor) : Prop :=
  (∃ id scope, s.operation = .edit id scope) ∧ s.answer = .ok (.editor editor)

variable {s : Step β σ} {editor : Editor}

/-- An editor goes back to a node of the canvas with the contract that the backend had for
it. -/
theorem Opened.resolved (h : s.Opened editor) : ∃ id scope n answers,
    s.before.session.nodes.get? id = some n ∧
      (Backend.fetch (n.query s.before.session.activeTemplate scope) s.before.backend).1 =
        .ok answers ∧
      editor.snapshot = n.applyContract (PluginProperties.contract answers) := by
  obtain ⟨⟨id, scope, hop⟩, hanswer⟩ := h
  have hrun := Session.editRun id scope s.before
  rw [Operation.run_edit_of_answer hop hanswer] at hrun
  cases hrun with
  | opened hn hfetch hsnapshot heditor hsession =>
    rw [heditor]
    exact ⟨id, scope, _, _, hn, hfetch, hsnapshot⟩

end Step

end PipelineCanvas
