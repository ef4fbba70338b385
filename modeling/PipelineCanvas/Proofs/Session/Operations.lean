import PipelineCanvas.Proofs.Session.Quiet
import PipelineCanvas.Session.Operation

/-!
# Where the operations lead

**`Operation.leads_perform`**: every operation of a session but two leads only to worlds
that are admitted by any relation that admits what its parts do. The two are saving,
which hands a pipeline to the backend, and storing a draft, which writes to the store –
and is quiet all the same, so that every operation but saving hands nothing to the
backend and changes the nodes on the canvas only as `NodeTable.Change` says
(**`Operation.quiet_perform`**).

Each part of an operation has its own lemma. Most follow from the shape of the operation
alone; those that rewrite the node they have looked up – fetching its contract, editing
it – are run, because the change is one only where the node was found.
-/

namespace PipelineCanvas

open PipelineCanvas.Action

variable {β σ : Type} [Backend β] [DraftStore σ] {R : World β σ → World β σ → Prop} [Admits R]

/-! ### Fetching contracts -/

namespace Node

theorem leads_fetchContract (n : Node) (template : TemplateKind) (scope : Option String) :
    Leads R (n.fetchContract template scope : Action β σ Contract) := by
  refine (Leads.log _ _).bind fun _ => (Leads.emit rfl).bind fun _ =>
    (Leads.fetch _).bind fun answer => ?_
  cases answer with
  | ok answers => exact (Leads.log _ _).bind fun _ => Leads.pure _
  | error error => exact (Leads.log _ _).bind fun _ => Leads.throw _

omit [DraftStore σ] in
/-- Fetching a contract does not touch the session. -/
theorem session_run_fetchContract (n : Node) (template : TemplateKind) (scope : Option String)
    (w : World β σ) :
    (run (n.fetchContract template scope : Action β σ Contract) w).2.session = w.session := by
  simp only [fetchContract, run_bind, run_log, run_emit, run_fetch]
  split <;> simp only [run_bind, run_log, run_pure, run_throw]

theorem leads_resolved (n : Node) (template : TemplateKind) (scope : Option String) :
    Leads R (n.resolved template scope : Action β σ Node) :=
  (n.leads_fetchContract template scope).bind fun _ => Leads.pure _

omit [DraftStore σ] in
/-- **What resolving a node comes to**, if anything: the session stays, and the node has a
new contract. -/
theorem resolved_of_run {n n' : Node} {template : TemplateKind} {scope : Option String}
    {w w' : World β σ} (h : run (n.resolved template scope) w = (.ok n', w')) :
    w'.session = w.session ∧ ∃ contract, n' = n.applyContract contract := by
  have hsession := session_run_fetchContract (β := β) (σ := σ) n template scope w
  rw [resolved, run_bind] at h
  rcases hr : run (n.fetchContract template scope : Action β σ Contract) w with ⟨e | contract, w₁⟩
  · rw [hr] at h
    cases h
  · rw [hr] at h hsession
    cases h
    exact ⟨hsession, contract, rfl⟩

theorem id_applyContract (n : Node) (contract : Contract) :
    (n.applyContract contract).id = n.id := rfl

theorem id_setOutputSchema (n : Node) (schema : Option String) :
    (n.setOutputSchema schema).id = n.id := by
  unfold setOutputSchema
  dsimp only
  split <;> rfl

end Node

namespace Session

/-! ### The canvas -/

/-- Whatever rewrites a node of the canvas and keeps its id is a change. -/
theorem changes_insert {s : Session} {id : String} {n n' : Node} (hn : s.nodes.get? id = some n)
    (hid : n'.id = n.id) : s.nodes.Changes (s.nodes.insert id n') :=
  .single (.rewrite hn hid)

theorem leads_resolveNode (id : String) (template : TemplateKind) (scope : Option String) :
    Leads R (resolveNode id template scope : Action β σ Unit) := by
  intro w
  simp only [resolveNode, run_bind, run_session]
  cases hn : w.session.nodes.get? id with
  | none => exact Admits.refl w
  | some n =>
    refine Admits.run_bind (n.leads_resolved template scope w) fun n' w' hr => Admits.update ?_
    obtain ⟨hs, contract, rfl⟩ := Node.resolved_of_run hr
    -- the fetch left the session alone, so the node is still there to be rewritten
    rw [← hs] at hn
    exact changes_insert hn (n.id_applyContract contract)

theorem leads_addNode (n : Node) (role : Role) :
    Leads R (addNode n role : Action β σ Unit) := by
  refine Leads.session.bind fun s => ?_
  refine (Leads.update fun s => .single (.place s.nodes n role)).bind fun _ => ?_
  refine (Leads.log _ _).bind fun _ => (Leads.tell _).bind fun _ => ?_
  split
  · exact leads_resolveNode _ _ _
  · exact Leads.pure _

theorem leads_removeNode (id : String) : Leads R (removeNode id : Action β σ (Option Node)) := by
  intro w
  simp only [removeNode, run_bind _ session, run_session]
  cases w.session.nodes.get? id with
  | none => exact Admits.refl w
  | some n =>
    refine Admits.run_bind (Admits.update (.single (.erase w.session.nodes id))) fun _ w' _ => ?_
    exact ((Leads.log _ _).bind fun _ => Leads.pure _) w'

theorem leads_loadGraph (nodes : List Node) (edges : Edges) :
    Leads R (loadGraph nodes edges : Action β σ Unit) :=
  .update fun s => .single (.load s.nodes nodes)

theorem leads_resolvePending : Leads R (resolvePending : Action β σ Nat) :=
  Leads.session.bind fun s =>
    (Leads.forIn fun id => leads_resolveNode id s.activeTemplate none).bind fun _ => Leads.pure _

/-! ### Editing -/

omit [Backend β] [DraftStore σ] in
theorem run_nodeOrFail (id : String) (w : World β σ) :
    run (nodeOrFail id : Action β σ Node) w =
      match w.session.nodes.get? id with
      | some n => (.ok n, w)
      | none => (.error (.noNode id), w) := by
  simp only [nodeOrFail, run_bind, run_session]
  cases w.session.nodes.get? id <;> rfl

theorem leads_nodeOrFail (id : String) : Leads R (nodeOrFail id : Action β σ Node) := by
  refine Leads.session.bind fun s => ?_
  split
  · exact Leads.pure _
  · exact Leads.throw _

theorem leads_changeNode (id : String) {f : Node → Node} (hf : ∀ n, (f n).id = n.id) :
    Leads R (changeNode id f : Action β σ Unit) := by
  intro w
  simp only [changeNode, run_bind, run_nodeOrFail]
  cases hn : w.session.nodes.get? id with
  | none => exact Admits.refl w
  | some n => exact Admits.update (changes_insert hn (hf n))

theorem leads_edit (id : String) (scope : Option String) :
    Leads R (edit id scope : Action β σ Editor) := by
  intro w
  simp only [edit, run_bind _ session, run_bind _ (nodeOrFail _), run_session, run_nodeOrFail]
  cases hn : w.session.nodes.get? id with
  | none => exact Admits.refl w
  | some n =>
    refine Admits.run_bind (n.leads_resolved w.session.activeTemplate scope w) fun n' w' hr => ?_
    obtain ⟨hs, contract, rfl⟩ := Node.resolved_of_run hr
    refine Admits.run_bind (Admits.update ?_) fun _ w'' _ =>
      ((Leads.log _ _).bind fun _ => Leads.pure _) w''
    rw [← hs] at hn
    refine changes_insert hn ?_
    -- the new contract keeps the id, and so does taking over a schema
    unfold takeOver
    split
    · rw [Node.id_setOutputSchema, Node.id_applyContract]
    · exact n.id_applyContract contract

theorem leads_finishEdit (editor : Editor) (outcome : Outcome) :
    Leads R (finishEdit editor outcome : Action β σ Unit) := by
  refine (Leads.update fun s => ?_).bind fun _ => Leads.log _ _
  dsimp only
  -- cancelling restores the node, keeping leaves it
  split
  · exact .single (.restore s.nodes editor.snapshot)
  · exact .refl

theorem leads_teardown : Leads R (teardown : Action β σ Unit) := by
  refine Leads.session.bind fun s => ?_
  split
  · exact Leads.pure _
  · exact Leads.bind (Leads.update_others fun _ => rfl) fun _ => Leads.log _ _

theorem leads_removeProperty (id key : String) :
    Leads R (removeProperty id key : Action β σ (Option String)) :=
  (leads_nodeOrFail id).bind fun _ =>
    Leads.bind (leads_changeNode id fun _ => rfl) fun _ => Leads.pure _

/-! ### Listeners -/

theorem leads_subscribe (channel : Channel) (listener : String) :
    Leads R (subscribe channel listener : Action β σ Subscription) :=
  Leads.session.bind fun _ => Leads.bind (Leads.update_others fun _ => rfl) fun _ => Leads.pure _

theorem leads_unsubscribe (subscription : Subscription) :
    Leads R (unsubscribe subscription : Action β σ Bool) :=
  Leads.session.bind fun _ => Leads.bind (Leads.update_others fun _ => rfl) fun _ => Leads.pure _

/-! ### Drafts -/

theorem leads_requireValid (verdict : Problems × List Notice) :
    Leads R (requireValid verdict : Action β σ Unit) := by
  refine (Leads.logAll _).bind fun _ => ?_
  split
  · exact (Leads.tell _).bind fun _ => Leads.throw _
  · exact Leads.pure _

theorem leads_reset (keepName : Bool) : Leads R (reset keepName : Action β σ Unit) :=
  (Leads.update fun s => NodeTable.Changes.empty s.nodes).bind fun _ =>
    (Leads.log _ _).bind fun _ => Leads.tell _

theorem leads_flattenCanvas : Leads R (flattenCanvas : Action β σ Flattening) :=
  Leads.session.bind fun _ => (Leads.logAll _).bind fun _ => Leads.pure _

theorem leads_readOutline : Leads R (readOutline : Action β σ Outline) :=
  leads_flattenCanvas.bind fun _ => Leads.pure _

theorem leads_readSubmission : Leads R (readSubmission : Action β σ Submission) :=
  leads_readOutline.bind fun _ => Leads.session.bind fun _ => Leads.pure _

theorem leads_readDrafts : Leads R (readDrafts : Action β σ (List (String × Json))) :=
  (Leads.readStore _).bind fun _ => (Leads.orFail _ _).bind fun _ => Leads.pure _

theorem leads_draftNames : Leads R (draftNames : Action β σ (List String)) :=
  leads_readDrafts.bind fun _ => Leads.pure _

theorem leads_importDraft (name : String) : Leads R (importDraft name : Action β σ Unit) := by
  refine leads_readDrafts.bind fun drafts => ?_
  split
  · refine (Leads.orFail _ _).bind fun draft => (leads_reset true).bind fun _ => ?_
    refine (Leads.update fun s => .single (.load s.nodes _)).bind fun _ => ?_
    exact Leads.session.bind fun _ => Leads.log _ _
  · exact Leads.throw _

/-! ### Writing drafts -/

theorem quiet_writeDrafts (drafts : List (String × Json)) :
    Quiet (writeDrafts drafts : Action β σ Unit) :=
  (Quiet.writeStore _ _).bind fun _ => Leads.orFail _ _

theorem quiet_saveDraft : Quiet (saveDraft : Action β σ Unit) := by
  refine Leads.session.bind fun _ => (leads_requireValid _).bind fun _ => ?_
  refine leads_readSubmission.bind fun _ => (Leads.log _ _).bind fun _ => ?_
  refine (Leads.emit rfl).bind fun _ => leads_readDrafts.bind fun _ => ?_
  exact (quiet_writeDrafts _).bind fun _ => Leads.log _ _

theorem quiet_dropDraft (name : String) : Quiet (dropDraft name : Action β σ Unit) := by
  refine leads_readDrafts.bind fun drafts => ?_
  split
  · exact (quiet_writeDrafts _).bind fun _ => Leads.log _ _
  · exact Leads.pure _

theorem quiet_cleanUp (name : String) : Quiet (cleanUp name : Action β σ Unit) :=
  (quiet_dropDraft name).tryCatch fun _ => Leads.log _ _

end Session

/-! ### The operations -/

/-- **Where every operation leads** that neither saves nor stores a draft. -/
theorem Operation.leads_perform (op : Operation) (hsave : ∀ nameSpace, op ≠ .save nameSpace)
    (hdraft : op ≠ .saveDraft) : Leads R (op.perform : Action β σ Reply) := by
  cases op with
  | addNode node role => exact (Session.leads_addNode node role).bind fun _ => Leads.pure _
  | removeNode id => exact (Session.leads_removeNode id).bind fun _ => Leads.pure _
  | lookUpNode id => exact Leads.session.bind fun _ => Leads.pure _
  | addEdge edge => exact Leads.bind (Leads.update_others fun _ => rfl) fun _ => Leads.pure _
  | setEdges edges => exact Leads.bind (Leads.update_others fun _ => rfl) fun _ => Leads.pure _
  | loadGraph nodes edges => exact (Session.leads_loadGraph nodes edges).bind fun _ => Leads.pure _
  | resolvePending => exact Session.leads_resolvePending.bind fun _ => Leads.pure _
  | setMetadata metadata => exact Leads.bind (Leads.update_others fun _ => rfl) fun _ => Leads.pure _
  | setReadOnly value => exact Leads.bind (Leads.update_others fun _ => rfl) fun _ => Leads.pure _
  | edit id scope => exact (Session.leads_edit id scope).bind fun _ => Leads.pure _
  | finishEdit editor outcome =>
    exact (Session.leads_finishEdit editor outcome).bind fun _ => Leads.pure _
  | teardown => exact Session.leads_teardown.bind fun _ => Leads.pure _
  | setOutputSchema id schema =>
    exact (Session.leads_changeNode id fun n => n.id_setOutputSchema schema).bind fun _ =>
      Leads.pure _
  | setProperty id key value =>
    exact Leads.bind (Session.leads_changeNode id fun _ => rfl) fun _ => Leads.pure _
  | removeProperty id key => exact (Session.leads_removeProperty id key).bind fun _ => Leads.pure _
  | flatten => exact Session.leads_flattenCanvas.bind fun _ => Leads.pure _
  | readOutline => exact Session.leads_readOutline.bind fun _ => Leads.pure _
  | readSubmission => exact Session.leads_readSubmission.bind fun _ => Leads.pure _
  | save nameSpace => exact absurd rfl (hsave nameSpace)
  | saveDraft => exact absurd rfl hdraft
  | draftNames => exact Session.leads_draftNames.bind fun _ => Leads.pure _
  | importDraft name => exact (Session.leads_importDraft name).bind fun _ => Leads.pure _
  | reset keepName => exact (Session.leads_reset keepName).bind fun _ => Leads.pure _
  | subscribe channel listener =>
    exact (Session.leads_subscribe channel listener).bind fun _ => Leads.pure _
  | unsubscribe subscription =>
    exact (Session.leads_unsubscribe subscription).bind fun _ => Leads.pure _

/-- **Every operation but saving is quiet.** -/
theorem Operation.quiet_perform (op : Operation) (hsave : ∀ nameSpace, op ≠ .save nameSpace) :
    Quiet (op.perform : Action β σ Reply) := by
  by_cases hdraft : op = .saveDraft
  · subst hdraft
    exact Session.quiet_saveDraft.bind fun _ => Leads.pure _
  · exact op.leads_perform hsave hdraft

end PipelineCanvas
