import Mathlib.Data.List.Induction
import PipelineCanvas.Backend.Catalog
import PipelineCanvas.Drafts.Memory
import PipelineCanvas.Proofs.Session.Origins
import PipelineCanvas.Proofs.Session.Sending

/-!
# What the catalog requires

Before a pipeline is sent, the required properties of its plugins must have values. It is not
the catalog that is asked which they are, but the contract that each node carries along. A
contract that was fetched is the one in the catalog, and stays so: a catalog does not change,
and it has one contract for a plugin, whatever the template. So the catalog's requirements
are met – except by a plugin whose contract is pending, of which nothing is required, and by
one whose contract was not fetched at all but came with its node from elsewhere.

* `CatalogBackend.Knows` – the contract of a node, if it has one, is that of the catalog;
* `Step.Introduces`, `Node.Foreign` – a node came from outside the run;
* **`CatalogBackend.accounts_run`** – the contracts of all other nodes are the catalog's;
* **`Operation.taken_required`** – a pipeline that was taken has the values that the catalog
  requires, but for the two exceptions.
-/

namespace PipelineCanvas

open PipelineCanvas.Action

variable {σ : Type}

/-! ### Contracts of a catalog -/

namespace CatalogBackend

variable {catalog b b' : CatalogBackend}

/-- The contract of a plugin on offer, for whatever template. -/
def declared? (b : CatalogBackend) (role : Role) (plugin : String) : Option Contract :=
  (b.offers.find? fun e => e.key == (role, plugin)).map (·.properties)

/-- The contract of a node, if it has one, is that of the catalog. -/
def Knows (b : CatalogBackend) (n : Node) : Prop :=
  ∀ c, n.contract = some c → b.declared? n.role n.name = some c

theorem declared?_of_lookup? {q : PropertyQuery} {e : CatalogEntry} (h : b.lookup? q = some e) :
    b.declared? q.role q.plugin = some e.properties := by
  obtain ⟨hfind, -⟩ := Option.filter_eq_some_iff.mp h
  rw [declared?, hfind]
  rfl

/-- What the catalog answers is the contract of the plugin. -/
theorem declared?_of_fetch {q : PropertyQuery} {answers : List PluginProperties}
    (h : (Backend.fetch q b).1 = .ok answers) :
    b.declared? q.role q.plugin = some (PluginProperties.contract answers) := by
  have hanswer : (fetch q b).1 = .ok answers := h
  rw [fetch] at hanswer
  cases he : b.lookup? q with
  | none =>
    rw [he] at hanswer
    cases hanswer
  | some e =>
    rw [he] at hanswer
    cases hanswer
    exact declared?_of_lookup? he

theorem Knows.congr {n : Node} (h : b.Knows n) (hoffers : b'.offers = b.offers) : b'.Knows n := by
  intro c hc
  rw [declared?, hoffers]
  exact h c hc

/-- A node with the contract that the catalog answers is known to it. -/
theorem knows_applyContract {n : Node} {template : TemplateKind} {scope : Option String}
    {answers : List PluginProperties}
    (h : (Backend.fetch (n.query template scope) b).1 = .ok answers) :
    b.Knows (n.applyContract (PluginProperties.contract answers)) := fun _ hc =>
  (declared?_of_fetch h).trans hc

/-- Asking a catalog changes neither what it offers nor what it has taken. -/
theorem of_asked (h : Backend.Asked b b') : b'.offers = b.offers ∧ b'.saved = b.saved := by
  induction h with
  | refl => exact ⟨rfl, rfl⟩
  | tail _ hstep ih =>
    obtain ⟨q, rfl⟩ := hstep
    exact ih

/-- A catalog that is handed a pipeline takes it or does not, and offers what it did. -/
theorem of_submit (r : SaveRequest) (b : CatalogBackend) :
    (Backend.submit r b).2.offers = b.offers ∧
      ((Backend.submit r b).2.saved = b.saved ∨ (Backend.submit r b).2.saved = b.saved ++ [r]) := by
  have hsubmit : Backend.submit r b = submit r b := rfl
  rw [hsubmit, submit]
  split
  · exact ⟨rfl, .inl rfl⟩
  · exact ⟨rfl, .inr rfl⟩

end CatalogBackend

/-! ### What becomes of the backend -/

section

variable {β : Type} [Backend β] [DraftStore σ]

omit [Backend β] in
/-- Dropping a draft does not concern the backend. -/
theorem Session.backend_run_cleanUp (name : String) (w : World β σ) :
    (run (cleanUp name : Action β σ Unit) w).2.backend = w.backend := by
  have hrun := cleanUpRun name w
  generalize run (cleanUp name : Action β σ Unit) w = r at hrun
  cases hrun with
  | unread hget hnotes => exact hnotes.backend_eq
  | missing hget hmissing => rfl
  | written hget hstored hnotes => exact hnotes.backend_eq

theorem Operation.backend_step_save_of_invalid {w : World β σ} (nameSpace : String)
    (h : w.session.verdict.1.isEmpty = false) :
    ((save nameSpace).step w).2.backend = w.backend := by
  rw [step_of_perform_eq (save nameSpace) (Session.save nameSpace) .text rfl]
  have hrun := Session.saveRun nameSpace w
  generalize run (Session.save nameSpace : Action β σ String) w = r at hrun
  cases hrun with
  | refused hverdict hw => exact hw.backend_eq
  | rejected hverdict hw hsubmit hnotes =>
    rw [h] at hverdict
    cases hverdict
  | taken hverdict hw hsubmit hnotes hquiet hstore =>
    rw [h] at hverdict
    cases hverdict

theorem Operation.backend_step_save_of_valid {w : World β σ} (nameSpace : String)
    (h : w.session.verdict.1.isEmpty = true) :
    ((save nameSpace).step w).2.backend =
      (Backend.submit (w.session.request nameSpace) w.backend).2 := by
  rw [step_of_perform_eq (save nameSpace) (Session.save nameSpace) .text rfl]
  obtain ⟨w₁, w₂, hw, hnotes, hrun⟩ := Session.run_save_of_valid nameSpace h
  have hsubmitted : w₂.backend = (Backend.submit (w.session.request nameSpace) w.backend).2 := by
    rw [hnotes.backend_eq, World.submitting, hw.backend_eq]
  rw [hrun]
  split
  · exact hsubmitted
  · -- what is left to do then, dropping the draft and emptying the canvas, asks for nothing
    obtain ⟨w₃, hw₃, hreset⟩ := Session.run_reset false
      (run (Session.cleanUp w.session.metadata.name : Action β σ Unit) w₂).2
    rw [hreset, World.telling, hw₃.backend_eq, World.clearing, Session.backend_run_cleanUp]
    exact hsubmitted

/-- **What an operation asks of the backend:** contracts, or, if it saves a pipeline that
passes validation, to take that. -/
theorem Operation.backend_step (op : Operation) (w : World β σ) :
    Backend.Asked w.backend (op.step w).2.backend ∨
      ∃ nameSpace, op = .save nameSpace ∧ w.session.verdict.1.isEmpty = true ∧
        (op.step w).2.backend = (Backend.submit (w.session.request nameSpace) w.backend).2 := by
  by_cases hdraft : op = .saveDraft
  · subst hdraft
    refine .inl ?_
    rw [(step_saveDraft_keeps w).2]
  by_cases hsave : ∃ nameSpace, op = .save nameSpace
  · obtain ⟨nameSpace, rfl⟩ := hsave
    cases hverdict : w.session.verdict.1.isEmpty with
    | false =>
      refine .inl ?_
      rw [backend_step_save_of_invalid nameSpace hverdict]
    | true => exact .inr ⟨nameSpace, rfl, rfl, backend_step_save_of_valid nameSpace hverdict⟩
  · have hleads : Leads World.OnlyAsks (op.perform : Action β σ Reply) :=
      op.leads_perform (fun nameSpace h => hsave ⟨nameSpace, h⟩) hdraft
    exact .inl (hleads w)

end

/-! ### Where contracts come from -/

/-- A node is the plugin of another and has its contract. -/
structure Node.Inherits (n n' : Node) : Prop where
  id_eq : n.id = n'.id
  name_eq : n.name = n'.name
  role_eq : n.role = n'.role
  contract_eq : n.contract = n'.contract

namespace Node.Inherits

variable {n n' n'' : Node}

theorem refl (n : Node) : n.Inherits n := ⟨rfl, rfl, rfl, rfl⟩

theorem trans (h : n.Inherits n') (h' : n'.Inherits n'') : n.Inherits n'' :=
  ⟨h.id_eq.trans h'.id_eq, h.name_eq.trans h'.name_eq, h.role_eq.trans h'.role_eq,
    h.contract_eq.trans h'.contract_eq⟩

theorem setOutputSchema (n : Node) (schema : Option String) :
    (n.setOutputSchema schema).Inherits n := by
  unfold Node.setOutputSchema
  dsimp only
  split <;> exact ⟨rfl, rfl, rfl, rfl⟩

theorem setProperty (n : Node) (key value : String) : (n.setProperty key value).Inherits n :=
  ⟨rfl, rfl, rfl, rfl⟩

theorem removeProperty (n : Node) (key : String) : (n.removeProperty key).Inherits n :=
  ⟨rfl, rfl, rfl, rfl⟩

theorem knows {catalog : CatalogBackend} (h : n.Inherits n') (hknows : catalog.Knows n') :
    catalog.Knows n := by
  intro c hc
  rw [h.role_eq, h.name_eq]
  exact hknows c (h.contract_eq ▸ hc)

/-- What comes from the catalog or from elsewhere does so for whoever inherits it. -/
theorem knows_or {catalog : CatalogBackend} {P : Node → Prop} (h : n.Inherits n')
    (h' : catalog.Knows n' ∨ ∃ m, n'.Inherits m ∧ P m) :
    catalog.Knows n ∨ ∃ m, n.Inherits m ∧ P m :=
  h'.imp h.knows fun ⟨m, hm, hP⟩ => ⟨m, h.trans hm, hP⟩

end Node.Inherits

variable [DraftStore σ]

/-- **The contract of a node that an operation yields** is the catalog's, or it comes with a
node that was on the canvas or is brought onto it. -/
theorem Operation.Yields.origin {catalog : CatalogBackend} {op : Operation}
    {w : World CatalogBackend σ} {n : Node} (h : op.Yields w n)
    (hoffers : w.backend.offers = catalog.offers) :
    catalog.Knows n ∨ ∃ n', n.Inherits n' ∧
      ((∃ k, w.session.nodes.get? k = some n') ∨ op.Brings w n') := by
  induction h with
  | @kept k n hn => exact .inr ⟨n, .refl n, .inl ⟨k, hn⟩⟩
  | @brought n hn => exact .inr ⟨n, .refl n, .inr hn⟩
  | resolved _ hasked hfetch _ =>
    have hasked := CatalogBackend.of_asked hasked
    exact .inl ((CatalogBackend.knows_applyContract hfetch).congr
      (hoffers.symm.trans hasked.1.symm))
  | described _ schema ih => exact (Node.Inherits.setOutputSchema _ schema).knows_or ih
  | valued _ _ ih => exact (Node.Inherits.setProperty _ _ _).knows_or ih
  | unvalued _ _ ih => exact (Node.Inherits.removeProperty _ _).knows_or ih

/-! ### From outside the run -/

/-- A step of a run that began with earlier steps brings a node from elsewhere: not out of
an editor that the run has opened, and not with a draft that the run has stored. -/
structure Step.Introduces (earlier : List (Step CatalogBackend σ)) (s : Step CatalogBackend σ)
    (n : Node) : Prop where
  brings : s.operation.Brings s.before n
  editor_foreign : ∀ o ∈ earlier, ∀ editor, o.Opened editor →
    s.operation ≠ .finishEdit editor .cancel
  draft_foreign : ∀ o ∈ earlier, o.operation = .saveDraft → ∀ name,
    s.operation = .importDraft name →
      Session.storedDraft? name s.before ≠ some o.before.session.draft.toJson.canonical

/-- The contract of a node came with a node from outside the run with these steps. -/
def Node.Foreign (n : Node) (steps : List (Step CatalogBackend σ)) : Prop :=
  ∃ earlier s later, steps = earlier ++ s :: later ∧ ∃ n', n.Inherits n' ∧ s.Introduces earlier n'

theorem Node.Foreign.append {n : Node} {steps : List (Step CatalogBackend σ)}
    (h : n.Foreign steps) (more : List (Step CatalogBackend σ)) : n.Foreign (steps ++ more) := by
  obtain ⟨earlier, s, later, rfl, horigin⟩ := h
  exact ⟨earlier, s, later ++ more, by simp, horigin⟩

theorem Node.Inherits.foreign {n n' : Node} {steps : List (Step CatalogBackend σ)}
    (h : n.Inherits n') (hforeign : n'.Foreign steps) : n.Foreign steps := by
  obtain ⟨earlier, s, later, hsteps, m, hm, hintroduces⟩ := hforeign
  exact ⟨earlier, s, later, hsteps, m, h.trans hm, hintroduces⟩

namespace CatalogBackend

variable {catalog : CatalogBackend}

/-- The contracts on a canvas are the catalog's, or came from outside the run. -/
structure Accounts (catalog : CatalogBackend) (steps : List (Step CatalogBackend σ))
    (w : World CatalogBackend σ) : Prop where
  offers_eq : w.backend.offers = catalog.offers
  knows_or_foreign : ∀ k n, w.session.nodes.get? k = some n → catalog.Knows n ∨ n.Foreign steps

theorem Accounts.append {steps : List (Step CatalogBackend σ)} {w : World CatalogBackend σ}
    (h : catalog.Accounts steps w) (more : List (Step CatalogBackend σ)) :
    catalog.Accounts (steps ++ more) w :=
  ⟨h.offers_eq, fun k n hn => (h.knows_or_foreign k n hn).imp_right (·.append more)⟩

/-- What an editor goes back to has the contract of the catalog. -/
theorem knows_of_opened {s : Step CatalogBackend σ} {editor : Editor} (h : s.Opened editor)
    (hoffers : s.before.backend.offers = catalog.offers) : catalog.Knows editor.snapshot := by
  obtain ⟨_, _, n, answers, -, hfetch, hsnapshot⟩ := h.resolved
  rw [hsnapshot]
  exact (knows_applyContract hfetch).congr hoffers.symm

/-- **A step accounts for what it brings** if the steps before it account for what they met:
the node comes from outside, or out of an editor or with a draft of the run. -/
theorem knows_or_foreign_of_brings {earlier : List (Step CatalogBackend σ)}
    (hearlier : ∀ o ∈ earlier, catalog.Accounts earlier o.before)
    {s : Step CatalogBackend σ} {n : Node} (h : s.operation.Brings s.before n) :
    catalog.Knows n ∨ n.Foreign (earlier ++ [s]) := by
  by_cases hforeign : s.Introduces earlier n
  · exact .inr ⟨earlier, s, [], rfl, n, .refl n, hforeign⟩
  by_cases heditor : ∃ o ∈ earlier, ∃ editor, o.Opened editor ∧
      s.operation = .finishEdit editor .cancel
  · obtain ⟨o, ho, editor, hopened, hop⟩ := heditor
    rw [hop] at h
    rw [h.eq_snapshot]
    exact .inl (knows_of_opened hopened (hearlier o ho).offers_eq)
  by_cases hdraft : ∃ o ∈ earlier, o.operation = .saveDraft ∧ ∃ name,
      s.operation = .importDraft name ∧
        Session.storedDraft? name s.before = some o.before.session.draft.toJson.canonical
  · obtain ⟨o, ho, -, name, hop, hstored⟩ := hdraft
    rw [hop] at h
    obtain ⟨k, hk⟩ := h.exists_get?_of_stored hstored
    exact ((hearlier o ho).append [s]).knows_or_foreign k n hk
  · refine absurd ⟨h, ?_, ?_⟩ hforeign
    · exact fun o ho editor hopened hop => heditor ⟨o, ho, editor, hopened, hop⟩
    · exact fun o ho hop name hname hstored => hdraft ⟨o, ho, hop, name, hname, hstored⟩

theorem accounts_fresh (catalog : CatalogBackend) (store : σ) :
    catalog.Accounts [] (World.fresh catalog store) := ⟨rfl, nofun⟩

/-- **A step accounts for what it leaves** if the steps before it account for what they met. -/
theorem Accounts.step {earlier : List (Step CatalogBackend σ)}
    (hearlier : ∀ o ∈ earlier, catalog.Accounts earlier o.before) {s : Step CatalogBackend σ}
    (h : catalog.Accounts earlier s.before) : catalog.Accounts (earlier ++ [s]) s.after where
  offers_eq := by
    rcases s.operation.backend_step s.before with hasked | ⟨nameSpace, -, -, hsubmit⟩
    · exact (of_asked hasked).1.trans h.offers_eq
    · rw [Step.after, hsubmit]
      exact (of_submit _ _).1.trans h.offers_eq
  knows_or_foreign k n hn := by
    have hyields := s.operation.yieldsAll_step s.before k n hn
    rcases hyields.origin h.offers_eq with hknows | ⟨n', hn', ⟨k', hkept⟩ | hbrings⟩
    · exact .inl hknows
    · exact ((h.append [s]).knows_or_foreign k' n' hkept).imp hn'.knows hn'.foreign
    · exact (knows_or_foreign_of_brings hearlier hbrings).imp hn'.knows hn'.foreign

/-- **Every contract in a run is the catalog's, or came from outside the run.** -/
theorem accounts_run (catalog : CatalogBackend) (store : σ) (ops : List Operation) :
    let w := World.fresh catalog store
    (∀ o ∈ Operation.history ops w, catalog.Accounts (Operation.history ops w) o.before) ∧
      catalog.Accounts (Operation.history ops w) (Operation.runAll ops w) := by
  intro w
  -- the step that comes last is the one that all the others are earlier than
  induction ops using List.reverseRecOn with
  | nil => exact ⟨fun o ho => absurd ho List.not_mem_nil, accounts_fresh catalog store⟩
  | append_singleton ops op ih =>
    obtain ⟨hsteps, hlast⟩ := ih
    rw [Operation.history_append, Operation.runAll_append]
    refine ⟨fun o ho => ?_, Accounts.step hsteps (s := ⟨Operation.runAll ops w, op⟩) hlast⟩
    rcases List.mem_append.mp ho with hearlier | hnew
    · exact (hsteps o hearlier).append _
    · rw [List.mem_singleton.mp hnew]
      exact hlast.append _

end CatalogBackend

/-! ### Pipelines that were taken -/

namespace Operation

/-- **What a catalog has taken in a run was handed to it by saving.** -/
theorem saved_run (catalog : CatalogBackend) (store : σ) (ops : List Operation) :
    let w := World.fresh catalog store
    ∃ taken, (runAll ops w).backend.saved = catalog.saved ++ taken ∧
      ∀ r ∈ taken, ∃ earlier nameSpace later, ops = earlier ++ .save nameSpace :: later ∧
        (runAll earlier w).session.verdict.1.isEmpty = true ∧
        r = (runAll earlier w).session.request nameSpace := by
  intro w
  induction ops using List.reverseRecOn with
  | nil =>
    have hsaved : (runAll [] w).backend.saved = catalog.saved ++ [] := (List.append_nil _).symm
    exact ⟨[], hsaved, fun r hr => absurd hr List.not_mem_nil⟩
  | append_singleton ops op ih =>
    obtain ⟨taken, hsaved, htaken⟩ := ih
    have hearlier : ∀ r ∈ taken, ∃ earlier nameSpace later,
        ops ++ [op] = earlier ++ .save nameSpace :: later ∧
          (runAll earlier w).session.verdict.1.isEmpty = true ∧
          r = (runAll earlier w).session.request nameSpace := by
      intro r hr
      obtain ⟨earlier, nameSpace, later, rfl, hrequest⟩ := htaken r hr
      exact ⟨earlier, nameSpace, later ++ [op], by simp, hrequest⟩
    have hrun : runAll (ops ++ [op]) w = (op.step (runAll ops w)).2 := runAll_append ops [op] w
    rw [hrun]
    rcases op.backend_step (runAll ops w) with hasked | ⟨nameSpace, rfl, hvalid, hsubmit⟩
    · exact ⟨taken, (CatalogBackend.of_asked hasked).2.trans hsaved, hearlier⟩
    rw [hsubmit]
    rcases (CatalogBackend.of_submit ((runAll ops w).session.request nameSpace)
      (runAll ops w).backend).2 with hrefused | haccepted
    · exact ⟨taken, hrefused.trans hsaved, hearlier⟩
    · refine ⟨taken ++ [(runAll ops w).session.request nameSpace], ?_, fun r hr => ?_⟩
      · rw [haccepted, hsaved, List.append_assoc]
      · rcases List.mem_append.mp hr with hr | hr
        · exact hearlier r hr
        · exact ⟨ops, nameSpace, [], rfl, hvalid, List.mem_singleton.mp hr⟩

end Operation

/-- A plugin that is sent under a role has the values that the catalog requires of it, if the
catalog offers it for a template. -/
def CatalogBackend.SatisfiedBy (catalog : CatalogBackend) (template : TemplateKind) (role : Role)
    (sent : Stage) : Prop :=
  ∀ offer, catalog.lookup? ⟨role, sent.name, template, none⟩ = some offer →
    ∀ key spec, offer.properties.get? key = some spec → spec.required = true →
      ∃ v, sent.properties.get? key = some v ∧ Text.isBlank v = false

/-- What a plugin is checked for is what a catalog that knows its node requires of it. -/
theorem CatalogBackend.Knows.satisfiedBy {catalog : CatalogBackend} {n : Node}
    (h : catalog.Knows n) (hready : n.isReady = true) {sent : Stage} (hmeets : sent.Meets n)
    (template : TemplateKind) : catalog.SatisfiedBy template n.role sent := by
  intro offer hoffer key spec hspec hrequired
  obtain ⟨c, hc⟩ := Option.isSome_iff_exists.mp hready
  rw [hmeets.name_eq] at hoffer
  -- the contract that was checked is the one on offer
  have hsame : some c = some offer.properties :=
    (h c hc).symm.trans (declared?_of_lookup? hoffer)
  cases hsame
  exact hmeets.required _ hc key spec hspec hrequired

/-- The roles of a submission are those of the outline that it was made of. -/
theorem Submission.roles_outline_build (o : Outline) (m : Metadata) (name : String) :
    ((build o m).outline name).roles = o.roles.map fun p => (p.1, p.2.stripped) := by
  have hroles : ((build o m).outline name).roles = o.stripped.roles := rfl
  rw [hroles, Outline.stripped_eq]
  simp [Outline.roles, Outline.mapStages, Option.toList_map, Function.comp_def]

namespace Operation

/-- **A pipeline that a catalog has taken has the values that the catalog requires,** of every
plugin whose contract was there when it was saved – fetched in the run, or from outside it and
the same. Whatever was done in the run, the plugins of the submission and those of the outline
go together one by one, each pair under one role, and the latter tell by their id which node
is meant. -/
theorem taken_required (catalog : CatalogBackend) (store : σ) (ops : List Operation) :
    let w := World.fresh catalog store
    ∃ taken, (runAll ops w).backend.saved = catalog.saved ++ taken ∧
      ∀ r ∈ taken, ∃ earlier nameSpace later, ops = earlier ++ .save nameSpace :: later ∧
        let u := runAll earlier w
        r = u.session.request nameSpace ∧
        List.Forall₂
          (fun sent shown => sent.1 = shown.1 ∧
            ∃ n, shown.2.id = some n.id ∧ u.session.nodes.get? n.id = some n ∧
              n.role = sent.1 ∧ n.name = sent.2.name ∧
              (n.isReady = true → (n.Foreign (history earlier w) → catalog.Knows n) →
                ∀ template, r.submission.template = some template →
                  catalog.SatisfiedBy template sent.1 sent.2))
          (r.submission.outline r.name).roles u.session.outline.roles := by
  intro w
  obtain ⟨taken, hsaved, htaken⟩ := saved_run catalog store ops
  refine ⟨taken, hsaved, fun r hr => ?_⟩
  obtain ⟨earlier, nameSpace, later, hops, hvalid, rfl⟩ := htaken r hr
  refine ⟨earlier, nameSpace, later, hops, rfl, ?_⟩
  have haccounts : catalog.Accounts (history earlier w) (runAll earlier w) :=
    (CatalogBackend.accounts_run catalog store earlier).2
  have hkeyed : (runAll earlier w).session.nodes.Keyed :=
    (Session.Reachable.fresh.run earlier).keyed
  generalize runAll earlier w = u at hvalid haccounts hkeyed ⊢
  have hs := (isEmpty_validate hkeyed _ _ _).mp hvalid
  have ho : u.session.outline =
      .drawn u.session.nodes u.session.edges u.session.metadata := outline_flatten hkeyed _ _
  rw [Session.request, Session.submission, Submission.roles_outline_build,
    List.forall₂_map_left_iff, List.forall₂_same]
  rintro ⟨role, shown⟩ hshown
  have hcomplete : shown.Complete := hs.complete shown
    (Outline.map_snd_roles _ ▸ List.mem_map_of_mem hshown)
  rw [ho] at hshown
  obtain ⟨n, hn, heq⟩ := List.mem_map.mp ((hs.roles_perm hkeyed).mem_iff.mp hshown)
  cases heq
  have hget := hkeyed.mem_values_iff.mp hn
  have hmeets := Stage.meets_stripped_stage hcomplete
  refine ⟨rfl, n, rfl, hget, rfl, hmeets.name_eq.symm, ?_⟩
  intro hready hforeign template _
  have hknows : catalog.Knows n := (haccounts.knows_or_foreign _ n hget).elim id hforeign
  exact hknows.satisfiedBy hready hmeets template

/-- A source is added and given a value, then another template is chosen and the pipeline
saved. -/
theorem taken_required_switched :
    let contract : Contract :=
      .ofList [("name", { PropertySpec.ofKind "name" "string" with required := true })]
    let catalog := (CatalogBackend.empty.register .source "Stream" contract).register .sink "Table"
      .empty
    let ops := [.addNode (.fresh "a" "Stream" .source) .source,
      .addNode (.fresh "k" "Table" .sink) .sink, .addEdge ⟨"a", "k"⟩,
      .setProperty "a" "name" "clicks",
      .setMetadata ⟨"events", "", ⟨some .realtime, 2, ""⟩⟩, .save "default"]
    let w := runAll ops (World.fresh catalog MemoryStore.empty)
    ∃ r ∈ w.backend.saved, r.submission.template = some .realtime ∧
      ∃ sent, r.submission.config.source = some sent ∧
        catalog.SatisfiedBy .realtime .source sent := by
  intro contract catalog ops w
  let sent : Stage := ⟨none, "Stream", .ofList [("name", "clicks")], none⟩
  let r : SaveRequest := ⟨"default", "events",
    ⟨some .realtime, "", ⟨some sent, some ⟨none, "Table", .empty, none⟩, [], none, some 2⟩⟩⟩
  have hr : w.backend.saved = [r] := by decide +kernel
  obtain ⟨taken, hsaved, htaken⟩ := taken_required catalog MemoryStore.empty ops
  have hw : runAll ops (World.fresh catalog MemoryStore.empty) = w := rfl
  rw [hw, hr] at hsaved
  have hmem : r ∈ taken := by
    have hnone : catalog.saved = [] := rfl
    rw [hnone, List.nil_append] at hsaved
    exact hsaved ▸ List.mem_singleton_self r
  obtain ⟨earlier, nameSpace, later, hops, -, hpairs⟩ := htaken r hmem
  -- the pipeline is saved once, at the end
  have hearlier : earlier = ops.take 5 := by
    have hget : ops[earlier.length]? = some (.save nameSpace) := by simp [hops]
    have hlength : earlier.length = 5 := by
      rcases hi : earlier.length with _ | _ | _ | _ | _ | _ | i <;> simp [hi, ops] at hget ⊢
    rw [hops, ← hlength, List.take_left]
  rw [hearlier] at hpairs
  have hnodes :
      let drawn := runAll (ops.take 5) (World.fresh catalog MemoryStore.empty)
      ∀ e ∈ drawn.session.nodes.entries, e.2.role = .source →
        e.2.contract = some contract ∧ e.2.name = "Stream" := by decide +kernel
  generalize runAll (ops.take 5) (World.fresh catalog MemoryStore.empty) = drawn at hpairs hnodes
  have hroles : (r.submission.outline r.name).roles =
      [(.source, sent), (.sink, ⟨none, "Table", .empty, none⟩)] := rfl
  rw [hroles] at hpairs
  refine ⟨r, hr ▸ List.mem_singleton_self r, rfl, sent, rfl, ?_⟩
  obtain ⟨_, _, ⟨-, n, -, hget, hrole, -, hsatisfied⟩, -⟩ := List.forall₂_cons_left_iff.mp hpairs
  obtain ⟨hcontract, hname⟩ := hnodes (n.id, n) (OrderedMap.get?_eq_some_iff.mp hget) hrole
  have hready : n.isReady = true := by rw [Node.isReady, hcontract, Option.isSome_some]
  have hknows : catalog.Knows n := fun c hc => by
    rw [hrole, hname, ← hc, hcontract]
    rfl
  exact hsatisfied hready (fun _ => hknows) .realtime rfl

/-- A canvas with a source that is on offer and requires a name is saved: one whose contract is
pending, and one with a contract of its own. Both are taken without a name. -/
theorem taken_required_pending :
    let contract : Contract :=
      .ofList [("name", { PropertySpec.ofKind "name" "string" with required := true })]
    let catalog := (CatalogBackend.empty.register .source "Stream" contract).register .sink "Table"
      .empty
    let pending := Node.fresh "a" "Stream" .source
    ∀ source ∈ [pending, { pending with contract := some .empty }],
      let w := runAll
        [.loadGraph [source, .fresh "k" "Table" .sink] [⟨"a", "k"⟩], .setMetadata (.named "events"),
          .save "default"] (World.fresh catalog MemoryStore.empty)
      ∃ r ∈ w.backend.saved, r.submission.template = some .batch ∧
        ∃ sent, (Role.source, sent) ∈ (r.submission.outline r.name).roles ∧
          ¬catalog.SatisfiedBy .batch .source sent := by
  intro contract catalog pending source hsource w
  let sent : Stage := ⟨none, "Stream", .empty, none⟩
  let r : SaveRequest := ⟨"default", "events",
    ⟨some .batch, "", ⟨some sent, some ⟨none, "Table", .empty, none⟩, [],
      some Template.defaultCron, none⟩⟩⟩
  have hsaved : r ∈ w.backend.saved := by
    revert source
    decide +kernel
  refine ⟨r, hsaved, rfl, sent, List.mem_cons_self .., fun hsatisfied => ?_⟩
  obtain ⟨v, hv, -⟩ := hsatisfied _ rfl "name" _ rfl rfl
  cases hv

end Operation

end PipelineCanvas
