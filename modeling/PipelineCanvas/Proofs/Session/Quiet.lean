import Mathlib.Logic.Relation
import PipelineCanvas.Proofs.Canvas.Keyed
import PipelineCanvas.Proofs.Session.Running

/-!
# Where actions lead, and which are quiet

What an operation does to the world is bounded by a relation that the world before and
the world after are in. A relation that *admits* what the parts of an operation do, and
is closed under doing one thing after the other, bounds the whole operation; so an
operation is taken apart once, for all such relations. The nodes of the canvas change
only in the few ways that `NodeTable.Change` lists, and what must hold of them in every
session is proved for the changes, once – here that the table stays keyed
(`NodeTable.Keyed.of_changes`).

The first such relation is about what is handed to the backend: an action is *quiet* when
it hands over nothing.

* `NodeTable.Change` – the ways in which the nodes change;
* `Action.Leads` – an action leads only to worlds in a relation to the world before;
* `Action.Admits` – a relation that admits what the parts of the operations do;
* `World.requests` – what was handed to the backend so far;
* `World.Follows` – one world comes quietly out of another;
* `Action.Quiet` – an action leads only to worlds that follow.
-/

namespace PipelineCanvas

/-! ### The ways in which the nodes change -/

namespace NodeTable

/-- One change of the nodes on a canvas. -/
inductive Change : NodeTable → NodeTable → Prop
  /-- A node is placed. -/
  | place (t : NodeTable) (n : Node) (role : Role) : Change t (t.place n role)
  /-- A node is taken off. -/
  | erase (t : NodeTable) (id : String) : Change t (t.erase id)
  /-- A node is rewritten and keeps its id. -/
  | rewrite {t : NodeTable} {id : String} {n n' : Node} (hn : t.get? id = some n)
      (hid : n'.id = n.id) : Change t (t.insert id n')
  /-- A node is put back as it was. -/
  | restore (t : NodeTable) (n : Node) : Change t (t.restore n)
  /-- The canvas is replaced by a stored one, or emptied. -/
  | load (t : NodeTable) (nodes : List Node) : Change t (ofNodes nodes)

/-- Any number of changes. -/
abbrev Changes : NodeTable → NodeTable → Prop := Relation.ReflTransGen Change

variable {t u : NodeTable}

theorem Changes.empty (t : NodeTable) : Changes t .empty := .single (.load t [])

theorem Keyed.of_change (h : t.Keyed) (hc : Change t u) : u.Keyed := by
  cases hc with
  | place n role =>
    have hid : (t.placed n role).id = n.id := by
      unfold placed Node.reconcile
      split <;> rfl
    exact (h.erase n.id).insert hid
  | erase id => exact h.erase id
  | rewrite hn hid => exact h.insert (hid.trans (keyed_iff.mp h _ _ hn))
  | restore n => exact h.insert rfl
  | load nodes => exact keyed_ofNodes nodes

/-- **The table stays keyed,** whatever changes. -/
theorem Keyed.of_changes (h : t.Keyed) (hc : Changes t u) : u.Keyed := by
  induction hc with
  | refl => exact h
  | tail _ hstep ih => exact ih.of_change hstep

end NodeTable

/-! ### Where actions lead -/

/-- The pipeline that an effect hands to the backend, if it does. -/
def Effect.request? : Effect → Option SaveRequest
  | .submitted r => some r
  | _ => none

namespace Action

variable {β σ α γ : Type}

/-- Whatever the world, the action leads to one that is related to it. -/
def Leads (R : World β σ → World β σ → Prop) (a : Action β σ α) : Prop := ∀ w, R w (run a w).2

/-- A relation that admits what the parts of the operations do, other than handing a
pipeline to the backend and writing to the store. -/
class Admits [Backend β] [DraftStore σ] (R : World β σ → World β σ → Prop) : Prop where
  refl : ∀ w, R w w
  trans : ∀ {w w' w''}, R w w' → R w' w'' → R w w''
  /-- Whatever is not a pipeline for the backend may be noted. -/
  emit : ∀ {e : Effect}, e.request? = none → Leads R (emit e)
  /-- A session may be rewritten as long as its nodes go through changes. -/
  update : ∀ {w : World β σ} {f : Session → Session},
    w.session.nodes.Changes (f w.session).nodes → R w (run (update f) w).2
  fetch : ∀ q, Leads R (fetch q)
  readStore : ∀ key, Leads R (readStore key)

variable [Backend β] [DraftStore σ] {R : World β σ → World β σ → Prop} [Admits R]

/-- What follows on an action starts where the action ended. -/
theorem Admits.run_bind {a : Action β σ α} {f : α → Action β σ γ} {w : World β σ}
    (ha : R w (run a w).2) (hf : ∀ x w', run a w = (.ok x, w') → R w' (run (f x) w').2) :
    R w (run (a >>= f) w).2 := by
  rw [Action.run_bind]
  rcases hr : run a w with ⟨e | x, w'⟩
  · rw [hr] at ha
    exact ha
  · rw [hr] at ha
    exact Admits.trans ha (hf x w' hr)

namespace Leads

protected theorem pure (a : α) : Leads R (pure a : Action β σ α) := Admits.refl

protected theorem throw (e : SessionError) : Leads R (throw e : Action β σ α) := Admits.refl

protected theorem bind {a : Action β σ α} {f : α → Action β σ γ} (ha : Leads R a)
    (hf : ∀ x, Leads R (f x)) : Leads R (a >>= f) := fun w =>
  Admits.run_bind (ha w) fun x w' _ => hf x w'

protected theorem tryCatch {a : Action β σ α} {recover : SessionError → Action β σ α}
    (ha : Leads R a) (hf : ∀ e, Leads R (recover e)) : Leads R (tryCatch a recover) := by
  intro w
  have hw := ha w
  rw [run_tryCatch]
  rcases hr : run a w with ⟨e | x, w'⟩
  · rw [hr] at hw
    exact Admits.trans hw (hf e w')
  · rw [hr] at hw
    exact hw

/-- Doing something for each element of a list. -/
protected theorem forIn {l : List α} {f : α → Action β σ PUnit} (hf : ∀ a, Leads R (f a)) :
    Leads R (forIn l PUnit.unit fun a _ => do f a; pure (ForInStep.yield PUnit.unit)) := by
  induction l with
  | nil => exact Leads.pure _
  | cons a l ih =>
    simp only [List.forIn_cons, bind_assoc, pure_bind]
    exact (hf a).bind fun _ => ih

protected theorem session : Leads R (session : Action β σ Session) := Admits.refl

protected theorem emit {e : Effect} (he : e.request? = none) :
    Leads R (emit e : Action β σ Unit) := Admits.emit he

protected theorem log (notice : Notice) (within : List String) :
    Leads R (log notice within : Action β σ Unit) := .emit rfl

protected theorem logAll (notices : List Notice) :
    Leads R (logAll notices : Action β σ Unit) :=
  (Leads.forIn fun _ => .log _ _).bind fun _ => Leads.pure _

protected theorem tell (news : News) : Leads R (tell news : Action β σ Unit) :=
  Leads.session.bind fun _ => (Leads.forIn fun _ => .emit rfl).bind fun _ => Leads.pure _

protected theorem update {f : Session → Session}
    (hf : ∀ s : Session, s.nodes.Changes (f s).nodes) :
    Leads R (update f : Action β σ Unit) := fun w => Admits.update (hf w.session)

/-- What is not about the nodes may be rewritten. -/
theorem update_others {f : Session → Session} (hf : ∀ s : Session, (f s).nodes = s.nodes) :
    Leads R (update f : Action β σ Unit) := .update fun s => hf s ▸ .refl

protected theorem orFail {ε : Type} (cause : ε → SessionError) (r : Except ε α) :
    Leads R (orFail cause r : Action β σ α) := by
  cases r with
  | ok a => exact Leads.pure a
  | error e => exact Leads.throw _

protected theorem fetch (q : PropertyQuery) : Leads R (fetch q : Action β σ _) := Admits.fetch q

protected theorem readStore (key : String) : Leads R (readStore key : Action β σ _) :=
  Admits.readStore key

end Leads

end Action

/-! ### Quiet actions -/

namespace World

variable {β σ : Type}

/-- What was handed to the backend so far, oldest first. -/
def requests (w : World β σ) : List SaveRequest := w.effects.filterMap Effect.request?

/-- A world that comes quietly out of another: nothing was handed to the backend, and
the nodes went through changes. -/
structure Follows (w w' : World β σ) : Prop where
  requests_eq : w'.requests = w.requests
  changes : w.session.nodes.Changes w'.session.nodes

variable {w w' w'' : World β σ}

theorem Follows.refl (w : World β σ) : w.Follows w := ⟨rfl, .refl⟩

theorem Follows.trans (h : w.Follows w') (h' : w'.Follows w'') : w.Follows w'' :=
  ⟨h'.requests_eq.trans h.requests_eq, h.changes.trans h'.changes⟩

/-- Effects that hand nothing over leave the requests as they were. -/
theorem requests_append {es fs : List Effect} (h : ∀ e ∈ fs, e.request? = none) :
    (es ++ fs).filterMap Effect.request? = es.filterMap Effect.request? := by
  rw [List.filterMap_append, List.filterMap_eq_nil_iff.mpr h, List.append_nil]

/-- A world with the same nodes and more effects, none of which hands anything over. -/
theorem Follows.of_effects {fs : List Effect} (heffects : w'.effects = w.effects ++ fs)
    (hfs : ∀ e ∈ fs, e.request? = none) (hnodes : w'.session.nodes = w.session.nodes) :
    w.Follows w' := by
  refine ⟨?_, hnodes ▸ .refl⟩
  rw [requests, requests, heffects, requests_append hfs]

end World

namespace Action

variable {β σ α : Type} [DraftStore σ]

instance [Backend β] : Admits (World.Follows (β := β) (σ := σ)) where
  refl := .refl
  trans := .trans
  emit he w := .of_effects rfl (by simpa using he) rfl
  update hf := ⟨rfl, hf⟩
  fetch q w := .of_effects (by rw [run_fetch]) (by simp [Effect.request?]) rfl
  readStore key w := .of_effects (by rw [run_readStore]) (by simp [Effect.request?]) rfl

/-- An action that leads only to worlds that follow quietly. -/
abbrev Quiet (a : Action β σ α) : Prop := Leads World.Follows a

/-- Writing to the store is quiet as well. -/
theorem Quiet.writeStore (key : String) (value : Json) :
    Quiet (writeStore key value : Action β σ _) := fun w =>
  .of_effects (by rw [run_writeStore]) (by simp [Effect.request?]) rfl

end Action

end PipelineCanvas
