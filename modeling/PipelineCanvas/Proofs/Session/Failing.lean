import PipelineCanvas.Backend.Catalog
import PipelineCanvas.Drafts.Memory
import PipelineCanvas.Proofs.Drafts.Contents
import PipelineCanvas.Proofs.Session.Saving

/-!
# Operations that fail

An operation that edits a node, stores or opens a draft, or saves can fail at several
places, some of them behind calls to the backend and to the store. Wherever it fails, it
is as if it had not been tried (**`Operation.step_unharmed`**): the session is what it
was, the store holds what it held, and nobody was told anything – but when the pipeline
is found invalid. That is announced, and it is found out before anything is called.

* `World.news`, `World.backendCalls`, `World.storeCalls` – what reached out, sorted;
* `World.Unseen` – a world that differs from another in nothing that can be seen;
* `World.Unharmed` – what a failure leaves.
-/

namespace PipelineCanvas

open PipelineCanvas.Action

variable {β σ κ : Type}

/-! ### What reached out -/

/-- The news that an effect tells a listener, if it does. -/
def Effect.news? : Effect → Option (String × News)
  | .told listener news => some (listener, news)
  | _ => none

/-- The effect is a call to the backend. -/
def Effect.isBackendCall : Effect → Bool
  | .fetched _ => true
  | .submitted _ => true
  | _ => false

/-- The effect is a call to the store. -/
def Effect.isStoreCall : Effect → Bool
  | .storeRead _ => true
  | .storeWritten .. => true
  | _ => false

namespace World

/-- What listeners were told so far, oldest first. -/
def news (w : World β σ) : List (String × News) := w.effects.filterMap Effect.news?

/-- The calls to the backend so far. -/
def backendCalls (w : World β σ) : List Effect := w.effects.filter (·.isBackendCall)

/-- The calls to the store so far. -/
def storeCalls (w : World β σ) : List Effect := w.effects.filter (·.isStoreCall)

variable {w w' w'' : World β σ}

theorem Notes.news_eq (h : w.Notes w') : w'.news = w.news := by
  obtain ⟨es, hes, rfl⟩ := h
  have hnone : es.filterMap Effect.news? = [] := List.filterMap_eq_nil_iff.mpr fun e he => by
    have := hes e he
    cases e <;> simp_all [Effect.isNote, Effect.news?]
  simp [news, hnone]

theorem Notes.backendCalls_eq (h : w.Notes w') : w'.backendCalls = w.backendCalls := by
  obtain ⟨es, hes, rfl⟩ := h
  have hnone : es.filter (·.isBackendCall) = [] := List.filter_eq_nil_iff.mpr fun e he => by
    have := hes e he
    cases e <;> simp_all [Effect.isNote, Effect.isBackendCall]
  simp [backendCalls, hnone]

theorem Notes.storeCalls_eq (h : w.Notes w') : w'.storeCalls = w.storeCalls := by
  obtain ⟨es, hes, rfl⟩ := h
  have hnone : es.filter (·.isStoreCall) = [] := List.filter_eq_nil_iff.mpr fun e he => by
    have := hes e he
    cases e <;> simp_all [Effect.isNote, Effect.isStoreCall]
  simp [storeCalls, hnone]

/-! What each call adds to what reached out. -/

section

variable (w : World β σ)

@[simp] theorem news_telling (news : News) :
    (w.telling news).news =
      w.news ++ (w.session.listeners.on news.channel).map fun l => (l, news) := by
  simp [World.news, telling, List.filterMap_map, Function.comp_def, Effect.news?]

@[simp] theorem backendCalls_telling (news : News) :
    (w.telling news).backendCalls = w.backendCalls := by
  simp [backendCalls, telling, List.filter_map, Function.comp_def, Effect.isBackendCall]

@[simp] theorem storeCalls_telling (news : News) :
    (w.telling news).storeCalls = w.storeCalls := by
  simp [storeCalls, telling, List.filter_map, Function.comp_def, Effect.isStoreCall]

@[simp] theorem news_clearing (keepName : Bool) : (w.clearing keepName).news = w.news := rfl

@[simp] theorem backendCalls_clearing (keepName : Bool) :
    (w.clearing keepName).backendCalls = w.backendCalls := rfl

@[simp] theorem storeCalls_clearing (keepName : Bool) :
    (w.clearing keepName).storeCalls = w.storeCalls := rfl

@[simp] theorem news_fetching [Backend β] (q : PropertyQuery) : (w.fetching q).news = w.news := by
  simp [news, fetching, Effect.news?]

@[simp] theorem news_submitting [Backend β] (r : SaveRequest) :
    (w.submitting r).news = w.news := by
  simp [news, submitting, Effect.news?]

@[simp] theorem backendCalls_submitting [Backend β] (r : SaveRequest) :
    (w.submitting r).backendCalls = w.backendCalls ++ [.submitted r] := by
  simp [backendCalls, submitting, Effect.isBackendCall]

@[simp] theorem storeCalls_submitting [Backend β] (r : SaveRequest) :
    (w.submitting r).storeCalls = w.storeCalls := by
  simp [storeCalls, submitting, Effect.isStoreCall]

variable [DraftStore σ] (drafts : List (String × Json))

@[simp] theorem news_reading : w.reading.news = w.news := by
  simp [news, reading, Effect.news?]

@[simp] theorem backendCalls_reading : w.reading.backendCalls = w.backendCalls := by
  simp [backendCalls, reading, Effect.isBackendCall]

@[simp] theorem storeCalls_reading :
    w.reading.storeCalls = w.storeCalls ++ [.storeRead draftsKey] := by
  simp [storeCalls, reading, Effect.isStoreCall]

@[simp] theorem news_writing : (w.writing drafts).news = w.news := by
  simp [news, writing, Effect.news?]

@[simp] theorem backendCalls_writing : (w.writing drafts).backendCalls = w.backendCalls := by
  simp [backendCalls, writing, Effect.isBackendCall]

@[simp] theorem storeCalls_writing :
    (w.writing drafts).storeCalls =
      w.storeCalls ++ [.storeWritten draftsKey (.object drafts)] := by
  simp [storeCalls, writing, Effect.isStoreCall]

end

/-! ### Nothing to be seen -/

variable [DraftStore σ] {view : StoreView σ κ}

/-- A world in which nothing can be seen to have happened since another: the session is
the same, the store holds the same, and nobody was told anything. -/
structure Unseen (view : StoreView σ κ) (w w' : World β σ) : Prop where
  session_eq : w'.session = w.session
  contents_eq : view.contents w'.store = view.contents w.store
  news_eq : w'.news = w.news

theorem Unseen.trans (h : w.Unseen view w') (h' : w'.Unseen view w'') : w.Unseen view w'' :=
  ⟨h'.session_eq.trans h.session_eq, h'.contents_eq.trans h.contents_eq,
    h'.news_eq.trans h.news_eq⟩

theorem Notes.unseen (h : w.Notes w') : w.Unseen view w' :=
  ⟨h.session_eq, by rw [h.store_eq], h.news_eq⟩

theorem unseen_reading (w : World β σ) : w.Unseen view w.reading :=
  ⟨rfl, view.contents_get _ _, w.news_reading⟩

/-- Drafts that could not be written are not seen. -/
theorem unseen_writing {drafts : List (String × Json)} {e : StoreError}
    (h : (DraftStore.set draftsKey (.object drafts) w.store).1 = .error e) :
    w.Unseen view (w.writing drafts) :=
  ⟨rfl, view.contents_set_of_error h, w.news_writing drafts⟩

theorem unseen_fetching [Backend β] (w : World β σ) (q : PropertyQuery) :
    w.Unseen view (w.fetching q) :=
  ⟨rfl, rfl, w.news_fetching q⟩

theorem unseen_submitting [Backend β] (w : World β σ) (r : SaveRequest) :
    w.Unseen view (w.submitting r) :=
  ⟨rfl, rfl, w.news_submitting r⟩

end World

/-! ### Failures -/

/-- What a failure announces: if the pipeline is invalid, its problems, to each listener
on that channel. -/
def Session.announcements (s : Session) : SessionError → List (String × News)
  | .invalid problems => (s.listeners.on .invalid).map fun l => (l, .invalid problems)
  | _ => []

namespace World

variable [DraftStore σ] {view : StoreView σ κ} {w w' : World β σ} {e : SessionError}

/-- What a failure leaves: the session as it was, a store that holds what it held, and
nothing told but what the failure announces. A pipeline is found invalid without a call. -/
structure Unharmed (view : StoreView σ κ) (e : SessionError) (w w' : World β σ) : Prop where
  session_eq : w'.session = w.session
  contents_eq : view.contents w'.store = view.contents w.store
  news_eq : w'.news = w.news ++ w.session.announcements e
  uncalled : ∀ problems, e = .invalid problems →
    w'.backend = w.backend ∧ w'.backendCalls = w.backendCalls ∧
      w'.store = w.store ∧ w'.storeCalls = w.storeCalls

theorem Unseen.unharmed (h : w.Unseen view w') (he : ∀ problems, e ≠ .invalid problems) :
    w.Unharmed view e w' where
  session_eq := h.session_eq
  contents_eq := h.contents_eq
  news_eq := by
    cases e with
    | invalid problems => exact absurd rfl (he problems)
    | _ => simp [h.news_eq, Session.announcements]
  uncalled problems hp := absurd hp (he problems)

/-- Problems are announced, and nothing else is done about them. -/
theorem Notes.unharmed_telling (h : w.Notes w') (problems : Problems) :
    w.Unharmed view (.invalid problems) (w'.telling (.invalid problems)) where
  session_eq := h.session_eq
  contents_eq := congrArg view.contents h.store_eq
  news_eq := by rw [news_telling, h.news_eq, h.session_eq]; rfl
  uncalled _ _ :=
    ⟨h.backend_eq, (backendCalls_telling _ _).trans h.backendCalls_eq, h.store_eq,
      (storeCalls_telling _ _).trans h.storeCalls_eq⟩

end World

/-! ### The operations -/

namespace Session

variable [DraftStore σ] (view : StoreView σ κ) {w w' : World β σ} {e : SessionError}

theorem unharmed_of_edit [Backend β] {id : String} {scope : Option String}
    (h : run (edit id scope : Action β σ Editor) w = (.error e, w')) : w.Unharmed view e w' := by
  have hrun := editRun id scope w
  rw [h] at hrun
  cases hrun with
  | noNode hn => exact (World.Notes.refl w).unseen.unharmed nofun
  | unanswered hn hw hfetch hnotes =>
    exact ((hw.unseen.trans (World.unseen_fetching _ _)).trans hnotes.unseen).unharmed nofun

theorem unharmed_of_changeNode {id : String} {f : Node → Node}
    (h : run (changeNode id f : Action β σ Unit) w = (.error e, w')) : w.Unharmed view e w' := by
  rw [run_changeNode] at h
  split at h
  · cases h
    exact (World.Notes.refl w).unseen.unharmed nofun
  · cases h

theorem unharmed_of_removeProperty {id key : String}
    (h : run (removeProperty id key : Action β σ (Option String)) w = (.error e, w')) :
    w.Unharmed view e w' := by
  rw [run_removeProperty] at h
  split at h
  · cases h
    exact (World.Notes.refl w).unseen.unharmed nofun
  · cases h

theorem unharmed_of_saveDraft
    (h : run (saveDraft : Action β σ Unit) w = (.error e, w')) : w.Unharmed view e w' := by
  have hrun := saveDraftRun w
  rw [h] at hrun
  cases hrun with
  | refused hverdict hw => exact hw.unharmed_telling _
  | unread hw hget => exact (hw.unseen.trans (World.unseen_reading _)).unharmed nofun
  | @unwritten w₁ _ _ hw hget hset =>
    have hstore : w₁.reading.store = w.reading.store := by
      rw [World.reading, World.reading, hw.store_eq]
    rw [← hstore] at hset
    exact ((hw.unseen.trans (World.unseen_reading _)).trans
      (World.unseen_writing hset)).unharmed nofun

theorem unharmed_of_importDraft {name : String}
    (h : run (importDraft name : Action β σ Unit) w = (.error e, w')) :
    w.Unharmed view e w' := by
  have hrun := importDraftRun name w
  rw [h] at hrun
  -- wherever it fails, no more was done than reading the drafts
  cases hrun <;> exact (World.unseen_reading w).unharmed nofun

theorem unharmed_of_save [Backend β] {nameSpace : String}
    (h : run (save nameSpace : Action β σ String) w = (.error e, w')) :
    w.Unharmed view e w' ∧
      ∀ error, e = .backend error → w'.store = w.store ∧ w'.storeCalls = w.storeCalls := by
  have hrun := saveRun nameSpace w
  rw [h] at hrun
  cases hrun with
  | refused hverdict hw => exact ⟨hw.unharmed_telling _, nofun⟩
  | rejected hverdict hw hsubmit hnotes =>
    refine ⟨((hw.unseen.trans (World.unseen_submitting _ _)).trans
      hnotes.unseen).unharmed nofun, fun _ _ => ⟨hnotes.store_eq.trans hw.store_eq, ?_⟩⟩
    rw [hnotes.storeCalls_eq, World.storeCalls_submitting, hw.storeCalls_eq]

end Session

namespace Operation

/-- The operations that are as if not tried when they fail. The others either never fail
or, like fetching the contracts of several nodes, keep what they got done. -/
def isAtomic : Operation → Bool
  | .edit .. => true
  | .setOutputSchema .. => true
  | .setProperty .. => true
  | .removeProperty .. => true
  | .save _ => true
  | .saveDraft => true
  | .importDraft _ => true
  | _ => false

variable [Backend β] [DraftStore σ]

/-- A failure of an operation is one of its action. -/
theorem run_of_step_error {α : Type} {op : Operation} {a : Action β σ α} (reply : α → Reply)
    (h : (op.perform : Action β σ Reply) = a >>= fun x => pure (reply x)) {w : World β σ}
    {e : SessionError} (hfails : (op.step w).1 = .error e) :
    run a w = (.error e, (op.step w).2) := by
  have hstep := step_of_perform_eq op a reply h w
  rw [hstep] at hfails ⊢
  rcases hr : run a w with ⟨e' | x, w'⟩
  · rw [hr] at hfails
    cases hfails
    rfl
  · rw [hr] at hfails
    cases hfails

/-- **An operation that fails is as if it had not been tried.** In whatever session, with
whatever backend and draft store: the session stays, the store holds what it held, and
nobody is told anything, unless the pipeline is invalid. Then each listener for problems
is told those that the failure carries, once, and nothing is called. A pipeline that the
backend does not take is not looked for in the store. -/
theorem step_unharmed (view : StoreView σ κ) {op : Operation} (hop : op.isAtomic = true)
    {w : World β σ} {e : SessionError} (hfails : (op.step w).1 = .error e) :
    w.Unharmed view e (op.step w).2 ∧
      ∀ nameSpace error, op = .save nameSpace → e = .backend error →
        (op.step w).2.store = w.store ∧ (op.step w).2.storeCalls = w.storeCalls := by
  cases op with
  | edit id scope =>
    exact ⟨Session.unharmed_of_edit view (run_of_step_error .editor rfl hfails), nofun⟩
  | setOutputSchema id schema =>
    exact ⟨Session.unharmed_of_changeNode view
      (run_of_step_error (fun _ => .done) rfl hfails), nofun⟩
  | setProperty id key value =>
    exact ⟨Session.unharmed_of_changeNode view
      (run_of_step_error (fun _ => .done) rfl hfails), nofun⟩
  | removeProperty id key =>
    exact ⟨Session.unharmed_of_removeProperty view
      (run_of_step_error .optionalText rfl hfails), nofun⟩
  | save nameSpace =>
    obtain ⟨hunharmed, hbackend⟩ := Session.unharmed_of_save view
      (run_of_step_error .text rfl hfails)
    exact ⟨hunharmed, fun _ error _ he => hbackend error he⟩
  | saveDraft =>
    exact ⟨Session.unharmed_of_saveDraft view
      (run_of_step_error (fun _ => .done) rfl hfails), nofun⟩
  | importDraft name =>
    exact ⟨Session.unharmed_of_importDraft view
      (run_of_step_error (fun _ => .done) rfl hfails), nofun⟩
  | _ => cases hop

/-- A valid pipeline that the backend does not take. -/
theorem step_save_rejected {w : World β σ} {nameSpace : String} {error : BackendError}
    (hvalid : w.session.verdict.1.isEmpty = true)
    (hsubmit : (Backend.submit (w.session.request nameSpace) w.backend).1 = .error error) :
    ((save nameSpace).step w).1 = .error (.backend error) := by
  rw [step_of_perform_eq (save nameSpace) (Session.save nameSpace) .text rfl]
  have hrun := Session.saveRun nameSpace w
  generalize run (Session.save nameSpace : Action β σ String) w = r at hrun
  cases hrun with
  | refused hverdict hw =>
    rw [hvalid] at hverdict
    cases hverdict
  | rejected hverdict hw hrejected hnotes =>
    rw [hsubmit] at hrejected
    cases hrejected
    rfl
  | taken hverdict hw htaken hnotes hquiet hstore =>
    rw [hsubmit] at htaken
    cases htaken

/-- One pipeline that the backend does not take, and one that is not even connected, each
with a listener for problems and a listener for resets. -/
theorem step_unharmed_rejected_refused :
    let listeners : Listeners := ⟨2, [(⟨.invalid, 1⟩, "panel"), (⟨.reset, 2⟩, "palette")]⟩
    let drawn : Session :=
      { Session.fresh with
        nodes := .ofNodes [.fresh "a" "Stream" .source, .fresh "k" "Table" .sink]
        edges := [⟨"a", "k"⟩], metadata := .named "events", listeners }
    let refusing := CatalogBackend.empty.rejectSaves (.rejected 409 "busy")
    let w : World CatalogBackend MemoryStore := ⟨drawn, refusing, .empty, []⟩
    let u : World CatalogBackend MemoryStore := ⟨{ drawn with edges := [] }, refusing, .empty, []⟩
    let view : StoreView MemoryStore MemoryStore := ⟨id, fun _ _ => rfl, nofun⟩
    ((save "default").step w).1 = .error (.backend (.rejected 409 "busy")) ∧
      w.Unharmed view (.backend (.rejected 409 "busy")) ((save "default").step w).2 ∧
      ((save "default").step w).2.storeCalls = [] ∧
      ((save "default").step u).1 = .error (.invalid u.session.verdict.1) ∧
      ((save "default").step u).2.news = [("panel", .invalid u.session.verdict.1)] := by
  intro listeners drawn refusing w u view
  have hw : ((save "default").step w).1 = .error (.backend (.rejected 409 "busy")) :=
    step_save_rejected (by decide) rfl
  have hu : ((save "default").step u).1 = .error (.invalid u.session.verdict.1) :=
    step_save_refused "default" (by decide)
  obtain ⟨hunharmed, hcalls⟩ := step_unharmed view rfl hw
  exact ⟨hw, hunharmed, (hcalls "default" _ rfl rfl).2, hu,
    (step_unharmed view rfl hu).1.news_eq⟩

end Operation

end PipelineCanvas
