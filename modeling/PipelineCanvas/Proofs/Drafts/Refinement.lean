import PipelineCanvas.Drafts.Memory
import PipelineCanvas.Proofs.Drafts.Files

/-!
# A file in place of a map

A program that keeps its values in a file sees what it would see if it kept them in memory, except
that the file outlives it: the next program begins with the members that the file holds. The two
stores are run side by side. Before and after every call, the document in the file is the list of
entries of the map; this takes that the document which was written is the one that is read next, and
that a file which was written once can be written again.

A file that is no JSON text is out of this. No call succeeds on it, and none changes it.

* `StoreCall`, `StoreCall.performAll` – calls of a store, one after the other;
* `FileStore.lifetimes` – programs that call a store in one file, one after the other;
* `FileStore.Begins` – what a file can hold at first;
* `FileStore.Mirrors`, `FileStore.Mirrors.perform` – what every call preserves;
* **`FileStore.refines_map`** – all calls of all programs.
-/

namespace PipelineCanvas

/-- A map of ascending entries is made of them. -/
theorem OrderedMap.entries_ofList {α : Type} {entries : List (String × α)}
    (h : Entries.Ascending entries) : (OrderedMap.ofList entries).entries = entries := by
  have hfold (rest : List (String × α)) (m : OrderedMap α)
      (h : Entries.Ascending (m.entries ++ rest)) :
      (rest.foldl (fun m e => m.insert e.1 e.2) m).entries = m.entries ++ rest := by
    induction rest generalizing m with
    | nil => simp
    | cons e rest ih =>
      have hentries := OrderedMap.entries_insert_of_ascending h
      rw [List.foldl_cons, ih _ (by rw [hentries]; simpa using h), hentries]
      simp
  exact hfold entries .empty h

/-! ### Calls -/

/-- A call of a store. -/
inductive StoreCall where
  | get (key : String)
  | set (key : String) (value : Json)
deriving DecidableEq

/-- What a store answers. -/
inductive StoreAnswer where
  | got (answer : Except StoreError (Option Json))
  | done (answer : Except StoreError Unit)

namespace StoreCall

variable {σ : Type} [DraftStore σ]

/-- The answer to a call, and the store behind it. -/
def perform (s : σ) : StoreCall → StoreAnswer × σ
  | .get key => (.got (DraftStore.get key s).1, (DraftStore.get key s).2)
  | .set key value => (.done (DraftStore.set key value s).1, (DraftStore.set key value s).2)

/-- The answers to calls, one after the other, and the store behind them. -/
def performAll (s : σ) : List StoreCall → List StoreAnswer × σ
  | [] => ([], s)
  | call :: rest =>
    ((call.perform s).1 :: (performAll (call.perform s).2 rest).1,
      (performAll (call.perform s).2 rest).2)

theorem performAll_append (s : σ) (calls more : List StoreCall) :
    performAll s (calls ++ more) =
      ((performAll s calls).1 ++ (performAll (performAll s calls).2 more).1,
        (performAll (performAll s calls).2 more).2) := by
  induction calls generalizing s with
  | nil => rfl
  | cons call rest ih => simp only [List.cons_append, performAll, ih]

/-- A call that stores no floating-point number and nests no more than a member of a document can:
what is stored is one level deeper in the file. A value is in canonical form whenever it is held in
maps, which keep their keys in order. -/
def Plain : StoreCall → Prop
  | .get _ => True
  | .set _ value => value.Fits (fun _ => False) 126 ∧ value.canonical = value

end StoreCall

/-- A failure of any kind. -/
def StoreAnswer.Fails : StoreAnswer → Prop
  | .got answer => ∃ e, answer = .error e
  | .done answer => ∃ e, answer = .error e

namespace FileStore

/-- The answers that programs get which call a store in one file, each of them opening it anew on
the disk that the one before left, and the disk behind them. -/
def lifetimes (path : String) (disk : Disk) : List (List StoreCall) → List StoreAnswer × Disk
  | [] => ([], disk)
  | calls :: rest =>
    let (answers, store) := StoreCall.performAll (⟨disk, path⟩ : FileStore) calls
    let (others, disk) := lifetimes path store.disk rest
    (answers ++ others, disk)

/-- A call leaves the path of a store. -/
theorem path_perform (s : FileStore) (call : StoreCall) : (call.perform s).2.path = s.path := by
  cases call with
  | get key => rfl
  | set key value =>
    change (set key value s).2.path = s.path
    unfold set
    split <;> rfl

theorem path_performAll (s : FileStore) (calls : List StoreCall) :
    (StoreCall.performAll s calls).2.path = s.path := by
  induction calls generalizing s with
  | nil => rfl
  | cons call rest ih => exact (ih _).trans (path_perform s call)

/-- A store that is opened anew is the store that was left. -/
theorem reopened_performAll (path : String) (disk : Disk) (calls : List StoreCall) :
    (⟨(StoreCall.performAll (⟨disk, path⟩ : FileStore) calls).2.disk, path⟩ : FileStore) =
      (StoreCall.performAll (⟨disk, path⟩ : FileStore) calls).2 :=
  (FileStore.mk.injEq ..).mpr ⟨rfl, (path_performAll ⟨disk, path⟩ calls).symm⟩

/-- Opening a store anew makes no difference. -/
theorem lifetimes_eq (path : String) (disk : Disk) (programs : List (List StoreCall)) :
    lifetimes path disk programs =
      ((StoreCall.performAll (⟨disk, path⟩ : FileStore) programs.flatten).1,
        (StoreCall.performAll (⟨disk, path⟩ : FileStore) programs.flatten).2.disk) := by
  induction programs generalizing disk with
  | nil => rfl
  | cons calls rest ih =>
    simp only [List.flatten_cons, StoreCall.performAll_append, lifetimes, ih,
      reopened_performAll]

/-! ### What a file can hold at first -/

/-- What a file holds from which a store begins with members: it is missing or blank, or its text
is that of a JSON value without floating-point numbers. -/
inductive Begins (s : FileStore) : List (String × Json) → Prop
  | missing (h : s.disk.readText s.path = .error .missing) : Begins s []
  | blank {text : String} (h : s.disk.readText s.path = .ok text)
      (hblank : Text.isBlank text = true) : Begins s []
  | object {text : String} {members : List (String × Json)}
      (h : s.disk.readText s.path = .ok text) (hblank : Text.isBlank text = false)
      (hread : Json.ofText text = .ok (.object members))
      (hfloats : (Json.object members).floats = []) : Begins s members
  | other {text : String} {v : Json} (h : s.disk.readText s.path = .ok text)
      (hblank : Text.isBlank text = false) (hread : Json.ofText text = .ok v)
      (hother : v.members? = none) (hfloats : v.floats = []) : Begins s []

theorem Begins.document {s : FileStore} {members : List (String × Json)} (h : s.Begins members) :
    s.document = .ok members := by
  unfold FileStore.document
  cases h with
  | missing h => rw [h]
  | blank h hblank => rw [h]; simp only [membersOf, hblank]; rfl
  | object h hblank hread => rw [h]; simp only [membersOf, hblank, hread]; rfl
  | other h hblank hread hother => rw [h]; simp only [membersOf, hblank, hread, hother]; rfl

theorem Begins.floats {s : FileStore} {members : List (String × Json)} (h : s.Begins members) :
    (Json.object members).floats = [] := by
  cases h with
  | object _ _ _ hfloats => exact hfloats
  | _ => rfl

/-! ### The two stores side by side -/

/-- The file holds the entries of a map. -/
structure Mirrors (s : FileStore) (m : MemoryStore) : Prop where
  document : s.document = .ok m.values.entries
  fits : (Json.object m.values.entries).Fits (fun _ => False) Json.deepestLevel
  writable : s.Writable

variable {s : FileStore} {m : MemoryStore}

/-- **A call is answered alike by both stores,** and leaves them alike. -/
theorem Mirrors.perform (h : s.Mirrors m) {call : StoreCall} (hcall : call.Plain) :
    (call.perform s).1 = (call.perform m).1 ∧ (call.perform s).2.Mirrors (call.perform m).2 := by
  cases call with
  | get key =>
    refine ⟨?_, h⟩
    change StoreAnswer.got (s.document.map _) = _
    rw [h.document]
    rfl
  | set key value =>
    obtain ⟨hvalue, hcanonical⟩ := hcall
    obtain ⟨disk, hwrite, hwritable⟩ :=
      h.writable.write (Entries.insert key value m.values.entries)
    have hset : s.set key value = (.ok (), ⟨disk, s.path⟩) := by
      rw [set_of_document h.document, hwrite]
      rfl
    have hfits : (Json.object (Entries.insert key value m.values.entries)).Fits
        (fun _ => False) Json.deepestLevel := h.fits.object_insert hvalue
    have hdocument := document_write hwrite (hfits.mono nofun le_rfl)
      (Json.canonical_object_insert (document_fits h.document).2 hcanonical)
    change StoreAnswer.done (s.set key value).1 = _ ∧ (s.set key value).2.Mirrors _
    rw [hset]
    exact ⟨rfl, hdocument, hfits, hwritable⟩

theorem Mirrors.performAll (h : s.Mirrors m) {calls : List StoreCall}
    (hcalls : ∀ call ∈ calls, call.Plain) :
    (StoreCall.performAll s calls).1 = (StoreCall.performAll m calls).1 ∧
      (StoreCall.performAll s calls).2.Mirrors (StoreCall.performAll m calls).2 := by
  induction calls generalizing s m with
  | nil => exact ⟨rfl, h⟩
  | cons call rest ih =>
    obtain ⟨hcall, hrest⟩ := List.forall_mem_cons.mp hcalls
    obtain ⟨hanswer, hnext⟩ := h.perform hcall
    obtain ⟨hanswers, hlast⟩ := ih hnext hrest
    exact ⟨congrArg₂ List.cons hanswer hanswers, hlast⟩

/-! ### Files that cannot be read -/

/-- On a file that has no document every call fails and changes nothing. -/
theorem performAll_of_document_error {e : StoreError} (h : s.document = .error e)
    (calls : List StoreCall) :
    (∀ answer ∈ (StoreCall.performAll s calls).1, answer.Fails) ∧
      (StoreCall.performAll s calls).2 = s := by
  induction calls with
  | nil => exact ⟨nofun, rfl⟩
  | cons call rest ih =>
    have hcall : (call.perform s).1.Fails ∧ (call.perform s).2 = s := by
      cases call with
      | get key =>
        refine ⟨⟨e, ?_⟩, rfl⟩
        change s.document.map _ = _
        rw [h]
        rfl
      | set key value =>
        change (∃ e, (s.set key value).1 = .error e) ∧ (s.set key value).2 = s
        rw [set_of_document_error h]
        exact ⟨⟨_, rfl⟩, rfl⟩
    simp only [StoreCall.performAll, hcall.2]
    exact ⟨List.forall_mem_cons.mpr ⟨hcall.1, ih.1⟩, ih.2⟩

/-- **A store in a file refines the map.** Whatever programs do one after the other, each of which
opens the file anew: if the file can be written and is missing, blank or the text of a value without
floating-point numbers, they are answered as one program would be by the map of the members that
the file holds at first, and any further value that is stored leaves all members under other keys.
If the text of the file is no JSON text, no call succeeds and the disk stays as it is. -/
theorem refines_map (disk : Disk) (path : String) :
    (∀ members, Begins ⟨disk, path⟩ members → Writable ⟨disk, path⟩ →
      ∀ programs : List (List StoreCall),
        (∀ calls ∈ programs, ∀ call ∈ calls, call.Plain) →
          (lifetimes path disk programs).1 =
              (StoreCall.performAll (⟨.ofList members⟩ : MemoryStore) programs.flatten).1 ∧
            ∀ key value, (StoreCall.set key value).Plain → ∃ held,
              document ⟨(lifetimes path disk programs).2, path⟩ = .ok held ∧
                (set key value ⟨(lifetimes path disk programs).2, path⟩).1 = .ok () ∧
                document (set key value ⟨(lifetimes path disk programs).2, path⟩).2 =
                  .ok (Entries.insert key value held)) ∧
      ∀ text complaint, disk.readText path = .ok text → Text.isBlank text = false →
        Json.ofText text = .error complaint → ∀ programs : List (List StoreCall),
          (∀ answer ∈ (lifetimes path disk programs).1, answer.Fails) ∧
            (lifetimes path disk programs).2 = disk := by
  constructor
  · intro members hbegins hwritable programs hplain
    have hdocument := hbegins.document
    have hentries : (OrderedMap.ofList members).entries = members :=
      OrderedMap.entries_ofList (document_ascending hdocument)
    have hmirrors : Mirrors ⟨disk, path⟩ ⟨.ofList members⟩ := by
      refine ⟨hdocument.trans (by rw [hentries]), ?_, hwritable⟩
      rw [hentries]
      exact (document_fits hdocument).1.of_floats (by rw [hbegins.floats]; exact nofun)
    have hcalls : ∀ call ∈ programs.flatten, call.Plain := by
      intro call hcall
      obtain ⟨calls, hcalls, hcall⟩ := List.mem_flatten.mp hcall
      exact hplain calls hcalls call hcall
    obtain ⟨hanswers, hafter⟩ := hmirrors.performAll hcalls
    rw [lifetimes_eq, reopened_performAll]
    refine ⟨hanswers, fun key value hvalue => ?_⟩
    obtain ⟨hdone, hset⟩ := hafter.perform hvalue
    exact ⟨_, hafter.document, StoreAnswer.done.inj hdone, hset.document⟩
  · intro text complaint hread hblank hcorrupt programs
    have hdocument : document ⟨disk, path⟩ = .error (.corrupt complaint) := by
      simp only [document, hread, membersOf, hblank, hcorrupt]
      rfl
    obtain ⟨hfails, hstays⟩ := performAll_of_document_error hdocument programs.flatten
    rw [lifetimes_eq, hstays]
    exact ⟨hfails, rfl⟩

/-- One program stores a member beside the one that is there, and the next one reads both. A file
that was cut off stays as it is. -/
theorem refines_map_two_programs :
    let disk := Disk.empty.plant "drafts.json" (.file (.text "\x7b\"a\": 1\x7d"))
    let cut := Disk.empty.plant "drafts.json" (.file (.text "\x7b\"a\": 1"))
    (lifetimes "drafts.json" disk
        [[.set "b" (.array [.int 2])], [.get "a", .get "b", .get "c"]]).1 =
      [.done (.ok ()), .got (.ok (some (.int 1))), .got (.ok (some (.array [.int 2]))),
        .got (.ok none)] ∧
    (lifetimes "drafts.json" cut [[.get "a"], [.set "b" .null]]).2 = cut := by
  intro disk cut
  have hbegins : Begins ⟨disk, "drafts.json"⟩ [("a", .int 1)] := by
    have hread : disk.readText "drafts.json" = .ok "\x7b\"a\": 1\x7d" := by decide +kernel
    exact .object hread (by decide +kernel) (by decide +kernel) (by decide +kernel)
  have hwritable : Writable ⟨disk, "drafts.json"⟩ :=
    ⟨disk, ["drafts.json"], by decide +kernel, by decide +kernel, by decide +kernel⟩
  have hvalue : (Json.array [.int 2]).Fits (fun _ => False) 126 :=
    .array (List.forall_mem_singleton.mpr (.int (by decide) (by decide)))
  have hplain : ∀ calls ∈ [[StoreCall.set "b" (.array [.int 2])],
      [.get "a", .get "b", .get "c"]], ∀ call ∈ calls, call.Plain := by
    simp [StoreCall.Plain, hvalue, Json.canonical, Json.canonicalItems]
  refine ⟨((refines_map disk "drafts.json").1 _ hbegins hwritable _ hplain).1.trans rfl, ?_⟩
  have hread : cut.readText "drafts.json" = .ok "\x7b\"a\": 1" := by decide +kernel
  exact ((refines_map cut "drafts.json").2 _ ⟨.endInObject, 1, 7⟩ hread (by decide +kernel)
    (by decide +kernel) _).2

end FileStore

end PipelineCanvas
