import PipelineCanvas.Decode.FromJson
import PipelineCanvas.Wire.Canvas
import PipelineCanvas.Proofs.Wire.Canonical

/-!
# Sources that show a JSON value

A decoder asks its source for the parts of a document. Two sources show a JSON value:
the value itself, and the value set aside. `Decode.Shows` lists what either answers
where the question fits the value, so that what is written is read back from both by
one proof.

* `Decode.Shows`, with `Decode.shows_id` and `Decode.shows_aside`;
* `Decode.listOf_list`, `Decode.optional_optional`, **`Decode.mapOf_map`** – lists,
  optional values and maps are read back when their items are.
-/

namespace PipelineCanvas

namespace Decode

variable {V α β : Type}

/-! ### The answers of a source -/

/-- The members of an object as a source shows them. -/
def shownMembers (doc : Json → V) (members : List (String × Json)) : List (String × V) :=
  members.map fun m => (m.1, doc m.2)

@[simp] theorem shownMembers_nil (doc : Json → V) : shownMembers doc [] = [] := rfl

@[simp] theorem shownMembers_cons (doc : Json → V) (key : String) (value : Json)
    (rest : List (String × Json)) :
    shownMembers doc ((key, value) :: rest) = (key, doc value) :: shownMembers doc rest := rfl

/-- A source shows JSON values: it answers what the value says, wherever the question
fits the value. -/
structure Shows [Source V Result] (doc : Json → V) : Prop where
  text : ∀ s, Source.text (doc (.string s)) = .ok s
  boolean : ∀ b, Source.boolean (doc (.bool b)) = .ok b
  word : ∀ w, Source.word (doc (.word w)) = .ok w
  absent : Source.present (doc .null) = .ok none
  present : ∀ {j : Json}, j ≠ .null → Source.present (doc j) = .ok (some (doc j))
  elements : ∀ items, Source.elements (doc (.array items)) = .ok ⟨items.map doc, none⟩
  members : ∀ expected members,
    Source.members expected (doc (.object members)) = .ok ⟨shownMembers doc members, none⟩
  record : ∀ name members,
    Source.record name (doc (.object members)) = .ok (.named ⟨shownMembers doc members, none⟩)
  choice : ∀ {known s}, s ∈ known → Source.choice known (doc (.string s)) = .ok s
  untyped : ∀ j, Source.untyped (doc j) = .ok j.aside

theorem wordOfInt_toNat (w : UInt32) : (wordOfInt w.toNat : Result UInt32) = .ok w := by
  have hword : Text.toWord? w.toNat = some w := by simp [Text.toWord?, w.toNat_lt]
  have hint : (w.toNat : Int) = .ofNat w.toNat := rfl
  rw [hint, wordOfInt]
  simp only [hword]
  rfl

theorem knownName_of_mem {known : List String} {s : String} (h : s ∈ known) :
    (knownName known s : Result String) = .ok s := by
  rw [knownName, if_pos h]
  rfl

theorem shownMembers_id (members : List (String × Json)) : shownMembers id members = members :=
  List.map_id members

/-- A value shows itself. -/
theorem shows_id : Shows (V := Json) id where
  text _ := rfl
  boolean _ := rfl
  word w := wordOfInt_toNat w
  absent := rfl
  present {j} h := by cases j <;> first | rfl | exact absurd rfl h
  elements items := by rw [List.map_id]; rfl
  members expected members := by rw [shownMembers_id]; rfl
  record name members := by rw [shownMembers_id]; rfl
  choice h := knownName_of_mem h
  untyped _ := rfl

theorem asideItems_eq (items : List Json) : Json.asideItems items = items.map Json.aside := by
  induction items with
  | nil => rfl
  | cons item rest ih => rw [Json.asideItems, ih, List.map_cons]

theorem named_asideMembers (members : List (String × Json)) :
    Untyped.named (Json.asideMembers members) = ⟨shownMembers Json.aside members, none⟩ := by
  induction members with
  | nil => rfl
  | cons m rest ih =>
    rw [Json.asideMembers, Untyped.named, ih]
    rfl

/-- A value that is set aside still shows what it was. -/
theorem shows_aside : Shows Json.aside where
  text _ := rfl
  boolean _ := rfl
  word w := wordOfInt_toNat w
  absent := rfl
  present {j} h := by
    cases j with
    | null => exact absurd rfl h
    | int i => cases i <;> rfl
    | _ => rfl
  elements items := by rw [Json.aside, asideItems_eq]; rfl
  members expected members := by rw [Json.aside, ← named_asideMembers]; rfl
  record name members := by rw [Json.aside, ← named_asideMembers]; rfl
  choice h := knownName_of_mem h
  untyped _ := rfl

/-! ### Reading back what is made of other values -/

/-- What follows a result that is there is run on it. -/
@[simp] theorem ok_bind (a : α) (f : α → Result β) : (Except.ok a >>= f) = f a := rfl

@[simp] theorem pure_eq_ok (a : α) : (pure a : Result α) = .ok a := rfl

@[simp] theorem finish_none : (finish none : Result Unit) = .ok () := rfl

/-- A list of documents is read when each of them is. -/
theorem mapM_map_of_forall {γ : Type} {item : V → Result α} {view : γ → V} {value : γ → α}
    {l : List γ} (h : ∀ x ∈ l, item (view x) = .ok (value x)) :
    (l.map view).mapM item = .ok (l.map value) := by
  induction l with
  | nil => rfl
  | cons x l ih =>
    rw [List.map_cons, List.mapM_cons, h x (List.mem_cons_self ..),
      ih fun y hy => h y (List.mem_cons_of_mem _ hy)]
    rfl

variable {doc : Json → V} {item : V → Result α} {toJson : α → Json}

/-- Members that ascend are gathered behind those gathered before. -/
theorem foldlM_shownMembers (h : ∀ a, item (doc (toJson a)) = .ok a)
    {entries : List (String × α)} (gathered : OrderedMap α)
    (hasc : Entries.Ascending (gathered.entries ++ entries)) :
    (shownMembers doc (entries.map fun e => (e.1, toJson e.2))).foldlM
      (fun (m : OrderedMap α) (key, v) => return m.insert key (← item v)) gathered =
        (.ok ⟨gathered.entries ++ entries, hasc⟩ : Result (OrderedMap α)) := by
  induction entries generalizing gathered with
  | nil => simp
  | cons e rest ih =>
    have hinsert := OrderedMap.entries_insert_of_ascending hasc
    have hrest : Entries.Ascending ((gathered.insert e.1 e.2).entries ++ rest) := by
      rwa [hinsert, List.append_assoc]
    rw [List.map_cons, shownMembers_cons, List.foldlM_cons]
    simp only [h, ok_bind]
    refine (ih _ hrest).trans ?_
    simp [hinsert]

variable [Source V Result]

theorem listOf_list (hd : Shows doc) (h : ∀ a, item (doc (toJson a)) = .ok a) (as : List α) :
    listOf item (doc (Json.list toJson as)) = .ok as := by
  have hitems : (as.map (doc ∘ toJson)).mapM item = .ok (as.map id) :=
    mapM_map_of_forall fun a _ => h a
  rw [listOf, Json.list, hd.elements, ok_bind, List.map_map, hitems, List.map_id]
  rfl

theorem optional_optional (hd : Shows doc) (h : ∀ a, item (doc (toJson a)) = .ok a)
    (hnull : ∀ a, toJson a ≠ .null) (a : Option α) :
    optional item (doc (Json.optional toJson a)) = .ok a := by
  cases a with
  | none =>
    rw [optional, Json.optional, hd.absent]
    rfl
  | some a =>
    rw [optional, Json.optional, hd.present (hnull a), ok_bind]
    simp only [h]
    rfl

/-- **A map is read back,** since its members ascend. -/
theorem mapOf_map (hd : Shows doc) (h : ∀ a, item (doc (toJson a)) = .ok a) (m : OrderedMap α) :
    mapOf item (doc (Json.map toJson m)) = .ok m := by
  have hfold := foldlM_shownMembers h .empty m.ascending
  rw [mapOf, Json.map, hd.members, ok_bind]
  dsimp only
  rw [hfold]
  rfl

end Decode

end PipelineCanvas
