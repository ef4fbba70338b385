import PipelineCanvas.Proofs.Ascending
import PipelineCanvas.Wire.Canvas

/-!
# The canonical form of what is written

Encoders list members in the order of a declaration, and the canonical form sorts them.
A record has few members, and its canonical form is computed. A list or a map has any
number: of a list every item is put in canonical form, and so is every value of a map,
whose members ascend already.

* **`Json.canonicalMembers_of_ascending`** – members that ascend stay where they are;
* `Json.canonical_list`, `Json.canonical_optional`, `Json.canonical_map` – the canonical
  forms of what is made of written values.
-/

namespace PipelineCanvas

variable {α : Type}

namespace Json

theorem canonicalItems_eq (items : List Json) : canonicalItems items = items.map canonical := by
  induction items with
  | nil => rfl
  | cons item rest ih => rw [canonicalItems, ih, List.map_cons]

/-- **Members that ascend stay where they are,** also behind others that were sorted in. -/
theorem canonicalMembers_of_ascending {members sorted : List (String × Json)}
    (h : Entries.Ascending (sorted ++ members)) :
    canonicalMembers members sorted = sorted ++ members.map fun m => (m.1, canonical m.2) := by
  induction members generalizing sorted with
  | nil => simp [canonicalMembers]
  | cons m rest ih =>
    obtain ⟨key, value⟩ := m
    rw [canonicalMembers, Entries.insert_of_ascending h, ih (Entries.ascending_of_fst_eq h)]
    simp

variable (toJson : α → Json)

theorem canonical_optional (a : Option α) :
    (optional toJson a).canonical = optional (fun a => (toJson a).canonical) a := by
  cases a <;> rfl

theorem canonical_list (as : List α) :
    (list toJson as).canonical = list (fun a => (toJson a).canonical) as := by
  rw [list, canonical, canonicalItems_eq, list, List.map_map]
  rfl

/-- **The canonical form of a map is the map of the canonical forms.** -/
theorem canonical_map (m : OrderedMap α) :
    (map toJson m).canonical = map (fun a => (toJson a).canonical) m := by
  have h : Entries.Ascending ([] ++ m.entries.map fun e => (e.1, toJson e.2)) :=
    Entries.ascending_map (fun _ a => toJson a) m.ascending
  rw [map, canonical, canonicalMembers_of_ascending h, map, List.map_map]
  rfl

end Json

end PipelineCanvas
