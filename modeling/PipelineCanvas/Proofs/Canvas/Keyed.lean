import Mathlib.Data.List.Nodup
import PipelineCanvas.Canvas.NodeTable
import PipelineCanvas.Proofs.Ascending

/-!
# Tables that keep nodes under their ids

A canvas keeps each node under its own id (`NodeTable.Keyed`). The type of tables
does not say so – it is a map from text to nodes – but whatever stores a node on a
canvas stores it so, and everything that follows the ids along the edges relies on
it. In such a table the nodes are listed in the order of their ids, each once
(`NodeTable.Keyed.map_id_values`), and storing them anew makes the same table
(`NodeTable.Keyed.ofNodes_values`).
-/

namespace PipelineCanvas

namespace NodeTable

/-- Every node stands under its own id. -/
def Keyed (t : NodeTable) : Prop := ∀ e ∈ t.entries, e.2.id = e.1

instance (t : NodeTable) : Decidable t.Keyed :=
  inferInstanceAs (Decidable (∀ e ∈ t.entries, e.2.id = e.1))

variable {t : NodeTable} {n : Node}

theorem keyed_iff : t.Keyed ↔ ∀ k n, t.get? k = some n → n.id = k := by
  constructor
  · intro h k n hn
    exact h (k, n) (OrderedMap.get?_eq_some_iff.mp hn)
  · rintro h ⟨k, n⟩ hn
    exact h k n (OrderedMap.get?_eq_some_iff.mpr hn)

/-! ### What keeps a table keyed -/

theorem keyed_empty : Keyed .empty := by
  intro e he
  cases he

/-- A node that is stored under its id leaves the table keyed. -/
theorem Keyed.insert (h : t.Keyed) {id : String} (hid : n.id = id) : Keyed (t.insert id n) := by
  rw [keyed_iff] at h ⊢
  intro k m hm
  rw [OrderedMap.get?_insert] at hm
  split at hm
  · next hk =>
    cases hm
    rw [hid, hk]
  · exact h k m hm

theorem Keyed.erase (h : t.Keyed) (id : String) : Keyed (t.erase id) := by
  rw [keyed_iff] at h ⊢
  intro k m hm
  rw [OrderedMap.get?_erase] at hm
  split at hm
  · cases hm
  · exact h k m hm

/-- **A table of stored nodes is keyed,** whatever the nodes are. -/
theorem keyed_ofNodes (nodes : List Node) : Keyed (ofNodes nodes) := by
  have fold : ∀ (ns : List Node) (t : NodeTable), t.Keyed → Keyed (ns.foldl restore t) := by
    intro ns
    induction ns with
    | nil => exact fun _ h => h
    | cons n ns ih => exact fun t h => ih _ (h.insert rfl)
  exact fold nodes .empty keyed_empty

/-! ### The nodes of a keyed table -/

theorem Keyed.mem_values_iff (h : t.Keyed) : n ∈ t.values ↔ t.get? n.id = some n := by
  rw [OrderedMap.mem_values_iff]
  constructor
  · rintro ⟨k, hk⟩
    rwa [keyed_iff.mp h k n hk]
  · intro hn
    exact ⟨n.id, hn⟩

/-- **The nodes of a keyed table are listed in the order of their ids.** -/
theorem Keyed.map_id_values (h : t.Keyed) : t.values.map (·.id) = t.keys := by
  simp only [OrderedMap.values, OrderedMap.keys, List.map_map]
  exact List.map_congr_left fun e he => h e he

theorem Keyed.values_ascending (h : t.Keyed) : t.values.Pairwise fun a b => a.id < b.id := by
  have := t.keys_ascending
  rwa [← h.map_id_values, List.pairwise_map] at this

theorem Keyed.values_nodup (h : t.Keyed) : t.values.Nodup :=
  List.Pairwise.imp (S := (· ≠ ·))
    (fun hlt heq => String.lt_irrefl _ (heq ▸ hlt)) h.values_ascending

/-- Nodes that come in the order of their ids are stored behind those before them. -/
theorem entries_foldl_restore {entries : List (String × Node)} (hid : ∀ e ∈ entries, e.2.id = e.1)
    {t : NodeTable} (h : Entries.Ascending (t.entries ++ entries)) :
    ((entries.map (·.2)).foldl restore t).entries = t.entries ++ entries := by
  induction entries generalizing t with
  | nil => simp
  | cons e rest ih =>
    have hrestore : t.restore e.2 = t.insert e.1 e.2 := by
      rw [restore, hid e (List.mem_cons_self ..)]
    have hinsert := OrderedMap.entries_insert_of_ascending h
    have hrest : Entries.Ascending ((t.insert e.1 e.2).entries ++ rest) := by
      rwa [hinsert, List.append_assoc]
    rw [List.map_cons, List.foldl_cons, hrestore,
      ih (fun f hf => hid f (List.mem_cons_of_mem _ hf)) hrest, hinsert, List.append_assoc]
    rfl

/-- **The nodes of a keyed table, stored anew, make the same table.** -/
theorem Keyed.ofNodes_values (h : t.Keyed) : ofNodes t.values = t := by
  have hentries : (ofNodes t.values).entries = t.entries :=
    entries_foldl_restore (t := .empty) h t.ascending
  obtain ⟨entries, hasc⟩ := t
  generalize ofNodes _ = u at hentries
  obtain ⟨_, _⟩ := u
  cases hentries
  rfl

/-! ### Counting roles -/

variable {role : Role}

theorem mem_filter_role_iff :
    n ∈ t.values.filter (fun n => n.role == role) ↔ n ∈ t.values ∧ n.role = role := by
  rw [List.mem_filter, beq_iff_eq]

theorem roleCount_eq_zero_iff : t.roleCount role = 0 ↔ ∀ n ∈ t.values, n.role ≠ role := by
  rw [roleCount, List.length_eq_zero_iff, List.filter_eq_nil_iff]
  simp

/-- **A role that is counted once is played by exactly one node.** -/
theorem Keyed.roleCount_eq_one_iff (h : t.Keyed) :
    t.roleCount role = 1 ↔ ∃! n, n ∈ t.values ∧ n.role = role := by
  rw [roleCount, List.length_eq_one_iff]
  constructor
  · rintro ⟨a, ha⟩
    refine ⟨a, mem_filter_role_iff.mp (by simp [ha]), fun b hb => ?_⟩
    simpa [ha] using mem_filter_role_iff.mpr hb
  · rintro ⟨a, ha, huniq⟩
    refine ⟨a, List.perm_singleton.mp ?_⟩
    refine (List.perm_ext_iff_of_nodup (h.values_nodup.filter _) (List.nodup_singleton a)).mpr ?_
    intro b
    rw [mem_filter_role_iff, List.mem_singleton]
    constructor
    · exact huniq b
    · rintro rfl
      exact ha

end NodeTable

end PipelineCanvas
