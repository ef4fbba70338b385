import Mathlib.Data.List.Induction
import Mathlib.Data.List.Nodup
import PipelineCanvas.Config.Loading

/-!
# What a catalog offers

A catalog is loaded only if no two of its entries share role and name, and a backend is made from
it by offering one entry behind the other, each in place of an earlier one with its role and name.
The two fit: the scan of the loader stops at the first entry that would displace another, so
exactly the catalogs that load are the ones of which no entry gets lost. What the backend of such
a catalog answers is then read off the catalog, in whatever order that lists its entries, and
neither a query nor a pipeline changes it.

* `Catalog.Distinct`, `Catalog.FirstRepeats` – what the scan of the loader looks for;
* `CatalogBackend.offers_ofCatalog_iff` – no entry is displaced exactly when all differ;
* `CatalogBackend.serveAll` – a backend after some queries and pipelines;
* **`Catalog.answers_as_loaded`** – a catalog that is loaded answers for what it lists.
-/

namespace PipelineCanvas

namespace Catalog

variable {c c' : Catalog} {e : CatalogEntry}

/-! ### The scan -/

/-- No two entries share role and name. -/
def Distinct (c : Catalog) : Prop := (c.map (·.key)).Nodup

instance : Decidable c.Distinct := inferInstanceAs (Decidable (List.Nodup _))

/-- The entry repeats one before it, and is the first to do so. -/
def FirstRepeats (c : Catalog) (e : CatalogEntry) : Prop :=
  ∃ earlier later, c = earlier ++ e :: later ∧ Distinct earlier ∧ ∃ d ∈ earlier, d.key = e.key

theorem distinct_append_singleton_iff :
    Distinct (c ++ [e]) ↔ c.Distinct ∧ ∀ d ∈ c, d.key ≠ e.key := by
  rw [Distinct, List.map_append, List.nodup_append']
  simp [Distinct, eq_comm]

theorem Distinct.perm (h : c.Distinct) (hperm : c'.Perm c) : c'.Distinct :=
  ((hperm.map _).nodup_iff).mpr h

theorem FirstRepeats.append (h : c.FirstRepeats e) (more : Catalog) :
    FirstRepeats (c ++ more) e := by
  obtain ⟨earlier, later, rfl, hdistinct, hrepeats⟩ := h
  exact ⟨earlier, later ++ more, by simp, hdistinct, hrepeats⟩

/-- A list in which an entry repeats another one has a first such entry. -/
theorem exists_firstRepeats (h : ¬ c.Distinct) : ∃ e, c.FirstRepeats e := by
  -- the last entry is the first that repeats one only if the entries before it all differ
  induction c using List.reverseRecOn with
  | nil => exact absurd List.nodup_nil h
  | append_singleton c e ih =>
    by_cases hc : Distinct c
    · rw [distinct_append_singleton_iff, not_and] at h
      obtain ⟨d, hd, hkey⟩ : ∃ d ∈ c, d.key = e.key := by simpa using h hc
      exact ⟨e, c, [], rfl, hc, d, hd, hkey⟩
    · obtain ⟨d, hd⟩ := ih hc
      exact ⟨d, hd.append _⟩

/-- The scan passes over entries that differ from each other and from those it has passed. -/
theorem firstDuplicateAfter_append (passed : Catalog) (h : Distinct (passed ++ c))
    (rest : Catalog) :
    firstDuplicateAfter passed (c ++ rest) = firstDuplicateAfter (passed ++ c) rest := by
  induction c generalizing passed with
  | nil => rw [List.nil_append, List.append_nil]
  | cons e c ih =>
    have hassoc : passed ++ e :: c = (passed ++ [e]) ++ c := by simp
    rw [hassoc] at h ⊢
    have hnew : ∀ d ∈ passed, d.key ≠ e.key := by
      have hprefix : Distinct (passed ++ [e]) := by
        rw [Distinct, List.map_append] at h
        exact (List.nodup_append'.mp h).1
      exact (distinct_append_singleton_iff.mp hprefix).2
    rw [List.cons_append, firstDuplicateAfter, if_neg (by simpa using hnew), ih _ h]

/-- **The scan finds nothing in a list of entries that all differ.** -/
theorem firstDuplicate?_of_distinct (h : c.Distinct) : c.firstDuplicate? = none := by
  have hscan := firstDuplicateAfter_append [] h []
  rw [List.append_nil] at hscan
  rw [firstDuplicate?, hscan]
  rfl

/-- **The scan finds the first entry that repeats another one.** -/
theorem FirstRepeats.firstDuplicate?_eq (h : c.FirstRepeats e) : c.firstDuplicate? = some e := by
  obtain ⟨earlier, later, rfl, hdistinct, d, hd, hkey⟩ := h
  have hmet : (earlier.any fun d => d.key == e.key) = true :=
    List.any_eq_true.mpr ⟨d, hd, beq_iff_eq.mpr hkey⟩
  rw [firstDuplicate?, firstDuplicateAfter_append [] hdistinct, List.nil_append,
    firstDuplicateAfter, if_pos hmet]

theorem firstDuplicate?_eq_none_iff : c.firstDuplicate? = none ↔ c.Distinct := by
  refine ⟨fun hnone => ?_, firstDuplicate?_of_distinct⟩
  by_contra h
  obtain ⟨e, he⟩ := exists_firstRepeats h
  rw [he.firstDuplicate?_eq] at hnone
  cases hnone

end Catalog

/-! ### Loading -/

namespace Disk

variable {d : Disk} {path : String} {c : Catalog}

/-- A catalog that is read is loaded if all its entries differ. -/
theorem loadCatalog_eq_ok_iff (h : d.load Catalog.decode path = .ok c) :
    d.loadCatalog path = .ok c ↔ c.Distinct := by
  simp only [loadCatalog, h, bind, Except.bind, ← Catalog.firstDuplicate?_eq_none_iff]
  cases c.firstDuplicate? with
  | none => simp
  | some e => simp

theorem loadCatalog_of_firstRepeats (h : d.load Catalog.decode path = .ok c) {e : CatalogEntry}
    (he : c.FirstRepeats e) : d.loadCatalog path = .error (.duplicatePlugin e.role e.name) := by
  simp only [loadCatalog, h, bind, Except.bind, he.firstDuplicate?_eq]

end Disk

/-! ### The backend of a catalog -/

/-- An entry is what a query asks for: it has the role and the name, and the template is one of
those that the plugin runs on. -/
def CatalogEntry.Meets (e : CatalogEntry) (q : PropertyQuery) : Prop :=
  e.role = q.role ∧ e.name = q.plugin ∧ (e.templates = [] ∨ q.template ∈ e.templates)

theorem CatalogEntry.meets_iff {e : CatalogEntry} {q : PropertyQuery} :
    e.Meets q ↔ e.key = (q.role, q.plugin) ∧ e.answers q = true := by
  simp [Meets, key, answers, and_assoc]

namespace CatalogBackend

variable {b b' : CatalogBackend} {c c' : Catalog} {e : CatalogEntry} {q : PropertyQuery}

theorem ofCatalog_append_singleton (c : Catalog) (e : CatalogEntry) :
    ofCatalog (c ++ [e]) = (ofCatalog c).offer e := by
  rw [ofCatalog, List.foldl_append]
  rfl

/-- A backend offers one plugin for each role and name. -/
theorem distinct_offers (c : Catalog) : Catalog.Distinct (ofCatalog c).offers := by
  induction c using List.reverseRecOn with
  | nil => exact List.nodup_nil
  | append_singleton c e ih =>
    rw [ofCatalog_append_singleton]
    refine List.nodup_cons.mpr ⟨?_, ih.sublist (List.filter_sublist.map _)⟩
    simp [List.mem_map, List.mem_filter]

/-- **A backend offers all that its catalog lists exactly when no two entries share role and
name.** -/
theorem offers_ofCatalog_iff : (ofCatalog c).offers = c.reverse ↔ c.Distinct := by
  constructor
  · intro h
    have hdistinct := distinct_offers c
    rw [h] at hdistinct
    exact hdistinct.perm c.reverse_perm.symm
  · intro h
    induction c using List.reverseRecOn with
    | nil => rfl
    | append_singleton c e ih =>
      obtain ⟨hc, hnew⟩ := Catalog.distinct_append_singleton_iff.mp h
      -- the last entry takes the place of those with its key, and there are none
      have hkept : (ofCatalog c).offers.filter (fun d => d.key != e.key) = c.reverse := by
        rw [ih hc, List.filter_eq_self]
        intro d hd
        exact bne_iff_ne.mpr (hnew d (List.mem_reverse.mp hd))
      rw [ofCatalog_append_singleton, List.reverse_append]
      exact congrArg (e :: ·) hkept

/-- A plugin on offer is found under its role and name. -/
theorem lookup?_eq_some_iff (h : c.Distinct) (hoffers : b.offers = (ofCatalog c).offers) :
    b.lookup? q = some e ↔ e ∈ c ∧ e.Meets q := by
  rw [lookup?, hoffers, offers_ofCatalog_iff.mpr h, Option.filter_eq_some_iff,
    CatalogEntry.meets_iff, ← and_assoc]
  refine and_congr_left fun _ => ⟨fun hfind => ?_, fun ⟨he, hkey⟩ => ?_⟩
  · have hkey := List.find?_some hfind
    exact ⟨List.mem_reverse.mp (List.mem_of_find?_eq_some hfind), beq_iff_eq.mp hkey⟩
  · -- another entry with this key would be the same
    have hsome : (c.reverse.find? fun d => d.key == (q.role, q.plugin)).isSome :=
      List.find?_isSome.mpr ⟨e, List.mem_reverse.mpr he, beq_iff_eq.mpr hkey⟩
    obtain ⟨d, hd⟩ := Option.isSome_iff_exists.mp hsome
    have hfound := List.find?_some hd
    have hdkey : d.key = (q.role, q.plugin) := beq_iff_eq.mp hfound
    rw [hd, List.inj_on_of_nodup_map h (List.mem_reverse.mp (List.mem_of_find?_eq_some hd)) he
      (hdkey.trans hkey.symm)]

theorem fetch_of_lookup? (h : b.lookup? q = some e) :
    (Backend.fetch q b).1 = .ok [⟨q.plugin, e.properties⟩] := by
  change (fetch q b).1 = _
  rw [fetch, h]

theorem fetch_of_lookup?_eq_none (h : b.lookup? q = none) :
    (Backend.fetch q b).1 = .error (.unknownPlugin q.role.name q.plugin q.template.name) := by
  change (fetch q b).1 = _
  rw [fetch, h]

theorem fetch_congr (h : b.lookup? q = b'.lookup? q) :
    (Backend.fetch q b).1 = (Backend.fetch q b').1 := by
  change (fetch q b).1 = (fetch q b').1
  rw [fetch, fetch, h]

/-! ### Queries and pipelines -/

/-- What a backend is called for. -/
inductive Call where
  | query (q : PropertyQuery)
  | save (r : SaveRequest)

/-- The backend after a call. -/
def serve (b : CatalogBackend) : Call → CatalogBackend
  | .query q => (Backend.fetch q b).2
  | .save r => (Backend.submit r b).2

/-- The backend after some calls. -/
def serveAll (b : CatalogBackend) (calls : List Call) : CatalogBackend := calls.foldl serve b

/-- A call changes neither what is on offer nor whether pipelines are taken. -/
theorem serve_keeps (b : CatalogBackend) (call : Call) :
    (b.serve call).offers = b.offers ∧ (b.serve call).rejection = b.rejection := by
  cases call with
  | query q => exact ⟨rfl, rfl⟩
  | save r =>
    change (submit r b).2.offers = _ ∧ (submit r b).2.rejection = _
    rw [submit]
    cases b.rejection with
    | none => exact ⟨rfl, rfl⟩
    | some e => exact ⟨rfl, rfl⟩

/-- No calls change what is on offer or whether pipelines are taken. -/
theorem serveAll_keeps (b : CatalogBackend) (calls : List Call) :
    (b.serveAll calls).offers = b.offers ∧ (b.serveAll calls).rejection = b.rejection := by
  induction calls generalizing b with
  | nil => exact ⟨rfl, rfl⟩
  | cons call calls ih =>
    obtain ⟨hoffers, hrejection⟩ := serve_keeps b call
    obtain ⟨hoffers', hrejection'⟩ := ih (b.serve call)
    exact ⟨hoffers'.trans hoffers, hrejection'.trans hrejection⟩

theorem lookup?_serveAll (b : CatalogBackend) (calls : List Call) (q : PropertyQuery) :
    (b.serveAll calls).lookup? q = b.lookup? q := by
  rw [lookup?, lookup?, (serveAll_keeps b calls).1]

/-- Whether a pipeline is taken is up to whether pipelines are refused. -/
theorem submit_congr (h : b.rejection = b'.rejection) (r : SaveRequest) :
    (Backend.submit r b).1 = (Backend.submit r b').1 := by
  change (submit r b).1 = (submit r b').1
  rw [submit, submit]
  simp only [h]
  cases b'.rejection with
  | none => rfl
  | some e => rfl

end CatalogBackend

/-! ### Loading and answering agree -/

open CatalogBackend in
/-- **A catalog that is loaded answers for what it lists.** It is loaded if no two entries share
role and name, or else the first that repeats another one is named. Its backend answers a query
with the entry that the query asks for, and otherwise knows no such plugin. So the order of the
entries does not matter, nor what the backend was called for before. -/
theorem Catalog.answers_as_loaded (c : Catalog) :
    (∀ (d : Disk) (path : String), d.load Catalog.decode path = .ok c →
      (d.loadCatalog path = .ok c ↔ c.Distinct) ∧
      (¬ c.Distinct → ∃ e, c.FirstRepeats e) ∧
      ∀ e, c.FirstRepeats e →
        d.loadCatalog path = .error (.duplicatePlugin e.role e.name)) ∧
    (c.Distinct → ∀ calls q,
      (∀ e ∈ c, e.Meets q → (Backend.fetch q ((ofCatalog c).serveAll calls)).1 =
        .ok [⟨q.plugin, e.properties⟩]) ∧
      ((∀ e ∈ c, ¬ e.Meets q) → (Backend.fetch q ((ofCatalog c).serveAll calls)).1 =
        .error (.unknownPlugin q.role.name q.plugin q.template.name))) ∧
    (∀ c' : Catalog, c.Distinct → c'.Perm c → c'.Distinct ∧ ∀ q,
      (Backend.fetch q (ofCatalog c')).1 = (Backend.fetch q (ofCatalog c)).1) ∧
    ∀ calls,
      (∀ q, (Backend.fetch q ((ofCatalog c).serveAll calls)).1 =
        (Backend.fetch q (ofCatalog c)).1) ∧
      ∀ r, (Backend.submit r ((ofCatalog c).serveAll calls)).1 =
        (Backend.submit r (ofCatalog c)).1 := by
  refine ⟨fun d path hload => ⟨Disk.loadCatalog_eq_ok_iff hload, exists_firstRepeats,
    fun e he => Disk.loadCatalog_of_firstRepeats hload he⟩, fun hdistinct calls q => ⟨?_, ?_⟩,
    fun c' hdistinct hperm => ⟨hdistinct.perm hperm, fun q => ?_⟩,
    fun calls => ⟨fun q => ?_, fun r => ?_⟩⟩
  · intro e he hmeets
    refine fetch_of_lookup? ?_
    rw [lookup?_serveAll]
    exact (lookup?_eq_some_iff hdistinct rfl).mpr ⟨he, hmeets⟩
  · intro hnone
    refine fetch_of_lookup?_eq_none (Option.eq_none_iff_forall_ne_some.mpr fun e he => ?_)
    rw [lookup?_serveAll] at he
    obtain ⟨hmem, hmeets⟩ := (lookup?_eq_some_iff hdistinct rfl).mp he
    exact hnone e hmem hmeets
  · -- both backends find the entries that meet the query, and the lists have the same ones
    refine fetch_congr (Option.ext fun e => ?_)
    rw [lookup?_eq_some_iff (hdistinct.perm hperm) rfl, lookup?_eq_some_iff hdistinct rfl,
      hperm.mem_iff]
  · exact fetch_congr (lookup?_serveAll _ calls q)
  · exact submit_congr (serveAll_keeps _ calls).2 r

namespace Catalog

/-- Tables to read in batches and to write. -/
def tables : Catalog :=
  [⟨"Table", .source, [.batch], .empty⟩, ⟨"Table", .sink, [], .empty⟩]

/-- A disk with a catalog of tables, and with one that lists a source twice. -/
def tablesDisk : Disk :=
  (Disk.empty.plant "tables.yaml" (.file (.text ("plugins:\n" ++
    "- \x7bname: Table, type: source, templates: [ETLBatch]\x7d\n" ++
    "- \x7bname: Table, type: sink\x7d\n")))).plant "repeated.yaml" (.file (.text ("plugins:\n" ++
    "- \x7bname: Table, type: source, templates: [ETLBatch]\x7d\n" ++
    "- \x7bname: Table, type: sink\x7d\n" ++
    "- \x7bname: Table, type: source\x7d\n")))

/-- Tables are read in batches only, under either order of the catalog, and after a query. -/
theorem answers_as_loaded_tables :
    tablesDisk.loadCatalog "tables.yaml" = .ok tables ∧
    tablesDisk.loadCatalog "repeated.yaml" = .error (.duplicatePlugin .source "Table") ∧
    (Backend.fetch ⟨.source, "Table", .batch, none⟩ ((CatalogBackend.ofCatalog tables).serveAll
      [.query ⟨.sink, "Table", .realtime, none⟩])).1 = .ok [⟨"Table", .empty⟩] ∧
    (Backend.fetch ⟨.source, "Table", .realtime, none⟩
      (CatalogBackend.ofCatalog tables.reverse)).1 =
        .error (.unknownPlugin "source" "Table" "ETLRealtime") := by
  have hdistinct : tables.Distinct := by decide
  obtain ⟨hloads, hanswers, hperm, -⟩ := answers_as_loaded tables
  refine ⟨?_, ?_, ?_, ?_⟩
  · exact (hloads tablesDisk "tables.yaml" (by decide +kernel)).1.mpr hdistinct
  · obtain ⟨-, -, hrepeats⟩ := (answers_as_loaded (tables ++ [⟨"Table", .source, [], .empty⟩])).1
      tablesDisk "repeated.yaml" (by decide +kernel)
    exact hrepeats ⟨"Table", .source, [], .empty⟩
      ⟨tables, [], rfl, hdistinct, ⟨"Table", .source, [.batch], .empty⟩, by decide, rfl⟩
  · exact (hanswers hdistinct _ _).1 ⟨"Table", .source, [.batch], .empty⟩ (by decide)
      ⟨rfl, rfl, .inr (by decide)⟩
  · rw [(hperm tables.reverse hdistinct tables.reverse_perm).2]
    refine (hanswers hdistinct [] _).2 ?_
    simp only [CatalogEntry.meets_iff]
    decide

end Catalog

end PipelineCanvas
