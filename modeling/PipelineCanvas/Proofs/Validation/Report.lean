import PipelineCanvas.Proofs.Flattening.Drawn
import PipelineCanvas.Proofs.Validation.Filing
import PipelineCanvas.Proofs.Validation.Violation

/-!
# The report of a validation

`Violation.list` lists the violations of a pipeline check by check. Three facts about it
make up what validation reports:

* it has every violation and nothing else (`Violation.mem_list_iff`);
* it is in the order of the checks (`Violation.list_ordered`), so it names none twice;
* its findings are what the checks find (`Violation.findings_eq`), so its messages are
  what is filed.

With the laws of filing this gives **`validate_report`**: validation accepts exactly the
pipelines that may be sent, and of the others it reports every violation once, under its
key and in order.
-/

namespace PipelineCanvas

namespace Violation

variable (nodes : NodeTable) (edges : Edges) (m : Metadata) (o : Outline)

/-! ### The list, check by check -/

/-- The choice of a name and of a template: each that is missing. -/
def ofNameAndTemplate : List Violation :=
  (if Text.isBlank m.name then [nameMissing] else [])
    ++ (if m.kind.isNone then [templateMissing] else [])

/-- The characters of a name. A blank one is missing already, whatever is in it. -/
def ofNameCharacters : List Violation :=
  if !Text.isBlank m.name && !m.name.toList.all Validation.isNameChar then [nameMalformed]
  else []

/-- The players of a role: none, or too many. -/
def ofRole (role : Role) : List Violation :=
  match nodes.roleCount role with
  | 0 => [roleMissing role]
  | 1 => []
  | n => [roleRepeated role n]

/-- The nodes that are an end of no edge, in the order of their ids. -/
def ofNodes : List Violation :=
  (nodes.values.filter fun n => !edges.isConnected n.id).map unconnected

/-- The sides of edges that are no node, edge by edge. -/
def ofEdges : List Violation :=
  edges.zipIdx.flatMap fun e =>
    (Side.all.filter fun side => !nodes.contains (e.1.endAt side)).map (endMissing e.2 e.1)

/-- The required properties that stages lack, stage by stage. -/
def ofStages (stages : List Stage) : List Violation :=
  stages.zipIdx.flatMap fun s => (Validation.missingRequired s.1).map (requiredBlank s.2 s.1)

/-- The run setting of the chosen template. The idle one is not looked at. -/
def ofRunSettings : List Violation :=
  match m.kind with
  | some .batch => if Text.isBlank m.template.cron then [scheduleMissing] else []
  | some .realtime => if m.template.instances = 0 then [noInstances] else []
  | none => []

/-- The violations of a pipeline, in the order of the checks. -/
def list : List Violation :=
  ofNameAndTemplate m ++ ofNameCharacters m ++ (ofRole nodes .source ++ ofRole nodes .sink)
    ++ ofNodes nodes edges ++ ofEdges nodes edges ++ ofStages o.stages ++ ofRunSettings m

/-! ### It has every violation -/

variable {nodes edges m o} {v : Violation}

theorem mem_ofNameAndTemplate_iff :
    v ∈ ofNameAndTemplate m ↔
      (v = nameMissing ∧ Text.isBlank m.name = true) ∨ (v = templateMissing ∧ m.kind = none) := by
  simp only [ofNameAndTemplate, List.mem_append, List.mem_ite_nil_right, List.mem_singleton,
    Option.isNone_iff_eq_none]
  tauto

theorem mem_ofNameCharacters_iff :
    v ∈ ofNameCharacters m ↔
      v = nameMalformed ∧ Text.isBlank m.name = false ∧ ∃ c ∈ m.name.toList, ¬AllowedInName c := by
  simp only [ofNameCharacters, List.mem_ite_nil_right, List.mem_singleton, Bool.and_eq_true,
    Bool.not_eq_true', List.all_eq_false, isNameChar_iff]
  tauto

theorem mem_ofRole_iff {role : Role} :
    v ∈ ofRole nodes role ↔
      (v = roleMissing role ∧ ∀ n ∈ nodes.values, n.role ≠ role) ∨
        (∃ count, v = roleRepeated role count ∧ count = nodes.roleCount role ∧ 2 ≤ count) := by
  rw [← NodeTable.roleCount_eq_zero_iff, ofRole]
  split
  · next h => simp [h]
  · next h => simp [h]
  · next h0 h1 =>
    have hzero : nodes.roleCount role ≠ 0 := h0
    have hone : nodes.roleCount role ≠ 1 := h1
    have htwo : 2 ≤ nodes.roleCount role := by omega
    simp [hzero, htwo]

theorem mem_ofNodes_iff :
    v ∈ ofNodes nodes edges ↔
      ∃ n, v = unconnected n ∧ n ∈ nodes.values ∧
        ∀ e ∈ edges, e.source ≠ n.id ∧ e.target ≠ n.id := by
  simp only [ofNodes, List.mem_map, List.mem_filter, Edges.isConnected, Edge.touches,
    Bool.not_eq_true', List.any_eq_false, Bool.or_eq_true, beq_iff_eq, not_or]
  constructor
  · rintro ⟨n, hn, rfl⟩
    exact ⟨n, rfl, hn⟩
  · rintro ⟨n, rfl, hn⟩
    exact ⟨n, hn, rfl⟩

theorem mem_ofEdges_iff :
    v ∈ ofEdges nodes edges ↔
      ∃ index e side, v = endMissing index e side ∧ edges[index]? = some e ∧
        nodes.get? (e.endAt side) = none := by
  simp only [ofEdges, List.mem_flatMap, List.mem_map, List.mem_filter, Prod.exists,
    List.mem_zipIdx_iff_getElem?, Bool.not_eq_true', OrderedMap.contains, Option.isSome_eq_false_iff,
    Option.isNone_iff_eq_none]
  constructor
  · rintro ⟨e, index, he, side, ⟨-, hside⟩, rfl⟩
    exact ⟨index, e, side, rfl, he, hside⟩
  · rintro ⟨index, e, side, rfl, he, hside⟩
    exact ⟨e, index, he, side, ⟨by cases side <;> decide, hside⟩, rfl⟩

/-- The required properties that validation finds missing are those the stage lacks. -/
theorem mem_missingRequired_iff {s : Stage} {key : String} :
    key ∈ Validation.missingRequired s ↔ s.Lacks key := by
  have hall : (s.properties.get? key).all Text.isBlank = true ↔
      ∀ v, s.properties.get? key = some v → Text.isBlank v = true := by
    cases s.properties.get? key <;> simp
  cases hc : s.contract with
  | none => simp [Validation.missingRequired, Stage.Lacks, hc]
  | some contract =>
    simp only [Validation.missingRequired, Stage.Lacks, hc, List.mem_map, List.mem_filter,
      Bool.and_eq_true, Option.some.injEq, ← OrderedMap.get?_eq_some_iff, Prod.exists]
    constructor
    · rintro ⟨k, spec, ⟨hk, hr, hb⟩, rfl⟩
      exact ⟨contract, spec, rfl, hk, hr, hall.mp hb⟩
    · rintro ⟨_, spec, rfl, hk, hr, hb⟩
      exact ⟨key, spec, ⟨hk, hr, hall.mpr hb⟩, rfl⟩

theorem mem_ofStages_iff {stages : List Stage} :
    v ∈ ofStages stages ↔
      ∃ index s key, v = requiredBlank index s key ∧ stages[index]? = some s ∧ s.Lacks key := by
  simp only [ofStages, List.mem_flatMap, List.mem_map, Prod.exists, List.mem_zipIdx_iff_getElem?,
    mem_missingRequired_iff]
  constructor
  · rintro ⟨s, index, hs, key, hkey, rfl⟩
    exact ⟨index, s, key, rfl, hs, hkey⟩
  · rintro ⟨index, s, key, rfl, hs, hkey⟩
    exact ⟨s, index, hs, key, hkey, rfl⟩

theorem mem_ofRunSettings_iff :
    v ∈ ofRunSettings m ↔
      (v = scheduleMissing ∧ m.kind = some .batch ∧ Text.isBlank m.template.cron = true) ∨
        (v = noInstances ∧ m.kind = some .realtime ∧ m.template.instances = 0) := by
  cases hk : m.kind with
  | none => simp [ofRunSettings, hk]
  | some kind =>
    cases kind with
    | batch => simp [ofRunSettings, hk, and_comm]
    | realtime => simp [ofRunSettings, hk, and_comm]

/-- **The list has every violation and nothing else.** -/
theorem mem_list_iff : v ∈ list nodes edges m o ↔ v.Occurs nodes edges m o := by
  simp only [list, List.mem_append, mem_ofNameAndTemplate_iff, mem_ofNameCharacters_iff,
    mem_ofRole_iff, mem_ofNodes_iff, mem_ofEdges_iff, mem_ofStages_iff, mem_ofRunSettings_iff]
  cases v with
  | roleMissing role => cases role <;> simp [Occurs]
  | roleRepeated role count =>
    cases role <;> simp [Occurs]
    · rintro rfl
      rfl
    · rintro rfl
      rfl
  | _ => simp [Occurs]

/-! ### Its findings are what the checks find -/

theorem map_ofNameAndTemplate :
    (ofNameAndTemplate m).map finding = Validation.nameAndTemplate m := by
  rw [ofNameAndTemplate, Validation.nameAndTemplate, List.map_append]
  congr 1 <;> split <;> rfl

theorem map_ofNameCharacters :
    (ofNameCharacters m).map finding = Validation.nameCharacters m := by
  rw [ofNameCharacters, Validation.nameCharacters]
  split <;> rfl

theorem map_ofRole (role : Role) :
    (ofRole nodes role).map finding = Validation.roleCount nodes role := by
  rw [ofRole, Validation.roleCount]
  match nodes.roleCount role with
  | 0 => rfl
  | 1 => rfl
  | _ + 2 => rfl

theorem map_ofNodes : (ofNodes nodes edges).map finding = Validation.unconnected nodes edges := by
  rw [ofNodes, Validation.unconnected, List.map_map]
  rfl

/-- A check that goes along a list finds the same with and without the indices. -/
theorem map_flatMap_zipIdx {α : Type} {f : α × ℕ → List Violation} {g : α → List Finding}
    (h : ∀ a index, (f (a, index)).map finding = g a) (l : List α) :
    (l.zipIdx.flatMap f).map finding = l.flatMap g :=
  calc (l.zipIdx.flatMap f).map finding
      = l.zipIdx.flatMap fun e => (f e).map finding := List.map_flatMap
    _ = l.zipIdx.flatMap fun e => g e.1 := List.flatMap_congr fun e _ => h e.1 e.2
    _ = (l.zipIdx.map Prod.fst).flatMap g := (List.flatMap_map ..).symm
    _ = l.flatMap g := by rw [List.zipIdx_map_fst]

theorem map_ofEdges :
    (ofEdges nodes edges).map finding = edges.flatMap (Validation.references nodes) := by
  refine map_flatMap_zipIdx (fun e index => ?_) edges
  have hends : e.ends = Side.all.map e.endAt := rfl
  rw [Validation.references, hends, List.filter_map, List.map_map, List.map_map]
  rfl

theorem map_ofStages (stages : List Stage) :
    (ofStages stages).map finding = stages.flatMap Validation.requiredProperties := by
  refine map_flatMap_zipIdx (fun s index => ?_) stages
  rw [Validation.requiredProperties, List.map_map]
  rfl

theorem map_ofRunSettings : (ofRunSettings m).map finding = Validation.runSettings m := by
  rw [ofRunSettings, Validation.runSettings]
  match m.kind with
  | none => rfl
  | some .batch =>
    dsimp only
    split <;> rfl
  | some .realtime =>
    dsimp only
    split <;> rfl

/-- **The findings of the listed violations are what the checks find.** -/
theorem findings_eq :
    Validation.findings nodes edges m o = (list nodes edges m o).map finding := by
  simp only [list, List.map_append, map_ofNameAndTemplate, map_ofNameCharacters, map_ofRole,
    map_ofNodes, map_ofEdges, map_ofStages, map_ofRunSettings]
  rfl

/-! ### It is in order -/

/-- A list in the order of the checks, up to a check. -/
structure InOrder (k : ℕ) (vs : List Violation) : Prop where
  ordered : vs.Pairwise Before
  check_le : ∀ v ∈ vs, v.check ≤ k

/-- What a later check finds goes behind. -/
theorem InOrder.append {j k : ℕ} {vs ws : List Violation} (h : InOrder j vs) (hjk : j < k)
    (hw : ws.Pairwise Before) (hk : ∀ w ∈ ws, w.check = k) : InOrder k (vs ++ ws) := by
  refine ⟨List.pairwise_append.mpr ⟨h.ordered, hw, fun v hv w hww => ?_⟩, fun v hv => ?_⟩
  · have := h.check_le v hv
    exact Or.inl (by rw [hk w hww]; omega)
  · rcases List.mem_append.mp hv with hv | hv
    · have := h.check_le v hv
      omega
    · exact Nat.le_of_eq (hk v hv)

theorem inOrder_ofNameAndTemplate (m : Metadata) : InOrder 1 (ofNameAndTemplate m) := by
  refine ⟨?_, fun v hv => ?_⟩
  · unfold ofNameAndTemplate
    split <;> split <;> simp [Before, check]
  · rcases mem_ofNameAndTemplate_iff.mp hv with ⟨rfl, -⟩ | ⟨rfl, -⟩ <;> decide

theorem ordered_ofNameCharacters (m : Metadata) : (ofNameCharacters m).Pairwise Before := by
  unfold ofNameCharacters
  split <;> simp

theorem ordered_ofRole (role : Role) : (ofRole nodes role).Pairwise Before := by
  unfold ofRole
  split <;> simp

theorem place_of_mem_ofRole {role : Role} (h : v ∈ ofRole nodes role) :
    v.check = 3 ∧ v.place = (roleRank role, "") := by
  rcases mem_ofRole_iff.mp h with ⟨rfl, -⟩ | ⟨count, rfl, -⟩
  · exact ⟨rfl, rfl⟩
  · exact ⟨rfl, rfl⟩

theorem ordered_ofRoles (nodes : NodeTable) :
    (ofRole nodes .source ++ ofRole nodes .sink).Pairwise Before := by
  refine List.pairwise_append.mpr ⟨ordered_ofRole _, ordered_ofRole _, fun v hv w hw => ?_⟩
  obtain ⟨hvc, hvp⟩ := place_of_mem_ofRole hv
  obtain ⟨hwc, hwp⟩ := place_of_mem_ofRole hw
  exact Or.inr ⟨hvc.trans hwc.symm, Or.inl (by rw [hvp, hwp]; decide)⟩

theorem ordered_ofNodes (h : nodes.Keyed) (edges : Edges) :
    (ofNodes nodes edges).Pairwise Before :=
  List.pairwise_map.mpr <| (h.values_ascending.filter _).imp fun hlt =>
    Or.inr ⟨rfl, Or.inr ⟨rfl, hlt⟩⟩

/-- The indices of a list ascend. -/
theorem pairwise_snd_zipIdx {α : Type} (l : List α) :
    l.zipIdx.Pairwise fun a b => a.2 < b.2 := by
  have : (l.zipIdx.map (·.2)).Pairwise (· < ·) := by
    rw [List.zipIdx_map_snd]
    exact List.pairwise_lt_range'
  exact List.pairwise_map.mp this

theorem ordered_ofEdges (nodes : NodeTable) (edges : Edges) :
    (ofEdges nodes edges).Pairwise Before := by
  refine List.pairwise_flatMap.mpr ⟨fun e _ => ?_, (pairwise_snd_zipIdx edges).imp ?_⟩
  · -- on one edge: the source comes before the target
    refine List.pairwise_map.mpr (List.Pairwise.filter _ ?_)
    simp [Side.all, Before, check, place, Side.rank]
  · intro e f hlt v hv w hw
    obtain ⟨s, -, rfl⟩ := List.mem_map.mp hv
    obtain ⟨t, -, rfl⟩ := List.mem_map.mp hw
    refine Or.inr ⟨rfl, Or.inl ?_⟩
    cases s <;> cases t <;> simp only [place, Side.rank] <;> omega

theorem missingRequired_ascending (s : Stage) :
    (Validation.missingRequired s).Pairwise (· < ·) := by
  unfold Validation.missingRequired
  split
  · exact List.Pairwise.nil
  · next contract _ => exact List.pairwise_map.mpr (contract.ascending.filter _)

theorem ordered_ofStages (stages : List Stage) : (ofStages stages).Pairwise Before := by
  refine List.pairwise_flatMap.mpr ⟨fun s _ => ?_, (pairwise_snd_zipIdx stages).imp ?_⟩
  · exact List.pairwise_map.mpr <| (missingRequired_ascending s.1).imp fun hlt =>
      Or.inr ⟨rfl, Or.inr ⟨rfl, hlt⟩⟩
  · intro s t hlt v hv w hw
    obtain ⟨k, -, rfl⟩ := List.mem_map.mp hv
    obtain ⟨l, -, rfl⟩ := List.mem_map.mp hw
    exact Or.inr ⟨rfl, Or.inl hlt⟩

theorem ordered_ofRunSettings (m : Metadata) : (ofRunSettings m).Pairwise Before := by
  unfold ofRunSettings
  split
  · split <;> simp
  · split <;> simp
  · simp

/-- **The list is in the order of the checks.** -/
theorem list_ordered (h : nodes.Keyed) : (list nodes edges m o).Pairwise Before := by
  have h1 := inOrder_ofNameAndTemplate m
  have h2 := h1.append (k := 2) (by decide) (ordered_ofNameCharacters m) fun v hv => by
    rw [(mem_ofNameCharacters_iff.mp hv).1, check]
  have h3 := h2.append (k := 3) (by decide) (ordered_ofRoles nodes) fun v hv => by
    rcases List.mem_append.mp hv with hv | hv
    · exact (place_of_mem_ofRole hv).1
    · exact (place_of_mem_ofRole hv).1
  have h4 := h3.append (k := 4) (by decide) (ordered_ofNodes h edges) fun v hv => by
    obtain ⟨n, rfl, -⟩ := mem_ofNodes_iff.mp hv
    rfl
  have h5 := h4.append (k := 5) (by decide) (ordered_ofEdges nodes edges) fun v hv => by
    obtain ⟨index, e, side, rfl, -⟩ := mem_ofEdges_iff.mp hv
    rfl
  have h6 := h5.append (k := 6) (by decide) (ordered_ofStages o.stages) fun v hv => by
    obtain ⟨index, s, key, rfl, -⟩ := mem_ofStages_iff.mp hv
    rfl
  have h7 := h6.append (k := 7) (by decide) (ordered_ofRunSettings m) fun v hv => by
    rcases mem_ofRunSettings_iff.mp hv with ⟨rfl, -⟩ | ⟨rfl, -⟩ <;> rfl
  exact h7.ordered

/-! ### What is reported -/

/-- What is reported under a key: the messages of the violations under it, in order, and
nothing if there is none. -/
def reported (vs : List Violation) (key : String) : Option (List String) :=
  match (vs.filter fun v => v.key = key).map message with
  | [] => none
  | messages => some messages

theorem under_map_finding (key : String) (vs : List Violation) :
    Problems.under key (vs.map finding) = (vs.filter fun v => v.key = key).map message := by
  rw [Problems.under, List.filter_map, List.map_map]
  rfl

theorem eq_of_isAboutName (h : v.isAboutName = true) : v = nameMissing ∨ v = nameMalformed := by
  cases v <;> simp_all [isAboutName]

/-- A name is blank or has a wrong character, not both. -/
theorem countP_isAboutName_le_one {vs : List Violation} (hnodup : vs.Nodup)
    (hvs : ∀ v ∈ vs, v.Occurs nodes edges m o) : vs.countP isAboutName ≤ 1 := by
  have hsame : ∀ v ∈ vs.filter isAboutName, ∀ w ∈ vs.filter isAboutName, v = w := by
    intro v hv w hw
    rw [List.mem_filter] at hv hw
    have hnot : ¬(nameMissing.Occurs nodes edges m o ∧ nameMalformed.Occurs nodes edges m o) := by
      rintro ⟨hmissing, hblank, -⟩
      exact Bool.eq_false_iff.mp hblank hmissing
    rcases eq_of_isAboutName hv.2 with rfl | rfl <;> rcases eq_of_isAboutName hw.2 with rfl | rfl
    · rfl
    · exact absurd ⟨hvs _ hv.1, hvs _ hw.1⟩ hnot
    · exact absurd ⟨hvs _ hw.1, hvs _ hv.1⟩ hnot
    · rfl
  have hfilter := hnodup.filter isAboutName
  rw [List.countP_eq_length_filter]
  match hl : vs.filter isAboutName with
  | [] => exact Nat.zero_le 1
  | [_] => exact Nat.le_refl 1
  | v :: w :: _ =>
    -- two of them would be the same one twice
    rw [hl] at hfilter hsame
    have hvw : v = w := hsame v (by simp) w (by simp)
    simp [hvw] at hfilter

end Violation

variable {nodes : NodeTable}

/-- **Validation accepts exactly the pipelines that may be sent.** -/
theorem isEmpty_validate (h : nodes.Keyed) (edges : Edges) (m : Metadata) (o : Outline) :
    (validate nodes edges m o).1.isEmpty = true ↔ Submittable nodes edges m o := by
  rw [Violation.submittable_iff h, validate, Violation.findings_eq, Problems.isEmpty_addAll,
    List.map_eq_nil_iff, List.eq_nil_iff_forall_not_mem]
  simp only [Violation.mem_list_iff]

theorem get?_validate (nodes : NodeTable) (edges : Edges) (m : Metadata) (o : Outline)
    (key : String) :
    (validate nodes edges m o).1.get? key =
      Violation.reported (Violation.list nodes edges m o) key := by
  rw [validate, Violation.findings_eq, Problems.get?_addAll, Violation.under_map_finding,
    Violation.reported]
  have hnone : Problems.none.get? key = none := rfl
  cases (Violation.list nodes edges m o).filter (fun v => v.key = key) |>.map Violation.message with
  | nil => simp [hnone]
  | cons message messages => simp [hnone]

theorem messageCount_validate (nodes : NodeTable) (edges : Edges) (m : Metadata) (o : Outline) :
    (validate nodes edges m o).1.messageCount = (Violation.list nodes edges m o).length := by
  rw [validate, Violation.findings_eq, Problems.messageCount_addAll, List.length_map]
  exact Nat.zero_add _

/-- **The report of a validation.** A pipeline is accepted exactly when it may be sent.
Otherwise each violation is reported once, under its key and in the order of the checks,
whatever keys coincide. -/
theorem validate_report (h : nodes.Keyed) (edges : Edges) (m : Metadata) :
    let o := (flatten nodes edges m).outline
    let problems := (validate nodes edges m o).1
    (problems.isEmpty = true ↔ Submittable nodes edges m o) ∧
      ∃ vs : List Violation,
        (∀ v, v ∈ vs ↔ v.Occurs nodes edges m o) ∧ vs.Pairwise Violation.Before ∧ vs.Nodup ∧
          vs.countP Violation.isAboutName ≤ 1 ∧
          (∀ key, problems.get? key = Violation.reported vs key) ∧
          problems.messageCount = vs.length := by
  intro o problems
  have hordered : (Violation.list nodes edges m o).Pairwise Violation.Before :=
    Violation.list_ordered h
  have hnodup := Violation.nodup_of_pairwise_before hordered
  refine ⟨isEmpty_validate h edges m o, Violation.list nodes edges m o,
    fun _ => Violation.mem_list_iff, hordered, hnodup,
    Violation.countP_isAboutName_le_one hnodup fun _ => Violation.mem_list_iff.mp,
    get?_validate nodes edges m o, messageCount_validate nodes edges m o⟩

/-- A node with the id `name` beside a wrong name, and an edge from nowhere to nowhere. -/
theorem validate_report_crowded_key :
    let nodes := NodeTable.ofNodes [.fresh "a" "Stream" .source, .fresh "name" "Filter" .transform]
    let edges : Edges := [⟨"a", "?"⟩, ⟨"?", "?"⟩]
    let m := Metadata.named "my pipeline"
    let o := (flatten nodes edges m).outline
    nodes.Keyed ∧ (validate nodes edges m o).1.isEmpty = false ∧
      ∃ vs : List Violation,
        (∀ v, v ∈ vs ↔ v.Occurs nodes edges m o) ∧ vs.length = 6 ∧
          Violation.reported vs "name" =
            some ["Pipeline name may contain only letters, digits, '_' and '-'",
              "transform 'Filter' is not connected to the pipeline"] := by
  intro nodes edges m o
  have h : nodes.Keyed := NodeTable.keyed_ofNodes _
  obtain ⟨-, vs, hmem, -, -, -, hkeys, hcount⟩ := validate_report h edges m
  refine ⟨h, by decide, vs, hmem, ?_, ?_⟩
  · rw [← hcount]
    decide
  · rw [← hkeys]
    decide

end PipelineCanvas
