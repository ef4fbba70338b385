import PipelineCanvas.Pipeline.Validation
import PipelineCanvas.Proofs.Canvas.Keyed

/-!
# What can be wrong with a pipeline

The checks speak in messages under keys. This file says what they speak *about*: a
`Violation` is one thing that is wrong, with the place where it is wrong, so that two
edges drawn alike are two violations when their end is missing. Each violation has a
key and a message, a condition under which it is there (`Violation.Occurs`) and a place
in the order of the checks (`Violation.Before`).

Apart from all that, `Submittable` says when a pipeline may be sent, without any
violation in it; **`Violation.submittable_iff`** joins the two.
-/

namespace PipelineCanvas

/-! ### The vocabulary -/

/-- The two sides of an edge. -/
inductive Side where
  | source
  | target
deriving DecidableEq

/-- The sides, in the order in which they are looked at. -/
def Side.all : List Side := [.source, .target]

/-- The place of a side in that order. -/
def Side.rank : Side → ℕ
  | .source => 0
  | .target => 1

/-- The id at a side of an edge. -/
def Edge.endAt (e : Edge) : Side → String
  | .source => e.source
  | .target => e.target

/-- Letters, digits, `_` and `-`, the letters and digits being those of ASCII. -/
def AllowedInName (c : Char) : Prop := c.isAlphanum = true ∨ c = '_' ∨ c = '-'

/-- A required property of a stage has no value, or a blank one. -/
def Stage.Lacks (s : Stage) (key : String) : Prop :=
  ∃ contract spec, s.contract = some contract ∧ contract.get? key = some spec ∧
    spec.required = true ∧ ∀ v, s.properties.get? key = some v → Text.isBlank v = true

/-- Every required property of a stage has a value that is not blank. -/
def Stage.Complete (s : Stage) : Prop :=
  ∀ contract, s.contract = some contract → ∀ key spec, contract.get? key = some spec →
    spec.required = true → ∃ v, s.properties.get? key = some v ∧ Text.isBlank v = false

/-- One thing that is wrong with a pipeline. -/
inductive Violation where
  /-- The name is blank. -/
  | nameMissing
  /-- No template is chosen. -/
  | templateMissing
  /-- The name has a character that is not allowed. -/
  | nameMalformed
  /-- No node plays a role that one must. -/
  | roleMissing (role : Role)
  /-- Several nodes play a role that one must. -/
  | roleRepeated (role : Role) (count : ℕ)
  /-- A node is the end of no edge. -/
  | unconnected (node : Node)
  /-- A side of the edge with an index is no node. -/
  | endMissing (index : ℕ) (edge : Edge) (side : Side)
  /-- A required property of the stage with an index has no value. -/
  | requiredBlank (index : ℕ) (stage : Stage) (key : String)
  /-- A batch pipeline has no schedule. -/
  | scheduleMissing
  /-- A realtime pipeline has no instance. -/
  | noInstances

namespace Violation

/-- The field or node that a violation is filed under. -/
def key : Violation → String
  | .nameMissing | .nameMalformed => "name"
  | .templateMissing => "template"
  | .roleMissing role | .roleRepeated role _ => role.name
  | .unconnected n => n.id
  | .endMissing .. => "connections"
  | .requiredBlank _ s _ => s.id.getD s.name
  | .scheduleMissing => "schedule"
  | .noInstances => "instances"

/-- The wording of a violation. -/
def message : Violation → String
  | .nameMissing => "Please enter a name for the pipeline"
  | .templateMissing => "Please select a template type"
  | .nameMalformed => "Pipeline name may contain only letters, digits, '_' and '-'"
  | .roleMissing role => "A pipeline needs a " ++ role.name
  | .roleRepeated role count =>
    "A pipeline can have only one " ++ role.name ++ " (" ++ Text.decimal count ++ " found)"
  | .unconnected n => n.role.name ++ " '" ++ n.name ++ "' is not connected to the pipeline"
  | .endMissing _ e side =>
    "Connection '" ++ e.source ++ "' -> '" ++ e.target ++ "' references missing node '"
      ++ e.endAt side ++ "'"
  | .requiredBlank _ s key => "'" ++ key ++ "' is required for " ++ s.name
  | .scheduleMissing => "Batch pipelines need a schedule"
  | .noInstances => "Realtime pipelines need at least one instance"

/-- A violation as it is filed. -/
def finding (v : Violation) : Finding := (v.key, v.message)

/-- Whether a violation is about the name of the pipeline. -/
def isAboutName : Violation → Bool
  | .nameMissing | .nameMalformed => true
  | _ => false

/-- The roles that must be played once, and their order. -/
def roleRank : Role → ℕ
  | .source => 0
  | .transform => 1
  | .sink => 2

/-- The check that finds a violation, by its place among the checks. -/
def check : Violation → ℕ
  | .nameMissing => 0
  | .templateMissing => 1
  | .nameMalformed => 2
  | .roleMissing _ | .roleRepeated .. => 3
  | .unconnected _ => 4
  | .endMissing .. => 5
  | .requiredBlank .. => 6
  | .scheduleMissing | .noInstances => 7

/-- The place of a violation among those that the same check finds: nodes by their id,
edges and stages by their index, and of those source before target, properties by key. -/
def place : Violation → ℕ × String
  | .roleMissing role | .roleRepeated role _ => (roleRank role, "")
  | .unconnected n => (0, n.id)
  | .endMissing index _ side => (2 * index + side.rank, "")
  | .requiredBlank index _ key => (index, key)
  | _ => (0, "")

/-- **The order of the checks.** -/
def Before (v w : Violation) : Prop :=
  v.check < w.check ∨
    (v.check = w.check ∧ (v.place.1 < w.place.1 ∨
      (v.place.1 = w.place.1 ∧ v.place.2 < w.place.2)))

/-- **When a violation is there,** on a canvas with metadata and an outline. -/
def Occurs (nodes : NodeTable) (edges : Edges) (m : Metadata) (o : Outline) : Violation → Prop
  | .nameMissing => Text.isBlank m.name = true
  | .templateMissing => m.kind = none
  | .nameMalformed => Text.isBlank m.name = false ∧ ∃ c ∈ m.name.toList, ¬AllowedInName c
  | .roleMissing role =>
    role ≠ .transform ∧ ∀ n ∈ nodes.values, n.role ≠ role
  | .roleRepeated role count =>
    role ≠ .transform ∧ count = nodes.roleCount role ∧ 2 ≤ count
  | .unconnected n =>
    n ∈ nodes.values ∧ ∀ e ∈ edges, e.source ≠ n.id ∧ e.target ≠ n.id
  | .endMissing index e side =>
    edges[index]? = some e ∧ nodes.get? (e.endAt side) = none
  | .requiredBlank index s key => o.stages[index]? = some s ∧ s.Lacks key
  | .scheduleMissing => m.kind = some .batch ∧ Text.isBlank m.template.cron = true
  | .noInstances => m.kind = some .realtime ∧ m.template.instances = 0

theorem not_before_self (v : Violation) : ¬v.Before v := by
  rintro (h | ⟨-, h | ⟨-, h⟩⟩)
  · omega
  · omega
  · exact String.lt_irrefl _ h

/-- A list in the order of the checks names no violation twice. -/
theorem nodup_of_pairwise_before {vs : List Violation} (h : vs.Pairwise Before) : vs.Nodup :=
  List.Pairwise.imp (S := (· ≠ ·)) (fun hvw e => not_before_self _ (e ▸ hvw)) h

end Violation

/-- **When a pipeline may be sent.** -/
structure Submittable (nodes : NodeTable) (edges : Edges) (m : Metadata) (o : Outline) :
    Prop where
  name_ne_empty : m.name ≠ ""
  name_allowed : ∀ c ∈ m.name.toList, AllowedInName c
  template_chosen : m.kind ≠ none
  one_source : ∃! n, n ∈ nodes.values ∧ n.role = .source
  one_sink : ∃! n, n ∈ nodes.values ∧ n.role = .sink
  connected : ∀ n ∈ nodes.values, ∃ e ∈ edges, e.source = n.id ∨ e.target = n.id
  ends_registered : ∀ e ∈ edges, nodes.contains e.source = true ∧ nodes.contains e.target = true
  complete : ∀ s ∈ o.stages, s.Complete
  scheduled : m.kind = some .batch → Text.isBlank m.template.cron = false
  instanced : m.kind = some .realtime → 1 ≤ m.template.instances

/-! ### Names -/

theorem isNameChar_iff (c : Char) : Validation.isNameChar c = true ↔ AllowedInName c := by
  have halphanum : c.isAlphanum = (c.isUpper || c.isLower || c.isDigit) := rfl
  have hupper : c.isUpper = decide ('A' ≤ c ∧ c ≤ 'Z') := rfl
  have hlower : c.isLower = (decide ('a' ≤ c) && decide (c ≤ 'z')) := rfl
  have hdigit : c.isDigit = (decide ('0' ≤ c) && decide (c ≤ '9')) := rfl
  simp only [Validation.isNameChar, AllowedInName, halphanum, hupper, hlower, hdigit,
    Bool.or_eq_true, Bool.and_eq_true, decide_eq_true_eq, beq_iff_eq]
  tauto

/-- An allowed character is a printable one of ASCII, and no white space. -/
theorem AllowedInName.not_blank {c : Char} (h : AllowedInName c) :
    Text.isBlankChar c = false := by
  rw [← isNameChar_iff] at h
  simp only [Validation.isNameChar, Bool.or_eq_true, Bool.and_eq_true, decide_eq_true_eq,
    beq_iff_eq, Char.le_def, UInt32.le_iff_toNat_le] at h
  have hvals : ('a'.val.toNat = 97 ∧ 'z'.val.toNat = 122) ∧
      ('A'.val.toNat = 65 ∧ 'Z'.val.toNat = 90) ∧
      ('0'.val.toNat = 48 ∧ '9'.val.toNat = 57) := by decide
  have hc : c.val.toNat = c.toNat := rfl
  have hrange : 33 ≤ c.toNat ∧ c.toNat < 127 := by
    rcases h with (((h | h) | h) | rfl) | rfl
    · omega
    · omega
    · omega
    · decide
    · decide
  simp only [Text.isBlankChar, Bool.or_eq_false_iff, Bool.and_eq_false_iff,
    decide_eq_false_iff_not, beq_eq_false_iff_ne]
  omega

/-- A name of allowed characters is blank only if it is empty. -/
theorem isBlank_of_allowed {name : String} (h : ∀ c ∈ name.toList, AllowedInName c) :
    Text.isBlank name = true ↔ name = "" := by
  constructor
  · intro hb
    refine String.toList_eq_nil_iff.mp (List.eq_nil_iff_forall_not_mem.mpr fun c hc => ?_)
    have := List.all_eq_true.mp hb c hc
    rw [(h c hc).not_blank] at this
    cases this
  · rintro rfl
    decide

/-! ### Required properties -/

/-- A stage is complete when it lacks nothing. -/
theorem Stage.complete_iff (s : Stage) : s.Complete ↔ ∀ key, ¬s.Lacks key := by
  constructor
  · rintro hs key ⟨contract, spec, hc, hk, hr, hblank⟩
    obtain ⟨v, hv, hnot⟩ := hs contract hc key spec hk hr
    rw [hblank v hv] at hnot
    cases hnot
  · intro hs contract hc key spec hk hr
    by_contra hno
    refine hs key ⟨contract, spec, hc, hk, hr, fun v hv => ?_⟩
    by_contra hnot
    exact hno ⟨v, hv, Bool.eq_false_iff.mpr hnot⟩

/-! ### No violation -/

namespace Violation

variable {nodes : NodeTable} {edges : Edges} {m : Metadata} {o : Outline}

/-- A role that must be played is played once when it is neither missing nor repeated. -/
theorem one_node_iff (h : nodes.Keyed) {role : Role} (hrole : role ≠ .transform) :
    (∃! n, n ∈ nodes.values ∧ n.role = role) ↔
      ¬(roleMissing role).Occurs nodes edges m o ∧
        ∀ count, ¬(roleRepeated role count).Occurs nodes edges m o := by
  rw [← h.roleCount_eq_one_iff]
  constructor
  · intro hone
    refine ⟨?_, ?_⟩
    · rintro ⟨-, hmissing⟩
      rw [← NodeTable.roleCount_eq_zero_iff] at hmissing
      omega
    · rintro count ⟨-, hcount, htwo⟩
      omega
  · rintro ⟨hmissing, hrepeated⟩
    have hzero : nodes.roleCount role ≠ 0 := fun h0 =>
      hmissing ⟨hrole, NodeTable.roleCount_eq_zero_iff.mp h0⟩
    have htwo : ¬2 ≤ nodes.roleCount role := fun h2 =>
      hrepeated _ ⟨hrole, rfl, h2⟩
    omega

theorem name_iff (nodes : NodeTable) (edges : Edges) (o : Outline) :
    (m.name ≠ "" ∧ ∀ c ∈ m.name.toList, AllowedInName c) ↔
      ¬nameMissing.Occurs nodes edges m o ∧ ¬nameMalformed.Occurs nodes edges m o := by
  constructor
  · rintro ⟨hne, hall⟩
    refine ⟨fun hblank => hne ((isBlank_of_allowed hall).mp hblank), ?_⟩
    rintro ⟨-, c, hc, hnot⟩
    exact hnot (hall c hc)
  · rintro ⟨hmissing, hmalformed⟩
    have hblank : Text.isBlank m.name = false := Bool.eq_false_iff.mpr hmissing
    have hall : ∀ c ∈ m.name.toList, AllowedInName c := by
      intro c hc
      by_contra hnot
      exact hmalformed ⟨hblank, c, hc, hnot⟩
    refine ⟨fun he => hmissing ((isBlank_of_allowed hall).mpr he), hall⟩

/-- Nothing is wrong with a pipeline that may be sent. -/
theorem not_occurs_of_submittable (h : nodes.Keyed) (hs : Submittable nodes edges m o)
    (v : Violation) : ¬v.Occurs nodes edges m o := by
  cases v with
  | nameMissing => exact ((name_iff nodes edges o).mp ⟨hs.name_ne_empty, hs.name_allowed⟩).1
  | nameMalformed => exact ((name_iff nodes edges o).mp ⟨hs.name_ne_empty, hs.name_allowed⟩).2
  | templateMissing => exact hs.template_chosen
  | roleMissing role =>
    cases role with
    | source => exact ((one_node_iff h (by decide)).mp hs.one_source).1
    | transform => exact fun ho => ho.1 rfl
    | sink => exact ((one_node_iff h (by decide)).mp hs.one_sink).1
  | roleRepeated role count =>
    cases role with
    | source => exact ((one_node_iff h (by decide)).mp hs.one_source).2 count
    | transform => exact fun ho => ho.1 rfl
    | sink => exact ((one_node_iff h (by decide)).mp hs.one_sink).2 count
  | unconnected n =>
    rintro ⟨hn, hapart⟩
    obtain ⟨e, he, hend | hend⟩ := hs.connected n hn
    · exact (hapart e he).1 hend
    · exact (hapart e he).2 hend
  | endMissing index e side =>
    rintro ⟨he, hnone⟩
    have hends := hs.ends_registered e (List.mem_of_getElem? he)
    cases side with
    | source => simp [OrderedMap.contains, show nodes.get? e.source = none from hnone] at hends
    | target => simp [OrderedMap.contains, show nodes.get? e.target = none from hnone] at hends
  | requiredBlank index s key =>
    rintro ⟨hget, hlacks⟩
    exact s.complete_iff.mp (hs.complete s (List.mem_of_getElem? hget)) key hlacks
  | scheduleMissing =>
    rintro ⟨hk, hblank⟩
    rw [hs.scheduled hk] at hblank
    cases hblank
  | noInstances =>
    rintro ⟨hk, hzero⟩
    have := hs.instanced hk
    rw [hzero] at this
    exact absurd this (by decide)

/-- A pipeline that nothing is wrong with may be sent. -/
theorem submittable_of_not_occurs (h : nodes.Keyed)
    (hno : ∀ v : Violation, ¬v.Occurs nodes edges m o) : Submittable nodes edges m o := by
  have hname := (name_iff nodes edges o).mpr ⟨hno nameMissing, hno nameMalformed⟩
  have hregistered (e : Edge) (he : e ∈ edges) (side : Side) :
      nodes.contains (e.endAt side) = true := by
    obtain ⟨index, hindex⟩ := List.mem_iff_getElem?.mp he
    by_contra hnot
    refine hno (endMissing index e side) ⟨hindex, ?_⟩
    simpa [OrderedMap.contains] using hnot
  refine
    { name_ne_empty := hname.1
      name_allowed := hname.2
      template_chosen := hno templateMissing
      one_source := (one_node_iff h (by decide)).mpr
        ⟨hno (roleMissing .source), fun count => hno (roleRepeated .source count)⟩
      one_sink := (one_node_iff h (by decide)).mpr
        ⟨hno (roleMissing .sink), fun count => hno (roleRepeated .sink count)⟩
      connected := fun n hn => ?_
      ends_registered := fun e he => ⟨hregistered e he .source, hregistered e he .target⟩
      complete := fun s hs => s.complete_iff.mpr fun key hlacks => ?_
      scheduled := fun hk => Bool.eq_false_iff.mpr fun hb => hno scheduleMissing ⟨hk, hb⟩
      instanced := fun hk => ?_ }
  · by_contra hnone
    refine hno (unconnected n) ⟨hn, fun e he => ⟨fun hs => ?_, fun ht => ?_⟩⟩
    · exact hnone ⟨e, he, .inl hs⟩
    · exact hnone ⟨e, he, .inr ht⟩
  · obtain ⟨index, hindex⟩ := List.mem_iff_getElem?.mp hs
    exact hno (requiredBlank index s key) ⟨hindex, hlacks⟩
  · have hne : m.template.instances.toNat ≠ 0 := fun h0 =>
      hno noInstances ⟨hk, UInt32.toNat_inj.mp h0⟩
    rw [UInt32.le_iff_toNat_le]
    have hone : (1 : UInt32).toNat = 1 := rfl
    omega

/-- **A pipeline may be sent exactly when nothing is wrong with it.** -/
theorem submittable_iff (h : nodes.Keyed) :
    Submittable nodes edges m o ↔ ∀ v : Violation, ¬v.Occurs nodes edges m o :=
  ⟨not_occurs_of_submittable h, submittable_of_not_occurs h⟩

end Violation

end PipelineCanvas
