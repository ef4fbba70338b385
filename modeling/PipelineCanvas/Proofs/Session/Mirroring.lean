import PipelineCanvas.Proofs.Session.Editors
import PipelineCanvas.Proofs.Session.Opening

/-!
# The property that follows the output schema

Where the contract declares the property `schema`, it follows the output schema: setting that
sets the property too. What is declared is looked up at the moment of setting, and a contract
that comes later gives the property an empty value if it has none. So it matters which comes
first, but only to that one property, and only where the two moments disagree on what is
declared (`Node.Indifferent`).

* `Node.ButForSchema` – two nodes that differ in the property `schema` at most;
* **`Node.setOutputSchema_applyContract_eq_iff`** – when a node comes out the same;
* `NodeTable.Keyed.get?_resolving_insert` – a node that is changed before it is resolved;
* **`Operation.setOutputSchema_before`** – setting an output schema before and behind a
  contract is fetched, when nodes are resolved and when an editor is opened.
-/

namespace PipelineCanvas

open PipelineCanvas.Action

/-! ### One node -/

namespace Node

variable {n n' : Node}

theorem setOutputSchema_eq (n : Node) (schema : Option String) :
    n.setOutputSchema schema =
      { n with
        outputSchema := schema.getD ""
        properties := (n.setOutputSchema schema).properties } := by
  unfold setOutputSchema
  dsimp only
  split <;> rfl

theorem get?_setOutputSchema (n : Node) (schema : Option String) (key : String) :
    (n.setOutputSchema schema).properties.get? key =
      if n.declares "schema" ∧ key = "schema" then some (schema.getD "")
      else n.properties.get? key := by
  change (n.setOutputSchema (some (schema.getD ""))).properties.get? key = _
  by_cases hdeclares : n.declares "schema" = true
  · rw [setOutputSchema_of_declares hdeclares, OrderedMap.get?_insert]
    simp [hdeclares, eq_comm]
  · rw [setOutputSchema_of_not_declares hdeclares]
    simp [hdeclares]

theorem get?_setOutputSchema_of_ne (n : Node) (schema : Option String) {key : String}
    (h : key ≠ "schema") :
    (n.setOutputSchema schema).properties.get? key = n.properties.get? key := by
  rw [get?_setOutputSchema, if_neg fun hkey => h hkey.2]

theorem declares_setOutputSchema (n : Node) (schema : Option String) (key : String) :
    (n.setOutputSchema schema).declares key = n.declares key := by
  rw [setOutputSchema_eq]
  rfl

/-- Of two output schemas the last one counts. -/
theorem setOutputSchema_setOutputSchema (n : Node) (earlier schema : Option String) :
    (n.setOutputSchema earlier).setOutputSchema schema = n.setOutputSchema schema := by
  have hproperties : ((n.setOutputSchema earlier).setOutputSchema schema).properties =
      (n.setOutputSchema schema).properties := OrderedMap.ext_get? fun key => by
    rw [get?_setOutputSchema, declares_setOutputSchema, get?_setOutputSchema,
      get?_setOutputSchema]
    split <;> rfl
  rw [setOutputSchema_eq, hproperties, setOutputSchema_eq n earlier, setOutputSchema_eq n schema]

theorem setOutputSchema_takeOver (n : Node) (text : String) (schema : Option String) :
    (Session.takeOver n text).setOutputSchema schema = n.setOutputSchema schema := by
  unfold Session.takeOver
  split
  · exact setOutputSchema_setOutputSchema ..
  · rfl

theorem contract_setOutputSchema (n : Node) (schema : Option String) :
    (n.setOutputSchema schema).contract = n.contract := by
  rw [setOutputSchema_eq]

/-- Two nodes that were given an output schema differ at most in the property that follows it,
and the second has it there, if it is declared. -/
structure ButForSchema (text : String) (n n' : Node) : Prop where
  eq : n = { n' with properties := n.properties }
  outputSchema_eq : n'.outputSchema = text
  get?_eq : ∀ key, key ≠ "schema" → n.properties.get? key = n'.properties.get? key
  follows : n'.declares "schema" = true → n'.properties.get? "schema" = some text

/-- Such nodes are the same if that property is. -/
theorem ButForSchema.eq_iff {text : String} (h : n.ButForSchema text n') :
    n = n' ↔ n.properties.get? "schema" = n'.properties.get? "schema" := by
  refine ⟨fun heq => heq ▸ rfl, fun hschema => ?_⟩
  have hproperties : n.properties = n'.properties := OrderedMap.ext_get? fun key => by
    by_cases hkey : key = "schema"
    · rw [hkey, hschema]
    · exact h.get?_eq key hkey
  rw [h.eq, hproperties]

/-- It makes no difference to a node whether an output schema is set before it takes on a
contract or behind that: what is declared is the same both times, or the property happens to
have the value that it should have. -/
def Indifferent (n : Node) (c : Contract) (text : String) : Prop :=
  if c.contains "schema" then n.declares "schema" ∨ (n.properties.get? "schema").getD "" = text
  else n.declares "schema" → n.properties.get? "schema" = some text

theorem butForSchema_setOutputSchema (n : Node) (schema : Option String) :
    (n.setOutputSchema schema).ButForSchema (schema.getD "") (n.setOutputSchema schema) where
  eq := rfl
  outputSchema_eq := by rw [setOutputSchema_eq]
  get?_eq _ _ := rfl
  follows h := by
    rw [declares_setOutputSchema] at h
    rw [get?_setOutputSchema, if_pos ⟨h, rfl⟩]

theorem butForSchema_applyContract (n : Node) (c : Contract) (schema : Option String) :
    ((n.setOutputSchema schema).applyContract c).ButForSchema (schema.getD "")
      ((n.applyContract c).setOutputSchema schema) where
  eq := by
    rw [((n.setOutputSchema schema).takesOn_applyContract c).eq, setOutputSchema_eq,
      setOutputSchema_eq (n.applyContract c), (n.takesOn_applyContract c).eq]
  outputSchema_eq := by rw [setOutputSchema_eq]
  get?_eq key hkey := by
    rw [((n.setOutputSchema schema).takesOn_applyContract c).get?_eq,
      get?_setOutputSchema_of_ne _ _ hkey, get?_setOutputSchema_of_ne _ _ hkey,
      (n.takesOn_applyContract c).get?_eq]
  follows := ((n.applyContract c).butForSchema_setOutputSchema schema).follows

/-- **When a node comes out the same,** whether an output schema is set before it takes on a
contract or behind that. -/
theorem setOutputSchema_applyContract_eq_iff (n : Node) (c : Contract) (schema : Option String) :
    (n.setOutputSchema schema).applyContract c = (n.applyContract c).setOutputSchema schema ↔
      n.Indifferent c (schema.getD "") := by
  have hdeclares : (n.applyContract c).declares "schema" = c.contains "schema" := by
    rw [(n.takesOn_applyContract c).eq]
    rfl
  rw [(n.butForSchema_applyContract c schema).eq_iff,
    ((n.setOutputSchema schema).takesOn_applyContract c).get?_eq, get?_setOutputSchema,
    get?_setOutputSchema, (n.takesOn_applyContract c).get?_eq, hdeclares, Indifferent]
  cases c.contains "schema" with
  | true => cases n.declares "schema" <;> cases n.properties.get? "schema" <;> simp
  | false =>
    cases n.declares "schema" with
    | true => simpa using eq_comm
    | false => simp

end Node

/-! ### One node of a canvas -/

namespace NodeTable

variable {t : NodeTable} {n n' : Node} {id : String}

/-- Putting a node in the place of one with its id. -/
theorem Keyed.values_insert (h : t.Keyed) (hn : t.get? id = some n) (n' : Node) :
    OrderedMap.values (t.insert id n') = t.values.map fun m => if m.id = id then n' else m := by
  have hmap : t.insert id n' = t.mapValues fun k m => if k = id then n' else m := by
    refine OrderedMap.ext_get? fun k => ?_
    rw [OrderedMap.get?_insert, OrderedMap.get?_mapValues]
    by_cases hk : id = k
    · subst hk
      simp [hn]
    · simp [hk, Ne.symm hk]
  rw [hmap, OrderedMap.values, OrderedMap.mapValues, OrderedMap.values, List.map_map,
    List.map_map]
  refine List.map_congr_left fun e he => ?_
  simp [h e he]

/-- A node that is put in the place of one with its id and contract is pending if that was. -/
theorem Keyed.pending_insert (h : t.Keyed) (hn : t.get? id = some n)
    (hc : n'.contract = n.contract) :
    pending (t.insert id n') = t.pending.map fun m => if m.id = id then n' else m := by
  rw [pending, h.values_insert hn, List.filter_map, pending]
  congr 1
  refine List.filter_congr fun m hm => ?_
  by_cases hid : m.id = id
  · rw [h.mem_values_iff, hid, hn] at hm
    cases hm
    simp [hid, Node.isReady, hc]
  · simp [hid]

/-- **A node that is changed before it is resolved,** and keeps its id and contract: it is
resolved with the same answer, if there is one, and no other node notices. -/
theorem Keyed.get?_resolving_insert (h : t.Keyed) (hn : t.get? id = some n) (hid : n'.id = id)
    (hc : n'.contract = n.contract) (answers : List (List PluginProperties)) :
    let resolved := t.resolving (t.pending.zip answers)
    let changed : NodeTable := t.insert id n'
    let resolved' := changed.resolving (changed.pending.zip answers)
    (∀ k, k ≠ id → resolved'.get? k = resolved.get? k) ∧
      ((n.contract = none ∧ ∃ c, resolved.get? id = some (n.applyContract c) ∧
          resolved'.get? id = some (n'.applyContract c)) ∨
        (resolved.get? id = some n ∧ resolved'.get? id = some n')) := by
  intro resolved changed resolved'
  let replaced (m : Node) : Node := if m.id = id then n' else m
  have hreplaced (m : Node) : (replaced m).id = m.id := by
    dsimp only [replaced]
    split
    · next hm => rw [hid, hm]
    · rfl
  have hzip : changed.pending.zip answers =
      (t.pending.zip answers).map fun p => (replaced p.1, p.2) := by
    rw [h.pending_insert hn hc]
    exact List.zip_map_left
  -- an answer for a node of the one table is one for its counterpart in the other
  have hcases (k : String) :
      (∃ p ∈ t.pending.zip answers, p.1.id = k ∧ t.get? k = some p.1 ∧
        resolved.get? k = some (p.1.applyContract (PluginProperties.contract p.2)) ∧
        resolved'.get? k =
          some ((replaced p.1).applyContract (PluginProperties.contract p.2))) ∨
      (resolved.get? k = t.get? k ∧ resolved'.get? k = changed.get? k) := by
    rcases h.get?_resolving_cases answers k with ⟨p, hp, hpk, hbefore, hafter⟩ | ⟨hne, hsame⟩
    · refine .inl ⟨p, hp, hpk, hbefore, hafter, ?_⟩
      have hp' : (replaced p.1, p.2) ∈ changed.pending.zip answers :=
        hzip ▸ List.mem_map_of_mem hp
      have hnodup := nodup_zip (h.insert hid).nodup_pending answers
      have hget := get?_resolving (t := changed) hnodup hp'
      rwa [hreplaced, hpk] at hget
    · refine .inr ⟨hsame, get?_resolving_of_ne fun p' hp' => ?_⟩
      rw [hzip] at hp'
      obtain ⟨p, hp, rfl⟩ := List.mem_map.mp hp'
      rw [hreplaced]
      exact hne p hp
  refine ⟨fun k hk => ?_, ?_⟩
  · rcases hcases k with ⟨p, -, hpk, -, hafter, hafter'⟩ | ⟨hsame, hsame'⟩
    · have hother : replaced p.1 = p.1 := if_neg (hpk ▸ hk)
      rw [hafter', hafter, hother]
    · rw [hsame', hsame]
      exact (OrderedMap.get?_insert ..).trans (if_neg (Ne.symm hk))
  · rcases hcases id with ⟨p, hp, hpk, hbefore, hafter, hafter'⟩ | ⟨hsame, hsame'⟩
    · have hpn : p.1 = n := Option.some.inj (hbefore.symm.trans hn)
      have hpending := (h.mem_pending_iff.mp (List.of_mem_zip hp).1).2
      have hown : replaced p.1 = n' := if_pos hpk
      rw [hown] at hafter'
      rw [hpn] at hafter hpending
      exact .inl ⟨hpending, _, hafter, hafter'⟩
    · exact .inr ⟨hsame.trans hn, hsame'.trans (OrderedMap.get?_insert_self ..)⟩

/-- The node whose output schema is set before it is resolved, and the node that has it set behind
that. -/
theorem Keyed.butForSchema_resolving (h : t.Keyed) (hn : t.get? id = some n)
    (schema : Option String) (answers : List (List PluginProperties)) :
    let changed : NodeTable := t.insert id (n.setOutputSchema schema)
    ∃ m first, (t.resolving (t.pending.zip answers)).get? id = some m ∧
      (changed.resolving (changed.pending.zip answers)).get? id = some first ∧
      first.ButForSchema (schema.getD "") (m.setOutputSchema schema) ∧
      (first = m.setOutputSchema schema ↔ (n.contract = none → ∀ c,
        (m.setOutputSchema schema).contract = some c → n.Indifferent c (schema.getD ""))) := by
  intro changed
  have hid : (n.setOutputSchema schema).id = id :=
    (n.id_setOutputSchema schema).trans (keyed_iff.mp h id n hn)
  obtain ⟨-, ⟨hpending, c, hm, hfirst⟩ | ⟨hm, hfirst⟩⟩ :=
    h.get?_resolving_insert hn hid (n.contract_setOutputSchema schema) answers
  · refine ⟨_, _, hm, hfirst, n.butForSchema_applyContract c schema, ?_⟩
    rw [n.setOutputSchema_applyContract_eq_iff, Node.contract_setOutputSchema,
      (n.takesOn_applyContract c).contract_eq]
    exact ⟨fun hind _ d hd => Option.some.inj hd ▸ hind, fun hall => hall hpending c rfl⟩
  · refine ⟨_, _, hm, hfirst, n.butForSchema_setOutputSchema schema, iff_of_true rfl ?_⟩
    intro hpending c hc
    rw [Node.contract_setOutputSchema, hpending] at hc
    cases hc

end NodeTable

/-! ### Before and behind -/

namespace Operation

variable {β σ : Type} [Backend β] [DraftStore σ] {w : World β σ} {n n' : Node} {id : String}

/-- Setting the output schema of a node that is there. -/
theorem step_setOutputSchema (hn : w.session.nodes.get? id = some n) (schema : Option String) :
    (setOutputSchema id schema).step w =
      (.ok .done, { w with session :=
        { w.session with nodes := w.session.nodes.insert id (n.setOutputSchema schema) } }) := by
  rw [step_of_perform_eq _ (Session.setOutputSchema id schema) (fun _ => .done) rfl,
    Session.setOutputSchema, Session.run_changeNode, hn]
  rfl

/-- **A node that is changed before the pending nodes are resolved,** and keeps its id, plugin
and contract: the backend is asked the same and answers the same. -/
theorem step_resolvePending_insert (hkeyed : w.session.nodes.Keyed)
    (hn : w.session.nodes.get? id = some n) (hid : n'.id = id) (hrole : n'.role = n.role)
    (hname : n'.name = n.name) (hc : n'.contract = n.contract) :
    let changed : NodeTable := w.session.nodes.insert id n'
    let w' := { w with session := { w.session with nodes := changed } }
    (resolvePending.step w').1 = (resolvePending.step w).1 ∧
      ∃ answers,
        (resolvePending.step w).2.session = { w.session with
          nodes := w.session.nodes.resolving (w.session.nodes.pending.zip answers) } ∧
        (resolvePending.step w').2.session = { w.session with
          nodes := changed.resolving (changed.pending.zip answers) } := by
  intro changed w'
  have hpending := hkeyed.pending_insert hn hc
  have hqueries : changed.pending.map (·.query w.session.activeTemplate none) =
      w.session.nodes.pending.map (·.query w.session.activeTemplate none) := by
    rw [hpending, List.map_map]
    refine List.map_congr_left fun m hm => ?_
    have hget := (hkeyed.mem_pending_iff.mp hm).1
    dsimp only [Function.comp]
    split
    · next hmid =>
      rw [hmid, hn] at hget
      cases hget
      rw [Node.query, Node.query, hrole, hname]
    · rfl
  have hlength : changed.pending.length = w.session.nodes.pending.length := by
    rw [hpending, List.length_map]
  obtain ⟨hanswer, hsession⟩ := step_resolvePending_of_keyed hkeyed
  obtain ⟨hanswer', hsession'⟩ := step_resolvePending_of_keyed (w := w') (hkeyed.insert hid)
  -- the two worlds differ in their nodes alone
  have htemplate : w'.session.activeTemplate = w.session.activeTemplate := rfl
  have hnodes : w'.session.nodes = changed := rfl
  rw [hnodes, htemplate, hqueries] at hanswer' hsession'
  rw [hlength] at hanswer'
  exact ⟨hanswer'.trans hanswer.symm, _, hsession, hsession'⟩

/-- Resolving the pending nodes when an output schema was set, and setting one when they were
resolved. -/
theorem sessions_around_resolvePending (hkeyed : w.session.nodes.Keyed)
    (hn : w.session.nodes.get? id = some n) (schema : Option String) :
    let set (w : World β σ) := ((setOutputSchema id schema).step w).2
    let nodes := w.session.nodes
    let changed : NodeTable := nodes.insert id (n.setOutputSchema schema)
    (resolvePending.step (set w)).1 = (resolvePending.step w).1 ∧
      ∃ answers, ∀ m, (nodes.resolving (nodes.pending.zip answers)).get? id = some m →
        (resolvePending.step (set w)).2.session =
          { w.session with nodes := changed.resolving (changed.pending.zip answers) } ∧
        (set (resolvePending.step w).2).session = { w.session with
          nodes := OrderedMap.insert (nodes.resolving (nodes.pending.zip answers)) id
            (m.setOutputSchema schema) } := by
  intro set nodes changed
  have heq := n.setOutputSchema_eq schema
  have hid : (n.setOutputSchema schema).id = id :=
    (n.id_setOutputSchema schema).trans (NodeTable.keyed_iff.mp hkeyed id n hn)
  have hset : set w = { w with session := { w.session with nodes := changed } } :=
    congrArg Prod.snd (step_setOutputSchema hn schema)
  obtain ⟨hanswer, answers, hsession, hsession'⟩ := step_resolvePending_insert hkeyed hn hid
    (by rw [heq]) (by rw [heq]) (by rw [heq])
  rw [← hset] at hanswer hsession'
  refine ⟨hanswer, answers, fun m hm => ⟨hsession', ?_⟩⟩
  have hstands : (resolvePending.step w).2.session.nodes.get? id = some m := by
    rw [hsession]
    exact hm
  have hbehind : set (resolvePending.step w).2 = _ :=
    congrArg Prod.snd (step_setOutputSchema hstands schema)
  rw [hbehind, hsession]

/-- Opening an editor when an output schema was set, and setting one when the editor is open. -/
theorem edit_around_setOutputSchema (hn : w.session.nodes.get? id = some n)
    (schema scope : Option String) :
    let set (w : World β σ) := ((setOutputSchema id schema).step w).2
    (∃ e, ((edit id scope).step w).1 = .error e ∧
      ((edit id scope).step (set w)).1 = .error e) ∨
    ∃ c reply editor, ((edit id scope).step w).1 = .ok reply ∧
      ((edit id scope).step (set w)).1 = .ok (.editor editor) ∧
      editor.snapshot = (n.setOutputSchema schema).applyContract c ∧
      (set ((edit id scope).step w).2).session.nodes.get? id =
        some ((n.applyContract c).setOutputSchema schema) := by
  intro set
  have hset : set w = { w with session :=
      { w.session with nodes := w.session.nodes.insert id (n.setOutputSchema schema) } } :=
    congrArg Prod.snd (step_setOutputSchema hn schema)
  have hn' : (set w).session.nodes.get? id = some (n.setOutputSchema schema) := by
    rw [hset]
    exact OrderedMap.get?_insert_self ..
  -- the backend is asked the same in both worlds
  have hasked : Backend.fetch ((n.setOutputSchema schema).query (set w).session.activeTemplate
      scope) (set w).backend =
      Backend.fetch (n.query w.session.activeTemplate scope) w.backend := by
    rw [hset, n.setOutputSchema_eq schema]
    rfl
  cases hfetch : (Backend.fetch (n.query w.session.activeTemplate scope) w.backend).1 with
  | error e =>
    exact .inl ⟨_, step_edit_of_error hn hfetch, step_edit_of_error hn' (hasked ▸ hfetch)⟩
  | ok answers =>
    obtain ⟨hanswer, hsession⟩ := step_edit_of_fetch hn hfetch
    obtain ⟨hanswer', -⟩ := step_edit_of_fetch hn' (hasked ▸ hfetch)
    refine .inr ⟨_, _, _, hanswer, hanswer', rfl, ?_⟩
    have hstands : ((edit id scope).step w).2.session.nodes.get? id =
        some (Session.takeOver (n.applyContract (PluginProperties.contract answers))
          (RecordSchema.flowingInto w.session.nodes w.session.edges id)) := by
      rw [hsession]
      exact OrderedMap.get?_insert_self ..
    have hbehind : set ((edit id scope).step w).2 = _ :=
      congrArg Prod.snd (step_setOutputSchema hstands schema)
    rw [hbehind, Node.setOutputSchema_takeOver]
    exact OrderedMap.get?_insert_self ..

/-- **Setting an output schema before a contract is fetched, and behind that.** When the pending
nodes are resolved, answer and session are the same in both cases, but for the node itself, which
is the same but for the property `schema`. Set behind, the property has the output schema, if it
is declared. Set before, the node comes out the same if and only if its contract was there already,
or it is indifferent to the one that is fetched. When an editor is opened, the node that it goes
back to compares in that way to the node that had the output schema set behind the opening. -/
theorem setOutputSchema_before (hreachable : w.session.Reachable)
    (hn : w.session.nodes.get? id = some n) (schema : Option String) :
    let text := schema.getD ""
    let set (w : World β σ) := ((setOutputSchema id schema).step w).2
    (let before := resolvePending.step (set w)
      let behind := set (resolvePending.step w).2
      before.1 = (resolvePending.step w).1 ∧
      (∀ other, other ≠ id →
        before.2.session.nodes.get? other = behind.session.nodes.get? other) ∧
      before.2.session = { behind.session with nodes := before.2.session.nodes } ∧
      ∃ first last, before.2.session.nodes.get? id = some first ∧
        behind.session.nodes.get? id = some last ∧ first.ButForSchema text last ∧
        (first = last ↔
          (n.contract = none → ∀ c, last.contract = some c → n.Indifferent c text))) ∧
    ∀ scope,
      match ((edit id scope).step w).1 with
      | .error e => ((edit id scope).step (set w)).1 = .error e
      | .ok _ => ∃ editor last c,
          ((edit id scope).step (set w)).1 = .ok (.editor editor) ∧
          (set ((edit id scope).step w).2).session.nodes.get? id = some last ∧
          last.contract = some c ∧ editor.snapshot.ButForSchema text last ∧
          (editor.snapshot = last ↔ n.Indifferent c text) := by
  intro text set
  have hkeyed := hreachable.keyed
  have hid : (n.setOutputSchema schema).id = id :=
    (n.id_setOutputSchema schema).trans (NodeTable.keyed_iff.mp hkeyed id n hn)
  constructor
  · intro before behind
    obtain ⟨hanswer, answers, hsessions⟩ := sessions_around_resolvePending hkeyed hn schema
    obtain ⟨hothers, -⟩ :=
      hkeyed.get?_resolving_insert hn hid (n.contract_setOutputSchema schema) answers
    obtain ⟨m, first, hm, hfirst, hbut, hiff⟩ := hkeyed.butForSchema_resolving hn schema answers
    obtain ⟨hbefore, hbehind⟩ := hsessions m hm
    change before.2.session = _ at hbefore
    change behind.session = _ at hbehind
    rw [hbefore, hbehind]
    refine ⟨hanswer, fun other hother => ?_, rfl, first, _, hfirst,
      OrderedMap.get?_insert_self .., hbut, hiff⟩
    rw [OrderedMap.get?_insert, if_neg (Ne.symm hother)]
    exact hothers other hother
  · intro scope
    rcases edit_around_setOutputSchema hn schema scope with
      ⟨e, hfailed, hfailed'⟩ | ⟨c, reply, editor, hanswer, hanswer', hsnapshot, hbehind⟩
    · rw [hfailed]
      exact hfailed'
    · rw [hanswer]
      refine ⟨editor, _, c, hanswer', hbehind, ?_, ?_, ?_⟩
      · rw [Node.contract_setOutputSchema]
        exact (n.takesOn_applyContract c).contract_eq
      · rw [hsnapshot]
        exact n.butForSchema_applyContract c schema
      · rw [hsnapshot]
        exact n.setOutputSchema_applyContract_eq_iff c schema

/-- A node whose contract declares the property already, when an editor is opened on it: the
output schema that was set before is in the property, as if it were set behind. -/
theorem setOutputSchema_before_declared :
    let contract : Contract := .ofList [("schema", .ofKind "schema" "string")]
    let backend := CatalogBackend.empty.register .transform "Filter" contract
    let n := (Node.fresh "t" "Filter" .transform).applyContract contract
    let w : World CatalogBackend MemoryStore :=
      ((loadGraph [n] []).step (World.fresh backend .empty)).2
    let set := fun w : World CatalogBackend MemoryStore =>
      ((setOutputSchema "t" (some "x")).step w).2
    w.session.Reachable ∧ w.session.nodes.get? "t" = some n ∧
      ∃ editor last, ((edit "t" none).step (set w)).1 = .ok (.editor editor) ∧
        (set ((edit "t" none).step w).2).session.nodes.get? "t" = some last ∧
        editor.snapshot = last ∧ last.properties.get? "schema" = some "x" := by
  intro contract backend n w set
  have hreachable : w.session.Reachable := .step _ .fresh
  have hn : w.session.nodes.get? "t" = some n := by decide +kernel
  let opened := Editor.ofSnapshot n "" .batch false
  have hanswer : ((edit "t" none).step w).1 = .ok (.editor opened) :=
    answer_edit (by decide +kernel)
  have hbehind : (set ((edit "t" none).step w).2).session.nodes.get? "t" =
      some (n.setOutputSchema (some "x")) := by decide +kernel
  have hdeclares : n.declares "schema" = true := by decide +kernel
  have hcontract : (n.setOutputSchema (some "x")).contract = some contract := by decide +kernel
  have hdeclared : contract.contains "schema" = true := by decide +kernel
  obtain ⟨-, hopening⟩ := setOutputSchema_before hreachable hn (some "x")
  have hcompared := hopening none
  rw [hanswer] at hcompared
  obtain ⟨editor, last, c, hbefore, hlast, hc, hbut, hiff⟩ := hcompared
  have hsame : last = n.setOutputSchema (some "x") :=
    Option.some.inj (hlast.symm.trans hbehind)
  have hown : c = contract := by
    rw [hsame, hcontract] at hc
    exact (Option.some.inj hc).symm
  refine ⟨hreachable, hn, editor, last, hbefore, hlast, hiff.mpr ?_, hbut.follows ?_⟩
  · rw [Node.Indifferent, hown, if_pos hdeclared]
    exact .inl hdeclares
  · rw [hsame, Node.declares_setOutputSchema]
    exact hdeclares

/-- A pending node is given an output schema, and its contract, once it is resolved, declares the
property: the property is empty. Set behind the resolving, it has the output schema. -/
theorem setOutputSchema_before_lost :
    let contract : Contract := .ofList [("schema", .ofKind "schema" "string")]
    let backend := CatalogBackend.empty.register .transform "Filter" contract
    let w : World CatalogBackend MemoryStore :=
      ((loadGraph [.fresh "t" "Filter" .transform] []).step (World.fresh backend .empty)).2
    let before := (resolvePending.step ((setOutputSchema "t" (some "x")).step w).2).2
    let behind := ((setOutputSchema "t" (some "x")).step (resolvePending.step w).2).2
    w.session.Reachable ∧
      ∃ first last, before.session.nodes.get? "t" = some first ∧
        behind.session.nodes.get? "t" = some last ∧ first ≠ last ∧
        first.declares "schema" = true ∧ first.outputSchema = "x" ∧
        first.properties.get? "schema" = some "" ∧ last.properties.get? "schema" = some "x" := by
  intro contract backend w before behind
  let resolved := (Node.fresh "t" "Filter" .transform).applyContract contract
  have hfirst : before.session.nodes.get? "t" = some { resolved with outputSchema := "x" } := by
    decide +kernel
  have hlast : behind.session.nodes.get? "t" = some (resolved.setOutputSchema (some "x")) := by
    decide +kernel
  exact ⟨.step _ .fresh, _, _, hfirst, hlast, by decide +kernel, by decide +kernel, rfl,
    by decide +kernel, by decide +kernel⟩

end Operation

end PipelineCanvas
