import PipelineCanvas.Proofs.Session.Resolving

/-!
# Opening an editor

What flows into a node is found on the canvas as it is before the contract of the node is
fetched anew: the first edge into the node says where from, and only a node without such an
edge tells it itself. So a node at both ends of an edge is asked what it put out before, and
what it declares from now on decides no more than where the schema that it takes over is
written to.

* `RecordSchema.PutsOut`, `RecordSchema.FlowsInto` – what a node puts out, and what flows into
  one; `RecordSchema.flowsInto_iff`, that a session finds just that;
* `RecordSchema.flowingInto_append` – edges behind an edge into the node do not matter;
* `Node.TakesOver` – a node that takes over a schema;
* **`Operation.step_edit`** – what opening an editor comes to.
-/

namespace PipelineCanvas

open PipelineCanvas.Action

/-! ### What flows along the edges -/

namespace RecordSchema

/-- The schema of what a node puts out: that of the log format that it names, or else its own. -/
inductive PutsOut (n : Node) : String → Prop where
  | accessLog (h : n.properties.get? "format" = some "clf") : PutsOut n (presetText accessLogFields)
  | systemLog (h : n.properties.get? "format" = some "syslog") :
      PutsOut n (presetText systemLogFields)
  | own (haccess : n.properties.get? "format" ≠ some "clf")
      (hsystem : n.properties.get? "format" ≠ some "syslog") : PutsOut n n.outputSchema

/-- The schema of what flows into a node of a canvas. -/
inductive FlowsInto (nodes : NodeTable) (edges : Edges) (n : Node) : String → Prop where
  /-- What the node puts out that the first edge into it comes from. -/
  | edge {earlier later : Edges} {e : Edge} {origin : Node} {text : String}
      (hedges : edges = earlier ++ e :: later) (he : e.target = n.id)
      (hearlier : ∀ d ∈ earlier, d.target ≠ n.id) (horigin : nodes.get? e.source = some origin)
      (htext : PutsOut origin text) : FlowsInto nodes edges n text
  /-- That edge comes from no node. -/
  | dangling {earlier later : Edges} {e : Edge} (hedges : edges = earlier ++ e :: later)
      (he : e.target = n.id) (hearlier : ∀ d ∈ earlier, d.target ≠ n.id)
      (horigin : nodes.get? e.source = none) : FlowsInto nodes edges n ""
  /-- No edge leads into the node: it has the schema as a property. -/
  | property {text : String} (hedges : ∀ d ∈ edges, d.target ≠ n.id)
      (htext : n.properties.get? "schema" = some text) : FlowsInto nodes edges n text
  | unknown (hedges : ∀ d ∈ edges, d.target ≠ n.id)
      (hnone : n.properties.get? "schema" = none) : FlowsInto nodes edges n ""

variable {nodes : NodeTable} {edges : Edges} {n : Node} {text : String}

theorem putOutBy_of_ne (haccess : n.properties.get? "format" ≠ some "clf")
    (hsystem : n.properties.get? "format" ≠ some "syslog") : putOutBy n = n.outputSchema := by
  rw [putOutBy, formatProperty]
  cases hformat : n.properties.get? "format" with
  | none => rfl
  | some format =>
    rw [hformat] at haccess hsystem
    have hpreset : preset? format = none := by
      rw [preset?, if_neg fun h => haccess (congrArg some h),
        if_neg fun h => hsystem (congrArg some h)]
    rw [Option.bind_some, hpreset, Option.getD_none]

/-- **A session finds what a node puts out.** -/
theorem putsOut_iff : PutsOut n text ↔ text = putOutBy n := by
  constructor
  · rintro (h | h | ⟨haccess, hsystem⟩)
    · simp [putOutBy, formatProperty, h, preset?]
    · simp [putOutBy, formatProperty, h, preset?]
    · exact (putOutBy_of_ne haccess hsystem).symm
  · rintro rfl
    by_cases haccess : n.properties.get? "format" = some "clf"
    · have htext : putOutBy n = presetText accessLogFields := by
        simp [putOutBy, formatProperty, haccess, preset?]
      exact htext ▸ .accessLog haccess
    by_cases hsystem : n.properties.get? "format" = some "syslog"
    · have htext : putOutBy n = presetText systemLogFields := by
        simp [putOutBy, formatProperty, hsystem, preset?]
      exact htext ▸ .systemLog hsystem
    · exact putOutBy_of_ne haccess hsystem ▸ .own haccess hsystem

/-- The first edge into a node has no other in front of it. -/
theorem head?_incoming_iff {e : Edge} {id : String} :
    (edges.incoming id).head? = some e ↔
      e.target = id ∧ ∃ earlier later, edges = earlier ++ e :: later ∧
        ∀ d ∈ earlier, d.target ≠ id := by
  rw [Edges.incoming, List.head?_filter, List.find?_eq_some_iff_append]
  simp

theorem head?_incoming_eq_none_iff {id : String} :
    (edges.incoming id).head? = none ↔ ∀ d ∈ edges, d.target ≠ id := by
  rw [Edges.incoming, List.head?_filter, List.find?_eq_none]
  simp

/-- **A session finds what flows into a node** of its canvas. -/
theorem flowsInto_iff (hn : nodes.get? n.id = some n) :
    FlowsInto nodes edges n text ↔ text = flowingInto nodes edges n.id := by
  constructor
  · rintro (⟨hedges, he, hearlier, horigin, htext⟩ | ⟨hedges, he, hearlier, horigin⟩ |
      ⟨hedges, htext⟩ | ⟨hedges, hnone⟩)
    · rw [flowingInto, head?_incoming_iff.mpr ⟨he, _, _, hedges, hearlier⟩]
      simp [horigin, putsOut_iff.mp htext]
    · rw [flowingInto, head?_incoming_iff.mpr ⟨he, _, _, hedges, hearlier⟩]
      simp [horigin]
    · rw [flowingInto, head?_incoming_eq_none_iff.mpr hedges]
      simp [hn, Node.schemaProperty, htext]
    · rw [flowingInto, head?_incoming_eq_none_iff.mpr hedges]
      simp [hn, Node.schemaProperty, hnone]
  · rintro rfl
    rw [flowingInto]
    cases hfirst : (edges.incoming n.id).head? with
    | some e =>
      obtain ⟨he, earlier, later, hedges, hearlier⟩ := head?_incoming_iff.mp hfirst
      cases horigin : nodes.get? e.source with
      | some origin => exact .edge hedges he hearlier horigin (putsOut_iff.mpr (by simp [horigin]))
      | none => simpa [horigin] using FlowsInto.dangling hedges he hearlier horigin
    | none =>
      have hedges := head?_incoming_eq_none_iff.mp hfirst
      cases hown : n.properties.get? "schema" with
      | some text => exact .property hedges (by simp [hn, Node.schemaProperty, hown])
      | none => simpa [hn, Node.schemaProperty, hown] using FlowsInto.unknown hedges hown

/-- **Edges behind an edge into a node do not matter** to what flows into it. -/
theorem flowingInto_append (nodes : NodeTable) (earlier : Edges) {e : Edge} {id : String}
    (he : e.target = id) (later later' : Edges) :
    flowingInto nodes (earlier ++ e :: later) id =
      flowingInto nodes (earlier ++ e :: later') id := by
  have hfirst : ∀ edges : Edges, ((earlier ++ e :: edges : Edges).incoming id).head? =
      (earlier.find? fun d => d.target == id).or (some e) := by
    intro edges
    rw [Edges.incoming, List.head?_filter, List.find?_append, List.find?_cons_of_pos (by simpa)]
  rw [flowingInto, flowingInto, hfirst, hfirst]

end RecordSchema

/-! ### Taking over a schema -/

namespace Node

/-- A node takes over a schema: if it has no output schema and the schema is not empty, it has
that as its output schema, and as the value of the property that follows it, if that is
declared. -/
structure TakesOver (n : Node) (text : String) (n' : Node) : Prop where
  eq : n' = { n with outputSchema := n'.outputSchema, properties := n'.properties }
  outputSchema_eq : n'.outputSchema = if n.outputSchema = "" then text else n.outputSchema
  get?_eq : ∀ key, n'.properties.get? key =
    if n.outputSchema = "" ∧ text ≠ "" ∧ key = "schema" ∧ n.declares "schema" then some text
    else n.properties.get? key

variable {n : Node}

theorem setOutputSchema_of_declares (h : n.declares "schema" = true) (text : String) :
    n.setOutputSchema (some text) =
      { n with outputSchema := text, properties := n.properties.insert "schema" text } :=
  if_pos h

theorem setOutputSchema_of_not_declares (h : ¬ n.declares "schema" = true) (text : String) :
    n.setOutputSchema (some text) = { n with outputSchema := text } :=
  if_neg h

/-- **Opening an editor lets the node take over what flows into it.** -/
theorem takesOver_takeOver (n : Node) (text : String) :
    n.TakesOver text (Session.takeOver n text) := by
  rw [Session.takeOver]
  by_cases htext : n.outputSchema = "" ∧ text ≠ ""
  · obtain ⟨hempty, hne⟩ := htext
    rw [if_pos (by simp [hempty, hne])]
    by_cases hdeclares : n.declares "schema" = true
    · rw [setOutputSchema_of_declares hdeclares]
      refine ⟨rfl, (if_pos hempty).symm, fun key => ?_⟩
      rw [OrderedMap.get?_insert]
      simp [hempty, hne, hdeclares, eq_comm]
    · rw [setOutputSchema_of_not_declares hdeclares]
      refine ⟨rfl, (if_pos hempty).symm, fun key => ?_⟩
      simp [hdeclares]
  · rw [if_neg (by simpa using htext)]
    refine ⟨rfl, ?_, fun key => ?_⟩
    · split
      · next hempty => rw [hempty, not_not.mp fun hne => htext ⟨hempty, hne⟩]
      · rfl
    · rw [if_neg fun h => htext ⟨h.1, h.2.1⟩]

end Node

/-! ### Opening -/

namespace Operation

variable {β σ : Type} [Backend β] [DraftStore σ] {w : World β σ} {n : Node} {id : String}
  {scope : Option String} {answers : List PluginProperties}

/-- Opening an editor when the backend has a contract for the node. -/
theorem step_edit_of_fetch (hn : w.session.nodes.get? id = some n)
    (hfetch : (Backend.fetch (n.query w.session.activeTemplate scope) w.backend).1 =
      .ok answers) :
    let inputSchema := RecordSchema.flowingInto w.session.nodes w.session.edges id
    let snapshot := n.applyContract (PluginProperties.contract answers)
    ((edit id scope).step w).1 = .ok (.editor (.ofSnapshot snapshot inputSchema
        w.session.activeTemplate w.session.readOnly)) ∧
      ((edit id scope).step w).2.session =
        { w.session with
          nodes := w.session.nodes.insert id (Session.takeOver snapshot inputSchema)
          openEditor := some id } := by
  intro inputSchema snapshot
  rw [step_of_perform_eq (edit id scope) (Session.edit id scope) .editor rfl]
  have hrun := Session.editRun id scope w
  generalize run (Session.edit id scope : Action β σ Editor) w = r at hrun
  cases hrun with
  | noNode hnone =>
    rw [hn] at hnone
    cases hnone
  | unanswered hn' hw hfailed hnotes =>
    rw [hn] at hn'
    cases hn'
    rw [hfetch] at hfailed
    cases hfailed
  | opened hn' hfetch' hsnapshot heditor hsession =>
    rw [hn] at hn'
    cases hn'
    rw [hfetch] at hfetch'
    cases hfetch'
    subst hsnapshot heditor
    exact ⟨rfl, hsession⟩

/-- Opening an editor when the backend has no contract for the node. -/
theorem step_edit_of_error {e : BackendError} (hn : w.session.nodes.get? id = some n)
    (hfetch : (Backend.fetch (n.query w.session.activeTemplate scope) w.backend).1 = .error e) :
    ((edit id scope).step w).1 = .error (.backend e) := by
  rw [step_of_perform_eq (edit id scope) (Session.edit id scope) .editor rfl]
  have hrun := Session.editRun id scope w
  generalize run (Session.edit id scope : Action β σ Editor) w = r at hrun
  cases hrun with
  | noNode hnone => cases hn.symm.trans hnone
  | unanswered hn' hw hfailed hnotes =>
    cases hn.symm.trans hn'
    cases hfetch.symm.trans hfailed
    rfl
  | opened hn' hfetched hsnapshot heditor hsession =>
    cases hn.symm.trans hn'
    cases hfetch.symm.trans hfetched

/-- **What opening an editor comes to** when the backend has a contract for the node. The editor
is given what flows into the node, as the canvas was before; it goes back to the node with its
new contract, and on the canvas that node has taken over what flows into it. No other node
changes, and nothing else of the session but the mark of the open editor. Edges behind one that
leads into the node could be any others. -/
theorem step_edit (hreachable : w.session.Reachable) (hn : w.session.nodes.get? id = some n)
    (hfetch : (Backend.fetch ⟨n.role, n.name, w.session.metadata.kind.getD .batch, scope⟩
      w.backend).1 = .ok answers) :
    let opened := (edit id scope).step w
    (∃ editor shown, opened.1 = .ok (.editor editor) ∧ editor.nodeId = id ∧
      RecordSchema.FlowsInto w.session.nodes w.session.edges n editor.inputSchema ∧
      n.TakesOn ((answers.head?.map (·.properties)).getD .empty) editor.snapshot ∧
      opened.2.session.nodes.get? id = some shown ∧
      editor.snapshot.TakesOver editor.inputSchema shown) ∧
    (∀ other, other ≠ id →
      opened.2.session.nodes.get? other = w.session.nodes.get? other) ∧
    opened.2.session =
      { w.session with nodes := opened.2.session.nodes, openEditor := some id } ∧
    ∀ earlier e later later', w.session.edges = earlier ++ e :: later → e.target = id →
      let redrawn := (edit id scope).step
        { w with session := { w.session with edges := earlier ++ e :: later' } }
      redrawn.1 = opened.1 ∧
        redrawn.2.session = { opened.2.session with edges := earlier ++ e :: later' } := by
  intro opened
  obtain ⟨hanswer, hsession⟩ := step_edit_of_fetch hn hfetch
  have hid : n.id = id := NodeTable.keyed_iff.mp hreachable.keyed id n hn
  refine ⟨⟨_, _, hanswer, hid, ?_, n.takesOn_applyContract _, ?_, Node.takesOver_takeOver _ _⟩,
    fun other hother => ?_, ?_, fun earlier e later later' hedges he => ?_⟩
  · subst hid
    exact (RecordSchema.flowsInto_iff hn).mpr rfl
  · rw [hsession]
    exact OrderedMap.get?_insert_self ..
  · rw [hsession]
    exact (OrderedMap.get?_insert ..).trans (if_neg (Ne.symm hother))
  · rw [hsession]
  · intro redrawn
    have hflows := RecordSchema.flowingInto_append w.session.nodes earlier he later later'
    obtain ⟨hanswer', hsession'⟩ := step_edit_of_fetch
      (w := { w with session := { w.session with edges := earlier ++ e :: later' } }) hn hfetch
    rw [← hflows, ← hedges] at hanswer' hsession'
    exact ⟨hanswer'.trans hanswer.symm, hsession'.trans (by rw [hsession])⟩

/-- A transform that is at both ends of the first edge into it. The log format that it names
decides, since its output schema is still empty; what the source behind that edge puts out does
not come in. -/
theorem step_edit_own_predecessor :
    let contract : Contract :=
      .ofList [("format", .ofKind "format" "string"), ("schema", .ofKind "schema" "string")]
    let backend := CatalogBackend.empty.register .transform "Filter" contract
    let filter := (Node.fresh "t" "Filter" .transform).setProperty "format" "syslog"
    let source : Node := { Node.fresh "a" "Stream" .source with outputSchema := "[]" }
    let w : World CatalogBackend MemoryStore :=
      ((loadGraph [source, filter] [⟨"t", "t"⟩, ⟨"a", "t"⟩]).step (World.fresh backend .empty)).2
    let opened := (edit "t" none).step w
    let preset := RecordSchema.presetText RecordSchema.systemLogFields
    ∃ editor shown, opened.1 = .ok (.editor editor) ∧ editor.inputSchema = preset ∧
      editor.snapshot.properties.get? "schema" = some "" ∧
      opened.2.session.nodes.get? "t" = some shown ∧ shown.outputSchema = preset ∧
      shown.properties.get? "schema" = some preset ∧
      opened.2.session.nodes.get? "a" = some source := by
  intro contract backend filter source w opened preset
  have hreachable : w.session.Reachable := .step _ .fresh
  have hn : w.session.nodes.get? "t" = some filter := by decide +kernel
  have ha : w.session.nodes.get? "a" = some source := by decide +kernel
  have hfetch : (Backend.fetch ⟨filter.role, filter.name,
      w.session.metadata.kind.getD .batch, none⟩ w.backend).1 = .ok [⟨"Filter", contract⟩] := by
    decide +kernel
  have hflow : RecordSchema.flowingInto w.session.nodes w.session.edges "t" = preset := by
    decide +kernel
  have hne : preset ≠ "" := by decide +kernel
  -- the rest follows from these facts, whatever the world and the preset are
  clear_value w preset
  obtain ⟨⟨editor, shown, hanswer, -, hflows, htakesOn, hshown, htakesOver⟩, hothers, -⟩ :=
    step_edit hreachable hn hfetch
  have hinput : editor.inputSchema = preset :=
    ((RecordSchema.flowsInto_iff hn).mp hflows).trans hflow
  have hempty : editor.snapshot.outputSchema = "" := by rw [htakesOn.eq]; rfl
  have hdeclares : editor.snapshot.declares "schema" = true := by
    rw [htakesOn.eq]
    exact (by decide +kernel : contract.contains "schema" = true)
  refine ⟨editor, shown, hanswer, hinput, ?_, hshown, ?_, ?_, (hothers "a" (by decide)).trans ha⟩
  · rw [htakesOn.get?_eq]
    decide +kernel
  · rw [htakesOver.outputSchema_eq, if_pos hempty, hinput]
  · rw [htakesOver.get?_eq, hinput, if_pos ⟨hempty, hne, rfl, hdeclares⟩]

end Operation

end PipelineCanvas
