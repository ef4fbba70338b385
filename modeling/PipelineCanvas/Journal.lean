import PipelineCanvas.Text.Numeral

/-!
# What is written to the log

Everything worth a line in the log is a `Notice`: what happened, with the figures
that matter. The wording, the level and the fields of its line are functions of
the notice, so no caller words a line itself. A notice that announces a piece of
work also opens the span that the work's lines stand in.
-/

namespace PipelineCanvas

/-- How much a line matters. -/
inductive Level where
  | debug
  | info
  | warn
  | error
deriving DecidableEq, Repr

/-- The name of a level. -/
def Level.name : Level → String
  | .debug => "DEBUG"
  | .info => "INFO"
  | .warn => "WARN"
  | .error => "ERROR"

/-- The value of a field of a line. -/
inductive FieldValue where
  | text (value : String)
  | flag (value : Bool)
  | count (value : Nat)
deriving DecidableEq, Repr

/-- Something that happened. -/
inductive Notice where
  | nodeAdded (node plugin role : String) (contractLoaded : Bool)
  | nodeRemoved (node role : String) (remaining : Nat)
  | fetchStarted (node plugin template : String)
  | contractResolved (node plugin : String) (properties : Nat)
  | fetchFailed (node plugin error : String)
  | flattened (pipeline : String) (transforms : Nat) (hasSource hasSink : Bool) (omitted : Nat)
  | orphansOmitted (nodes : List String)
  /-- An edge has an end that is no node. That end is passed over. -/
  | danglingSkipped (source target : String)
  | validationStarted (pipeline : String) (nodes edges : Nat)
  | validationFailed (pipeline : String) (messages : Nat) (fields : String)
  | saveStarted (nameSpace pipeline : String) (nodes : Nat)
  | saved (nameSpace pipeline template : String)
  | saveRejected (nameSpace pipeline error : String)
  | draftStarted (pipeline : String)
  | draftSaved (pipeline : String) (drafts : Nat) (replaced : Bool)
  | draftCleared (pipeline : String)
  | draftCleanupFailed (pipeline error : String)
  | draftImported (pipeline : String) (nodes edges : Nat) (fromCanvas : Bool)
  | sessionReset (keptName : Bool)
  | editorOpened (node : String) (hasInputSchema readOnly : Bool)
  | editorClosed (node : String) (reverted : Bool)
deriving DecidableEq, Repr

/-- A span: lines of one piece of work stand in it. -/
structure Span where
  level : Level
  /-- The name of the span, first of its fields. -/
  name : String
  details : List (String × FieldValue)
deriving DecidableEq, Repr

/-- The fields of a span, its name first. -/
def Span.fields (s : Span) : List (String × FieldValue) := ("name", .text s.name) :: s.details

namespace Notice

/-- The level of a notice's line. -/
def level : Notice → Level
  | .nodeAdded .. | .nodeRemoved .. | .fetchStarted .. | .contractResolved .. | .flattened ..
  | .validationStarted .. | .saveStarted .. | .draftStarted .. | .draftCleared ..
  | .sessionReset .. | .editorOpened .. | .editorClosed .. => .debug
  | .saved .. | .draftSaved .. | .draftImported .. => .info
  | .fetchFailed .. | .orphansOmitted .. | .danglingSkipped .. | .validationFailed ..
  | .draftCleanupFailed .. => .warn
  | .saveRejected .. => .error

/-- A text in single quotes. -/
def quote (s : String) : String := "'" ++ s ++ "'"

/-- A truth value in words. -/
def flagText (b : Bool) : String := if b then "true" else "false"

/-- The wording of a notice. -/
def text : Notice → String
  | .nodeAdded node plugin role loaded =>
    "Added " ++ role ++ " " ++ quote plugin ++ " as node " ++ quote node
      ++ (if loaded then "" else " (schema pending)")
  | .nodeRemoved node role remaining =>
    "Removed " ++ role ++ " node " ++ quote node ++ ", " ++ Text.decimal remaining
      ++ " nodes remain"
  | .fetchStarted node plugin template =>
    "Fetching " ++ template ++ " properties of plugin " ++ quote plugin ++ " for node "
      ++ quote node
  | .contractResolved node plugin properties =>
    "Plugin " ++ quote plugin ++ " declares " ++ Text.decimal properties
      ++ " properties (node " ++ quote node ++ ")"
  | .fetchFailed node plugin error =>
    "Could not fetch properties of plugin " ++ quote plugin ++ " for node " ++ quote node
      ++ ": " ++ error
  | .flattened pipeline transforms hasSource hasSink omitted =>
    "Flattened pipeline " ++ quote pipeline ++ ": source=" ++ flagText hasSource
      ++ ", transforms=" ++ Text.decimal transforms ++ ", sink=" ++ flagText hasSink
      ++ ", omitted=" ++ Text.decimal omitted
  | .orphansOmitted nodes =>
    Text.decimal nodes.length ++ " unconnected nodes left out of the pipeline: "
      ++ ", ".intercalate nodes
  | .danglingSkipped source target =>
    "Connection " ++ quote source ++ " -> " ++ quote target
      ++ " references a node that does not exist"
  | .validationStarted pipeline nodes edges =>
    "Validating pipeline " ++ quote pipeline ++ " with " ++ Text.decimal nodes ++ " nodes and "
      ++ Text.decimal edges ++ " connections"
  | .validationFailed pipeline messages fields =>
    "Pipeline " ++ quote pipeline ++ " failed validation with " ++ Text.decimal messages
      ++ " errors (" ++ fields ++ ")"
  | .saveStarted nameSpace pipeline nodes =>
    "Submitting pipeline " ++ quote pipeline ++ " (" ++ Text.decimal nodes
      ++ " nodes) to namespace " ++ quote nameSpace
  | .saved nameSpace pipeline template =>
    "Saved " ++ template ++ " pipeline " ++ quote pipeline ++ " in namespace "
      ++ quote nameSpace
  | .saveRejected nameSpace pipeline error =>
    "Saving pipeline " ++ quote pipeline ++ " in namespace " ++ quote nameSpace ++ " failed: "
      ++ error
  | .draftStarted pipeline => "Saving draft " ++ quote pipeline
  | .draftSaved pipeline drafts replaced =>
    (if replaced then "Updated" else "Saved") ++ " draft " ++ quote pipeline ++ " ("
      ++ Text.decimal drafts ++ " drafts stored)"
  | .draftCleared pipeline => "Cleared draft " ++ quote pipeline
  | .draftCleanupFailed pipeline error =>
    "Pipeline " ++ quote pipeline ++ " was saved but its draft could not be cleared: " ++ error
  | .draftImported pipeline nodes edges fromCanvas =>
    "Imported draft " ++ quote pipeline ++ ": " ++ Text.decimal nodes ++ " nodes, "
      ++ Text.decimal edges ++ " connections"
      ++ (if fromCanvas then "" else " (rebuilt as a linear chain)")
  | .sessionReset keptName =>
    if keptName then "Editing session reset for import, pipeline name kept"
    else "Editing session reset"
  | .editorOpened node _ _ => "Opened properties editor for node " ++ quote node
  | .editorClosed node reverted =>
    "Properties editor for node " ++ quote node
      ++ (if reverted then " cancelled, edits reverted" else " closed")

/-- The fields of a notice's line. -/
def fields : Notice → List (String × FieldValue)
  | .nodeAdded node plugin role loaded =>
    [("node_id", .text node), ("plugin", .text plugin), ("role", .text role),
      ("schema_loaded", .flag loaded)]
  | .nodeRemoved node role remaining =>
    [("node_id", .text node), ("role", .text role), ("remaining", .count remaining)]
  | .fetchStarted node plugin template =>
    [("node_id", .text node), ("plugin", .text plugin), ("template", .text template)]
  | .contractResolved node plugin properties =>
    [("node_id", .text node), ("plugin", .text plugin), ("property_count", .count properties)]
  | .fetchFailed node plugin error =>
    [("node_id", .text node), ("plugin", .text plugin), ("error", .text error)]
  | .flattened pipeline transforms hasSource hasSink omitted =>
    [("pipeline", .text pipeline), ("transform_count", .count transforms),
      ("has_source", .flag hasSource), ("has_sink", .flag hasSink),
      ("omitted_count", .count omitted)]
  | .orphansOmitted nodes =>
    [("node_ids", .text (",".intercalate nodes)), ("omitted_count", .count nodes.length)]
  | .danglingSkipped source target =>
    [("from_node", .text source), ("to_node", .text target)]
  | .validationStarted pipeline nodes edges =>
    [("pipeline", .text pipeline), ("node_count", .count nodes),
      ("connection_count", .count edges)]
  | .validationFailed pipeline messages fields =>
    [("pipeline", .text pipeline), ("error_count", .count messages), ("fields", .text fields)]
  | .saveStarted nameSpace pipeline nodes =>
    [("namespace", .text nameSpace), ("pipeline", .text pipeline), ("node_count", .count nodes)]
  | .saved nameSpace pipeline template =>
    [("namespace", .text nameSpace), ("pipeline", .text pipeline), ("template", .text template)]
  | .saveRejected nameSpace pipeline error =>
    [("namespace", .text nameSpace), ("pipeline", .text pipeline), ("error", .text error)]
  | .draftStarted pipeline => [("pipeline", .text pipeline)]
  | .draftSaved pipeline drafts replaced =>
    [("pipeline", .text pipeline), ("draft_count", .count drafts), ("replaced", .flag replaced)]
  | .draftCleared pipeline => [("pipeline", .text pipeline)]
  | .draftCleanupFailed pipeline error => [("pipeline", .text pipeline), ("error", .text error)]
  | .draftImported pipeline nodes edges fromCanvas =>
    [("pipeline", .text pipeline), ("node_count", .count nodes),
      ("connection_count", .count edges), ("from_ui_payload", .flag fromCanvas)]
  | .sessionReset keptName => [("kept_name", .flag keptName)]
  | .editorOpened node hasInputSchema readOnly =>
    [("node_id", .text node), ("has_input_schema", .flag hasInputSchema),
      ("read_only", .flag readOnly)]
  | .editorClosed node reverted => [("node_id", .text node), ("reverted", .flag reverted)]

/-- The span for the work that a notice announces. Only the start of a fetch, of a save
and of a draft attach their fields. -/
def span (name : String) : Notice → Span
  | .fetchStarted node plugin template =>
    ⟨.debug, name,
      [("node_id", .text node), ("plugin", .text plugin), ("template", .text template)]⟩
  | .saveStarted nameSpace pipeline _ =>
    ⟨.info, name, [("namespace", .text nameSpace), ("pipeline", .text pipeline)]⟩
  | .draftStarted pipeline => ⟨.info, name, [("pipeline", .text pipeline)]⟩
  | _ => ⟨.debug, name, []⟩

end Notice

end PipelineCanvas
