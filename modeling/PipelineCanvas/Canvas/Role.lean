/-!
# The roles of plugins

A plugin stands at one of three places of a pipeline: data enters at a source,
passes transforms and leaves at a sink.
-/

namespace PipelineCanvas

/-- The place of a plugin in a pipeline. -/
inductive Role where
  | source
  | transform
  | sink
deriving DecidableEq, Repr, Inhabited

namespace Role

/-- The roles, in the order of the data flow. -/
def all : List Role := [.source, .transform, .sink]

/-- The name of a role in documents and messages. -/
def name : Role → String
  | .source => "source"
  | .transform => "transform"
  | .sink => "sink"

/-- The names of the roles. -/
def names : List String := all.map name

/-- The role with a name. -/
def ofName? (s : String) : Option Role := all.find? fun r => r.name == s

@[simp] theorem ofName?_name (r : Role) : ofName? r.name = some r := by cases r <;> decide

theorem name_of_ofName? {s : String} {r : Role} (h : ofName? s = some r) : r.name = s := by
  simpa using List.find?_some h

theorem mem_all (r : Role) : r ∈ all := by cases r <;> decide

end Role

end PipelineCanvas
