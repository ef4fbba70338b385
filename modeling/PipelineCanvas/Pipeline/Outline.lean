import PipelineCanvas.Canvas.Edge
import PipelineCanvas.Canvas.NodeTable
import PipelineCanvas.Pipeline.Metadata

/-!
# Outlines of pipelines

What is left of a canvas when the drawing is gone: the plugins by role, the
transforms in a row. An `Outline` is what is shown of a pipeline while it is edited
and what a submission is made from.

* `Stage` – one plugin of an outline, with the id and the contract of its node as
  long as it is edited;
* `Outline.stages` – all plugins: source, transforms, sink;
* `Outline.toGraph` – the canvas that draws the outline as a chain.
-/

namespace PipelineCanvas

/-- One plugin of an outline. -/
structure Stage where
  /-- The id of the node, while the pipeline is edited. -/
  id : Option String
  /-- The name of the plugin. -/
  name : String
  properties : OrderedMap String
  /-- The contract of the node, while the pipeline is edited and if it was fetched. -/
  contract : Option Contract
deriving DecidableEq

namespace Stage

/-- A stage without anything. -/
def blank : Stage := ⟨none, "", .empty, none⟩

instance : Inhabited Stage := ⟨blank⟩

/-- The stage of a node. -/
def ofNode (n : Node) : Stage := ⟨some n.id, n.name, n.properties, n.contract⟩

end Stage

/-- The plugins of a pipeline by role. -/
structure Outline where
  name : String
  description : String
  template : Option TemplateKind
  source : Option Stage
  sink : Option Stage
  transforms : List Stage
deriving DecidableEq

namespace Outline

/-- An outline without plugins. -/
def blank : Outline := ⟨"", "", none, none, none, []⟩

instance : Inhabited Outline := ⟨blank⟩

/-- The plugins with their roles: source, transforms, sink. -/
def roles (o : Outline) : List (Role × Stage) :=
  o.source.toList.map (.source, ·) ++ o.transforms.map (.transform, ·)
    ++ o.sink.toList.map (.sink, ·)

/-- The plugins: source, transforms, sink. -/
def stages (o : Outline) : List Stage := o.source.toList ++ o.transforms ++ o.sink.toList

/-- Changes every plugin. -/
def mapStages (f : Stage → Stage) (o : Outline) : Outline :=
  { o with source := o.source.map f, transforms := o.transforms.map f, sink := o.sink.map f }

@[simp] theorem stages_mapStages (f : Stage → Stage) (o : Outline) :
    (o.mapStages f).stages = o.stages.map f := by
  simp [stages, mapStages, Option.toList_map]

theorem map_snd_roles (o : Outline) : o.roles.map (·.2) = o.stages := by
  simp [roles, stages, Function.comp_def]

/-- Adds a plugin under its role. There is one source and one sink: a later one takes
the place of an earlier one. -/
def add (o : Outline) (role : Role) (s : Stage) : Outline :=
  match role with
  | .source => { o with source := some s }
  | .transform => { o with transforms := o.transforms ++ [s] }
  | .sink => { o with sink := some s }

/-- The node that stands for a plugin in a chain. A plugin that lost its id gets one
from its role and its place in the chain. -/
def chainNode (index : Nat) (role : Role) (s : Stage) : Node :=
  { Node.fresh (s.id.getD (role.name ++ "-" ++ Text.decimal index)) s.name role with
    properties := s.properties, contract := s.contract }

/-- The nodes of a chain, from a place in it on. -/
def chainNodes : Nat → List (Role × Stage) → List Node
  | _, [] => []
  | index, (role, s) :: rest => chainNode index role s :: chainNodes (index + 1) rest

/-- The canvas that draws the outline as a chain: source, transforms in order, sink,
with an edge between each two neighbours. -/
def toGraph (o : Outline) : List Node × Edges :=
  let nodes := chainNodes 0 o.roles
  (nodes, Edges.chain (nodes.map (·.id)))

end Outline

end PipelineCanvas
