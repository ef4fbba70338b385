import PipelineCanvas.Journal
import PipelineCanvas.Pipeline.Pruning

/-!
# From canvas to outline

A drawing is flattened by following its edges in the order in which they were
drawn, source end before target end. A node is taken the first time an edge reaches
it, and an end that is no node is passed over. So an edge with such an end still
reaches the node at its other end: it is reported, but not skipped. Nodes that no
edge reaches are left out, and reported too.

* `Coverage` – what is reported;
* `Flattening` – the state on the way: outline, coverage, notices and the ids not
  taken yet;
* **`flatten`** – the outline of a canvas, with its coverage and notices.
-/

namespace PipelineCanvas

/-- What flattening could not make use of. -/
structure Coverage where
  /-- The nodes that no edge reaches, ascending. The outline is without them. -/
  omitted : List String
  /-- The edges with an end that is no node, in drawing order. If the other end is a
  node, they reach it all the same. -/
  dangling : Edges
deriving DecidableEq

namespace Coverage

/-- There is nothing to report. -/
def complete : Coverage := ⟨[], []⟩

/-- Whether there is nothing to report. -/
def isClean (c : Coverage) : Bool := c.omitted.isEmpty && c.dangling.isEmpty

end Coverage

/-- A canvas on its way to an outline. -/
structure Flattening where
  outline : Outline
  coverage : Coverage
  notices : List Notice

namespace Flattening

/-- The state of the walk along the edges: the flattening so far, and the ids of the
nodes not taken yet, ascending. -/
structure Walk where
  outline : Outline
  remaining : List String
  dangling : Edges
  notices : List Notice

namespace Walk

variable (nodes : NodeTable)

/-- Takes the node at an end, unless it was taken before or there is none. -/
def visit (w : Walk) (id : String) : Walk :=
  match nodes.get? id with
  | none => w
  | some n =>
    if id ∈ w.remaining then
      { w with remaining := w.remaining.erase id, outline := w.outline.add n.role (.ofNode n) }
    else w

/-- Whether an edge has an end that is no node. -/
def isDangling (e : Edge) : Bool := e.ends.any fun id => !nodes.contains id

/-- Follows an edge: takes the nodes at its ends, and reports it if an end has none. -/
def follow (w : Walk) (e : Edge) : Walk :=
  let w := e.ends.foldl (visit nodes) w
  if isDangling nodes e then
    { w with
      dangling := w.dangling ++ [e]
      notices := w.notices ++ [.danglingSkipped e.source e.target] }
  else w

end Walk

/-- The ids of the nodes in a table, ascending. -/
def nodeIds (nodes : NodeTable) : List String :=
  (nodes.values.foldl (fun (ids : OrderedMap Unit) n => ids.insert n.id ()) .empty).keys

/-- The walk before the first edge. -/
def start (nodes : NodeTable) (metadata : Metadata) : Walk :=
  { outline :=
      { Outline.blank with
        name := metadata.name, description := metadata.description, template := metadata.kind }
    remaining := nodeIds nodes
    dangling := []
    notices := [] }

/-- The walk behind the last edge. -/
def walk (nodes : NodeTable) (edges : Edges) (metadata : Metadata) : Walk :=
  edges.foldl (Walk.follow nodes) (start nodes metadata)

end Flattening

/-- **The outline of a canvas,** pruned for editing, with what is reported and the
notices of it. -/
def flatten (nodes : NodeTable) (edges : Edges) (metadata : Metadata) : Flattening :=
  let w := Flattening.walk nodes edges metadata
  let orphans := if w.remaining.isEmpty then [] else [Notice.orphansOmitted w.remaining]
  let outline := w.outline.pruned
  let summary := Notice.flattened outline.name outline.transforms.length
    outline.source.isSome outline.sink.isSome w.remaining.length
  { outline
    coverage := ⟨w.remaining, w.dangling⟩
    notices := w.notices ++ orphans ++ [summary] }

end PipelineCanvas
