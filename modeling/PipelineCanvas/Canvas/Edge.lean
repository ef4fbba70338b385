/-!
# Edges

Edges are drawn from one node to another and kept in the order of drawing. Any
drawing is allowed, and what becomes of it depends on what is odd about it:

* an end that is no node is reported, by flattening as well as by validation;
* a cycle and an edge that is drawn twice are reported by neither: flattening takes
  every node once, however often an edge comes by.
-/

namespace PipelineCanvas

/-- An edge from one node to another, by their ids. -/
structure Edge where
  source : String
  target : String
deriving DecidableEq, Repr

namespace Edge

/-- Whether a node is an end of the edge. -/
def touches (e : Edge) (id : String) : Bool := e.source == id || e.target == id

/-- The two ends, source first. -/
def ends (e : Edge) : List String := [e.source, e.target]

end Edge

/-- The edges of a canvas, in the order in which they were drawn. -/
abbrev Edges := List Edge

namespace Edges

/-- The edges that end at a node. -/
def incoming (es : Edges) (id : String) : Edges := es.filter fun e => e.target == id

/-- Whether a node is an end of some edge. -/
def isConnected (es : Edges) (id : String) : Bool := es.any (·.touches id)

/-- The edges that do not touch a node. -/
def removeTouching (es : Edges) (id : String) : Edges := es.filter fun e => !e.touches id

/-- Every end of every edge: in drawing order, source before target. -/
def ends (es : Edges) : List String := es.flatMap Edge.ends

/-- The edges that join each node of a list to the next. -/
def chain : List String → Edges
  | a :: b :: rest => ⟨a, b⟩ :: chain (b :: rest)
  | _ => []

end Edges

end PipelineCanvas
