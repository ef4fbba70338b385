import PipelineCanvas.Wire.Canvas

/-!
# Canvas documents

A canvas can be written by hand, as a document of metadata, nodes and edges.
-/

namespace PipelineCanvas

open Decode

/-- A canvas as it is written. -/
structure CanvasDocument where
  metadata : Metadata
  nodes : List Node
  edges : Edges
deriving DecidableEq

namespace CanvasDocument

/-- A document that says nothing. -/
def blank : CanvasDocument := ⟨.initial, [], []⟩

instance : Inhabited CanvasDocument := ⟨blank⟩

variable {V : Type} {M : Type → Type} [Monad M] [MonadExceptOf Failure M] [Source V M]

/-- The parts of a canvas in documents. -/
def fields : List (Field V M CanvasDocument) :=
  [ .withDefault "metadata" Metadata.decode fun x c => { c with metadata := x },
    .withDefault "nodes" (listOf Node.decode) fun x c => { c with nodes := x },
    .withDefault "connections" Edges.decode fun x c => { c with edges := x } ]

/-- Reads a canvas. -/
def decode (v : V) : M CanvasDocument := record "CanvasDocument" fields blank v

end CanvasDocument

end PipelineCanvas
