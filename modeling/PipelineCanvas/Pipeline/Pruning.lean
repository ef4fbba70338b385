import PipelineCanvas.Pipeline.Outline

/-!
# Pruning to the contract

Users may enter properties that a plugin does not declare, and a contract may drop
a property that has a value. Such properties stay on the node and are pruned from
the outline. `Outline.pruned` keeps ids and contracts, for editing;
`Outline.stripped` drops them too, for submission. A plugin whose contract is
pending keeps all its properties.
-/

namespace PipelineCanvas

namespace Stage

/-- Keeps the declared properties, once the contract is known. -/
def pruned (s : Stage) : Stage :=
  match s.contract with
  | none => s
  | some contract =>
    if s.properties.isEmpty then s
    else { s with properties := s.properties.keep contract.contains }

/-- Drops what only editing needs. -/
def withoutBookkeeping (s : Stage) : Stage := { s with id := none, contract := none }

/-- Keeps what a submission carries. -/
def stripped (s : Stage) : Stage := s.pruned.withoutBookkeeping

end Stage

namespace Outline

/-- Prunes the properties of every plugin. -/
def pruned (o : Outline) : Outline := o.mapStages Stage.pruned

/-- Prunes every plugin and drops what only editing needs. -/
def stripped (o : Outline) : Outline := o.pruned.mapStages Stage.withoutBookkeeping

end Outline

end PipelineCanvas
