import PipelineCanvas.Canvas.Node

/-!
# The nodes of a canvas

The nodes on a canvas are kept by id. Placing a node counts the nodes of its role
that are there already and gives it the slot behind them.
-/

namespace PipelineCanvas

/-- The nodes of a canvas, by id. -/
abbrev NodeTable := OrderedMap Node

namespace NodeTable

/-- The number of nodes with a role. -/
def roleCount (t : NodeTable) (role : Role) : Nat :=
  (t.values.filter fun n => n.role == role).length

/-- Puts a node under its id, as it is. -/
def restore (t : NodeTable) (n : Node) : NodeTable := t.insert n.id n

/-- The table of stored nodes; of several with one id the last counts. -/
def ofNodes (nodes : List Node) : NodeTable := nodes.foldl restore .empty

/-- A node as it is placed in a table under a role: at the next slot, and with a
value for every declared property. The node that had its id does not count. -/
def placed (t : NodeTable) (n : Node) (role : Role) : Node :=
  { n with role, position := .forSlot role (roleCount (t.erase n.id) role) }.reconcile

/-- Places a node under a role, in place of the one that had its id. -/
def place (t : NodeTable) (n : Node) (role : Role) : NodeTable :=
  (t.erase n.id).insert n.id (t.placed n role)

/-- Changes the node with an id, if there is one. -/
def modify (t : NodeTable) (id : String) (f : Node → Node) : NodeTable :=
  match t.get? id with
  | none => t
  | some n => t.insert id (f n)

/-- The ids of the nodes whose contract is pending, ascending. -/
def pendingIds (t : NodeTable) : List String :=
  (t.values.filter fun n => !n.isReady).map (·.id)

theorem get?_modify (t : NodeTable) (id : String) (f : Node → Node) (k : String) :
    (t.modify id f).get? k = if k = id then (t.get? id).map f else t.get? k := by
  unfold modify
  cases h : t.get? id with
  | none => by_cases hk : k = id <;> simp [hk, h]
  | some n =>
    by_cases hk : k = id
    · simp [hk]
    · simp [OrderedMap.get?_insert, hk, Ne.symm hk]

end NodeTable

end PipelineCanvas
