import PipelineCanvas.Canvas.Position
import PipelineCanvas.OrderedMap

/-!
# Nodes

A node is a plugin on the canvas. What the backend expects of the plugin is its
*contract*: the properties it declares, some of them required. A node is pending
from the moment it lands on the canvas until its contract has been fetched; from
then on every declared property has a value, possibly the empty one.

* `Node.reconcile` – gives missing declared properties the empty value and touches
  no other (`Node.get?_reconcile`);
* `Node.applyContract` – stores a contract and reconciles;
* `Node.setOutputSchema` – the property `schema` follows the output schema where it is
  declared.
-/

namespace PipelineCanvas

/-- The declaration of one property of a plugin. -/
structure PropertySpec where
  name : String
  kind : String
  description : String
  required : Bool
deriving DecidableEq, Repr

namespace PropertySpec

/-- A declaration that says nothing. -/
def blank : PropertySpec := ⟨"", "", "", false⟩

/-- A declaration of a name and a kind. -/
def ofKind (name kind : String) : PropertySpec := { blank with name, kind }

end PropertySpec

/-- The properties that a plugin declares, by key. -/
abbrev Contract := OrderedMap PropertySpec

/-- A plugin on the canvas. -/
structure Node where
  id : String
  /-- The name of the plugin. -/
  name : String
  icon : String
  position : Position
  description : String
  outputSchema : String
  properties : OrderedMap String
  /-- The contract; none while it is pending. -/
  contract : Option Contract
  role : Role
deriving DecidableEq

namespace Node

/-- A node as it comes from the palette. -/
def fresh (id name : String) (role : Role) : Node :=
  { id, name, role, icon := "", position := .origin, description := "", outputSchema := ""
    properties := .empty, contract := none }

instance : Inhabited Node := ⟨fresh "" "" .transform⟩

/-- Whether the contract has been fetched. -/
def isReady (n : Node) : Bool := n.contract.isSome

/-- Whether the contract, once fetched, declares a property. -/
def declares (n : Node) (key : String) : Bool := n.contract.any (·.contains key)

/-- The property that follows the output schema. -/
def schemaProperty : String := "schema"

/-- Gives every declared key without a value the empty one. -/
def fillMissing (keys : List String) (properties : OrderedMap String) : OrderedMap String :=
  keys.foldl (fun ps key => if ps.contains key then ps else ps.insert key "") properties

/-- Gives every declared property without a value the empty one. -/
def reconcile (n : Node) : Node :=
  match n.contract with
  | none => n
  | some contract => { n with properties := fillMissing contract.keys n.properties }

/-- How many values reconciling adds. -/
def reconcileCount (n : Node) : Nat :=
  match n.contract with
  | none => 0
  | some contract => (contract.keys.filter fun key => !n.properties.contains key).length

/-- Stores a contract and gives its properties values. -/
def applyContract (n : Node) (contract : Contract) : Node :=
  { n with contract := some contract }.reconcile

/-- Sets a property. -/
def setProperty (n : Node) (key value : String) : Node :=
  { n with properties := n.properties.insert key value }

/-- Drops a property. -/
def removeProperty (n : Node) (key : String) : Node :=
  { n with properties := n.properties.erase key }

/-- Replaces the output schema, none by the empty one, and the property that follows it
if that is declared. -/
def setOutputSchema (n : Node) (schema : Option String) : Node :=
  let text := schema.getD ""
  let n := { n with outputSchema := text }
  if n.declares schemaProperty then n.setProperty schemaProperty text else n

/-- Filling keeps the values that are there and adds empty ones. -/
theorem get?_fillMissing (keys : List String) (properties : OrderedMap String) (k : String) :
    (fillMissing keys properties).get? k =
      match properties.get? k with
      | some v => some v
      | none => if k ∈ keys then some "" else none := by
  induction keys generalizing properties with
  | nil => cases h : properties.get? k <;> simp [fillMissing, h]
  | cons key keys ih =>
    have step : fillMissing (key :: keys) properties =
        fillMissing keys
          (if properties.contains key then properties else properties.insert key "") := rfl
    rw [step, ih]
    by_cases hc : properties.contains key = true
    · rw [if_pos hc]
      cases h : properties.get? k with
      | some v => rfl
      | none =>
        have : k ≠ key := fun e => by
          subst e; rw [OrderedMap.contains, h] at hc; exact Bool.noConfusion hc
        simp [this]
    · rw [if_neg hc, OrderedMap.get?_insert]
      by_cases hk : key = k
      · subst hk
        cases h : properties.get? key with
        | some v => rw [OrderedMap.contains, h] at hc; exact absurd rfl hc
        | none => simp
      · rw [if_neg hk]
        cases h : properties.get? k with
        | some v => rfl
        | none => simp [Ne.symm hk]

/-- **Reconciling keeps every value and adds empty ones under the declared keys.** -/
theorem get?_reconcile (n : Node) (k : String) :
    n.reconcile.properties.get? k =
      match n.properties.get? k with
      | some v => some v
      | none => if n.declares k then some "" else none := by
  cases hc : n.contract with
  | none => cases h : n.properties.get? k <;> simp [reconcile, declares, hc, h]
  | some c =>
    simp only [reconcile, hc, get?_fillMissing, declares, Option.any_some,
      OrderedMap.mem_keys_iff]

end Node

end PipelineCanvas
