import PipelineCanvas.OrderedMap

/-!
# What is wrong with a pipeline

Problems are filed under keys: the field of the pipeline, or the id of the node,
that a person has to look at. A key may have several messages, which stay in the
order in which they were found.
-/

namespace PipelineCanvas

/-- Messages by the field or node they are about. -/
structure Problems where
  byKey : OrderedMap (List String)
deriving DecidableEq

namespace Problems

/-- No problem. -/
def none : Problems := ⟨.empty⟩

instance : Inhabited Problems := ⟨none⟩

/-- The messages under a key. -/
def get? (p : Problems) (key : String) : Option (List String) := p.byKey.get? key

/-- Whether there is a message under a key. -/
def contains (p : Problems) (key : String) : Bool := p.byKey.contains key

/-- Files a message under a key, behind those that are there. -/
def add (p : Problems) (key message : String) : Problems :=
  ⟨p.byKey.insert key ((p.byKey.get? key).getD [] ++ [message])⟩

/-- Files messages in order. -/
def addAll (p : Problems) (found : List (String × String)) : Problems :=
  found.foldl (fun p m => p.add m.1 m.2) p

/-- Whether there is no problem. -/
def isEmpty (p : Problems) : Bool := p.byKey.isEmpty

/-- The number of keys. -/
def keyCount (p : Problems) : Nat := p.byKey.size

/-- The number of messages. -/
def messageCount (p : Problems) : Nat := p.byKey.values.flatten.length

/-- The keys, ascending. -/
def keys (p : Problems) : List String := p.byKey.keys

/-- The problems in one line: keys ascending, messages in order. -/
def text (p : Problems) : String :=
  "; ".intercalate (p.byKey.entries.map fun e => e.1 ++ ": " ++ ", ".intercalate e.2)

/-- Filing puts a message behind those under its key and changes no other key. -/
theorem get?_add (p : Problems) (key message k : String) :
    (p.add key message).get? k =
      if key = k then some ((p.get? key).getD [] ++ [message]) else p.get? k := by
  simp [add, get?, OrderedMap.get?_insert]

end Problems

end PipelineCanvas
