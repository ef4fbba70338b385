import PipelineCanvas.Drafts.Store

/-!
# A store in memory

A store that lasts as long as the program: a map, whose operations always succeed.
-/

namespace PipelineCanvas

/-- Values by key. -/
structure MemoryStore where
  values : OrderedMap Json
deriving DecidableEq

namespace MemoryStore

/-- A store without values. -/
def empty : MemoryStore := ⟨.empty⟩

instance : Inhabited MemoryStore := ⟨empty⟩

/-- Reads the value under a key. -/
def get (key : String) (s : MemoryStore) : Except StoreError (Option Json) × MemoryStore :=
  (.ok (s.values.get? key), s)

/-- Puts a value under a key. -/
def set (key : String) (value : Json) (s : MemoryStore) :
    Except StoreError Unit × MemoryStore :=
  (.ok (), ⟨s.values.insert key value⟩)

instance : DraftStore MemoryStore := ⟨get, set⟩

end MemoryStore

end PipelineCanvas
