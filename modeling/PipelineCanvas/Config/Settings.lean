import PipelineCanvas.Decode.Record

/-!
# Settings

The settings of an editor name the namespace that pipelines are saved to, the file
that drafts are kept in and the catalog of plugins. Paths are relative to the file of
the settings.
-/

namespace PipelineCanvas

open Decode

/-- The settings of an editor. -/
structure Settings where
  nameSpace : String
  /-- The file that drafts are kept in; without one they stay in memory. -/
  draftsPath : Option String
  /-- The catalog of plugins, if there is one. -/
  catalogPath : Option String
deriving DecidableEq, Repr

namespace Settings

/-- The namespace that pipelines are saved to unless another is set. -/
def defaultNameSpace : String := "default"

/-- Settings that set nothing. -/
def initial : Settings := ⟨defaultNameSpace, none, none⟩

instance : Inhabited Settings := ⟨initial⟩

variable {V : Type} {M : Type → Type} [Monad M] [MonadExceptOf Failure M] [Source V M]

/-- The fields of settings in documents. -/
def fields : List (Field V M Settings) :=
  [ .withDefault "namespace" Source.text fun x s => { s with nameSpace := x },
    .withDefault "drafts_path" (optional Source.text) fun x s => { s with draftsPath := x },
    .withDefault "catalog_path" (optional Source.text) fun x s => { s with catalogPath := x } ]

/-- Reads settings. -/
def decode (v : V) : M Settings := record "EditorSettings" fields initial v

end Settings

end PipelineCanvas
