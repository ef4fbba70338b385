import PipelineCanvas.Backend.Catalog
import PipelineCanvas.Wire.Pipeline

/-!
# Plugins and pipelines of a backend in documents
-/

namespace PipelineCanvas

open Decode

variable {V : Type} {M : Type → Type} [Monad M] [MonadExceptOf Failure M] [Source V M]

namespace PluginProperties

/-- The fields of an answer in documents. -/
def fields : List (Field V M PluginProperties) :=
  [ .withDefault "name" Source.text fun x p => { p with name := x },
    .withDefault "properties" Contract.decode fun x p => { p with properties := x } ]

/-- Reads an answer. -/
def decode (v : V) : M PluginProperties := record "PluginProperties" fields ⟨"", .empty⟩ v

/-- Writes an answer. -/
def toJson (p : PluginProperties) : Json :=
  .object [("name", .string p.name), ("properties", p.properties.toJson)]

end PluginProperties

namespace SaveRequest

/-- Writes a request. -/
def toJson (r : SaveRequest) : Json :=
  .object [("namespace", .string r.nameSpace), ("name", .string r.name),
    ("submission", r.submission.toJson)]

end SaveRequest

namespace CatalogEntry

/-- The fields of a catalog's plugin in documents. -/
def fields : List (Field V M CatalogEntry) :=
  [ .mandatory "name" Source.text fun x e => { e with name := x },
    .mandatory "type" Role.decode fun x e => { e with role := x },
    .withDefault "templates" (listOf TemplateKind.decode) fun x e => { e with templates := x },
    .withDefault "properties" Contract.decode fun x e => { e with properties := x } ]

/-- Reads a plugin of a catalog. -/
def decode (v : V) : M CatalogEntry := record "CatalogEntry" fields blank v

/-- Writes a plugin of a catalog. -/
def toJson (e : CatalogEntry) : Json :=
  .object [("name", .string e.name), ("type", e.role.toJson),
    ("templates", Json.list TemplateKind.toJson e.templates),
    ("properties", e.properties.toJson)]

end CatalogEntry

namespace Catalog

/-- Reads a catalog. -/
def decode (v : V) : M Catalog :=
  record "PluginCatalog" [.withDefault "plugins" (listOf CatalogEntry.decode) fun x _ => x] [] v

end Catalog

end PipelineCanvas
