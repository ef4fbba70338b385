import PipelineCanvas.Backend.Basic

/-!
# A backend from a catalog

A catalog lists plugins with their properties. The backend made from it answers from
the list and keeps the pipelines it takes. It may be told to refuse pipelines, and
then refuses them from there on.

* `CatalogEntry`, `Catalog` – a catalog as it is written;
* `Catalog.firstDuplicate?` – the first entry that repeats an earlier one;
* `CatalogBackend` – the backend, with what it was asked for so far.
-/

namespace PipelineCanvas

/-- A plugin in a catalog. -/
structure CatalogEntry where
  name : String
  role : Role
  /-- The templates the plugin runs on; none listed means all. -/
  templates : List TemplateKind
  properties : Contract
deriving DecidableEq

namespace CatalogEntry

/-- An entry without anything. -/
def blank : CatalogEntry := ⟨"", .source, [], .empty⟩

/-- The role and name that tell an entry from the others. -/
def key (e : CatalogEntry) : Role × String := (e.role, e.name)

/-- Whether an entry answers a query. -/
def answers (e : CatalogEntry) (q : PropertyQuery) : Bool :=
  e.templates.isEmpty || e.templates.contains q.template

end CatalogEntry

/-- The plugins of a catalog, in the order in which they are listed. -/
abbrev Catalog := List CatalogEntry

namespace Catalog

/-- The first entry that has the role and name of an entry before it; `earlier` holds
the entries passed. -/
def firstDuplicateAfter (earlier : Catalog) : Catalog → Option CatalogEntry
  | [] => none
  | e :: rest =>
    if earlier.any fun d => d.key == e.key then some e
    else firstDuplicateAfter (earlier ++ [e]) rest

/-- The first entry that has the role and name of an earlier one. -/
def firstDuplicate? (c : Catalog) : Option CatalogEntry := firstDuplicateAfter [] c

end Catalog

/-- A backend that answers from a catalog. -/
structure CatalogBackend where
  /-- The plugins on offer, one for each role and name. -/
  offers : List CatalogEntry
  /-- How many queries it was asked. -/
  fetches : Nat
  /-- How many pipelines it was handed. -/
  saves : Nat
  /-- The pipelines it took, oldest first. -/
  saved : List SaveRequest
  /-- Why it refuses pipelines, if it does. -/
  rejection : Option BackendError

namespace CatalogBackend

/-- A backend without plugins. -/
def empty : CatalogBackend := ⟨[], 0, 0, [], none⟩

instance : Inhabited CatalogBackend := ⟨empty⟩

/-- Offers a plugin, in place of one with its role and name. -/
def offer (b : CatalogBackend) (e : CatalogEntry) : CatalogBackend :=
  { b with offers := e :: b.offers.filter fun d => d.key != e.key }

/-- The backend of a catalog; a later entry takes the place of an earlier one. -/
def ofCatalog (c : Catalog) : CatalogBackend := c.foldl offer empty

/-- Offers a plugin for every template. -/
def register (b : CatalogBackend) (role : Role) (plugin : String) (properties : Contract) :
    CatalogBackend :=
  b.offer ⟨plugin, role, [], properties⟩

/-- Refuses pipelines from here on. -/
def rejectSaves (b : CatalogBackend) (error : BackendError) : CatalogBackend :=
  { b with rejection := some error }

/-- The plugin that a query asks for, if it is on offer for the template. -/
def lookup? (b : CatalogBackend) (q : PropertyQuery) : Option CatalogEntry :=
  (b.offers.find? fun e => e.key == (q.role, q.plugin)).filter (·.answers q)

/-- Answers a query. -/
def fetch (q : PropertyQuery) (b : CatalogBackend) :
    Except BackendError (List PluginProperties) × CatalogBackend :=
  (match b.lookup? q with
    | some e => .ok [⟨q.plugin, e.properties⟩]
    | none => .error (.unknownPlugin q.role.name q.plugin q.template.name),
   { b with fetches := b.fetches + 1 })

/-- Takes a pipeline or refuses it. -/
def submit (r : SaveRequest) (b : CatalogBackend) : Except BackendError Unit × CatalogBackend :=
  let b := { b with saves := b.saves + 1 }
  match b.rejection with
  | some error => (.error error, b)
  | none => (.ok (), { b with saved := b.saved ++ [r] })

instance : Backend CatalogBackend := ⟨fetch, submit⟩

end CatalogBackend

end PipelineCanvas
