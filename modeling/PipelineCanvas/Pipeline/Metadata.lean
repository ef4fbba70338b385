/-!
# The pipeline that is being edited

Name, description and run settings of a pipeline. A pipeline runs from a template:
a batch pipeline on a schedule, a realtime pipeline with a number of instances.
Both settings are kept while it is edited, so that switching the template loses
neither. What is sent, and what a draft stores, has the one of its template only.
-/

namespace PipelineCanvas

/-- The templates that a pipeline can run from. -/
inductive TemplateKind where
  | batch
  | realtime
deriving DecidableEq, Repr, Inhabited

namespace TemplateKind

/-- The templates. -/
def all : List TemplateKind := [.batch, .realtime]

/-- The name of a template in documents and messages. -/
def name : TemplateKind → String
  | .batch => "ETLBatch"
  | .realtime => "ETLRealtime"

/-- The names of the templates. -/
def names : List String := all.map name

/-- The template with a name. -/
def ofName? (s : String) : Option TemplateKind := all.find? fun t => t.name == s

@[simp] theorem ofName?_name (t : TemplateKind) : ofName? t.name = some t := by
  cases t <;> decide

theorem name_of_ofName? {s : String} {t : TemplateKind} (h : ofName? s = some t) :
    t.name = s := by
  simpa using List.find?_some h

end TemplateKind

/-- The run settings of a pipeline. -/
structure Template where
  /-- The chosen template, if one is chosen. -/
  kind : Option TemplateKind
  /-- The number of instances of a realtime pipeline. -/
  instances : UInt32
  /-- The schedule of a batch pipeline. -/
  cron : String
deriving DecidableEq, Repr

namespace Template

/-- The schedule that is set until another is: every minute. -/
def defaultCron : String := "* * * * *"

/-- The number of instances that is set until another is. -/
def defaultInstances : UInt32 := 1

/-- Default settings for a choice of template. -/
def ofKind (kind : Option TemplateKind) : Template := ⟨kind, defaultInstances, defaultCron⟩

/-- The settings of a new pipeline. -/
def initial : Template := ofKind (some .batch)

end Template

/-- Name, description and run settings of a pipeline. -/
structure Metadata where
  name : String
  description : String
  template : Template
deriving DecidableEq, Repr

namespace Metadata

/-- A new pipeline with a name. -/
def named (name : String) : Metadata := ⟨name, "", .initial⟩

/-- A new pipeline. -/
def initial : Metadata := named ""

instance : Inhabited Metadata := ⟨initial⟩

/-- The chosen template, if one is chosen. -/
def kind (m : Metadata) : Option TemplateKind := m.template.kind

end Metadata

end PipelineCanvas
