import PipelineCanvas.Pipeline.Pruning

/-!
# Submissions and drafts

What is sent to the backend is a `Submission`: the plugins of a stripped outline
and the run setting of its template, a schedule for a batch pipeline or a number of
instances for a realtime one. A `Draft` is a submission that may be incomplete,
stored with a copy of the canvas it came from.
-/

namespace PipelineCanvas

/-- The plugins and the run setting of a submission. -/
structure SubmissionBody where
  source : Option Stage
  sink : Option Stage
  transforms : List Stage
  /-- The schedule, of a batch pipeline only. -/
  schedule : Option String
  /-- The number of instances, of a realtime pipeline only. -/
  instances : Option UInt32
deriving DecidableEq

/-- What is sent to the backend. -/
structure Submission where
  template : Option TemplateKind
  description : String
  config : SubmissionBody
deriving DecidableEq

namespace SubmissionBody

/-- A body without anything. -/
def blank : SubmissionBody := ⟨none, none, [], none, none⟩

end SubmissionBody

namespace Submission

/-- A submission without anything. -/
def blank : Submission := ⟨none, "", .blank⟩

instance : Inhabited Submission := ⟨blank⟩

/-- The schedule that goes with the chosen template. -/
def scheduleFor (m : Metadata) : Option String :=
  match m.kind with
  | some .batch => some m.template.cron
  | _ => none

/-- The number of instances that goes with the chosen template. -/
def instancesFor (m : Metadata) : Option UInt32 :=
  match m.kind with
  | some .realtime => some m.template.instances
  | _ => none

/-- The submission of an outline. Template, description and run settings are the
metadata's. -/
def build (o : Outline) (m : Metadata) : Submission :=
  let bare := o.stripped
  { template := m.kind
    description := m.description
    config :=
      { source := bare.source, sink := bare.sink, transforms := bare.transforms
        schedule := scheduleFor m, instances := instancesFor m } }

/-- The plugins of a submission: source, transforms, sink. -/
def stages (s : Submission) : List Stage :=
  s.config.source.toList ++ s.config.transforms ++ s.config.sink.toList

/-- The outline that a submission was made from, as far as it tells, under a name. -/
def outline (s : Submission) (name : String) : Outline :=
  { name, description := s.description, template := s.template
    source := s.config.source, sink := s.config.sink, transforms := s.config.transforms }

/-- The metadata that a submission tells of, under a name. A run setting that it does
not carry is the default one. -/
def metadata (s : Submission) (name : String) : Metadata :=
  { name, description := s.description
    template :=
      { kind := s.template
        instances := s.config.instances.getD Template.defaultInstances
        cron := s.config.schedule.getD Template.defaultCron } }

end Submission

/-- A copy of a canvas. -/
structure CanvasCopy where
  nodes : OrderedMap Node
  edges : Edges
deriving DecidableEq

namespace CanvasCopy

/-- A copy of an empty canvas. -/
def blank : CanvasCopy := ⟨.empty, []⟩

end CanvasCopy

/-- A stored pipeline, complete or not. -/
structure Draft where
  submission : Submission
  /-- The canvas it came from, if it was drawn on one. -/
  canvas : Option CanvasCopy
deriving DecidableEq

namespace Draft

instance : Inhabited Draft := ⟨⟨default, none⟩⟩

/-- Nodes and edges of the canvas to reopen a draft on: the copy, or else a chain of
the submission's plugins. -/
def graph (d : Draft) (name : String) : List Node × Edges :=
  match d.canvas with
  | some copy => (copy.nodes.values, copy.edges)
  | none => (d.submission.outline name).toGraph

end Draft

end PipelineCanvas
