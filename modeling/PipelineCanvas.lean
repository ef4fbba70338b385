import PipelineCanvas.Backend.Basic
import PipelineCanvas.Backend.Catalog
import PipelineCanvas.Binary64
import PipelineCanvas.Canvas.Edge
import PipelineCanvas.Canvas.Node
import PipelineCanvas.Canvas.NodeTable
import PipelineCanvas.Canvas.Position
import PipelineCanvas.Canvas.Role
import PipelineCanvas.CommandLine
import PipelineCanvas.Config.CanvasDocument
import PipelineCanvas.Config.Loading
import PipelineCanvas.Config.Settings
import PipelineCanvas.Decode.FromJson
import PipelineCanvas.Decode.FromYaml
import PipelineCanvas.Decode.Record
import PipelineCanvas.Decode.Rejection
import PipelineCanvas.Decode.Source
import PipelineCanvas.Disk.Basic
import PipelineCanvas.Disk.Path
import PipelineCanvas.Drafts.File
import PipelineCanvas.Drafts.Memory
import PipelineCanvas.Drafts.Store
import PipelineCanvas.Journal
import PipelineCanvas.Json.Basic
import PipelineCanvas.Json.Fault
import PipelineCanvas.Json.Printer
import PipelineCanvas.Json.Spelling
import PipelineCanvas.Listeners
import PipelineCanvas.Main
import PipelineCanvas.OrderedMap
import PipelineCanvas.Pipeline.Flattening
import PipelineCanvas.Pipeline.Metadata
import PipelineCanvas.Pipeline.Outline
import PipelineCanvas.Pipeline.Problems
import PipelineCanvas.Pipeline.Pruning
import PipelineCanvas.Pipeline.RecordSchema
import PipelineCanvas.Pipeline.Submission
import PipelineCanvas.Pipeline.Validation
import PipelineCanvas.Session.Basic
import PipelineCanvas.Session.Canvas
import PipelineCanvas.Session.Editing
import PipelineCanvas.Session.Operation
import PipelineCanvas.Session.Saving
import PipelineCanvas.Session.World
import PipelineCanvas.Text.Blank
import PipelineCanvas.Text.Hidden
import PipelineCanvas.Text.Numeral
import PipelineCanvas.Wire.Backend
import PipelineCanvas.Wire.Canvas
import PipelineCanvas.Wire.Pipeline
import PipelineCanvas.Yaml.Cursor
import PipelineCanvas.Yaml.Node
import PipelineCanvas.Yaml.Resolve
import PipelineCanvas.Yaml.Scalar
import PipelineCanvas.Yaml.Token
import PipelineCanvas.Proofs.Canvas.Keyed
import PipelineCanvas.Proofs.Flattening.Pruned
import PipelineCanvas.Proofs.Flattening.Drawn
import PipelineCanvas.Proofs.Flattening.DrawingOrder
import PipelineCanvas.Proofs.Validation.Filing
import PipelineCanvas.Proofs.Validation.Violation
import PipelineCanvas.Proofs.Validation.Report
import PipelineCanvas.Proofs.Validation.Whole
import PipelineCanvas.Proofs.Session.Quiet
import PipelineCanvas.Proofs.Session.Operations
import PipelineCanvas.Proofs.Session.Saving
import PipelineCanvas.Proofs.Session.History
import PipelineCanvas.Proofs.Session.Sending
import PipelineCanvas.Proofs.Ascending
import PipelineCanvas.Proofs.Wire.Lengths
import PipelineCanvas.Proofs.Wire.Canonical
import PipelineCanvas.Proofs.Wire.Showing
import PipelineCanvas.Proofs.Wire.RoundTrip
import PipelineCanvas.Proofs.Drafts.Contents
import PipelineCanvas.Proofs.Session.Outcomes
import PipelineCanvas.Proofs.Session.Drafts
import PipelineCanvas.Proofs.Session.Reopening
import PipelineCanvas.Proofs.Session.Failing
import PipelineCanvas.Proofs.Flattening.Chain
import PipelineCanvas.Proofs.Flattening.Path
import PipelineCanvas.Proofs.Session.Submissions
import PipelineCanvas.Proofs.Session.Accepting
import PipelineCanvas.Proofs.Drafts.Updates
import PipelineCanvas.Proofs.Session.Shared
import PipelineCanvas.Proofs.Flattening.Generated
import PipelineCanvas.Proofs.Session.Editors
import PipelineCanvas.Proofs.Session.Redrawing
import PipelineCanvas.Proofs.Session.Closing
import PipelineCanvas.Proofs.Session.Origins
import PipelineCanvas.Proofs.Session.Reconciled
import PipelineCanvas.Proofs.Session.Required
import PipelineCanvas.Proofs.Session.RunSettings
import PipelineCanvas.Proofs.Wire.Formats
import PipelineCanvas.Proofs.Flattening.Placed
import PipelineCanvas.Proofs.Validation.Highlights
import PipelineCanvas.Proofs.Validation.Agreement
import PipelineCanvas.Proofs.Json.Parsed
import PipelineCanvas.Proofs.Session.Listening
import PipelineCanvas.Proofs.Session.Placing
import PipelineCanvas.Proofs.Session.Resolving
import PipelineCanvas.Proofs.Session.Opening
import PipelineCanvas.Proofs.Session.Contracts
import PipelineCanvas.Proofs.Session.Mirroring
import PipelineCanvas.Proofs.Flattening.Reporting
import PipelineCanvas.Proofs.Session.Replaying
import PipelineCanvas.Proofs.Session.Routine
import PipelineCanvas.Proofs.Session.Announcing
import PipelineCanvas.Proofs.Json.Printed
import PipelineCanvas.Proofs.Disk.Writing
import PipelineCanvas.Proofs.Drafts.Files
import PipelineCanvas.Proofs.Drafts.Refinement
import PipelineCanvas.Proofs.Wire.Depths
import PipelineCanvas.Proofs.Json.Values
import PipelineCanvas.Proofs.Json.Tokens
import PipelineCanvas.Proofs.CommandLine.Changes
import PipelineCanvas.Proofs.CommandLine.DryRun
import PipelineCanvas.Proofs.Backend.Offers
import PipelineCanvas.Proofs.Wire.Coordinates
import PipelineCanvas.Proofs.Drafts.Candid
import PipelineCanvas.Proofs.Session.Trails
import PipelineCanvas.Proofs.Session.Auditing
import PipelineCanvas.Proofs.Session.Truthful
import PipelineCanvas.Proofs.Canvas.Slots
import PipelineCanvas.Proofs.Canvas.Cascades
import PipelineCanvas.Proofs.Session.Covering
