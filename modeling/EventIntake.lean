import EventIntake.Calendar.Date
import EventIntake.Calendar.Instant
import EventIntake.Calendar.Iso
import EventIntake.Calendar.Mail
import EventIntake.Calendar.Moment
import EventIntake.CommandLine.Options
import EventIntake.CommandLine.Run
import EventIntake.CommandLine.Word
import EventIntake.Contract
import EventIntake.Counters
import EventIntake.Detection
import EventIntake.Engine
import EventIntake.Event.Check
import EventIntake.Event.Config
import EventIntake.Event.Envelope
import EventIntake.Event.Input
import EventIntake.Event.Kind
import EventIntake.Event.Trace
import EventIntake.Files
import EventIntake.Format.Basic
import EventIntake.Format.Catalog
import EventIntake.Headers
import EventIntake.Json.Reader
import EventIntake.Json.Token
import EventIntake.Json.Writer
import EventIntake.Main
import EventIntake.Mapping.Apply
import EventIntake.Mapping.Audit
import EventIntake.Mapping.Bundled
import EventIntake.Mapping.Profile
import EventIntake.Mapping.Report
import EventIntake.Mapping.Row
import EventIntake.Mapping.Store
import EventIntake.Normalize
import EventIntake.Number.Binary64
import EventIntake.Number.Reading
import EventIntake.Number.Shortest
import EventIntake.Path
import EventIntake.Printout
import EventIntake.Proofs.Accounting
import EventIntake.Proofs.Answering
import EventIntake.Proofs.Asking
import EventIntake.Proofs.Auditable
import EventIntake.Proofs.Auditing
import EventIntake.Proofs.Base64
import EventIntake.Proofs.Breaking
import EventIntake.Proofs.BundledTable
import EventIntake.Proofs.Caching
import EventIntake.Proofs.Checking
import EventIntake.Proofs.Composing
import EventIntake.Proofs.CountTimestamps
import EventIntake.Proofs.Counted
import EventIntake.Proofs.DateTimestamps
import EventIntake.Proofs.Detecting
import EventIntake.Proofs.Documented
import EventIntake.Proofs.Dotted
import EventIntake.Proofs.Extension
import EventIntake.Proofs.IsoEnding
import EventIntake.Proofs.IsoReading
import EventIntake.Proofs.JsonMapping
import EventIntake.Proofs.JsonReading
import EventIntake.Proofs.JsonRoundTrip
import EventIntake.Proofs.JsonValue
import EventIntake.Proofs.LastItem
import EventIntake.Proofs.LastWrite
import EventIntake.Proofs.LeafPaths
import EventIntake.Proofs.Magnitudes
import EventIntake.Proofs.Milliseconds
import EventIntake.Proofs.Normalizing
import EventIntake.Proofs.Payload
import EventIntake.Proofs.PaymentResource
import EventIntake.Proofs.Persisting
import EventIntake.Proofs.Places
import EventIntake.Proofs.Position
import EventIntake.Proofs.PutLookups
import EventIntake.Proofs.PutOrder
import EventIntake.Proofs.Readiness
import EventIntake.Proofs.Recalling
import EventIntake.Proofs.Registering
import EventIntake.Proofs.Reported
import EventIntake.Proofs.Reporting
import EventIntake.Proofs.Resolving
import EventIntake.Proofs.Restoring
import EventIntake.Proofs.Rounding
import EventIntake.Proofs.Rows
import EventIntake.Proofs.Serving
import EventIntake.Proofs.Spellings
import EventIntake.Proofs.Stopping
import EventIntake.Proofs.StoredMillis
import EventIntake.Proofs.Surviving
import EventIntake.Proofs.Switches
import EventIntake.Proofs.Transforming
import EventIntake.Proofs.Usable
import EventIntake.Proofs.Walking
import EventIntake.Proofs.Writing
import EventIntake.Proofs.WrittenMoments
import EventIntake.Proofs.ZoneNames
import EventIntake.Schema.Issue
import EventIntake.Schema.Shape
import EventIntake.Schema.View
import EventIntake.Service.Answer
import EventIntake.Service.Http
import EventIntake.Service.Metrics
import EventIntake.Settings
import EventIntake.Text.Base64
import EventIntake.Text.Blank
import EventIntake.Text.Case
import EventIntake.Text.CaseTable
import EventIntake.Text.Digit
import EventIntake.Text.DigitTable
import EventIntake.Text.Hex
import EventIntake.Text.PrintableTable
import EventIntake.Text.Quoted
import EventIntake.Text.Split
import EventIntake.Text.Utf8
import EventIntake.Text.Uuid
import EventIntake.Text.Wide
import EventIntake.Transform.Builtin
import EventIntake.Transform.Fault
import EventIntake.Transform.Pipeline
import EventIntake.Transform.Timestamp
import EventIntake.Value.Basic
import EventIntake.Value.Display
import EventIntake.Yaml.Node
import EventIntake.Yaml.Quote
import EventIntake.Yaml.Reader
import EventIntake.Yaml.Scalar
import EventIntake.Yaml.Token
