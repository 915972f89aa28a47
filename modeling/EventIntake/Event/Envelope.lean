/-
Canonical events: what every external event becomes, and how it is written.
-/
import EventIntake.Event.Kind
import EventIntake.Mapping.Apply

namespace EventIntake

/-- Where an event comes from. -/
structure Source where
  format : String
  system : String
  connector : String
  version : String
  region : Option String
deriving DecidableEq, Repr

/-- Something that is wrong with the data of an event. -/
structure DataIssue where
  path : String
  message : String
  code : String
deriving DecidableEq, Repr

/-- What validation found. -/
structure Validation where
  validated : Bool
  validatorVersion : String
  timestamp : String
  errors : Option (List DataIssue)
deriving DecidableEq, Repr

/-- What normalization did. -/
structure Normalization where
  sourceFormat : String
  targetKind : EventKind
  mappings : List AppliedRow
  dropped : Option (List String)
  warnings : Option (List String)
  processingMillis : Int
deriving DecidableEq, Repr

/-- A canonical event. -/
structure Envelope where
  id : String
  kind : EventKind
  source : Source
  timestamp : String
  data : Entries
  correlationId : Option String
  schemaVersion : String
  validation : Validation
  normalization : Normalization

inductive PayloadFault where
  | tooDeep
deriving DecidableEq, Repr

def PayloadFault.message : PayloadFault → String
  | .tooDeep => "Maximum serialization depth exceeded"

namespace Wire

/-- A key in a payload.  A text stays as it is. -/
def key : Scalar → Scalar
  | .null => .string "None"
  | .bool b => .string (if b then "true" else "false")
  | .moment m => .string m.wireText
  | .halved t => .halved t
  | s => .string s.plain

/-- A scalar in a payload.  What is not finite is left out. -/
def scalar : Scalar → Scalar
  | .float x =>
    match x with
    | .finite _ _ _ => .float x
    | _ => .null
  | .moment m => .string m.wireText
  | .date d => .string d.isoText
  | s => s

mutual

/-- The value in a payload. -/
def value : Value → Value
  | .scalar s => .scalar (scalar s)
  | .list items => .list (values items)
  | .dict entries => .dict (Entries.ofPairs (members entries))

def values : List Value → List Value
  | [] => []
  | v :: rest => value v :: values rest

/-- The entries in a payload, before keys that are written alike are one. -/
def members : Entries → List (Scalar × Value)
  | [] => []
  | (k, v) :: rest => (key k, value v) :: members rest

end

/-- Members that are there. -/
def present {α : Type} (name : String) (f : α → Value) (a : Option α) : List (String × Value) :=
  (a.map fun a => (name, f a)).toList

end Wire

namespace AppliedRow

def toPayload (row : AppliedRow) : Value :=
  .record (
    [("source_path", .string row.source), ("target_path", .string row.target)]
    ++ Wire.present "transformation" Value.string row.transformation)

def toValue (row : AppliedRow) : Value :=
  .record [
    ("source_path", .string row.source),
    ("target_path", .string row.target),
    ("transformation", .ofOption .string row.transformation)]

def shape : Schema.Shape :=
  .record "AppliedMapping" [
    ("source_path", .text, none),
    ("target_path", .text, none),
    ("transformation", .optional .text, some .null)]

def ofChecked (v : Value) : AppliedRow where
  source := v.textAt "source_path"
  target := v.textAt "target_path"
  transformation := v.textAt? "transformation"

end AppliedRow

namespace DataIssue

def toValue (issue : DataIssue) : Value :=
  .record [
    ("path", .string issue.path), ("message", .string issue.message),
    ("code", .string issue.code)]

def shape : Schema.Shape :=
  .record "ValidationIssue" [("path", .text, none), ("message", .text, none), ("code", .text, none)]

def ofChecked (v : Value) : DataIssue where
  path := v.textAt "path"
  message := v.textAt "message"
  code := v.textAt "code"

end DataIssue

namespace Source

def toPayload (source : Source) : Value :=
  .record (
    [("format", .string source.format), ("system", .string source.system),
      ("connector", .string source.connector), ("version", .string source.version)]
    ++ Wire.present "region" Value.string source.region)

def shape : Schema.Shape :=
  .record "EventSource" [
    ("format", .text, none), ("system", .text, none), ("connector", .text, none),
    ("version", .text, none), ("region", .optional .text, some .null)]

def ofChecked (v : Value) : Source where
  format := v.textAt "format"
  system := v.textAt "system"
  connector := v.textAt "connector"
  version := v.textAt "version"
  region := v.textAt? "region"

end Source

namespace Validation

def version : String := "1.0.0"

def toPayload (validation : Validation) : Value :=
  .record (
    [("validated", .bool validation.validated),
      ("validator_version", .string validation.validatorVersion),
      ("validation_timestamp", .string validation.timestamp)]
    ++ Wire.present "errors" (fun issues => Value.list (issues.map DataIssue.toValue))
      validation.errors)

def shape : Schema.Shape :=
  .record "ValidationInfo" [
    ("validated", .truth, none), ("validator_version", .text, some (.string version)),
    ("validation_timestamp", .text, none),
    ("errors", .optional (.list DataIssue.shape), some .null)]

def ofChecked (v : Value) : Validation where
  validated := v.truthAt "validated"
  validatorVersion := v.textAt "validator_version"
  timestamp := v.textAt "validation_timestamp"
  errors := (v.itemsAt? "errors").map fun items => items.map DataIssue.ofChecked

end Validation

namespace Normalization

def toPayload (report : Normalization) : Value :=
  .record (
    [("source_format", .string report.sourceFormat),
      ("target_type", .string report.targetKind.name),
      ("field_mappings", .list (report.mappings.map AppliedRow.toPayload))]
    ++ Wire.present "dropped_fields" Value.ofTexts report.dropped
    ++ Wire.present "warnings" Value.ofTexts report.warnings
    ++ [("processing_time_ms", .int report.processingMillis)])

def shape : Schema.Shape :=
  .record "NormalizationInfo" [
    ("source_format", .text, none),
    ("target_type", .choice (EventKind.all.map EventKind.name), none),
    ("field_mappings", .list AppliedRow.shape, some (.list [])),
    ("dropped_fields", .optional (.list .text), some .null),
    ("warnings", .optional (.list .text), some .null),
    ("processing_time_ms", .integer, none)]

def ofChecked (v : Value) : Normalization where
  sourceFormat := v.textAt "source_format"
  targetKind := (EventKind.ofName? (v.textAt "target_type")).getD .unknown
  mappings := ((v.itemsAt? "field_mappings").getD []).map AppliedRow.ofChecked
  dropped := (v.itemsAt? "dropped_fields").map Value.texts
  warnings := (v.itemsAt? "warnings").map Value.texts
  processingMillis := v.integerAt "processing_time_ms"

/-- The counts of a report: the time taken, the rows and fields that it lists, and its
warnings. -/
def counts (report : Normalization) : Value :=
  .record [
    ("processing_time_ms", .int report.processingMillis),
    ("field_mappings_applied", .int report.mappings.length),
    ("fields_dropped", .int (report.dropped.getD []).length),
    ("warnings_count", .int (report.warnings.getD []).length)]

end Normalization

namespace Envelope

/-- The version of the form of canonical events. -/
def version : String := "1.0.0"

/-- The event as it is sent on.  Members of the event's own that are absent are left out; nulls in
its data stay. -/
def toPayload (event : Envelope) : Except PayloadFault Value :=
  if Schema.dumpLimit < (Value.dict event.data).depth then .error .tooDeep
  else
    .ok (.record (
      [("id", .string event.id), ("type", .string event.kind.name),
        ("source", event.source.toPayload), ("timestamp", .string event.timestamp),
        ("data", Wire.value (.dict event.data))]
      ++ Wire.present "correlation_id" Value.string event.correlationId
      ++ [("schema_version", .string event.schemaVersion),
        ("validation", event.validation.toPayload),
        ("normalization", event.normalization.toPayload)]))

def shape : Schema.Shape :=
  .record "CanonicalEventOutput" [
    ("id", .text, none),
    ("type", .choice (EventKind.all.map EventKind.name), none),
    ("source", Source.shape, none),
    ("timestamp", .text, none),
    ("data", .dict .any, none),
    ("correlation_id", .optional .text, some .null),
    ("schema_version", .text, some (.string version)),
    ("validation", Validation.shape, none),
    ("normalization", Normalization.shape, none)]

def ofChecked (v : Value) : Envelope where
  id := v.textAt "id"
  kind := (EventKind.ofName? (v.textAt "type")).getD .unknown
  source := .ofChecked (v.valueAt "source")
  timestamp := v.textAt "timestamp"
  data := (v.entriesAt? "data").getD []
  correlationId := v.textAt? "correlation_id"
  schemaVersion := v.textAt "schema_version"
  validation := .ofChecked (v.valueAt "validation")
  normalization := .ofChecked (v.valueAt "normalization")

/-- The event that a written event stands for. -/
def ofPayload (v : Value) : Except (List Schema.Issue) Envelope :=
  (Envelope.shape.check false [] v).map ofChecked

end Envelope

end EventIntake
