/-
The shapes of requests and answers of the service, and the catalog of all shapes by name.
-/
import EventIntake.Event.Envelope
import EventIntake.Event.Input

namespace EventIntake.Contract

open Schema

/-- A request to normalize or inspect an event. -/
def normalizeRequest : Shape :=
  .record "NormalizeRequest" [
    ("event", ExternalEvent.shape, none), ("config", .optional Config.shape, some .null)]

/-- The counts of one normalization. -/
def normalizationMetrics : Shape :=
  .record "NormalizationMetrics" [
    ("processing_time_ms", .integer, none), ("field_mappings_applied", .integer, none),
    ("fields_dropped", .integer, none), ("warnings_count", .integer, none)]

/-- What normalizing gives. -/
def normalizeData : Shape :=
  .record "NormalizeData" [
    ("normalized_event", .dict .any, none), ("metrics", normalizationMetrics, none)]

def normalizeResponse : Shape :=
  .record "NormalizeResponse" [("status", .choice ["success"], none), ("data", normalizeData, none)]

/-- What inspecting gives. -/
def inspectData : Shape :=
  .record "InspectData" [
    ("normalized_event", .dict .any, none), ("field_mappings", .list Row.shape, none),
    ("detected_type", .text, none)]

def inspectResponse : Shape :=
  .record "InspectResponse" [("status", .choice ["success"], none), ("data", inspectData, none)]

def formatItem : Shape :=
  .record "FormatItem" [
    ("format", .text, none),
    ("family", .choice ["llm", "webhook", "erp", "database", "generic"], none)]

def formatsResponse : Shape :=
  .record "FormatsResponse" [("format_count", .integer, none), ("formats", .list formatItem, none)]

/-- The sign of life. -/
def healthResponse : Shape :=
  .record "HealthResponse" [
    ("status", .choice ["healthy"], none), ("service", .text, none), ("version", .text, none),
    ("timestamp", .text, none)]

def metricsResponse : Shape :=
  .record "MetricsResponse" [
    ("normalizations_total", .integer, none), ("validation_failed_total", .integer, none),
    ("unsupported_format_total", .integer, none), ("warnings_total", .integer, none),
    ("dropped_fields_total", .integer, none), ("events_by_format", .dict .integer, none),
    ("events_by_type", .dict .integer, none)]

/-- All shapes that have a name. -/
def shapes : List Shape := [
  Connector.shape, ExternalEvent.shape, Config.shape, Row.shape, AppliedRow.shape,
  DataIssue.shape, Source.shape, Validation.shape, Normalization.shape, Envelope.shape,
  normalizeRequest, normalizationMetrics, normalizeData, normalizeResponse, inspectData,
  inspectResponse, formatItem, formatsResponse, healthResponse, metricsResponse]

def shape? (name : String) : Option Shape :=
  shapes.find? fun shape =>
    match shape with
    | .record n _ => n == name
    | _ => false

end EventIntake.Contract
