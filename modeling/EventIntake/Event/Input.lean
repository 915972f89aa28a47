/-
External events as they come in.
-/
import EventIntake.Schema.Shape
import EventIntake.Schema.View

namespace EventIntake

/-- What took the event in. -/
structure Connector where
  id : String
  version : String
  environment : Option String
deriving DecidableEq, Repr

/-- An event from outside: the name of its format, its payload, and what is known about its way
here. -/
structure ExternalEvent where
  format : String
  payload : Value
  headers : Option (List (String × String))
  receivedAt : Option String
  connector : Option Connector

namespace Connector

def shape : Schema.Shape :=
  .record "ConnectorMetadata" [
    ("connector_id", .text, none),
    ("connector_version", .text, none),
    ("environment", .optional (.choice ["development", "staging", "production"]), some .null)]

def ofChecked (v : Value) : Connector where
  id := v.textAt "connector_id"
  version := v.textAt "connector_version"
  environment := v.textAt? "environment"

end Connector

namespace ExternalEvent

def shape : Schema.Shape :=
  .record "ExternalEventInput" [
    ("format", .text, none),
    ("raw_payload", .any, some .null),
    ("headers", .optional (.dict .text), some .null),
    ("received_at", .optional .moment, some .null),
    ("connector_metadata", .optional Connector.shape, some .null)]

def ofChecked (v : Value) : ExternalEvent where
  format := v.textAt "format"
  payload := v.valueAt "raw_payload"
  headers := (v.entriesAt? "headers").map Value.textEntries
  receivedAt := v.textAt? "received_at"
  connector := (v.recordAt? "connector_metadata").map Connector.ofChecked

end ExternalEvent

end EventIntake
