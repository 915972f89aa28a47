/-
Where an event belongs: its correlation identifier and its region.
-/
import EventIntake.Event.Input
import EventIntake.Headers
import EventIntake.Text.Blank

namespace EventIntake.ExternalEvent

/-- Headers that carry a correlation identifier, the best one first. -/
def correlationHeaders : List String := [
  "x-correlation-id", "x-request-id", "x-trace-id", "correlation-id", "request-id", "trace-id"]

/-- Keys of a payload that carry a correlation identifier, the best one first. -/
def correlationKeys : List String := ["correlation_id", "request_id", "trace_id"]

/-- Headers that carry a region, the best one first. -/
def regionHeaders : List String := [
  "x-region", "x-aws-region", "x-gcp-region", "x-azure-region"]

/-- The first text without the blanks around it among some keys of a payload, if it has more than
blanks. -/
def payloadText? (payload : Value) (keys : List String) : Option String :=
  keys.findSome? fun key =>
    match payload.textAt? key with
    | some s => if Text.isBlankText s then none else some (Text.strip s)
    | none => none

/-- The correlation identifier: from a header, or else from the payload. -/
def correlationId? (event : ExternalEvent) : Option String :=
  match Headers.text? (event.headers.getD []) correlationHeaders with
  | some id => some id
  | none => payloadText? event.payload correlationKeys

def region? (event : ExternalEvent) : Option String :=
  Headers.text? (event.headers.getD []) regionHeaders

end EventIntake.ExternalEvent
