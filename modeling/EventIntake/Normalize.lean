/-
Normalizing an event: detecting its kind, mapping its payload, checking the result, and putting
it into an envelope.  Clock, timer and identifiers come from instruments, and each of their
readings is taken once, in a fixed order.
-/
import EventIntake.Event.Check
import EventIntake.Event.Trace

namespace EventIntake

variable [Limits]

/-- Where times and identifiers come from: the readings of a clock and a timer, and the
identifiers, each by its number from zero on. -/
structure Instruments where
  clock : Nat → Moment
  timer : Nat → Binary64
  identifier : Nat → String

/-- How many readings have been taken. -/
structure Readings where
  clock : Nat := 0
  timer : Nat := 0
  identifier : Nat := 0
deriving DecidableEq, Repr

inductive NormalizeFault where
  /-- The clock shows a time outside the calendar. -/
  | clock
  | mapping (fault : MappingFault)
  | check (fault : CheckFault)
  | system (fault : SystemFault)
  /-- The timer shows no finite time. -/
  | timerInfinite
  | timerUndefined
deriving DecidableEq, Repr

def NormalizeFault.message : NormalizeFault → String
  | .clock => Calendar.OverflowFault.date.message
  | .mapping fault => fault.message
  | .check fault => fault.message
  | .system fault => fault.message
  | .timerInfinite => "cannot convert float infinity to integer"
  | .timerUndefined => "cannot convert float NaN to integer"

/-- A computation that takes readings; readings stay taken when it fails. -/
abbrev Measured := ExceptT NormalizeFault (StateM Readings)

namespace Normalize

/-- What belongs to one normalization besides the event. -/
structure Setting where
  instruments : Instruments
  registry : Transform.Registry
  table : List Row
  config : Config

/-- The next reading of the clock, as it is written. -/
def readClock (instruments : Instruments) : Measured String := do
  let readings ← get
  set { readings with clock := readings.clock + 1 }
  match (instruments.clock readings.clock).millisText? with
  | some text => return text
  | none => throw .clock

def readTimer (instruments : Instruments) : Measured Binary64 := do
  let readings ← get
  set { readings with timer := readings.timer + 1 }
  return instruments.timer readings.timer

def takeIdentifier (instruments : Instruments) : Measured String := do
  let readings ← get
  set { readings with identifier := readings.identifier + 1 }
  return instruments.identifier readings.identifier

/-- The milliseconds between two readings of the timer, rounded to the even one of two. -/
def elapsedMillis (started stopped : Binary64) : Except NormalizeFault Int :=
  let millis := (stopped.sub started).timesThousand
  match millis.round? with
  | some n => .ok n
  | none =>
    match millis with
    | .nan => .error .timerUndefined
    | _ => .error .timerInfinite

/-- The connector's name and version where none is known. -/
def unknownConnector : Connector := ⟨"unknown", "1.0.0", none⟩

def source (format : Format) (event : ExternalEvent) : Except NormalizeFault Source := do
  let system ← (format.system event).mapError .system
  let connector := event.connector.getD unknownConnector
  return {
    format := event.format
    system
    connector := connector.id
    version := connector.version
    region := event.region? }

/-- What the mapping table gives for an event. -/
def mapPayload (setting : Setting) (event : ExternalEvent) : Except NormalizeFault Mapped :=
  (Mapping.apply ⟨setting.registry, setting.config.pipelines.getD [], ⟨event.format⟩⟩
    setting.table event.payload).mapError .mapping

/-- The canonical event of an external one.  The event's own time of receipt goes before the
clock. -/
def run (setting : Setting) (format : Format) (event : ExternalEvent) : Measured Envelope := do
  let instruments := setting.instruments
  let config := setting.config
  let started ← readTimer instruments
  let kind := format.detect event.payload
  let timestamp ←
    match event.receivedAt with
    | some text => pure text
    | none => readClock instruments
  let mapped ← mapPayload setting event
  let issues ← (DataCheck.run format.checks (.dict mapped.data) kind
    config.maxPayloadBytes).mapError NormalizeFault.check
  let source ← source format event
  let validatedAt ← readClock instruments
  let stopped ← readTimer instruments
  let millis ← elapsedMillis started stopped
  let id ← takeIdentifier instruments
  return {
    id
    kind
    source
    timestamp
    data := mapped.data
    correlationId := event.correlationId?
    schemaVersion := Envelope.version
    validation := {
      validated := issues.isEmpty
      validatorVersion := Validation.version
      timestamp := validatedAt
      errors := if issues.isEmpty then none else some issues }
    normalization := {
      sourceFormat := event.format
      targetKind := kind
      mappings := if config.includeFieldMappings then mapped.applied else []
      dropped := if config.includeDroppedFields then some mapped.dropped else none
      warnings :=
        if mapped.warnings.isEmpty then none else some (mapped.warnings.map Warning.message)
      processingMillis := millis } }

end Normalize

inductive RecordFault where
  | timestamp (fault : InstantFault)
  | payload (fault : PayloadFault)
deriving DecidableEq, Repr

def RecordFault.message : RecordFault → String
  | .timestamp fault => fault.message
  | .payload fault => fault.message

namespace Envelope

/-- The milliseconds of an instant as a count of seconds would give them. -/
def epochMillis (micros : Int) : Int :=
  ((Binary64.ofFraction micros 1000000).timesThousand.round?).getD 0

/-- The event as it is stored: its payload with what it is found by. -/
def toRecord (event : Envelope) (requestId : Value) : Except RecordFault Value := do
  let received ← (Instant.readIso event.timestamp).mapError .timestamp
  let payload ← event.toPayload.mapError .payload
  return .dict (payload.entries ++ (Value.record [
    ("event_id", .string event.id),
    ("event_type", .string event.kind.name),
    ("source_format", .string event.source.format),
    ("source_system", .string event.source.system),
    ("validated", .bool event.validation.validated),
    ("request_id", requestId),
    ("timestamp_epoch", .int (epochMillis received.instant))]).entries)

end Envelope

end EventIntake
