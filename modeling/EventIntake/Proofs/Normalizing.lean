/-
What normalizing gives where clock and timer can be relied on: an envelope with the mapped data,
unless the data cannot be checked.
-/
import EventIntake.Normalize
import EventIntake.Proofs.Nesting
import EventIntake.Proofs.Stateful

namespace EventIntake

/-- The clock shows times of the calendar, and the timer finite times. -/
structure Instruments.Reliable (instruments : Instruments) : Prop where
  clock : ∀ n, ∃ text, (instruments.clock n).millisText? = some text
  timer : ∀ m n, ∃ millis,
    Normalize.elapsedMillis (instruments.timer m) (instruments.timer n) = .ok millis

namespace Normalize

open Stateful

/-- The time of an event: that of its receipt, or else what the clock shows. -/
def readTimestamp (instruments : Instruments) (event : ExternalEvent) : Measured String :=
  match event.receivedAt with
  | some text => pure text
  | none => readClock instruments

/-- What is done with a mapped payload. -/
def complete [Limits] (setting : Setting) (format : Format) (event : ExternalEvent)
    (started : Binary64)
    (timestamp : String) (mapped : Mapped) : Measured Envelope := do
  let kind := format.detect event.payload
  let issues ← (DataCheck.run format.checks (.dict mapped.data) kind
    setting.config.maxPayloadBytes).mapError NormalizeFault.check
  let source ← Normalize.source format event
  let validatedAt ← readClock setting.instruments
  let stopped ← readTimer setting.instruments
  let millis ← elapsedMillis started stopped
  let id ← takeIdentifier setting.instruments
  return {
    id
    kind
    source
    timestamp
    data := mapped.data
    correlationId := event.correlationId?
    schemaVersion := Envelope.version
    validation := {
      validated := issues.isEmpty
      validatorVersion := Validation.version
      timestamp := validatedAt
      errors := if issues.isEmpty then none else some issues }
    normalization := {
      sourceFormat := event.format
      targetKind := kind
      mappings := if setting.config.includeFieldMappings then mapped.applied else []
      dropped := if setting.config.includeDroppedFields then some mapped.dropped else none
      warnings :=
        if mapped.warnings.isEmpty then none else some (mapped.warnings.map Warning.message)
      processingMillis := millis } }

theorem run_eq [Limits] (setting : Setting) (format : Format) (event : ExternalEvent) :
    run setting format event = (do
      let started ← readTimer setting.instruments
      let timestamp ← readTimestamp setting.instruments event
      let mapped ← mapPayload setting event
      complete setting format event started timestamp mapped) := by
  rw [run]
  simp only [readTimestamp]
  cases event.receivedAt <;> rfl

variable {setting : Setting} {format : Format} {event : ExternalEvent}

theorem run_readTimer (instruments : Instruments) (readings : Readings) :
    (readTimer instruments).run readings =
      (.ok (instruments.timer readings.timer), { readings with timer := readings.timer + 1 }) :=
  rfl

theorem run_takeIdentifier (instruments : Instruments) (readings : Readings) :
    (takeIdentifier instruments).run readings =
      (.ok (instruments.identifier readings.identifier),
        { readings with identifier := readings.identifier + 1 }) :=
  rfl

theorem exists_run_readClock {instruments : Instruments} (hreliable : instruments.Reliable)
    (readings : Readings) : ∃ text,
      (readClock instruments).run readings =
        (.ok text, { readings with clock := readings.clock + 1 }) := by
  obtain ⟨text, htext⟩ := hreliable.clock readings.clock
  have hread : (readClock instruments).run readings =
      (match (instruments.clock readings.clock).millisText? with
        | some text => pure text
        | none => throw NormalizeFault.clock : Measured String).run
          { readings with clock := readings.clock + 1 } := rfl
  rw [hread, htext]
  exact ⟨text, rfl⟩

theorem exists_run_readTimestamp {instruments : Instruments} (hreliable : instruments.Reliable)
    (event : ExternalEvent) (readings : Readings) : ∃ text after,
      (readTimestamp instruments event).run readings = (.ok text, after) := by
  unfold readTimestamp
  cases event.receivedAt with
  | some text => exact ⟨text, readings, rfl⟩
  | none =>
      obtain ⟨text, htext⟩ := exists_run_readClock hreliable readings
      exact ⟨text, _, htext⟩

variable [Limits]

/-- A mapped payload whose data can be checked is completed. -/
theorem exists_run_complete {mapped : Mapped} {issues : List DataIssue} {source : Source}
    (hreliable : setting.instruments.Reliable)
    (hissues : DataCheck.run format.checks (.dict mapped.data) (format.detect event.payload)
      setting.config.maxPayloadBytes = .ok issues)
    (hsource : Normalize.source format event = .ok source)
    (n : Nat) (timestamp : String) (readings : Readings) :
    ∃ envelope, ((complete setting format event (setting.instruments.timer n) timestamp
        mapped).run readings).1 = .ok envelope ∧
      envelope.data = mapped.data ∧ envelope.validation.validated = issues.isEmpty := by
  obtain ⟨validatedAt, hvalidatedAt⟩ := exists_run_readClock hreliable readings
  obtain ⟨millis, hmillis⟩ := hreliable.timer n readings.timer
  rw [complete, hissues, Except.mapError_ok, run_bind_ok (run_lift _ _), hsource,
    run_bind_ok (run_lift _ _), run_bind_ok hvalidatedAt, run_bind_ok (run_readTimer _ _), hmillis,
    run_bind_ok (run_lift _ _), run_bind_ok (run_takeIdentifier _ _)]
  exact ⟨_, rfl, rfl, rfl⟩

/-- What normalizing gives for a payload that can be mapped: an envelope with the mapped data, or
the fault of checking them. -/
theorem run_of_mapPayload {mapped : Mapped} {source : Source}
    (hreliable : setting.instruments.Reliable)
    (hmapped : mapPayload setting event = .ok mapped)
    (hsource : Normalize.source format event = .ok source) (readings : Readings) :
    match DataCheck.run format.checks (.dict mapped.data) (format.detect event.payload)
      setting.config.maxPayloadBytes with
    | .ok issues =>
      ∃ envelope, ((run setting format event).run readings).1 = .ok envelope ∧
        envelope.data = mapped.data ∧ envelope.validation.validated = issues.isEmpty
    | .error fault => ((run setting format event).run readings).1 = .error (.check fault) := by
  obtain ⟨timestamp, after, htimestamp⟩ := exists_run_readTimestamp hreliable event
    { readings with timer := readings.timer + 1 }
  rw [run_eq, run_bind_ok (run_readTimer _ _), run_bind_ok htimestamp, hmapped,
    run_bind_ok (run_lift _ _)]
  split
  next issues hissues =>
    exact exists_run_complete hreliable hissues hsource readings.timer timestamp after
  next fault hfault =>
    rw [complete, hfault, Except.mapError_error, run_bind_error (run_lift _ _)]

end Normalize

end EventIntake
