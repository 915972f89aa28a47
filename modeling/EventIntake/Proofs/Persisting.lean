/-
Events that are stored.  A time of receipt that has been accepted is a moment, the event that is
made keeps it, and with its instant the event has a record.
-/
import EventIntake.Proofs.Asking
import EventIntake.Proofs.Switches
import EventIntake.Proofs.StoredMillis
import EventIntake.Proofs.ZoneNames

namespace EventIntake

theorem Entries.get?_append_of_none {key : Scalar} {first second : Entries}
    (hnone : get? key first = none) : get? key (first ++ second) = get? key second := by
  induction first with
  | nil => rfl
  | cons entry first ih =>
      obtain ⟨k, v⟩ := entry
      rw [get?] at hnone
      split at hnone
      next => cases hnone
      next hother => rw [List.cons_append, get?, if_neg hother, ih hnone]

/-- What passes for an optional moment is null or a text that is a moment. -/
theorem Schema.Shape.of_check_optional_moment {anyObject : Bool} {place : List Step} {v w : Value}
    (hcheck : (Shape.optional .moment).check anyObject place v = .ok w) :
    w = .null ∨ ∃ text, w = .string text ∧ Iso.accepts text = true := by
  simp only [check] at hcheck
  split at hcheck
  next =>
    cases hcheck
    exact .inl rfl
  next =>
    split at hcheck
    next =>
      split at hcheck
      next haccepts =>
        cases hcheck
        exact .inr ⟨_, rfl, haccepts⟩
      next => cases hcheck
    next =>
      split at hcheck
      next =>
        split at hcheck
        next haccepts =>
          cases hcheck
          exact .inr ⟨_, rfl, haccepts⟩
        next => cases hcheck
      next => cases hcheck
    next => cases hcheck

/-- A time of receipt that has been checked is a moment. -/
theorem ExternalEvent.accepts_of_check {anyObject : Bool} {place : List Schema.Step}
    {v checked : Value} {text : String} (hcheck : shape.check anyObject place v = .ok checked)
    (hreceived : (ofChecked checked).receivedAt = some text) : Iso.accepts text = true := by
  change checked.textAt? "received_at" = some text at hreceived
  cases hmember : checked.member? "received_at" with
  | none =>
      rw [Value.textAt?, hmember] at hreceived
      cases hreceived
  | some w =>
      obtain ⟨field, default?, hfield, hvalue⟩ := Schema.exists_field_of_check hcheck hmember
      obtain ⟨rfl, rfl⟩ : field = .optional .moment ∧ default? = some .null := by
        simpa using hfield
      rw [Value.textAt?, hmember] at hreceived
      rcases hvalue with ⟨given, at', _, hmoment⟩ | hnull
      · obtain rfl | ⟨moment, rfl, haccepts⟩ := Schema.Shape.of_check_optional_moment hmoment
        · cases hreceived
        · cases hreceived
          exact haccepts
      · cases hnull
        cases hreceived

/-- The time of an event is that of its receipt. -/
theorem Engine.timestamp_of_normalize [Limits] {host : Host} {event : ExternalEvent}
    {config : Config}
    {state : EngineState} {made : Envelope} {text : String}
    (hmade : ((normalize host event config).run state).1 = .ok made)
    (hreceived : event.receivedAt = some text) : made.timestamp = text := by
  obtain ⟨format, table, looked, draft, _, _, hdraft, rfl⟩ := exists_draft hmade
  obtain ⟨_, _, _, _, _, _, before, after, htimestamp⟩ := Normalize.of_run_draft hdraft
  rw [Normalize.readTimestamp, hreceived] at htimestamp
  cases htimestamp
  rfl

namespace Envelope

variable {event : Envelope} {payload : Value}

/-- An event with an instant and a payload is stored with the milliseconds of the instant. -/
theorem exists_toRecord {m : Moment} (hread : Instant.readIso event.timestamp = .ok m)
    (hpayload : event.toPayload = .ok payload) (requestId : Value) :
    ∃ record, event.toRecord requestId = .ok record ∧
      record.member? "timestamp_epoch" = some (.int (epochMillis m.instant)) := by
  have hnone : Entries.get? (.string "timestamp_epoch") payload.entries = none := by
    rw [eq_entries_of_toPayload hpayload]
    exact Schema.Member.get?_entries_of_not_mem (by simp [members])
  unfold toRecord
  rw [hread, hpayload]
  refine ⟨_, rfl, ?_⟩
  exact (Entries.get?_append_of_none hnone).trans rfl

theorem toRecord_of_error {fault : InstantFault}
    (hread : Instant.readIso event.timestamp = .error fault) (requestId : Value) :
    event.toRecord requestId = .error (.timestamp fault) := by
  unfold toRecord
  rw [hread]
  rfl

end Envelope

theorem Transform.Builtin.run_toUnixTimestamp [Limits] {params : Entries} {v : Value} {millis : Int}
    (hread : Timestamp.read v (unitOf params) = .ok millis) :
    run .toUnixTimestamp params v = .ok (.int millis) := by
  rw [unitOf] at hread
  simp only [run, hread]
  rfl

open Transform in
/-- An event whose time of receipt has been accepted can be stored as soon as it has a payload, if a
clock of universal time can show the time.  It is stored with the milliseconds that are nearest to
the time, up to the rounding of floats.  A transformation of the time gives the same milliseconds,
if it does not take the time for a number and what it cuts off is less than half of one. -/
theorem received_event_persisted [Limits] {host : Host} {state : EngineState} {config : Config}
    {anyObject : Bool} {place : List Schema.Step} {v checked payload : Value} {text : String}
    {made : Envelope} (hcheck : ExternalEvent.shape.check anyObject place v = .ok checked)
    (hreceived : (ExternalEvent.ofChecked checked).receivedAt = some text)
    (hshown : ∀ wall, Iso.readLoose text = .ok wall → Calendar.inRange wall.instant = true)
    (hmade : ((Engine.normalize host (.ofChecked checked) config).run state).1 = .ok made)
    (hpayload : made.toPayload = .ok payload) (requestId : Value) (params : Entries) :
    ∃ m record millis, Instant.readIso text = .ok m ∧ made.toRecord requestId = .ok record ∧
      record.member? "timestamp_epoch" = some (.int millis) ∧
      (1000 * millis - m.instant).natAbs ≤ 500 + Envelope.roundingSlack m.instant ∧
      (Timestamp.isNumeric (Text.strip text).toList = false →
        m.instant.natAbs % 1000 + Envelope.roundingSlack m.instant < 500 →
        Builtin.run .toUnixTimestamp params (.string text) = .ok (.int millis)) := by
  have haccepts := ExternalEvent.accepts_of_check hcheck hreceived
  obtain ⟨wall, hwall⟩ : ∃ wall, Iso.readLoose text = .ok wall := by
    unfold Iso.accepts at haccepts
    split at haccepts
    next wall hwall => exact ⟨wall, hwall⟩
    next => cases haccepts
  have hrange := hshown wall hwall
  have hbounds := Calendar.inRange_iff.1 hrange
  have hread : Instant.readIso text = .ok ⟨wall.instant, some 0⟩ := by
    unfold Instant.readIso
    rw [hwall]
    dsimp only
    rw [Instant.universal, Moment.toUniversal?, if_pos hrange]
  have htimestamp := Engine.timestamp_of_normalize hmade hreceived
  obtain ⟨record, hrecord, hmember⟩ :=
    Envelope.exists_toRecord (htimestamp ▸ hread) hpayload requestId
  rw [Moment.instant_universal] at hmember
  refine ⟨_, record, _, hread, hrecord, hmember, ?_, ?_⟩
  · rw [Moment.instant_universal]
    exact Envelope.epochMillis_near (by omega)
  · intro hword hrest
    rw [Moment.instant_universal] at hrest
    have hdate : Timestamp.IsDate (.string text) ⟨wall.instant, some 0⟩ :=
      .text hword (Instant.read_of_readIso hread)
    rw [Builtin.run_toUnixTimestamp (hdate.read_eq _), Moment.instant_universal,
      Envelope.epochMillis_eq_ofInstant (by omega) hrest]

namespace PersistedWitness

local instance : Limits := .standard

open Transform

/-- The clock and the timer stand still. -/
def host : Host where
  tables := ⟨"tables.yaml", Yaml.reader⟩
  instruments := ⟨fun _ => ⟨1705314600000000, some 0⟩, fun _ => .zero false, fun _ => "evt-1"⟩
  registry := []

/-- Tables of one row have been loaded. -/
def state : EngineState where
  environment := []
  files := ⟨[], []⟩
  store := ⟨some ("tables.yaml",
    [Bundled.profile "webhook_generic" [Bundled.move "id" "event.id"]])⟩

def written (text : String) : Value :=
  .record [("format", .string "webhook_generic"), ("raw_payload", .dict [(.string "id", .int 1)]),
    ("received_at", .string text)]

/-- The event as it is checked. -/
def checked (text : String) : Value :=
  .record [("format", .string "webhook_generic"), ("raw_payload", .dict [(.string "id", .int 1)]),
    ("headers", .null), ("received_at", .string text), ("connector_metadata", .null)]

/-- What the engine makes of an event with that time of receipt. -/
def made (text : String) : Except EngineFault Envelope :=
  ((Engine.normalize host (.ofChecked (checked text)) {}).run state).1

/-- An event with that time of receipt is accepted and normalized to an event with a payload. -/
structure Receives (text : String) (event : Envelope) : Prop where
  accepted : ExternalEvent.shape.check false [] (written text) = .ok (checked text)
  received : (ExternalEvent.ofChecked (checked text)).receivedAt = some text
  normalized : made text = .ok event
  payload : ∃ payload, event.toPayload = .ok payload

/-- Whether there is an event, with a payload. -/
def hasPayload (result : Except EngineFault Envelope) : Bool :=
  match result with
  | .ok event => event.toPayload.toBool
  | .error _ => false

theorem exists_receives {text : String}
    (haccepted : ExternalEvent.shape.check false [] (written text) = .ok (checked text))
    (hmade : hasPayload (made text) = true) : ∃ event, Receives text event := by
  cases hresult : made text with
  | error fault =>
      rw [hresult] at hmade
      cases hmade
  | ok event =>
      rw [hresult, hasPayload] at hmade
      cases hpayload : event.toPayload with
      | error fault =>
          rw [hpayload] at hmade
          cases hmade
      | ok payload => exact ⟨event, haccepted, rfl, hresult, payload, hpayload⟩

theorem Receives.timestamp_eq {text : String} {event : Envelope} (hevent : Receives text event) :
    event.timestamp = text :=
  Engine.timestamp_of_normalize hevent.normalized hevent.received

/-- Less than half a millisecond before 1970, on a clock that shows 1970 already. -/
theorem received_event_persisted_before_epoch : ∃ event record,
    made "1970-01-01T00:59:59.999600+01:00" = .ok event ∧ event.toRecord .null = .ok record ∧
      record.member? "timestamp_epoch" = some (.int 0) ∧
      Builtin.run .toUnixTimestamp [] (.string "1970-01-01T00:59:59.999600+01:00") =
        .ok (.int 0) := by
  obtain ⟨event, haccepted, hreceived, hmade, payload, hpayload⟩ :=
    exists_receives (show ExternalEvent.shape.check false []
      (written "1970-01-01T00:59:59.999600+01:00") = _ from rfl) (by decide +kernel)
  have hwall : Iso.readLoose "1970-01-01T00:59:59.999600+01:00" =
      .ok ⟨3599999600, some 3600000000⟩ := by
    decide +kernel
  have hshown : ∀ wall, Iso.readLoose "1970-01-01T00:59:59.999600+01:00" = .ok wall →
      Calendar.inRange wall.instant = true := by
    intro wall hread
    rw [hwall] at hread
    cases hread
    decide
  obtain ⟨m, record, millis, hread, hrecord, hmember, hnear, hsame⟩ :=
    received_event_persisted haccepted hreceived hshown hmade hpayload .null []
  have hinstant : Instant.readIso "1970-01-01T00:59:59.999600+01:00" = .ok ⟨-400, some 0⟩ := by
    decide +kernel
  obtain rfl := Except.ok.inj (hinstant.symm.trans hread)
  rw [Moment.instant_universal] at hnear hsame
  have hslack : Envelope.roundingSlack (-400) = 0 := rfl
  obtain rfl : millis = 0 := by omega
  exact ⟨event, record, hmade, hrecord, hmember, hsame (by decide +kernel) (by decide)⟩

/-- The time of receipt is stored with other milliseconds than a transformation gives for it. -/
def StoredApart (text : String) (stored told : Int) : Prop :=
  ∃ event record, Receives text event ∧ event.toRecord .null = .ok record ∧
    record.member? "timestamp_epoch" = some (.int stored) ∧
    Builtin.run .toUnixTimestamp [] (.string text) = .ok (.int told) ∧ stored ≠ told

theorem storedApart_of {text : String} {m : Moment} {stored told : Int}
    (hevent : ∃ event, Receives text event) (hread : Instant.readIso text = .ok m)
    (hstored : Envelope.epochMillis m.instant = stored)
    (htold : Timestamp.read (.string text) (Builtin.unitOf []) = .ok told)
    (hne : stored ≠ told) : StoredApart text stored told := by
  obtain ⟨event, hevent⟩ := hevent
  obtain ⟨payload, hpayload⟩ := hevent.payload
  obtain ⟨record, hrecord, hmember⟩ :=
    Envelope.exists_toRecord (hevent.timestamp_eq ▸ hread) hpayload .null
  rw [hstored] at hmember
  exact ⟨event, record, hevent, hrecord, hmember, Builtin.run_toUnixTimestamp htold, hne⟩

/-- A day without dashes is a number to a transformation, and only the transformation cuts off the
greater half of a millisecond.  A time that a clock of universal time cannot show is accepted, but
not stored. -/
theorem received_time_stored_apart_or_refused :
    StoredApart "20240115" 1705276800000 20240115000 ∧
      StoredApart "2024-01-15T10:30:00.000600Z" 1705314600001 1705314600000 ∧
      ∃ event, Receives "0001-01-01T00:00:00+01:00" event ∧
        event.toRecord .null = .error (.timestamp (.overflow .date)) := by
  refine ⟨?_, ?_, ?_⟩
  · have hread : Instant.readIso "20240115" = .ok ⟨1705276800000000, some 0⟩ := by decide +kernel
    exact storedApart_of (exists_receives rfl (by decide +kernel)) hread (by decide +kernel)
      (by decide +kernel) (by decide)
  · have hread : Instant.readIso "2024-01-15T10:30:00.000600Z" =
        .ok ⟨1705314600000600, some 0⟩ := by
      decide +kernel
    exact storedApart_of (exists_receives rfl (by decide +kernel)) hread (by decide +kernel)
      (by decide +kernel) (by decide)
  · obtain ⟨event, hevent⟩ := exists_receives (show ExternalEvent.shape.check false []
      (written "0001-01-01T00:00:00+01:00") = _ from rfl) (by decide +kernel)
    have hread : Instant.readIso "0001-01-01T00:00:00+01:00" = .error (.overflow .date) := by
      decide +kernel
    exact ⟨event, hevent, Envelope.toRecord_of_error (hevent.timestamp_eq ▸ hread) .null⟩

end PersistedWitness

end EventIntake
