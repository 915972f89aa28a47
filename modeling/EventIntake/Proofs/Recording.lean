/-
Recording on counters that hold a tally: it succeeds and counts everywhere, unless a count gets too
long to be written, and the answer about the counters is the tally.
-/
import EventIntake.Proofs.Magnitudes
import EventIntake.Proofs.Payload
import EventIntake.Proofs.Serving
import EventIntake.Proofs.Tally

namespace EventIntake

open Stateful

inductive Recording where
  | normalization (event : Envelope)
  | unsupportedFormat

namespace Tally

def record (tally : Tally) : Recording → Tally
  | .normalization event => tally.countEvent event
  | .unsupportedFormat => tally.countUnsupported

def recordAll (tally : Tally) (recordings : List Recording) : Tally :=
  recordings.foldl record tally

/-- No count is too long to be written. -/
structure IsShort (tally : Tally) : Prop where
  normalized : (Scalar.int tally.normalized).isTooLong = false
  invalid : (Scalar.int tally.invalid).isTooLong = false
  unsupported : (Scalar.int tally.unsupported).isTooLong = false
  warnings : (Scalar.int tally.warnings).isTooLong = false
  dropped : (Scalar.int tally.dropped).isTooLong = false
  byFormat : ∀ count ∈ tally.byFormat, (Scalar.int count.2).isTooLong = false
  byKind : ∀ count ∈ tally.byKind, (Scalar.int count.2).isTooLong = false

theorem any_isTooLong_entries {counts : Counts} :
    counts.entries.any (fun (_, v) => Counters.isTooLong v) = false ↔
      ∀ count ∈ counts, (Scalar.int count.2).isTooLong = false := by
  simp [Counts.entries, List.any_map, List.any_eq_false, Counters.isTooLong]

theorem isShort_of_tooLong {tally : Tally} (hshort : tally.counters.tooLong = false) :
    tally.IsShort := by
  simp only [Counters.tooLong, counters, Value.record, Value.entries, Value.entries?,
    Option.getD_some, List.map_cons, List.map_nil, List.any_cons, List.any_nil,
    Bool.or_eq_false_iff, Option.getD_none, any_isTooLong_entries] at hshort
  obtain ⟨hnormalized, hinvalid, hunsupported, hwarnings, hdropped, hformat, hkind, _⟩ := hshort
  exact ⟨hnormalized.1, hinvalid.1, hunsupported.1, hwarnings.1, hdropped.1, hformat.2, hkind.2⟩

end Tally

namespace Service

variable {host : Host} {settings : Settings} {service : Service} {tally : Tally}

section

variable [Limits]

def record (host : Host) : Recording → Metering Unit
  | .normalization event => countEvent host event
  | .unsupportedFormat => countUnsupported host

/-- The service after recordings, whether they could be kept or not. -/
def recorded (host : Host) (recordings : List Recording) (service : Service) : Service :=
  recordings.foldl (fun service recording => ((record host recording).run service).2) service

theorem exists_writeEntries_counts (layout : Json.Layout) (level : Nat) {counts : Counts}
    (hshort : ∀ count ∈ counts, (Scalar.int count.2).isTooLong = false) :
    ∃ text : String, layout.writeEntries level counts.entries = .ok text := by
  induction counts with
  | nil => exact ⟨_, rfl⟩
  | cons count rest ih =>
      obtain ⟨hcount, hrest⟩ := List.forall_mem_cons.1 hshort
      obtain ⟨text, htext⟩ := ih hrest
      rw [Counts.entries] at htext
      rw [Counts.entries, List.map_cons, Json.Layout.writeEntries, htext, Json.Layout.writeAt,
        layout.scalar_int hcount]
      exact ⟨_, rfl⟩

theorem exists_writeAt_counts (layout : Json.Layout) {level : Nat} (hlevel : level < Limits.writing)
    {counts : Counts} (hshort : ∀ count ∈ counts, (Scalar.int count.2).isTooLong = false) :
    ∃ text : String, layout.writeAt level (.dict counts.entries) = .ok text := by
  cases counts with
  | nil => exact ⟨_, rfl⟩
  | cons count rest =>
      obtain ⟨hcount, hrest⟩ := List.forall_mem_cons.1 hshort
      obtain ⟨text, htext⟩ := exists_writeEntries_counts layout (level + 1) hrest
      rw [Counts.entries] at htext
      rw [Counts.entries, List.map_cons, Json.Layout.writeAt, if_neg (by omega), htext,
        Json.Layout.writeAt, layout.scalar_int hcount]
      exact ⟨_, rfl⟩

/-- Counters that hold a tally can be written, if no count is too long. -/
theorem exists_countersText (hshort : tally.counters.tooLong = false) :
    ∃ text, countersText tally.counters = .ok text := by
  have hroom := Limits.le_writing
  have hlevel : 0 + 1 < Limits.writing := by omega
  have htop : ¬ Limits.writing ≤ 0 := by omega
  have hcounts := Tally.isShort_of_tooLong hshort
  obtain ⟨byFormat, hformat⟩ := exists_writeAt_counts Json.pretty hlevel hcounts.byFormat
  obtain ⟨byKind, hkind⟩ := exists_writeAt_counts Json.pretty hlevel hcounts.byKind
  rw [countersText, hshort, Counters.toText, Json.Layout.write, Tally.counters]
  simp only [Value.record, Value.entries, Value.entries?, Option.getD_some, List.map_cons,
    List.map_nil, Json.Layout.writeAt, htop, Json.Layout.writeEntries, hformat, hkind,
    Json.pretty.scalar_int hcounts.normalized, Json.pretty.scalar_int hcounts.invalid,
    Json.pretty.scalar_int hcounts.unsupported, Json.pretty.scalar_int hcounts.warnings,
    Json.pretty.scalar_int hcounts.dropped]
  exact ⟨_, rfl⟩

theorem run_count {counting : Counting Unit} {counters : Counters}
    (hcount : counting.run service.counters = (.ok (), counters)) :
    (count host counting).run service = (keepCounters host).run { service with counters } := by
  have hget : (get : Metering Service).run service = (.ok service, service) := rfl
  rw [count, run_bind_ok hget, hcount]
  rfl

theorem run_record (htally : service.counters = tally.counters) (recording : Recording) :
    (record host recording).run service =
      (keepCounters host).run { service with counters := (tally.record recording).counters } := by
  cases recording with
  | normalization event =>
      have hcount := Counters.run_countEvent tally event
      rw [← htally] at hcount
      rw [record, countEvent, run_count hcount, Tally.record]
  | unsupportedFormat =>
      have hcount := Counters.run_countUnsupported tally
      rw [← htally] at hcount
      rw [record, countUnsupported, run_count hcount, Tally.record]

/-- A recording is counted everywhere, and fails only where a count gets too long for the file. -/
theorem recorded_of_tally (hsettings : service.settings host = .ok settings)
    (htally : service.counters = tally.counters) (recording : Recording) :
    ((record host recording).run service).2.counters = (tally.record recording).counters ∧
      ((record host recording).run service).2.settings host = .ok settings ∧
      ((record host recording).run service).1 =
        if settings.metricsFile.isSome && (tally.record recording).counters.tooLong then
          .error (.counter .tooLong)
        else .ok () := by
  have hmoved : Service.settings host
      { service with counters := (tally.record recording).counters } = .ok settings := hsettings
  rw [run_record htally, run_keepCounters hmoved]
  cases settings.metricsFile with
  | none => exact ⟨rfl, hsettings, by simp⟩
  | some path =>
      cases hlong : (tally.record recording).counters.tooLong with
      | true =>
          have hfault : countersText (tally.record recording).counters =
              .error (.counter .tooLong) := by
            rw [countersText, hlong, if_pos rfl]
          dsimp only
          rw [hfault]
          exact ⟨rfl, hsettings, by simp⟩
      | false =>
          obtain ⟨text, htext⟩ := exists_countersText hlong
          simp only [htext]
          exact ⟨counters_withFile path text, (settings_withFile path text).trans hmoved, by simp⟩

/-- Whatever is recorded, the counters go on holding a tally. -/
theorem recordedAll_of_tally (hsettings : service.settings host = .ok settings)
    (htally : service.counters = tally.counters) (recordings : List Recording) :
    (service.recorded host recordings).counters = (tally.recordAll recordings).counters ∧
      (service.recorded host recordings).settings host = .ok settings := by
  induction recordings generalizing service tally with
  | nil => exact ⟨htally, hsettings⟩
  | cons recording rest ih =>
      obtain ⟨hnext, hreadable, _⟩ := recorded_of_tally hsettings htally recording
      exact ih hreadable hnext

end

theorem depth_counts_le (counts : Counts) : (Value.dict counts.entries).depth ≤ 1 := by
  have hscalars : Value.depthOfEntries counts.entries ≤ 0 := by
    rw [Value.depthOfEntries_le_iff]
    intro entry hentry
    obtain ⟨count, _, rfl⟩ := List.mem_map.1 hentry
    simp
  rw [Value.depth]
  omega

theorem depth_counters_le (tally : Tally) : (Value.dict tally.counters.entries).depth ≤ 2 := by
  have hentries : Value.depthOfEntries tally.counters.entries ≤ 1 := by
    rw [Value.depthOfEntries_le_iff]
    simp [Tally.counters, Value.record, Value.entries, Value.entries?, depth_counts_le]
  rw [Value.depth]
  omega

theorem countersValue_of_tally [Limits] (hshort : tally.counters.tooLong = false) :
    countersValue tally.counters = .ok (.dict tally.counters.entries) := by
  have hdepth := depth_counters_le tally
  have hwritten := Limits.le_writing
  have hread := Limits.le_reading
  rw [countersValue, hshort, if_neg Bool.false_ne_true, if_neg (by omega)]

/-- Looking at counters that hold a tally leaves them as they are. -/
theorem run_snapshot [Limits] (htally : service.counters = tally.counters) :
    snapshot.run service = (countersValue tally.counters, service) := by
  have hcomplete : (modify fun service : Service =>
      { service with counters := service.counters.complete } : Metering PUnit).run service =
        (.ok (), service) := by
    have hsame : service.counters.complete = service.counters := by
      rw [htally, Tally.complete_counters]
    change (Except.ok PUnit.unit, { service with counters := service.counters.complete }) = _
    rw [hsame]
  have hget : (get : Metering Service).run service = (.ok service, service) := rfl
  rw [snapshot, run_bind_ok hcomplete, run_bind_ok hget, htally]
  cases countersValue tally.counters <;> rfl

open Schema in
/-- Counters that hold a tally have the shape of an answer. -/
theorem check_metricsResponse (tally : Tally) (anyObject : Bool) (place : List Step) :
    Contract.metricsResponse.check anyObject place (.dict tally.counters.entries) =
      .ok (.dict tally.counters.entries) := by
  have hcounts : ∀ (counts : Counts) (anyObject : Bool) (place : List Step),
      (Shape.dict .integer).check anyObject place (.dict counts.entries) =
        .ok (.dict counts.entries) := by
    intro counts anyObject place
    refine check_dict ?_ ?_
    · intro entry hentry
      obtain ⟨count, _, rfl⟩ := List.mem_map.1 hentry
      rfl
    · intro entry hentry
      obtain ⟨count, _, rfl⟩ := List.mem_map.1 hentry
      exact fun _ => rfl
  have hfits : List.Forall₂ Member.Fits [
      .always "normalizations_total" (.int tally.normalized),
      .always "validation_failed_total" (.int tally.invalid),
      .always "unsupported_format_total" (.int tally.unsupported),
      .always "warnings_total" (.int tally.warnings),
      .always "dropped_fields_total" (.int tally.dropped),
      .always "events_by_format" (.dict tally.byFormat.entries),
      .always "events_by_type" (.dict tally.byKind.entries)] [
      ("normalizations_total", .integer, none), ("validation_failed_total", .integer, none),
      ("unsupported_format_total", .integer, none), ("warnings_total", .integer, none),
      ("dropped_fields_total", .integer, none), ("events_by_format", .dict .integer, none),
      ("events_by_type", .dict .integer, none)] := by
    have htotal : ∀ (name : String) (n : Int),
        (Member.always name (.int n)).Fits (name, .integer, none) :=
      fun _ _ => ⟨rfl, fun _ _ => rfl⟩
    have hnamed : ∀ (name : String) (counts : Counts),
        (Member.always name (.dict counts.entries)).Fits (name, .dict .integer, none) :=
      fun _ counts => ⟨rfl, hcounts counts⟩
    simp [htotal, hnamed]
  have hnames : ["normalizations_total", "validation_failed_total", "unsupported_format_total",
      "warnings_total", "dropped_fields_total", "events_by_format", "events_by_type"].Nodup := by
    decide
  exact check_record hfits hnames "MetricsResponse" anyObject place

theorem entriesWhole_counts (counts : Counts) : Value.entriesWhole counts.entries = true := by
  induction counts with
  | nil => rfl
  | cons count rest ih => exact ih

theorem isWhole_counters (tally : Tally) :
    (Value.dict tally.counters.entries).isWhole = true := by
  simp [Tally.counters, Value.record, Value.entries, Value.entries?, Value.isWhole,
    Value.entriesWhole, Scalar.isWhole, entriesWhole_counts]

/-- Who asks for counters that hold a tally is answered with it, unless a count is too long. -/
theorem run_answerMetrics [Limits] (htally : service.counters = tally.counters) :
    answerMetrics.run service =
      (if tally.counters.tooLong then .error (.metrics (.counter .tooLong))
        else .ok (.ofValue 200 (.dict tally.counters.entries)), service) := by
  rw [answerMetrics, run_bind_ok (run_attempt _ _), run_snapshot htally]
  cases hlong : tally.counters.tooLong with
  | true =>
      have hfault : countersValue tally.counters = .error (.counter .tooLong) := by
        rw [countersValue, hlong, if_pos rfl]
      rw [hfault]
      rfl
  | false =>
      rw [countersValue_of_tally hlong]
      dsimp only
      rw [check_metricsResponse]
      dsimp only
      rw [if_pos (isWhole_counters tally)]
      rfl

end Service

end EventIntake
