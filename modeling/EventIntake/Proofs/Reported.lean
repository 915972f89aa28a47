/-
The counts that are reported of a canonical event.  They are taken from what the event shows, so a
list that a configuration does not show counts as empty; warnings are always shown.  The counters of
a service grow by the same counts.
-/
import EventIntake.Proofs.Rows
import EventIntake.Proofs.Switches

namespace EventIntake

open Stateful

namespace Mapping

/-- What there is to count where a table is applied. -/
structure Figures where
  applied : Nat
  dropped : Nat
  warnings : Nat
deriving DecidableEq, Repr

variable [Limits]

/-- The rows of a table that a payload is applied to, the leaf paths of the payload that are the
source of none of them, and the warnings of all rows. -/
def figures (scope : TransformScope) (table : List Row) (payload : Entries) : Figures where
  applied := table.countP fun row => (row.write? scope (.dict payload)).isSome
  dropped := (Path.leaves payload "").countP fun path =>
    !table.any fun row => (row.write? scope (.dict payload)).isSome && row.source == path
  warnings := (table.flatMap (Row.warnings scope (.dict payload))).length

variable {scope : TransformScope} {table : List Row} {source : Value} {mapped : Mapped}

theorem source_of_write? {payload : Value} {row : Row} {write : Write}
    (hwrite : row.write? scope payload = some write) : write.row = row := by
  obtain ⟨v, _, _, rfl⟩ := Row.write?_eq_some_iff.1 hwrite
  rfl

/-- The sources of the writes are those of the rows that write. -/
theorem contains_sources_eq (scope : TransformScope) (table : List Row) (payload : Value)
    (path : String) :
    ((writes scope payload table).map fun write => write.row.source).contains path =
      table.any fun row => (row.write? scope payload).isSome && row.source == path := by
  induction table with
  | nil => rfl
  | cons row rest ih =>
      rw [List.any_cons, ← ih, writes, List.filterMap_cons]
      cases hwrite : row.write? scope payload with
      | none => simp [writes]
      | some write =>
          rw [List.map_cons, List.contains_cons, source_of_write? hwrite]
          simp [writes, Bool.beq_comm]

theorem length_writes_eq (scope : TransformScope) (table : List Row) (payload : Value) :
    (writes scope payload table).length =
      table.countP fun row => (row.write? scope payload).isSome := by
  rw [writes, List.length_filterMap_eq_countP]

/-- The lists that applying a table gives are as long as the figures say. -/
theorem figures_of_apply (happly : apply scope table source = .ok mapped) :
    figures scope table source.entries =
      ⟨mapped.applied.length, mapped.dropped.length, mapped.warnings.length⟩ := by
  rw [apply_eq happly, figures, ← length_writes_eq, List.length_map, ← List.countP_eq_length_filter]
  simp only [contains_sources_eq]

end Mapping

namespace Normalize

/-- The counts of a finished event: rows and leaf paths count where they are shown. -/
theorem counts_finish [Limits] {setting : Setting} {format : Format} {event : ExternalEvent}
    {readings : Readings} {made : Draft} {figures : Mapping.Figures}
    (hdraft : ((draft setting format event).run readings).1 = .ok made)
    (hfigures : figures =
      ⟨made.mapped.applied.length, made.mapped.dropped.length, made.mapped.warnings.length⟩)
    (config : Config) :
    ((made.finish config).normalization.mappings.length =
        if config.includeFieldMappings then figures.applied else 0) ∧
      (((made.finish config).normalization.dropped.getD []).length =
        if config.includeDroppedFields then figures.dropped else 0) ∧
      ((made.finish config).normalization.warnings.getD []).length = figures.warnings := by
  subst hfigures
  obtain ⟨_, _, _, _, _, hwarnings, _⟩ := of_run_draft hdraft
  have hshows := Envelope.shows_finish made config
  refine ⟨?_, ?_, ?_⟩
  · rw [hshows.mappings]
    split <;> rfl
  · rw [hshows.dropped]
    split <;> rfl
  · have hsame : (made.finish config).normalization.warnings = made.event.normalization.warnings :=
      rfl
    rw [hsame, hwarnings]
    split
    next hempty => rw [List.isEmpty_iff.1 hempty]; rfl
    next => exact List.length_map _

end Normalize

namespace Engine

variable {host : Host} {event : ExternalEvent} {state looked : EngineState} {format : Format}
  {table : List Row} {draft : Normalize.Draft}

/-- An engine that comes to a draft under one configuration finishes it under any other one with the
same pipelines. -/
theorem normalize_of_draft [Limits] {config other : Config}
    (hpipelines : other.pipelines = config.pipelines)
    (hformat : (supported event.format).run state = (.ok format, state))
    (htable : (Engine.table host event.format).run state = (.ok table, looked))
    (hdraft : ((Normalize.draft ⟨host.instruments, host.registry, table, config⟩ format event).run
      looked.readings).1 = .ok draft) :
    ((normalize host event other).run state).1 = .ok (draft.finish other) := by
  rcases hrun : (Normalize.draft ⟨host.instruments, host.registry, table, config⟩ format event).run
    looked.readings with ⟨outcome, readings⟩
  rw [hrun] at hdraft
  obtain rfl : outcome = .ok draft := hdraft
  rw [normalize, run_bind_ok hformat, run_bind_ok htable, run_normalizeBy,
    Normalize.run_eq_draft, Normalize.draft_eq_of_pipelines hpipelines, run_bind_ok hrun]
  rfl

end Engine

/-- The counts that are reported of an event, and what it adds to the counters.  Of the rows that
its payload was applied to, and of the leaf paths that none of them took, all are counted if the
configuration shows them, and else none; the warnings are always counted.  So of the two switches
each changes one count: whatever a configuration shows, the event is made in the same cases, takes
the same time, and is counted as the same but for the fields dropped. -/
theorem counts_tell_what_is_shown [Limits] {host : Host} {state : EngineState}
    {event : ExternalEvent}
    {config : Config} {made : Envelope}
    (hmade : ((Engine.normalize host event config).run state).1 = .ok made) :
    ∃ table figures,
      ((Engine.table host event.format).run state).1 = .ok table ∧
      figures = Mapping.figures ⟨host.registry, config.pipelines.getD [], ⟨event.format⟩⟩ table
        event.payload.entries ∧
      ∀ mappings dropped : Bool, ∃ other,
        ((Engine.normalize host event { config with
          includeFieldMappings := mappings, includeDroppedFields := dropped }).run state).1 =
            .ok other ∧
        other.normalization.counts = .record [
          ("processing_time_ms", .int made.normalization.processingMillis),
          ("field_mappings_applied", .int (if mappings then figures.applied else 0)),
          ("fields_dropped", .int (if dropped then figures.dropped else 0)),
          ("warnings_count", .int figures.warnings)] ∧
        ∀ (service : Service) (tally : Tally), service.counters = tally.counters →
          ((Service.countEvent host other).run service).2.counters =
            ({ tally.countEvent made with
                warnings := tally.warnings + figures.warnings
                dropped := tally.dropped + if dropped then figures.dropped else 0 } :
              Tally).counters := by
  obtain ⟨format, table, looked, draft, hformat, htable, hdraft, rfl⟩ := Engine.exists_draft hmade
  obtain ⟨hmapped, _⟩ := Normalize.of_run_draft hdraft
  have hfigures := Mapping.figures_of_apply (Except.mapError_eq_ok_iff.1 hmapped)
  refine ⟨table, _, congrArg Prod.fst htable, rfl, fun mappings dropped => ?_⟩
  obtain ⟨happlied, hdropped, hwarnings⟩ := Normalize.counts_finish hdraft hfigures
    { config with includeFieldMappings := mappings, includeDroppedFields := dropped }
  refine ⟨_, Engine.normalize_of_draft rfl hformat htable hdraft, ?_, ?_⟩
  · rw [Normalization.counts, happlied, hdropped, hwarnings]
    cases mappings <;> cases dropped <;> rfl
  · intro service tally htally
    rw [Service.holds_run_countEvent _ htally, Tally.countEvent, hdropped, hwarnings]
    cases dropped <;> rfl

namespace ReportedWitness

local instance : Limits := .standard

/-- The clock and the timer stand still. -/
def host : Host where
  tables := ⟨"tables.yaml", Yaml.reader⟩
  instruments := ⟨fun _ => ⟨1705314600000000, some 0⟩, fun _ => .zero false, fun _ => "evt-1"⟩
  registry := []

/-- Tables of one row have been loaded. -/
def state : EngineState where
  environment := []
  files := ⟨[], []⟩
  store := ⟨some ("tables.yaml",
    [Bundled.profile "webhook_generic" [Bundled.move "id" "event.id"]])⟩

/-- An event with a field that is mapped and one that is not. -/
def event : ExternalEvent where
  format := "webhook_generic"
  payload := .dict [(.string "id", .int 7), (.string "extra", .int 1)]
  headers := none
  receivedAt := none
  connector := none

/-- Nothing is shown. -/
def silent : Config := { includeDroppedFields := false, includeFieldMappings := false }

/-- How many rows, leaf paths and warnings an event shows. -/
def lengths? (result : Except EngineFault Envelope) : Option (Nat × Nat × Nat) :=
  match result with
  | .ok made =>
    some (made.normalization.mappings.length, (made.normalization.dropped.getD []).length,
      (made.normalization.warnings.getD []).length)
  | .error _ => none

theorem of_lengths? {result : Except EngineFault Envelope} {applied dropped warnings : Nat}
    (hlengths : lengths? result = some (applied, dropped, warnings)) :
    ∃ made, result = .ok made ∧ (made.normalization.dropped.getD []).length = dropped ∧
      made.normalization.counts = .record [
        ("processing_time_ms", .int made.normalization.processingMillis),
        ("field_mappings_applied", .int applied), ("fields_dropped", .int dropped),
        ("warnings_count", .int warnings)] := by
  rcases result with fault | made
  · cases hlengths
  · cases hlengths
    exact ⟨made, rfl, rfl, rfl⟩

/-- What there is to count by a table. -/
def figures? (result : Except EngineFault (List Row)) : Option Mapping.Figures :=
  match result with
  | .ok table => some (Mapping.figures ⟨[], [], ⟨event.format⟩⟩ table event.payload.entries)
  | .error _ => none

theorem of_figures? {result : Except EngineFault (List Row)} {figures : Mapping.Figures}
    (hfigures : figures? result = some figures) :
    ∃ table, result = .ok table ∧
      Mapping.figures ⟨[], [], ⟨event.format⟩⟩ table event.payload.entries = figures := by
  rcases result with fault | table
  · cases hfigures
  · cases hfigures
    exact ⟨table, rfl, rfl⟩

theorem lengths_shown :
    lengths? ((Engine.normalize host event {}).run state).1 = some (1, 1, 0) := by
  decide +kernel

theorem lengths_silent :
    lengths? ((Engine.normalize host event silent).run state).1 = some (0, 0, 0) := by
  decide +kernel

theorem figures_event :
    figures? ((Engine.table host event.format).run state).1 = some ⟨1, 1, 0⟩ := by
  decide +kernel

/-- Of one row that was applied and one leaf path that was dropped nothing is reported where they
are not shown, so that the counts of the same event differ, and with them the counters. -/
theorem hidden_lists_are_not_counted :
    ∃ table shown hidden,
      ((Engine.table host event.format).run state).1 = .ok table ∧
      Mapping.figures ⟨[], [], ⟨event.format⟩⟩ table event.payload.entries = ⟨1, 1, 0⟩ ∧
      ((Engine.normalize host event {}).run state).1 = .ok shown ∧
      ((Engine.normalize host event { ({} : Config) with
        includeFieldMappings := false, includeDroppedFields := false }).run state).1 =
          .ok hidden ∧
      hidden.normalization.counts = .record [
        ("processing_time_ms", .int hidden.normalization.processingMillis),
        ("field_mappings_applied", .int 0), ("fields_dropped", .int 0),
        ("warnings_count", .int 0)] ∧
      shown.normalization.counts ≠ hidden.normalization.counts ∧
      (Tally.zero.countEvent shown).dropped = 1 ∧ (Tally.zero.countEvent hidden).dropped = 0 := by
  obtain ⟨table, htable, hfigures⟩ := of_figures? figures_event
  obtain ⟨shown, hshown, hone, hcounts⟩ := of_lengths? lengths_shown
  obtain ⟨hidden, hhidden, hnone, hzeros⟩ := of_lengths? lengths_silent
  refine ⟨table, shown, hidden, htable, hfigures, hshown, hhidden, hzeros, ?_, ?_, ?_⟩
  · intro hsame
    rw [hcounts, hzeros] at hsame
    have hdropped := congrArg (Value.member? "fields_dropped") hsame
    cases hdropped
  · rw [Tally.countEvent, hone]
    rfl
  · rw [Tally.countEvent, hnone]
    rfl

/-- What the event with the field dropped reports under each choice of what is shown. -/
theorem counts_tell_what_is_shown_of_extra :
    ∃ made, ((Engine.normalize host event {}).run state).1 = .ok made ∧
      ∀ mappings dropped : Bool, ∃ other,
        ((Engine.normalize host event { ({} : Config) with
          includeFieldMappings := mappings, includeDroppedFields := dropped }).run state).1 =
            .ok other ∧
        other.normalization.counts = .record [
          ("processing_time_ms", .int made.normalization.processingMillis),
          ("field_mappings_applied", .int (if mappings then 1 else 0)),
          ("fields_dropped", .int (if dropped then 1 else 0)), ("warnings_count", .int 0)] := by
  obtain ⟨made, hmade, _⟩ := of_lengths? lengths_shown
  obtain ⟨known, hknown, hone⟩ := of_figures? figures_event
  obtain ⟨table, figures, htable, hfigures, hswitches⟩ := counts_tell_what_is_shown hmade
  obtain rfl : table = known := Except.ok.inj (htable.symm.trans hknown)
  have hfigures : figures = ⟨1, 1, 0⟩ := hfigures.trans hone
  subst hfigures
  refine ⟨made, hmade, fun mappings dropped => ?_⟩
  obtain ⟨other, hother, hcounts, _⟩ := hswitches mappings dropped
  exact ⟨other, hother, hcounts⟩

end ReportedWitness

end EventIntake
