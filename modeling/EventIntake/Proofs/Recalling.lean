/-
Recalling counters from a file.  What is recalled is merged name by name, so the counters hold a
tally afterwards exactly if every member of the file is a counter of its kind; from then on
everything that is recorded is counted.
-/
import EventIntake.Proofs.JsonReading
import EventIntake.Proofs.Recording

namespace EventIntake

open Stateful

namespace Entries

variable {kind : Scalar → Prop} {entries : Entries} {key : Scalar} {v : Value}

theorem mem_of_get? (hget : get? key entries = some v) :
    ∃ same, (same, v) ∈ entries ∧ same.same key = true := by
  induction entries with
  | nil => cases hget
  | cons entry rest ih =>
      obtain ⟨first, w⟩ := entry
      rw [get?] at hget
      split at hget
      next hsame =>
        cases hget
        exact ⟨first, List.mem_cons_self, hsame⟩
      next =>
        obtain ⟨same, hmem, hsame⟩ := ih hget
        exact ⟨same, List.mem_cons_of_mem _ hmem, hsame⟩

/-- Entries laid over others leave a value where they have no key. -/
theorem get?_foldl_insert_of_not_mem {name : Scalar} (hmade : Entries.MadeOf kind entries)
    (htext : name.isText = true) (hname : name ∉ entries.map Prod.fst) (below : Entries) :
    get? name (entries.foldl (fun below (key, v) => insert key v below) below) =
      get? name below := by
  induction entries generalizing below with
  | nil => rfl
  | cons entry rest ih =>
      obtain ⟨first, w⟩ := entry
      rw [Entries.MadeOf] at hmade
      obtain ⟨hfirst, _, _, hrest⟩ := hmade
      rw [List.map_cons, List.mem_cons, not_or] at hname
      rw [List.foldl_cons, ih hrest hname.2]
      exact get?_insert_text_of_ne hfirst.isText htext hname.1 w below

/-- Entries laid over others are all found. -/
theorem get?_foldl_insert (hmade : Entries.MadeOf kind entries) (hmem : (key, v) ∈ entries)
    (below : Entries) :
    get? key (entries.foldl (fun below (key, v) => insert key v below) below) = some v := by
  induction entries generalizing below with
  | nil => cases hmem
  | cons entry rest ih =>
      obtain ⟨first, w⟩ := entry
      rw [Entries.MadeOf] at hmade
      obtain ⟨hkey, hfresh, _, hrest⟩ := hmade
      rw [List.foldl_cons]
      rcases List.mem_cons.1 hmem with hfirst | hlater
      · cases hfirst
        rw [get?_foldl_insert_of_not_mem hrest hkey.isText hfresh]
        exact get?_insert_text_self hkey.isText v below
      · exact ih hrest hlater _

end Entries

namespace Counters

/-- A member of a file that is a counter of its kind. -/
inductive Fits : Scalar → Value → Prop
  | total {name : String} {n : Int}
      (hname : name ∈ ["normalizations_total", "validation_failed_total",
        "unsupported_format_total", "warnings_total", "dropped_fields_total"]) :
      Fits (.string name) (.int n)
  | byName {name : String} {counts : Counts}
      (hname : name ∈ ["events_by_format", "events_by_type"]) :
      Fits (.string name) (.dict counts.entries)

/-- Every counter of a tally is of its kind. -/
theorem fits_of_mem {tally : Tally} {key : Scalar} {v : Value}
    (hmem : (key, v) ∈ tally.counters.entries) : Fits key v := by
  simp only [Tally.counters, Value.record, Value.entries, Value.entries?, Option.getD_some,
    List.map_cons, List.map_nil, List.mem_cons, Prod.mk.injEq, List.not_mem_nil, or_false] at hmem
  rcases hmem with ⟨rfl, rfl⟩ | ⟨rfl, rfl⟩ | ⟨rfl, rfl⟩ | ⟨rfl, rfl⟩ | ⟨rfl, rfl⟩ | ⟨rfl, rfl⟩ |
    ⟨rfl, rfl⟩
  · exact .total (by decide)
  · exact .total (by decide)
  · exact .total (by decide)
  · exact .total (by decide)
  · exact .total (by decide)
  · exact .byName (by decide)
  · exact .byName (by decide)

/-- A counter of its kind that is put into a tally gives a tally. -/
theorem Fits.exists_tally {key : Scalar} {v : Value} (hfits : Fits key v) (tally : Tally) :
    ∃ next : Tally, Entries.insert key v tally.counters.entries = next.counters.entries := by
  cases hfits with
  | @total name n hname =>
      simp only [List.mem_cons, List.not_mem_nil, or_false] at hname
      rcases hname with rfl | rfl | rfl | rfl | rfl
      · exact ⟨{ tally with normalized := n }, rfl⟩
      · exact ⟨{ tally with invalid := n }, rfl⟩
      · exact ⟨{ tally with unsupported := n }, rfl⟩
      · exact ⟨{ tally with warnings := n }, rfl⟩
      · exact ⟨{ tally with dropped := n }, rfl⟩
  | @byName name counts hname =>
      simp only [List.mem_cons, List.not_mem_nil, or_false] at hname
      rcases hname with rfl | rfl
      · exact ⟨{ tally with byFormat := counts }, rfl⟩
      · exact ⟨{ tally with byKind := counts }, rfl⟩

/-- A value that counters have stays when missing ones are put in. -/
theorem get?_complete {counters : Counters} {key : Scalar} {v : Value} (hkey : key.isText = true)
    (hget : Entries.get? key counters.entries = some v) :
    Entries.get? key counters.complete.entries = some v := by
  rw [complete]
  dsimp only
  refine List.foldlRecOn (motive := fun entries => Entries.get? key entries = some v)
    zeros _ hget ?_
  rintro entries hfound ⟨other, w⟩ _
  dsimp only
  split
  next => exact hfound
  next hmissing =>
    have hother : key ≠ .string other := by
      rintro rfl
      rw [Entries.has, hfound] at hmissing
      exact hmissing rfl
    rw [Entries.get?_insert_text_of_ne rfl hkey hother, hfound]

/-- Counters that are merged into a tally give one exactly if each of them is of its kind. -/
theorem exists_merge_iff {kind : Scalar → Prop} {entries : Entries}
    (hmade : Entries.MadeOf kind entries) (tally : Tally) :
    (∃ next : Tally, (tally.counters.merge entries).complete = next.counters) ↔
      ∀ key v, (key, v) ∈ entries → Fits key v := by
  constructor
  · rintro ⟨next, hnext⟩ key v hmem
    have hmerged := Entries.get?_foldl_insert hmade hmem tally.counters.entries
    have htext := (hmade.isKey (List.mem_map_of_mem hmem)).isText
    have hfound : Entries.get? key (tally.counters.merge entries).complete.entries = some v :=
      get?_complete htext hmerged
    rw [hnext] at hfound
    obtain ⟨same, hsame, hkey⟩ := Entries.mem_of_get? hfound
    rw [Scalar.same_text _ htext, decide_eq_true_eq] at hkey
    rw [hkey] at hsame
    exact fits_of_mem hsame
  · intro hfits
    have hfold : ∃ next : Tally, tally.counters.merge entries = next.counters := by
      clear hmade
      induction entries generalizing tally with
      | nil => exact ⟨tally, rfl⟩
      | cons entry rest ih =>
          obtain ⟨key, v⟩ := entry
          obtain ⟨next, hnext⟩ := (hfits key v List.mem_cons_self).exists_tally tally
          have hmerge : tally.counters.merge ((key, v) :: rest) = next.counters.merge rest := by
            rw [merge, List.foldl_cons]
            dsimp only
            rw [hnext, merge]
          rw [hmerge]
          exact ih next fun key v hmem => hfits key v (List.mem_cons_of_mem _ hmem)
    obtain ⟨next, hnext⟩ := hfold
    exact ⟨next, by rw [hnext, Tally.complete_counters]⟩

variable [Limits]

theorem madeOf_of_ofText? {text : String} {entries : Entries}
    (hread : ofText? text = .ok (some entries)) : Entries.MadeOf Scalar.IsJson entries := by
  obtain ⟨v, hvalue, hrest⟩ := Except.bind_eq_ok_iff.1 hread
  have hmade := (Json.fitsAt_of_read hvalue).1
  cases v with
  | dict others =>
      dsimp only at hrest
      split at hrest
      next =>
        cases hrest
        exact Value.madeOf_dict_iff.1 hmade
      next => cases hrest
  | _ => cases hrest

theorem ofText?_eq_tooDeep_iff {text : String} :
    ofText? text = .error .tooDeep ↔ Json.read text = .error .tooDeep := by
  rw [ofText?, Except.bind_eq_error_iff]
  refine ⟨fun h => h.resolve_right ?_, Or.inl⟩
  rintro ⟨v, _, hrest⟩
  cases v with
  | dict entries =>
      dsimp only at hrest
      split at hrest <;> cases hrest
  | _ => cases hrest

end Counters

namespace Service

variable {host : Host} {settings : Settings} {service : Service}

variable [Limits]

/-- What recalling makes of the counters, if the file holds counters. -/
def recalled (text? : Option String) (service : Service) : Except MetricsFault Unit × Service :=
  match text?.map Counters.ofText? with
  | some (.ok (some entries)) =>
    (.ok (), { service with counters := (service.counters.merge entries).complete })
  | some (.error .tooDeep) => (.error .tooDeep, service)
  | _ => (.ok (), service)

theorem run_recallCounters (hsettings : service.settings host = .ok settings) :
    (recallCounters host).run service =
      recalled (settings.metricsFile.bind (textOf? service.engine.files)) service := by
  rw [recallCounters, run_bind_ok (run_metricsFile hsettings)]
  cases settings.metricsFile with
  | none => rfl
  | some path =>
      have hget : (get : Metering Service).run service = (.ok service, service) := rfl
      dsimp only
      rw [run_bind_ok hget, Option.bind_some]
      cases textOf? service.engine.files path with
      | none => rfl
      | some text =>
          dsimp only
          rw [recalled, Option.map_some]
          rcases Counters.ofText? text with fault | _ | entries
          · cases fault <;> rfl
          · rfl
          · rfl

theorem settings_recalled (text? : Option String) :
    (recalled text? service).2.settings host = service.settings host := by
  unfold recalled
  split <;> rfl

/-- Recalling fails only on a file that is nested too deeply to be read. -/
theorem recalled_eq_ok_iff (text? : Option String) :
    (recalled text? service).1 = .ok () ↔ text?.map Json.read ≠ some (.error .tooDeep) := by
  have hread : text?.map Json.read = some (.error .tooDeep) ↔
      text?.map Counters.ofText? = some (.error .tooDeep) := by
    simp only [Option.map_eq_some_iff, Counters.ofText?_eq_tooDeep_iff]
  rw [ne_eq, hread, recalled]
  rcases text?.map Counters.ofText? with _ | fault | _ | entries
  · simp
  · cases fault <;> simp
  · simp
  · simp

/-- The counters hold a tally after recalling exactly if every member of a file of counters is one
of its kind. -/
theorem exists_recalled_iff {tally : Tally} (htally : service.counters = tally.counters)
    (text? : Option String) :
    (∃ next : Tally, (recalled text? service).2.counters = next.counters) ↔
      ∀ entries, text?.map Counters.ofText? = some (.ok (some entries)) →
        ∀ key v, (key, v) ∈ entries → Counters.Fits key v := by
  have hkept : ∃ next : Tally, service.counters = next.counters := ⟨tally, htally⟩
  rw [recalled]
  rcases hread : text?.map Counters.ofText? with _ | fault | _ | entries
  · simpa using hkept
  · cases fault <;> simpa using hkept
  · simpa using hkept
  · obtain ⟨text, _, htext⟩ := Option.map_eq_some_iff.1 hread
    have hmerge := Counters.exists_merge_iff (Counters.madeOf_of_ofText? htext) tally
    rw [← htally] at hmerge
    simpa using hmerge

end Service

/-- The counters hold a tally after their file has been recalled, whatever is in the file, exactly
if each of its members is a counter of its kind (or the file holds no counters at all); recalling
itself fails only on a file that is nested too deeply to be read.  From a tally on, everything that
is recorded is counted everywhere, and the answer about the counters is the tally, as long as no
count is too long to be written. -/
theorem recalled_counters_wellFormed_iff [Limits] {host : Host} {settings : Settings}
    {service : Service}
    {tally : Tally} (hsettings : service.settings host = .ok settings)
    (htally : service.counters = tally.counters) :
    let text? := settings.metricsFile.bind (Service.textOf? service.engine.files)
    let restored := (Service.recallCounters host).run service
    (restored.1 = .ok () ↔ text?.map Json.read ≠ some (.error .tooDeep)) ∧
    ((∃ next : Tally, restored.2.counters = next.counters) ↔
      ∀ entries, text?.map Counters.ofText? = some (.ok (some entries)) →
        ∀ key v, (key, v) ∈ entries → Counters.Fits key v) ∧
    ∀ next : Tally, restored.2.counters = next.counters → ∀ recordings : List Recording,
      let reached := restored.2.recorded host recordings
      let counted := next.recordAll recordings
      reached.counters = counted.counters ∧
      (Service.answerMetrics.run reached).1 =
        (if counted.counters.tooLong then .error (.metrics (.counter .tooLong))
          else .ok (.ofValue 200 (.dict counted.counters.entries))) ∧
      ∀ recording,
        let step := (Service.record host recording).run reached
        let more := counted.record recording
        step.2.counters = more.counters ∧
        step.1 =
          if settings.metricsFile.isSome && more.counters.tooLong then .error (.counter .tooLong)
          else .ok () := by
  intro text? restored
  have hrecall : restored = Service.recalled text? service := Service.run_recallCounters hsettings
  rw [hrecall]
  refine ⟨Service.recalled_eq_ok_iff text?, Service.exists_recalled_iff htally text?, ?_⟩
  intro next hnext recordings reached counted
  have hreadable : (Service.recalled text? service).2.settings host = .ok settings :=
    (Service.settings_recalled text?).trans hsettings
  obtain ⟨hcounters, hsettled⟩ := Service.recordedAll_of_tally hreadable hnext recordings
  refine ⟨hcounters, by rw [Service.run_answerMetrics hcounters], fun recording => ?_⟩
  obtain ⟨hmore, _, houtcome⟩ := Service.recorded_of_tally hsettled hcounters recording
  exact ⟨hmore, houtcome⟩

namespace RecallingWitness

local instance : Limits := .standard

def host : Host where
  tables := ⟨"tables.yaml", Yaml.reader⟩
  instruments := ⟨fun _ => ⟨0, some 0⟩, fun _ => .zero false, fun _ => "evt-1"⟩
  registry := []

def settings : Settings :=
  ⟨"tables.yaml", 10485760, true, true, false, some "metrics.json", "INFO"⟩

/-- A service whose file of counters holds a text. -/
def serviceWith (text : String) : Service where
  engine := {
    environment := [("EVENT_NORMALIZER_METRICS_FILE", "metrics.json")]
    files := ⟨[("metrics.json", Text.Utf8.encode text.toList)], ["."]⟩ }

/-- A file with a count. -/
def counted : String := "\x7b\"normalizations_total\": 7\x7d"

/-- A file with a text for a count. -/
def poisoned : String := "\x7b\"normalizations_total\": \"many\"\x7d"

theorem recalled_counters_wellFormed_iff_of_counted_and_poisoned :
    (∀ text, (serviceWith text).settings host = .ok settings) ∧
    (∀ text, (serviceWith text).counters = Tally.zero.counters) ∧
    (∃ next : Tally, ((Service.recallCounters host).run (serviceWith counted)).2.counters =
      next.counters) ∧
    ¬ ∃ next : Tally, ((Service.recallCounters host).run (serviceWith poisoned)).2.counters =
      next.counters := by
  have hread : Settings.read "tables.yaml" [("EVENT_NORMALIZER_METRICS_FILE", "metrics.json")] =
      .ok settings := by with_unfolding_all rfl
  have hsettings : ∀ text, (serviceWith text).settings host = .ok settings := fun _ => hread
  have hzero : ∀ text, (serviceWith text).counters = Tally.zero.counters := fun _ => rfl
  have hcounted : (settings.metricsFile.bind
      (Service.textOf? (serviceWith counted).engine.files)).map Counters.ofText? =
        some (.ok (some [(.string "normalizations_total", .int 7)])) := by
    with_unfolding_all rfl
  have hpoisoned : (settings.metricsFile.bind
      (Service.textOf? (serviceWith poisoned).engine.files)).map Counters.ofText? =
        some (.ok (some [(.string "normalizations_total", .string "many")])) := by
    with_unfolding_all rfl
  refine ⟨hsettings, hzero, ?_, ?_⟩
  · obtain ⟨_, hiff, _⟩ := recalled_counters_wellFormed_iff (hsettings counted) (hzero counted)
    refine hiff.2 fun entries hread key v hmem => ?_
    rw [hcounted] at hread
    cases hread
    cases List.mem_singleton.1 hmem
    exact .total (by decide)
  · obtain ⟨_, hiff, _⟩ := recalled_counters_wellFormed_iff (hsettings poisoned) (hzero poisoned)
    intro hnext
    have hfits := hiff.1 hnext _ hpoisoned _ _ (List.mem_singleton.2 rfl)
    cases hfits

end RecallingWitness

end EventIntake
