/-
Counters and restarts.  With a file that can be written, each recording leaves the counters in the
file, so that a restart at any time finds the service as it was.
-/
import EventIntake.Proofs.KeptCounters

namespace EventIntake

open Stateful

/-- What happens to the counters of a service. -/
inductive Operation where
  | record (recording : Recording)
  | restart

namespace Operation

def isRestart : Operation → Bool
  | .record _ => false
  | .restart => true

def recording? : Operation → Option Recording
  | .record recording => some recording
  | .restart => none

end Operation

/-- The tally of what operations have recorded. -/
def Tally.afterAll (tally : Tally) (operations : List Operation) : Tally :=
  tally.recordAll (operations.filterMap Operation.recording?)

namespace Service

variable [Limits]

/-- A restart: the counters start from zero and go on from those in their file. -/
def restart (host : Host) : Metering Unit := do
  resetCounters
  recallCounters host

def operate (host : Host) : Operation → Metering Unit
  | .record recording => record host recording
  | .restart => restart host

def operateAll (host : Host) : List Operation → Metering Unit
  | [] => return
  | operation :: rest => do
    operate host operation
    operateAll host rest

/-- The file of the counters is as the counters were left: there is none before anything has been
counted, and then it holds the text of the counters. -/
structure Keeps (host : Host) (path : String) (tally : Tally) (service : Service) : Prop where
  configured : ∃ settings, service.settings host = .ok settings ∧ settings.metricsFile = some path
  counted : service.counters = tally.counters
  distinct : tally.IsDistinct
  kept : ∃ place, service.engine.files.Leads path place ∧
    (tally = .zero ∧ service.engine.files.files.lookup place = none ∨
      ∃ text, countersText tally.counters = .ok text ∧
        service.engine.files.files.lookup place = some (Text.Utf8.encode text.toList))

namespace Keeps

variable {host : Host} {path : String} {tally : Tally} {service : Service}

/-- Whatever the counters are, recalling them from the file gives the tally. -/
theorem run_recallCounters (hkeeps : Keeps host path tally service)
    (hshort : tally.counters.tooLong = false) {below : Tally}
    (hbelow : below = tally ∨ below = .zero) :
    (recallCounters host).run { service with counters := below.counters } = (.ok (), service) := by
  obtain ⟨settings, hsettings, hpath⟩ := hkeeps.configured
  obtain ⟨place, hleads, hfile⟩ := hkeeps.kept
  have hmoved : Service.settings host { service with counters := below.counters } =
      .ok settings := hsettings
  have hservice : { service with counters := tally.counters } = service := by
    rw [← hkeeps.counted]
  rw [Service.run_recallCounters hmoved, hpath, Option.bind_some]
  dsimp only
  rw [hleads.textOf?_eq]
  rcases hfile with ⟨rfl, hnone⟩ | ⟨text, htext, hsome⟩
  · obtain rfl : below = .zero := hbelow.elim id id
    rw [hnone, hservice]
    rfl
  · obtain ⟨hplain, hread⟩ := Tally.read_countersText hkeeps.distinct hshort htext
    have htextOf : (Text.Utf8.decode (Text.Utf8.encode text.toList)).toOption.map
        (fun cs => String.ofList (Text.plainLines cs)) = some text := by
      rw [Text.Utf8.decode_encode, Except.toOption, Option.map_some,
        Text.plainLines_of_not_mem hplain, String.ofList_toList]
    rw [hsome, Option.bind_some, htextOf, recalled, Option.map_some, hread]
    dsimp only
    rw [Tally.merge_counters, Tally.complete_counters, hservice]

/-- A restart finds the service as it was. -/
theorem run_restart (hkeeps : Keeps host path tally service)
    (hshort : tally.counters.tooLong = false) :
    (restart host).run service = (.ok (), service) := by
  have hreset : resetCounters.run service =
      (.ok (), { service with counters := Tally.zero.counters }) := rfl
  rw [restart, run_bind_ok hreset]
  exact hkeeps.run_recallCounters hshort (.inr rfl)

/-- A recording is kept before it is over. -/
theorem run_record (hkeeps : Keeps host path tally service) (recording : Recording)
    (hshort : (tally.record recording).counters.tooLong = false) :
    ∃ next, (record host recording).run service = (.ok (), next) ∧
      Keeps host path (tally.record recording) next := by
  obtain ⟨settings, hsettings, hpath⟩ := hkeeps.configured
  obtain ⟨place, hleads, _⟩ := hkeeps.kept
  obtain ⟨text, htext⟩ := exists_countersText hshort
  have hmoved : Service.settings host
      { service with counters := (tally.record recording).counters } = .ok settings := hsettings
  rw [Service.run_record hkeeps.counted, run_keepCounters hmoved, hpath]
  dsimp only
  rw [htext]
  refine ⟨_, rfl, ?_⟩
  rw [withFile, hleads.write]
  exact {
    configured := ⟨settings, hsettings, hpath⟩
    counted := rfl
    distinct := hkeeps.distinct.record recording
    kept := ⟨place, hleads.of_directories rfl, .inr ⟨text, htext, by
      rw [Files.lookup_insert, if_pos rfl]⟩⟩ }

/-- Operations end in the same service with the restarts and without them. -/
theorem run_operateAll (hkeeps : Keeps host path tally service) {operations : List Operation}
    (hshort : ∀ earlier, earlier <+: operations →
      (tally.afterAll earlier).counters.tooLong = false) :
    ∃ reached, (operateAll host operations).run service = (.ok (), reached) ∧
      (operateAll host (operations.filter (!·.isRestart))).run service = (.ok (), reached) ∧
      Keeps host path (tally.afterAll operations) reached := by
  induction operations generalizing tally service with
  | nil => exact ⟨service, rfl, rfl, hkeeps⟩
  | cons operation rest ih =>
      have hnow := hshort [] List.nil_prefix
      cases operation with
      | restart =>
          obtain ⟨reached, hwith, hwithout, hreached⟩ := ih hkeeps fun earlier hearlier =>
            hshort (.restart :: earlier) (List.cons_prefix_cons.2 ⟨rfl, hearlier⟩)
          refine ⟨reached, ?_, hwithout, hreached⟩
          rw [operateAll, operate, run_bind_ok (hkeeps.run_restart hnow)]
          exact hwith
      | record recording =>
          have hnext := hshort [.record recording] (List.cons_prefix_cons.2 ⟨rfl, List.nil_prefix⟩)
          obtain ⟨next, hrecord, hkept⟩ := hkeeps.run_record recording hnext
          obtain ⟨reached, hwith, hwithout, hreached⟩ := ih hkept fun earlier hearlier =>
            hshort (.record recording :: earlier) (List.cons_prefix_cons.2 ⟨rfl, hearlier⟩)
          refine ⟨reached, ?_, ?_, hreached⟩
          · rw [operateAll, operate, run_bind_ok hrecord]
            exact hwith
          · rw [List.filter_cons_of_pos rfl, operateAll, operate, run_bind_ok hrecord]
            exact hwithout

end Keeps

end Service

/-- With a file of counters that can be written and is not there at first, recordings and restarts
in any order succeed, and after each of them the service is the same as without the restarts; so are
the counters as they stand.  There another restart, or recalling the counters once more, changes
nothing.  No count may get too long to be written. -/
theorem counters_survive_restarts [Limits] {host : Host} {settings : Settings} {service : Service}
    {path : String} (hsettings : service.settings host = .ok settings)
    (hpath : settings.metricsFile = some path) (hzero : service.counters = .zero)
    (habsent : service.engine.files.exists path = false)
    (hwritable : ∃ files, service.engine.files.write path [] = .ok files)
    {operations : List Operation}
    (hshort : ∀ earlier, earlier <+: operations →
      (Tally.zero.afterAll earlier).counters.tooLong = false) :
    ∀ earlier, earlier <+: operations →
      ∃ reached, (Service.operateAll host earlier).run service = (.ok (), reached) ∧
        (Service.operateAll host (earlier.filter (!·.isRestart))).run service =
          (.ok (), reached) ∧
        Service.snapshot.run reached =
          (.ok (.dict (Tally.zero.afterAll earlier).counters.entries), reached) ∧
        (Service.recallCounters host).run reached = (.ok (), reached) ∧
        (Service.restart host).run reached = (.ok (), reached) := by
  intro earlier hearlier
  obtain ⟨files, hwrite⟩ := hwritable
  obtain ⟨place, hleads⟩ := Files.exists_leads hwrite
  have hnone : service.engine.files.files.lookup place = none := by
    rw [hleads.exists_eq] at habsent
    exact Option.isNone_iff_eq_none.1 (by rw [← Option.not_isSome, habsent]; rfl)
  have hkeeps : Service.Keeps host path .zero service := {
    configured := ⟨settings, hsettings, hpath⟩
    counted := hzero
    distinct := Tally.isDistinct_zero
    kept := ⟨place, hleads, .inl ⟨rfl, hnone⟩⟩ }
  obtain ⟨reached, hwith, hwithout, hreached⟩ := hkeeps.run_operateAll fun before hbefore =>
    hshort before (hbefore.trans hearlier)
  have hnow := hshort earlier hearlier
  have hservice :
      { reached with counters := (Tally.zero.afterAll earlier).counters } = reached := by
    rw [← hreached.counted]
  have hrecall := hreached.run_recallCounters hnow (.inl rfl)
  rw [hservice] at hrecall
  refine ⟨reached, hwith, hwithout, ?_, hrecall, hreached.run_restart hnow⟩
  rw [Service.run_snapshot hreached.counted, Service.countersValue_of_tally hnow]

namespace SurvivingWitness

local instance : Limits := .standard

def host : Host where
  tables := ⟨"tables.yaml", Yaml.reader⟩
  instruments := ⟨fun _ => ⟨0, some 0⟩, fun _ => .zero false, fun _ => "evt-1"⟩
  registry := []

def settings : Settings :=
  ⟨"tables.yaml", 10485760, true, true, false, some "metrics.json", "INFO"⟩

/-- The directory of the file is there, and the file is not. -/
def service : Service where
  engine := {
    environment := [("EVENT_NORMALIZER_METRICS_FILE", "metrics.json")]
    files := ⟨[], ["."]⟩ }

/-- An event with a warning whose data are not valid. -/
def event : Envelope where
  id := "evt-1"
  kind := .unknown
  source := ⟨"webhook_generic", "webhook_generic", "webhook", "1.0", none⟩
  timestamp := "1970-01-01T00:00:00.000Z"
  data := []
  correlationId := none
  schemaVersion := "1.0"
  validation := ⟨false, "1.0", "1970-01-01T00:00:00.000Z", none⟩
  normalization := ⟨"webhook_generic", .unknown, [], none, some ["no rule matches"], 0⟩

def operations : List Operation :=
  [.restart, .record (.normalization event), .restart, .record .unsupportedFormat]

theorem counters_survive_restarts_of_two :
    service.settings host = .ok settings ∧ service.engine.files.exists "metrics.json" = false ∧
    (∃ files, service.engine.files.write "metrics.json" [] = .ok files) ∧
    (∀ earlier, earlier <+: operations →
      (Tally.zero.afterAll earlier).counters.tooLong = false) ∧
    ∃ reached, (Service.operateAll host operations).run service = (.ok (), reached) ∧
      (Service.operateAll host
        [.record (.normalization event), .record .unsupportedFormat]).run service =
          (.ok (), reached) ∧
      (Service.restart host).run reached = (.ok (), reached) := by
  have hsettings : service.settings host = .ok settings := by with_unfolding_all rfl
  have habsent : service.engine.files.exists "metrics.json" = false := by with_unfolding_all rfl
  have hwritable : ∃ files, service.engine.files.write "metrics.json" [] = .ok files :=
    ⟨⟨[("metrics.json", [])], ["."]⟩, by with_unfolding_all rfl⟩
  have hshort : ∀ earlier, earlier <+: operations →
      (Tally.zero.afterAll earlier).counters.tooLong = false := by
    have hcounts : ∀ n ≤ 4, (Tally.zero.afterAll (operations.take n)).counters.tooLong = false := by
      decide +kernel
    intro earlier hearlier
    rw [List.prefix_iff_eq_take.1 hearlier]
    exact hcounts _ hearlier.length_le
  obtain ⟨reached, hwith, hwithout, _, _, hrestart⟩ := counters_survive_restarts hsettings rfl rfl
    habsent hwritable hshort operations (List.prefix_refl operations)
  exact ⟨hsettings, habsent, hwritable, hshort, reached, hwith, hwithout, hrestart⟩

end SurvivingWitness

end EventIntake
