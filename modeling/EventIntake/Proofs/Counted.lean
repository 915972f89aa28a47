/-
The counters over a run of requests: what they hold is what has become of the requests, however
these were answered and whatever configurations they asked for.
-/
import EventIntake.Mapping.Bundled
import EventIntake.Proofs.JsonTables
import EventIntake.Proofs.Serving
import EventIntake.Proofs.Tally

namespace EventIntake

open Stateful

/-- What becomes of a request with an event. -/
inductive Handling where
  | normalized (event : Envelope)
  | inspected
  | unsupported

namespace Handling

def event? : Handling → Option Envelope
  | .normalized event => some event
  | .inspected => none
  | .unsupported => none

/-- A tally with what has become of a request. -/
def count (tally : Tally) : Handling → Tally
  | .normalized event => tally.countEvent event
  | .inspected => tally
  | .unsupported => tally.countUnsupported

end Handling

namespace Request

def isFor (endpoint : Endpoint) (request : Request) : Bool :=
  match request.endpoint with
  | .ok other => endpoint = other
  | .error _ => false

variable [Limits]

def isSupported (request : Request) : Bool :=
  match EventRequest.ofBody request.body with
  | .ok asked => (Format.ofName? asked.event.format).isSome
  | .error _ => false

/-- Whether a request is for a canonical event, of a supported format. -/
def isNormalized (request : Request) : Bool := request.isFor .normalize && request.isSupported

end Request

namespace Engine

variable {host : Host} {event : ExternalEvent} {config : Config}

/-- A fault that is not about the format. -/
def IsLater (fault : EngineFault) : Prop := ∀ name, fault ≠ .unsupported name

theorem failsOnly_table (format : String) : FailsOnly IsLater (table host format) := by
  have hload : FailsOnly IsLater (load host false) := by
    refine FailsOnly.get_bind fun state => ?_
    cases state.store.load host.tables state.environment state.files false with
    | ok loaded => exact fun _ _ hfault => by cases hfault
    | error fault => exact fun _ _ hfault _ => by cases hfault; simp
  refine hload.bind fun profiles => ?_
  cases Profile.table profiles (.string format) with
  | ok rows => exact .ofExcept fun _ hfault => by cases hfault
  | error fault => exact .ofExcept fun _ hfault _ => by cases hfault; simp

theorem failsOnly_normalizeBy [Limits] (format : Format) (table : List Row) :
    FailsOnly IsLater (normalizeBy host format table event config) := by
  intro state fault hfault name
  rw [run_normalizeBy] at hfault
  dsimp only at hfault
  cases houtcome : ((Normalize.run ⟨host.instruments, host.registry, table, config⟩ format
    event).run state.readings).1 with
  | ok envelope =>
      rw [houtcome] at hfault
      cases hfault
  | error stopped =>
      rw [houtcome] at hfault
      cases hfault
      simp

/-- What an engine that starts with the format of an event ends with tells whether the format is
supported. -/
theorem isSome_of_supported {α : Type} {next : Format → Engine α} {state : EngineState}
    (hnext : ∀ format, FailsOnly IsLater (next format)) :
    (∀ a, ((supported event.format >>= next).run state).1 = .ok a →
      (Format.ofName? event.format).isSome = true) ∧
    (∀ name, ((supported event.format >>= next).run state).1 = .error (.unsupported name) →
      (Format.ofName? event.format).isSome = false) := by
  unfold supported
  cases Format.ofName? event.format with
  | none => exact ⟨fun _ hok => (nomatch hok), fun _ _ => rfl⟩
  | some format =>
      exact ⟨fun _ _ => rfl, fun name herror => absurd rfl (hnext format state _ herror name)⟩

variable [Limits]

theorem isSome_of_normalize {state : EngineState} :
    (∀ a, ((normalize host event config).run state).1 = .ok a →
      (Format.ofName? event.format).isSome = true) ∧
    (∀ name, ((normalize host event config).run state).1 = .error (.unsupported name) →
      (Format.ofName? event.format).isSome = false) :=
  isSome_of_supported fun format =>
    (failsOnly_table event.format).bind fun table => failsOnly_normalizeBy format table

theorem isSome_of_inspect {state : EngineState} :
    (∀ a, ((inspect host event config).run state).1 = .ok a →
      (Format.ofName? event.format).isSome = true) ∧
    (∀ name, ((inspect host event config).run state).1 = .error (.unsupported name) →
      (Format.ofName? event.format).isSome = false) :=
  isSome_of_supported fun format =>
    (failsOnly_table event.format).bind fun table =>
      (failsOnly_normalizeBy format table).bind fun _ =>
        .ofExcept fun _ hfault => by cases hfault

end Engine

namespace Service

variable {host : Host} {service : Service} {request : Request}

section

variable [Limits]

/-- A request asks a service for something with an event, under a configuration. -/
structure Asks (host : Host) (service : Service) (request : Request) (endpoint : Endpoint)
    (asked : EventRequest) (config : Config) : Prop where
  endpoint : request.endpoint = .ok endpoint
  body : EventRequest.ofBody request.body = .ok asked
  config : ∃ settings, service.settings host = .ok settings ∧ config = asked.effective settings

/-- What a service makes of a request, where its engine returns or finds that the format is not
supported. -/
inductive Handles (host : Host) (service : Service) (request : Request) : Handling → Prop
  | normalized {asked : EventRequest} {config : Config} {event : Envelope}
      (hasks : Asks host service request .normalize asked config)
      (houtcome : ((Engine.normalize host asked.event config).run service.engine).1 = .ok event) :
      Handles host service request (.normalized event)
  | inspected {asked : EventRequest} {config : Config} {inspection : Engine.Inspection}
      (hasks : Asks host service request .inspect asked config)
      (houtcome :
        ((Engine.inspect host asked.event config).run service.engine).1 = .ok inspection) :
      Handles host service request .inspected
  | notNormalized {asked : EventRequest} {config : Config} {format : String}
      (hasks : Asks host service request .normalize asked config)
      (houtcome : ((Engine.normalize host asked.event config).run service.engine).1 =
        .error (.unsupported format)) :
      Handles host service request .unsupported
  | notInspected {asked : EventRequest} {config : Config} {format : String}
      (hasks : Asks host service request .inspect asked config)
      (houtcome : ((Engine.inspect host asked.event config).run service.engine).1 =
        .error (.unsupported format)) :
      Handles host service request .unsupported

/-- What a service makes of one request after the other. -/
inductive HandlesAll (host : Host) : Service → List Request → List Handling → Prop
  | nil {service : Service} : HandlesAll host service [] []
  | cons {service : Service} {request : Request} {requests : List Request} {handling : Handling}
      {handlings : List Handling} (hfirst : Handles host service request handling)
      (hrest : HandlesAll host ((answer host request).run service).2 requests handlings) :
      HandlesAll host service (request :: requests) (handling :: handlings)

theorem Asks.isFor_eq {endpoint other : Endpoint} {asked : EventRequest} {config : Config}
    (hasks : Asks host service request endpoint asked config) :
    request.isFor other = decide (other = endpoint) := by
  rw [Request.isFor, hasks.endpoint]

theorem Asks.isSupported_eq {endpoint : Endpoint} {asked : EventRequest} {config : Config}
    (hasks : Asks host service request endpoint asked config) :
    request.isSupported = (Format.ofName? asked.event.format).isSome := by
  rw [Request.isSupported, hasks.body]

theorem Asks.run_answerNormalize {asked : EventRequest} {config : Config}
    (hasks : Asks host service request .normalize asked config) :
    (answer host request).run service = (answerNormalize host asked).run service := by
  simp only [answer, hasks.endpoint, answerEvent, hasks.body]

theorem Asks.run_answerInspect {asked : EventRequest} {config : Config}
    (hasks : Asks host service request .inspect asked config) :
    (answer host request).run service = (answerInspect host asked).run service := by
  simp only [answer, hasks.endpoint, answerEvent, hasks.body]

end

/-- The counters of the service are the given ones. -/
def Holds (counters : Counters) (service : Service) : Prop := service.counters = counters

theorem Holds.of_engine {counters : Counters} (hholds : service.Holds counters)
    (engine : EngineState) : Holds counters { service with engine } := hholds

variable [Limits]

/-- Keeping the counters leaves them as they are. -/
theorem keeps_keepCounters_holds (counters : Counters) :
    Keeps (Holds counters) (keepCounters host) := by
  have hfile : Keeps (Holds counters) (metricsFile host) := by
    refine Keeps.get.bind fun service => ?_
    cases service.settings host with
    | ok settings => exact .ofExcept _
    | error fault => exact .ofExcept _
  refine hfile.bind fun path? => ?_
  cases path? with
  | none => exact .ofExcept _
  | some path =>
      refine Keeps.get_bind fun service hcounters => ?_
      cases countersText service.counters with
      | error fault => exact hcounters
      | ok text =>
          dsimp only
          cases service.engine.files.write path (Text.Utf8.encode text.toList) with
          | ok files => exact hcounters
          | error fault => exact hcounters

/-- A service that counts holds what counting leaves, whether that can be kept or not. -/
theorem holds_run_count {counting : Counting Unit} {outcome : Except CounterFault Unit}
    {counters : Counters} (hcount : counting.run service.counters = (outcome, counters)) :
    ((count host counting).run service).2.Holds counters := by
  have hget : (get : Metering Service).run service = (.ok service, service) := rfl
  rw [count, run_bind_ok hget, hcount]
  cases outcome with
  | error fault => rfl
  | ok => exact keeps_keepCounters_holds counters { service with counters } rfl

theorem run_engineResult_unsupported {α : Type} {run : Engine α} {format : String}
    (hrun : (run.run service.engine).1 = .error (.unsupported format)) :
    (engineResult host run).run service =
      (.ok (.error (unsupported format)),
        ((countUnsupported host).run
          { service with engine := (run.run service.engine).2 }).2) := by
  rw [engineResult, run_bind_ok (run_attempt _ _), run_runEngine, hrun]
  exact run_bind_ok (run_bestEffort _)

variable {handling : Handling} {tally : Tally}

theorem holds_run_countEvent (event : Envelope) (htally : service.Holds tally.counters) :
    ((countEvent host event).run service).2.Holds (tally.countEvent event).counters :=
  holds_run_count (by rw [htally]; exact Counters.run_countEvent tally event)

theorem holds_run_countUnsupported (htally : service.Holds tally.counters) :
    ((countUnsupported host).run service).2.Holds tally.countUnsupported.counters :=
  holds_run_count (by rw [htally]; exact Counters.run_countUnsupported tally)

/-- A request is counted once for what has become of it, whatever its answer is. -/
theorem Handles.holds_run_answer (hhandles : Handles host service request handling)
    (htally : service.Holds tally.counters) :
    ((answer host request).run service).2.Holds (handling.count tally).counters := by
  cases hhandles with
  | @normalized asked config event hasks houtcome =>
      obtain ⟨settings, hsettings, rfl⟩ := hasks.config
      rw [hasks.run_answerNormalize, run_answerNormalize_of_ok hsettings houtcome]
      exact holds_run_countEvent event (htally.of_engine _)
  | @inspected asked config inspection hasks houtcome =>
      obtain ⟨settings, hsettings, rfl⟩ := hasks.config
      rw [hasks.run_answerInspect, answerInspect, run_bind_ok (run_effectiveConfig hsettings),
        run_bind_ok (run_engineResult_ok houtcome)]
      exact ((keeps_payloadOf inspection.event).bind fun payload =>
        (keeps_success _ _).bind fun response => keeps_tell asked _ response) _
        (htally.of_engine _)
  | notNormalized hasks houtcome =>
      obtain ⟨settings, hsettings, rfl⟩ := hasks.config
      rw [hasks.run_answerNormalize, answerNormalize, run_bind_ok (run_effectiveConfig hsettings),
        run_bind_ok (run_engineResult_unsupported houtcome)]
      dsimp only
      rw [run_tell]
      exact holds_run_countUnsupported (htally.of_engine _)
  | notInspected hasks houtcome =>
      obtain ⟨settings, hsettings, rfl⟩ := hasks.config
      rw [hasks.run_answerInspect, answerInspect, run_bind_ok (run_effectiveConfig hsettings),
        run_bind_ok (run_engineResult_unsupported houtcome)]
      dsimp only
      rw [run_tell]
      exact holds_run_countUnsupported (htally.of_engine _)

end Service

/-- What a tally tells of some requests and the events that they have been normalized to. -/
structure Tally.Tells [Limits] (requests : List Request) (events : List Envelope) (tally : Tally) :
    Prop where
  asked : tally.normalized = requests.countP Request.isNormalized
  normalized : tally.normalized = events.length
  invalid : tally.invalid = events.countP fun event => !event.validation.validated
  unsupported : tally.unsupported = requests.countP fun request => !request.isSupported
  warnings : tally.warnings =
    (events.flatMap fun event => event.normalization.warnings.getD []).length
  dropped : tally.dropped =
    (events.flatMap fun event => event.normalization.dropped.getD []).length
  byFormat : Counts.Tell (events.map fun event => event.source.format) tally.byFormat
  byKind : Counts.Tell (events.map fun event => event.kind.name) tally.byKind

namespace Tally

variable {requests : List Request} {events : List Envelope} {tally : Tally} {request : Request}

variable [Limits]

theorem tells_zero : zero.Tells [] [] :=
  ⟨rfl, rfl, rfl, rfl, rfl, rfl, Counts.tell_nil, Counts.tell_nil⟩

theorem Tells.countEvent (htells : tally.Tells requests events) (event : Envelope)
    (hnormalized : request.isNormalized = true) (hsupported : request.isSupported = true) :
    (tally.countEvent event).Tells (requests ++ [request]) (events ++ [event]) where
  asked := by simp [Tally.countEvent, htells.asked, hnormalized]
  normalized := by simp [Tally.countEvent, htells.normalized]
  invalid := by
    cases hvalidated : event.validation.validated with
    | true => simp [Tally.countEvent, htells.invalid, hvalidated]
    | false => simp [Tally.countEvent, htells.invalid, hvalidated]
  unsupported := by simp [Tally.countEvent, htells.unsupported, hsupported]
  warnings := by simp [Tally.countEvent, htells.warnings]
  dropped := by simp [Tally.countEvent, htells.dropped]
  byFormat := by
    simpa [Tally.countEvent] using htells.byFormat.more event.source.format
  byKind := by simpa [Tally.countEvent] using htells.byKind.more event.kind.name

theorem Tells.inspect (htells : tally.Tells requests events)
    (hnormalized : request.isNormalized = false) (hsupported : request.isSupported = true) :
    tally.Tells (requests ++ [request]) events :=
  { htells with
    asked := by simp [htells.asked, hnormalized]
    unsupported := by simp [htells.unsupported, hsupported] }

theorem Tells.countUnsupported (htells : tally.Tells requests events)
    (hnormalized : request.isNormalized = false) (hsupported : request.isSupported = false) :
    tally.countUnsupported.Tells (requests ++ [request]) events :=
  { htells with
    asked := by simp [Tally.countUnsupported, htells.asked, hnormalized]
    unsupported := by simp [Tally.countUnsupported, htells.unsupported, hsupported] }

end Tally

namespace Service

variable {host : Host} {service : Service} {request : Request} {handling : Handling}

variable [Limits]

/-- What has become of a request fits what it asks for. -/
theorem Handles.tells_count (hhandles : Handles host service request handling) {tally : Tally}
    {requests : List Request} {events : List Envelope} (htells : tally.Tells requests events) :
    (handling.count tally).Tells (requests ++ [request]) (events ++ handling.event?.toList) := by
  cases hhandles with
  | normalized hasks houtcome =>
      have hsupported : request.isSupported = true := by
        rw [hasks.isSupported_eq, Engine.isSome_of_normalize.1 _ houtcome]
      refine htells.countEvent _ ?_ hsupported
      rw [Request.isNormalized, hasks.isFor_eq, hsupported]
      rfl
  | inspected hasks houtcome =>
      have hsupported : request.isSupported = true := by
        rw [hasks.isSupported_eq, Engine.isSome_of_inspect.1 _ houtcome]
      rw [Handling.event?, Option.toList_none, List.append_nil]
      refine htells.inspect ?_ hsupported
      rw [Request.isNormalized, hasks.isFor_eq]
      rfl
  | notNormalized hasks houtcome =>
      have hsupported : request.isSupported = false := by
        rw [hasks.isSupported_eq, Engine.isSome_of_normalize.2 _ houtcome]
      rw [Handling.event?, Option.toList_none, List.append_nil]
      refine htells.countUnsupported ?_ hsupported
      rw [Request.isNormalized, hsupported, Bool.and_false]
  | notInspected hasks houtcome =>
      have hsupported : request.isSupported = false := by
        rw [hasks.isSupported_eq, Engine.isSome_of_inspect.2 _ houtcome]
      rw [Handling.event?, Option.toList_none, List.append_nil]
      refine htells.countUnsupported ?_ hsupported
      rw [Request.isNormalized, hsupported, Bool.and_false]

/-- Only an inspection is made of a request to inspect an event of a supported format. -/
theorem Handles.eq_inspected (hhandles : Handles host service request handling)
    (hinspect : request.isFor .inspect = true) (hsupported : request.isSupported = true) :
    handling = .inspected := by
  cases hhandles with
  | normalized hasks houtcome =>
      rw [hasks.isFor_eq] at hinspect
      cases hinspect
  | inspected hasks houtcome => rfl
  | notNormalized hasks houtcome =>
      rw [hasks.isFor_eq] at hinspect
      cases hinspect
  | notInspected hasks houtcome =>
      rw [hasks.isSupported_eq, Engine.isSome_of_inspect.2 _ houtcome] at hsupported
      cases hsupported

theorem HandlesAll.tells_after {requests : List Request} {handlings : List Handling}
    (hhandles : HandlesAll host service requests handlings) {tally : Tally}
    {earlier : List Request} {events : List Envelope} (htally : service.Holds tally.counters)
    (htells : tally.Tells earlier events) :
    ∃ reached : Tally, (service.after host requests).Holds reached.counters ∧
      reached.Tells (earlier ++ requests) (events ++ handlings.filterMap Handling.event?) := by
  induction hhandles generalizing tally earlier events with
  | nil => exact ⟨tally, htally, by simpa using htells⟩
  | @cons service request requests handling handlings hfirst hrest ih =>
      obtain ⟨reached, hholds, hreached⟩ :=
        ih (hfirst.holds_run_answer htally) (hfirst.tells_count htells)
      have hevents : handling.event?.toList ++ handlings.filterMap Handling.event? =
          (handling :: handlings).filterMap Handling.event? := by
        cases handling <;> rfl
      rw [List.append_assoc, List.append_assoc, hevents] at hreached
      exact ⟨reached, hholds, hreached⟩

/-- A request in a run finds a tally, and what becomes of it is counted on that. -/
theorem HandlesAll.exists_handles {earlier later : List Request} {handlings : List Handling}
    (hhandles : HandlesAll host service (earlier ++ request :: later) handlings) {tally : Tally}
    (htally : service.Holds tally.counters) :
    ∃ (handling : Handling) (reached : Tally),
      Handles host (service.after host earlier) request handling ∧
      (service.after host earlier).Holds reached.counters := by
  induction earlier generalizing service handlings tally with
  | nil =>
      cases hhandles with
      | cons hfirst hrest => exact ⟨_, tally, hfirst, htally⟩
  | cons first rest ih =>
      cases hhandles with
      | cons hfirst hrest => exact ih hrest (hfirst.holds_run_answer htally)

end Service

/-- Over every run of requests that the engine handles, from counters at zero, the counters tell
the truth: each request for a canonical event of a supported format is counted once, under its
format and its kind, with its warnings and dropped fields and whether its data were valid; each
request of an unsupported format is counted as such, to whichever endpoint it came; and an
inspection of a supported format is not counted at all. -/
theorem counters_tell_truth [Limits] {host : Host} {service : Service} {requests : List Request}
    {handlings : List Handling} (hzero : service.counters = .zero)
    (hhandles : Service.HandlesAll host service requests handlings) :
    (∃ tally : Tally, (service.after host requests).counters = tally.counters ∧
      tally.Tells requests (handlings.filterMap Handling.event?)) ∧
    ∀ earlier request later, requests = earlier ++ request :: later →
      request.isFor .inspect = true → request.isSupported = true →
      (service.after host (earlier ++ [request])).counters =
        (service.after host earlier).counters := by
  have hholds : service.Holds Tally.zero.counters := hzero
  refine ⟨hhandles.tells_after hholds Tally.tells_zero, ?_⟩
  rintro earlier request later rfl hinspect hsupported
  obtain ⟨handling, tally, hhandled, htally⟩ := hhandles.exists_handles hholds
  obtain rfl := hhandled.eq_inspected hinspect hsupported
  have hafter : (service.after host (earlier ++ [request])).Holds tally.counters := by
    rw [Service.after, List.foldl_append]
    exact hhandled.holds_run_answer htally
  exact Eq.trans hafter (Eq.symm htally)

namespace CountedWitness

local instance : Limits := .standard

/-- The clock and the timer stand still. -/
def host : Host where
  tables := ⟨"tables.yaml", Json.parser⟩
  instruments := ⟨fun _ => ⟨1705314600000000, some 0⟩, fun _ => .zero false, fun _ => "evt-1"⟩
  registry := []

/-- Tables of one row. -/
def tables : Profiles := [Bundled.profile "webhook_generic" [Bundled.move "id" "event.id"]]

/-- The tables are in their file, and have been loaded. -/
def service : Service where
  engine := {
    environment := []
    files := ⟨[("tables.yaml", tables.jsonBytes)], ["."]⟩
    store := ⟨some ("tables.yaml", tables)⟩ }

def settings : Settings := ⟨"tables.yaml", 10485760, true, true, false, none, "INFO"⟩

/-- A request with an event that is empty. -/
def requestOf (path format : String) : Request where
  method := "POST"
  path
  body := "\x7b\"event\":\x7b\"format\":\"" ++ format ++ "\"\x7d\x7d"
  received := ⟨1705314600000000, some 0⟩

def normalizing : Request := requestOf "/normalize" "webhook_generic"

def inspecting : Request := requestOf "/inspect" "webhook_generic"

def refused : Request := requestOf "/inspect" "fax"

def asked (format : String) : EventRequest where
  event := ⟨format, .null, none, none, none⟩
  written := .record [("format", .string format)]
  sent := []
  config := none

theorem ready : service.Ready host settings tables := by
  have hexact : (Value.dict tables).MadeOf Scalar.IsExact := by
    simp [tables, Bundled.profile, Bundled.move, Value.record, Value.MadeOf, Value.AllMadeOf,
      Entries.MadeOf, Scalar.IsExact]
  have hleads : service.engine.files.Leads "tables.yaml" "tables.yaml" :=
    ⟨by decide +kernel, rfl⟩
  have hfile : Profiles.ofFile Json.parser service.engine.files "tables.yaml" = .ok tables :=
    Profiles.ofFile_of_jsonBytes hexact (by decide) (by rw [hleads.read_eq]; rfl)
  refine ⟨rfl, rfl, hfile, fun _ hloaded => ?_, fun _ _ hpath => by cases hpath⟩
  cases hloaded
  rfl

theorem exists_of_isOk {ε α : Type} {outcome : Except ε α} (hok : outcome.isOk = true) :
    ∃ a, outcome = .ok a := by
  cases outcome with
  | ok a => exact ⟨a, rfl⟩
  | error fault => cases hok

/-- A run of three requests, of which one is counted as normalized and one as refused. -/
theorem counters_tell_truth_of_three :
    service.counters = .zero ∧ ∃ event,
      Service.HandlesAll host service [normalizing, inspecting, refused]
        [.normalized event, .inspected, .unsupported] ∧
      ∃ tally : Tally,
        (service.after host [normalizing, inspecting, refused]).counters = tally.counters ∧
        tally.normalized = 1 ∧ tally.unsupported = 1 ∧
        tally.byFormat.lookup event.source.format = some 1 := by
  have hbody : EventRequest.ofBody normalizing.body = .ok (asked "webhook_generic") := by
    with_unfolding_all rfl
  have hrefused : EventRequest.ofBody refused.body = .ok (asked "fax") := by
    with_unfolding_all rfl
  obtain ⟨event, hevent⟩ : ∃ event, ((Engine.normalize host (asked "webhook_generic").event
      settings.config).run service.engine).1 = .ok event :=
    exists_of_isOk (by decide +kernel)
  obtain ⟨inspection, hinspection⟩ : ∃ inspection,
      ((Engine.inspect host (asked "webhook_generic").event settings.config).run
        (service.after host [normalizing]).engine).1 = .ok inspection :=
    exists_of_isOk (by decide +kernel)
  have hhandles : Service.HandlesAll host service [normalizing, inspecting, refused]
      [.normalized event, .inspected, .unsupported] := by
    refine .cons (.normalized ⟨rfl, hbody, settings, rfl, rfl⟩ hevent) ?_
    refine .cons (.inspected ⟨rfl, hbody, settings, ?_, rfl⟩ hinspection) ?_
    · exact (Service.ready_after [normalizing] ready).readable
    refine .cons (.notInspected ⟨rfl, hrefused, settings, ?_, rfl⟩ rfl) .nil
    exact (Service.ready_after [normalizing, inspecting] ready).readable
  refine ⟨rfl, event, hhandles, ?_⟩
  have hevents : [Handling.normalized event, .inspected, .unsupported].filterMap
      Handling.event? = [event] := rfl
  obtain ⟨⟨tally, htally, htells⟩, _⟩ := counters_tell_truth rfl hhandles
  rw [hevents] at htells
  have hunsupported : [normalizing, inspecting, refused].countP
      (fun request => !request.isSupported) = 1 := by decide +kernel
  refine ⟨tally, htally, htells.normalized, ?_, ?_⟩
  · rw [htells.unsupported, hunsupported]
    rfl
  · rw [htells.byFormat.lookup]
    simp

end CountedWitness

end EventIntake
