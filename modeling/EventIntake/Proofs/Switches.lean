/-
What configurations choose.  Two configurations with the same pipelines, which meet an event in the
same circumstances, make the same event of it but for what each of them shows: the rows applied, the
fields dropped, and whether the data are too large.  Strictness changes only how a service answers.
-/
import EventIntake.Proofs.Counted
import EventIntake.Proofs.Normalizing
import EventIntake.Proofs.Payload

namespace EventIntake

open Stateful

namespace Normalize

/-- An event before a configuration has chosen what it shows, with what is chosen from. -/
structure Draft where
  event : Envelope
  mapped : Mapped
  size : Nat
  found : List DataIssue

namespace Draft

/-- What is wrong with the data under a limit of their size. -/
def issues (draft : Draft) (limit : Int) : List DataIssue :=
  DataCheck.sizeIssues draft.size limit ++ draft.found

/-- The event that a configuration makes of a draft. -/
def finish (draft : Draft) (config : Config) : Envelope :=
  let issues := draft.issues config.maxPayloadBytes
  { draft.event with
    validation := { draft.event.validation with
      validated := issues.isEmpty
      errors := if issues.isEmpty then none else some issues }
    normalization := { draft.event.normalization with
      mappings := if config.includeFieldMappings then draft.mapped.applied else []
      dropped := if config.includeDroppedFields then some draft.mapped.dropped else none } }

end Draft

variable [Limits]

/-- Normalizing up to where the configuration chooses what is shown. -/
def draft (setting : Setting) (format : Format) (event : ExternalEvent) : Measured Draft := do
  let started ← readTimer setting.instruments
  let timestamp ← readTimestamp setting.instruments event
  let mapped ← mapPayload setting event
  let kind := format.detect event.payload
  let size ← (DataCheck.size (.dict mapped.data)).mapError NormalizeFault.check
  let found ← (DataCheck.allIssues (.dict mapped.data) kind format.checks).mapError
    NormalizeFault.check
  let source ← Normalize.source format event
  let validatedAt ← readClock setting.instruments
  let stopped ← readTimer setting.instruments
  let millis ← elapsedMillis started stopped
  let id ← takeIdentifier setting.instruments
  let bare : Envelope := {
    id
    kind
    source
    timestamp
    data := mapped.data
    correlationId := event.correlationId?
    schemaVersion := Envelope.version
    validation := {
      validated := true
      validatorVersion := Validation.version
      timestamp := validatedAt
      errors := none }
    normalization := {
      sourceFormat := event.format
      targetKind := kind
      mappings := []
      dropped := none
      warnings :=
        if mapped.warnings.isEmpty then none else some (mapped.warnings.map Warning.message)
      processingMillis := millis } }
  return ⟨bare, mapped, size, found⟩

theorem lift_run (checks : List DataCheck) (data : Value) (kind : EventKind) (limit : Int) :
    (liftM ((DataCheck.run checks data kind limit).mapError NormalizeFault.check) :
      Measured (List DataIssue)) = (do
        let size ← (DataCheck.size data).mapError NormalizeFault.check
        let found ← (DataCheck.allIssues data kind checks).mapError NormalizeFault.check
        return DataCheck.sizeIssues size limit ++ found) := by
  rw [DataCheck.run]
  cases DataCheck.size data with
  | error fault => rfl
  | ok size =>
      cases DataCheck.allIssues data kind checks with
      | error fault => rfl
      | ok found => rfl

theorem run_eq_draft (setting : Setting) (format : Format) (event : ExternalEvent) :
    run setting format event =
      (do return (← draft setting format event).finish setting.config) := by
  rw [run_eq]
  simp only [draft, complete, lift_run, bind_assoc, pure_bind]
  rfl

/-- Of the configuration only the pipelines go into a draft. -/
theorem draft_eq_of_pipelines {config other : Config}
    (hpipelines : other.pipelines = config.pipelines) (instruments : Instruments)
    (registry : Transform.Registry) (table : List Row)
    (format : Format) (event : ExternalEvent) :
    draft ⟨instruments, registry, table, other⟩ format event =
      draft ⟨instruments, registry, table, config⟩ format event := by
  have hmapped : mapPayload ⟨instruments, registry, table, other⟩ event =
      mapPayload ⟨instruments, registry, table, config⟩ event := by
    rw [mapPayload, mapPayload, hpipelines]
  rw [draft, draft, hmapped]

/-- A draft is of what the payload is mapped to, with the warnings of that, of the kind that it is
detected as, and of the time that is read for the event. -/
theorem of_run_draft {setting : Setting} {format : Format} {event : ExternalEvent}
    {readings : Readings} {made : Draft}
    (hdraft : ((draft setting format event).run readings).1 = .ok made) :
    mapPayload setting event = .ok made.mapped ∧
      DataCheck.size (.dict made.mapped.data) = .ok made.size ∧
      DataCheck.allIssues (.dict made.mapped.data) (format.detect event.payload) format.checks =
        .ok made.found ∧
      made.event.data = made.mapped.data ∧ made.event.kind = format.detect event.payload ∧
      made.event.normalization.warnings = (if made.mapped.warnings.isEmpty then none
        else some (made.mapped.warnings.map Warning.message)) ∧
      ∃ before after, (readTimestamp setting.instruments event).run before =
        (.ok made.event.timestamp, after) := by
  rw [draft] at hdraft
  obtain ⟨started, _, _, hdraft⟩ := exists_of_run_bind hdraft
  obtain ⟨timestamp, _, htimestamp, hdraft⟩ := exists_of_run_bind hdraft
  obtain ⟨mapped, _, hmapped, hdraft⟩ := exists_of_run_bind hdraft
  obtain ⟨size, _, hsize, hdraft⟩ := exists_of_run_bind hdraft
  obtain ⟨found, _, hfound, hdraft⟩ := exists_of_run_bind hdraft
  obtain ⟨source, _, _, hdraft⟩ := exists_of_run_bind hdraft
  obtain ⟨validatedAt, _, _, hdraft⟩ := exists_of_run_bind hdraft
  obtain ⟨stopped, _, _, hdraft⟩ := exists_of_run_bind hdraft
  obtain ⟨millis, _, _, hdraft⟩ := exists_of_run_bind hdraft
  obtain ⟨id, _, _, hdraft⟩ := exists_of_run_bind hdraft
  cases hdraft
  rw [run_lift] at hmapped hsize hfound
  exact ⟨congrArg Prod.fst hmapped, Except.mapError_eq_ok_iff.1 (congrArg Prod.fst hsize),
    Except.mapError_eq_ok_iff.1 (congrArg Prod.fst hfound), rfl, rfl, rfl, _, _, htimestamp⟩

end Normalize

namespace Envelope

/-- The event without what a configuration chooses to show. -/
def bare (event : Envelope) : Envelope :=
  { event with
    validation := { event.validation with
      validated := true
      errors := none }
    normalization := { event.normalization with
      mappings := []
      dropped := none } }

/-- The event shows of a mapped payload what a configuration asks for: the rows applied and the
fields dropped or none of them, and what is wrong with the data, their size first. -/
structure Shows (config : Config) (mapped : Mapped) (size : Nat) (found : List DataIssue)
    (event : Envelope) : Prop where
  mappings : event.normalization.mappings =
    if config.includeFieldMappings then mapped.applied else []
  dropped : event.normalization.dropped =
    if config.includeDroppedFields then some mapped.dropped else none
  issues : event.validation.errors.getD [] =
    DataCheck.sizeIssues size config.maxPayloadBytes ++ found
  errors : event.validation.errors =
    if event.validation.validated then none else some (event.validation.errors.getD [])
  validated : event.validation.validated = (event.validation.errors.getD []).isEmpty

theorem shows_finish (draft : Normalize.Draft) (config : Config) :
    (draft.finish config).Shows config draft.mapped draft.size draft.found := by
  have hissues : (draft.finish config).validation.errors.getD [] =
      draft.issues config.maxPayloadBytes := by
    change (if (draft.issues config.maxPayloadBytes).isEmpty = true then none
      else some (draft.issues config.maxPayloadBytes)).getD [] = _
    split
    next hempty => exact (List.isEmpty_iff.1 hempty).symm
    next => rfl
  have hvalidated : (draft.finish config).validation.validated =
      (draft.issues config.maxPayloadBytes).isEmpty := rfl
  refine ⟨rfl, rfl, hissues, ?_, ?_⟩
  · rw [hissues, hvalidated]
    rfl
  · rw [hissues, hvalidated]

/-- Data that are valid under a limit are so under a larger one. -/
theorem Shows.validated_of_le {config other : Config} {mapped : Mapped} {size : Nat}
    {found : List DataIssue} {first second : Envelope}
    (hfirst : first.Shows config mapped size found)
    (hsecond : second.Shows other mapped size found)
    (hlimit : config.maxPayloadBytes ≤ other.maxPayloadBytes)
    (hvalidated : first.validation.validated = true) : second.validation.validated = true := by
  rw [hfirst.validated, hfirst.issues, List.isEmpty_iff, List.append_eq_nil_iff] at hvalidated
  obtain ⟨hsize, hfound⟩ := hvalidated
  rw [hsecond.validated, hsecond.issues, List.isEmpty_iff, List.append_eq_nil_iff]
  refine ⟨?_, hfound⟩
  rw [DataCheck.sizeIssues] at hsize ⊢
  split at hsize
  next => cases hsize
  next hfits => exact if_neg (by omega)

end Envelope

namespace Engine

variable {host : Host} {event : ExternalEvent} {config other : Config} {state : EngineState}

variable [Limits]

/-- The event of an engine is a draft by the table in use that the configuration has finished. -/
theorem exists_draft {made : Envelope}
    (hmade : ((normalize host event config).run state).1 = .ok made) :
    ∃ format table looked draft,
      (supported event.format).run state = (.ok format, state) ∧
      (Engine.table host event.format).run state = (.ok table, looked) ∧
      ((Normalize.draft ⟨host.instruments, host.registry, table, config⟩ format event).run
        looked.readings).1 = .ok draft ∧
      made = draft.finish config := by
  obtain ⟨format, same, hformat, hrest⟩ := exists_of_run_bind hmade
  have hsame : same = state := by
    rw [supported] at hformat
    split at hformat <;> cases hformat
    rfl
  rw [hsame] at hformat hrest
  obtain ⟨table, looked, htable, hby⟩ := exists_of_run_bind hrest
  rw [run_normalizeBy] at hby
  have hrun := Except.mapError_eq_ok_iff.1 hby
  rw [Normalize.run_eq_draft] at hrun
  obtain ⟨draft, _, hdraft, hfinish⟩ := exists_of_run_bind hrun
  cases hfinish
  exact ⟨format, table, looked, draft, hformat, htable, congrArg Prod.fst hdraft, rfl⟩

/-- Strictness is nothing to the engine. -/
theorem normalize_strict (strict : Bool) :
    normalize host event { config with strictValidation := strict } =
      normalize host event config := rfl

end Engine

namespace Service

variable {host : Host} {service : Service} {request : Request} {asked : EventRequest}
  {config : Config} {response : Response}

section

variable [Limits]

/-- What the engine gives a service is its result, or the answer to an unsupported format. -/
theorem of_run_engineResult {α : Type} {run : Engine α} {outcome : Except Response α}
    {next : Service} (hresult : (engineResult host run).run service = (.ok outcome, next)) :
    match outcome with
    | .ok a => (run.run service.engine).1 = .ok a
    | .error response => ∃ format, response = unsupported format := by
  rw [engineResult, run_bind_ok (run_attempt _ _), run_runEngine] at hresult
  rcases hrun : (run.run service.engine).1 with fault | a
  · rw [hrun] at hresult
    cases fault with
    | unsupported format =>
        cases hresult
        exact ⟨format, rfl⟩
    | _ => cases hresult
  · rw [hrun] at hresult
    cases hresult
    rfl

/-- Behind an answer of success is an event. -/
theorem exists_event_of_status (hasks : Asks host service request .normalize asked config)
    (hanswer : ((answer host request).run service).1 = .ok response)
    (hstatus : response.status = 200) :
    ∃ event, ((Engine.normalize host asked.event config).run service.engine).1 = .ok event := by
  obtain ⟨settings, hsettings, rfl⟩ := hasks.config
  rw [hasks.run_answerNormalize, answerNormalize, run_bind_ok (run_effectiveConfig hsettings)]
    at hanswer
  obtain ⟨outcome, next, hresult, hrest⟩ := exists_of_run_bind hanswer
  have houtcome := of_run_engineResult hresult
  cases outcome with
  | ok event => exact ⟨event, houtcome⟩
  | error refusal =>
      obtain ⟨format, rfl⟩ := houtcome
      dsimp only at hrest
      rw [run_tell, told] at hrest
      split at hrest
      next => cases hrest
      next =>
        cases hrest
        cases hstatus

/-- What is answered to an event, and what this leaves of the service. -/
theorem Asks.run_answer_of_ok {event : Envelope}
    (hasks : Asks host service request .normalize asked config)
    (hevent : ((Engine.normalize host asked.event config).run service.engine).1 = .ok event) :
    (answer host request).run service =
      (reply config event >>= told asked config, ((countEvent host event).run { service with
        engine := ((Engine.normalize host asked.event config).run service.engine).2 }).2) := by
  obtain ⟨settings, hsettings, rfl⟩ := hasks.config
  rw [hasks.run_answerNormalize, run_answerNormalize_of_ok hsettings hevent]

end

/-- Where a lenient reply can be written, it is one of success; so is the strict one if the event is
valid, and else it rejects the event. -/
theorem of_reply_eq_ok {event : Envelope} (hlenient : config.strictValidation = false)
    (hreply : reply config event = .ok response) :
    ∃ payload, event.toPayload = .ok payload ∧
      response = .ofData (.record [
        ("normalized_event", payload), ("metrics", event.normalization.counts)]) ∧
      reply { config with strictValidation := true } event =
        .ok (if event.validation.validated then response else rejected event payload) := by
  rcases hpayload : event.toPayload with fault | payload
  · rw [reply, hpayload] at hreply
    cases hreply
  · have hwire : Wire.value (.record [
        ("normalized_event", payload), ("metrics", event.normalization.counts)]) =
          .record [("normalized_event", payload), ("metrics", event.normalization.counts)] := by
      have hmembers : Wire.value (.record [
          ("normalized_event", payload), ("metrics", event.normalization.counts)]) =
            .record [("normalized_event", Wire.value payload),
              ("metrics", event.normalization.counts)] := rfl
      rw [hmembers, Envelope.value_toPayload hpayload]
    rw [reply_of_toPayload hpayload, hlenient, Bool.false_and, if_neg Bool.false_ne_true,
      hwire] at hreply
    rw [reply_of_toPayload hpayload, Bool.true_and, hwire]
    split at hreply
    next hdepth =>
      cases hreply
      refine ⟨payload, rfl, rfl, ?_⟩
      cases event.validation.validated with
      | true => simp [hdepth]
      | false => simp
    next => cases hreply

end Service

/-- Two configurations with the same pipelines make of an event the same canonical event, but for
what each of them shows of the rows applied, of the fields dropped and of what is wrong with the
data; these differ at most in whether the data are too large at first, and data that are valid under
a limit are valid under a larger one.  Strictness is nothing to the engine at all: where a lenient
request is answered with success, the strict one for the same event is answered in the same way if
the event is valid, and else with a rejection that carries the same payload, and either leaves the
same service, its counters included. -/
theorem switches_stay_out_of_event [Limits] {host : Host} {state : EngineState}
    {event : ExternalEvent}
    {config other : Config} (hpipelines : other.pipelines = config.pipelines) :
    (∀ first second : Envelope,
      ((Engine.normalize host event config).run state).1 = .ok first →
      ((Engine.normalize host event other).run state).1 = .ok second →
      second.bare = first.bare ∧
      (∃ table mapped size found,
        ((Engine.table host event.format).run state).1 = .ok table ∧
        Normalize.mapPayload ⟨host.instruments, host.registry, table, config⟩ event = .ok mapped ∧
        DataCheck.size (.dict mapped.data) = .ok size ∧
        first.Shows config mapped size found ∧ second.Shows other mapped size found) ∧
      (config.maxPayloadBytes ≤ other.maxPayloadBytes → first.validation.validated = true →
        second.validation.validated = true)) ∧
    (∀ strict, Engine.normalize host event { config with strictValidation := strict } =
      Engine.normalize host event config) ∧
    ∀ (service : Service) (lenient strict : Request) (asked stern : EventRequest)
      (response : Response), config.strictValidation = false →
      Service.Asks host service lenient .normalize asked config →
      Service.Asks host service strict .normalize stern { config with strictValidation := true } →
      asked.event = event → stern.event = event → stern.written = asked.written →
      ((Service.answer host lenient).run service).1 = .ok response → response.status = 200 →
      ∃ made payload,
        ((Engine.normalize host event config).run service.engine).1 = .ok made ∧
        made.toPayload = .ok payload ∧
        response = .ofData (.record [
          ("normalized_event", payload), ("metrics", made.normalization.counts)]) ∧
        (Service.answer host strict).run service =
          (.ok (if made.validation.validated then response else Service.rejected made payload),
            ((Service.answer host lenient).run service).2) := by
  refine ⟨?_, fun strict => Engine.normalize_strict strict, ?_⟩
  · intro first second hfirst hsecond
    obtain ⟨format, table, looked, draft, hformat, htable, hdraft, rfl⟩ :=
      Engine.exists_draft hfirst
    obtain ⟨_, _, _, again, hformat', htable', hdraft', rfl⟩ := Engine.exists_draft hsecond
    rw [hformat] at hformat'
    cases hformat'
    rw [htable] at htable'
    cases htable'
    -- The second draft is the first one: no switch went into it.
    rw [Normalize.draft_eq_of_pipelines hpipelines, hdraft] at hdraft'
    cases hdraft'
    obtain ⟨hmapped, hsize, _⟩ := Normalize.of_run_draft hdraft
    have hshows := Envelope.shows_finish draft config
    have hshown := Envelope.shows_finish draft other
    exact ⟨rfl, ⟨table, draft.mapped, draft.size, draft.found, congrArg Prod.fst htable, hmapped,
      hsize, hshows, hshown⟩, hshows.validated_of_le hshown⟩
  · intro service lenient strict asked stern response hlenient hasks hstern hasked hsame hwritten
      hanswer hstatus
    obtain ⟨made, hmade⟩ := Service.exists_event_of_status hasks hanswer hstatus
    have hengine : Engine.normalize host stern.event { config with strictValidation := true } =
        Engine.normalize host asked.event config := by
      rw [hsame, hasked]
      exact Engine.normalize_strict true
    have hmakes : ((Engine.normalize host stern.event
        { config with strictValidation := true }).run service.engine).1 = .ok made := by
      rw [hengine, hmade]
    rw [hasks.run_answer_of_ok hmade] at hanswer ⊢
    obtain ⟨hsent, hreply⟩ := Service.of_bind_told_eq_ok hanswer
    obtain ⟨payload, hpayload, hresponse, hstrict⟩ := Service.of_reply_eq_ok hlenient hreply
    refine ⟨made, payload, hasked ▸ hmade, hpayload, hresponse, ?_⟩
    -- Whether halves are told turns on what was sent and on the switch for dropped fields.
    have hsent' : ExternalEvent.tellsHalf stern.written { config with strictValidation := true } =
        false := by
      rw [hwritten]
      exact hsent
    rw [hstern.run_answer_of_ok hmakes, hstrict, hengine, Service.told_of_not_tellsHalf hsent']
    rfl

namespace SwitchesWitness

local instance : Limits := .standard

/-- The clock and the timer stand still. -/
def host : Host where
  tables := ⟨"tables.yaml", Yaml.reader⟩
  instruments := ⟨fun _ => ⟨1705314600000000, some 0⟩, fun _ => .zero false, fun _ => "evt-1"⟩
  registry := []

/-- Tables of one row have been loaded, and no data are small enough where nothing else is asked
for. -/
def service : Service where
  engine := {
    environment := [("EVENT_NORMALIZER_MAX_PAYLOAD_BYTES", "0")]
    files := ⟨[], []⟩
    store := ⟨some ("tables.yaml",
      [Bundled.profile "webhook_generic" [Bundled.move "id" "event.id"]])⟩ }

def settings : Settings := ⟨"tables.yaml", 0, true, true, false, none, "INFO"⟩

def event : ExternalEvent :=
  ⟨"webhook_generic", .dict [(.string "extra", .int 1)], none, none, none⟩

def narrow : Config := { maxPayloadBytes := 0 }

/-- Room for the data, and nothing shown. -/
def silent : Config where
  maxPayloadBytes := 100
  includeDroppedFields := false
  includeFieldMappings := false

/-- A request for the event, with what stands behind it. -/
def requestOf (behind : String) : Request where
  method := "POST"
  path := "/normalize"
  body := "\x7b\"event\":\x7b\"format\":\"webhook_generic\"," ++
    "\"raw_payload\":\x7b\"extra\":1\x7d\x7d" ++ behind ++ "\x7d"
  received := ⟨1705314600000000, some 0⟩

def lenient : Request := requestOf ""

def strict : Request := requestOf ",\"config\":\x7b\"strict_validation\":true\x7d"

def written : Value :=
  .record [("format", .string "webhook_generic"), ("raw_payload", .record [("extra", .int 1)])]

def asked : EventRequest := ⟨event, written, [], none⟩

/-- The configuration that is sent has its own limit, which does not count. -/
def stern : EventRequest where
  event
  written
  sent := [(.string "strict_validation", .bool true)]
  config := some ({ strictValidation := true } : Config).toValue

/-- What is to be seen of the event that a configuration makes and of the reply to it: the
findings, the fields dropped, and the status. -/
def seen? (config : Config) (made : Except EngineFault Envelope) :
    Option (Bool × Option (List String) × Nat) :=
  match made with
  | .ok made =>
    match Service.reply config made with
    | .ok response =>
      some (made.validation.validated, made.normalization.dropped, response.status)
    | .error _ => none
  | .error _ => none

theorem of_seen? {config : Config} {result : Except EngineFault Envelope} {validated : Bool}
    {dropped : Option (List String)} {status : Nat}
    (hseen : seen? config result = some (validated, dropped, status)) :
    ∃ made response, result = .ok made ∧ Service.reply config made = .ok response ∧
      made.validation.validated = validated ∧ made.normalization.dropped = dropped ∧
      response.status = status := by
  rcases result with fault | made
  · cases hseen
  · rw [seen?] at hseen
    split at hseen
    next response hreply =>
      cases hseen
      exact ⟨made, response, rfl, hreply, rfl, rfl, rfl⟩
    next => cases hseen

/-- The data are too large under the first configuration, which tells what has been dropped, and
valid under the second, which does not. -/
theorem switches_stay_out_of_event_of_extra :
    silent.pipelines = narrow.pipelines ∧ ∃ first second payload,
      ((Engine.normalize host event narrow).run service.engine).1 = .ok first ∧
      ((Engine.normalize host event silent).run service.engine).1 = .ok second ∧
      second.bare = first.bare ∧
      first.validation.validated = false ∧ second.validation.validated = true ∧
      first.normalization.dropped = some ["extra"] ∧ second.normalization.dropped = none ∧
      first.toPayload = .ok payload ∧
      ((Service.answer host lenient).run service).1 = .ok (.ofData (.record [
        ("normalized_event", payload), ("metrics", first.normalization.counts)])) ∧
      ((Service.answer host strict).run service).1 = .ok (Service.rejected first payload) := by
  have hnarrow : seen? narrow ((Engine.normalize host event narrow).run service.engine).1 =
      some (false, some ["extra"], 200) := by decide +kernel
  have hsilent : seen? silent ((Engine.normalize host event silent).run service.engine).1 =
      some (true, none, 200) := by decide +kernel
  obtain ⟨first, response, hfirst, hreply, hinvalid, hdropped, hstatus⟩ := of_seen? hnarrow
  obtain ⟨second, _, hsecond, _, hvalid, hnone, _⟩ := of_seen? hsilent
  have hsettings : service.settings host = .ok settings := by with_unfolding_all rfl
  have hasks : Service.Asks host service lenient .normalize asked narrow :=
    ⟨rfl, by with_unfolding_all rfl, _, hsettings, rfl⟩
  have hstern : Service.Asks host service strict .normalize stern
      { narrow with strictValidation := true } :=
    ⟨rfl, by with_unfolding_all rfl, _, hsettings, rfl⟩
  have hpipelines : silent.pipelines = narrow.pipelines := rfl
  obtain ⟨htwo, _, hhttp⟩ := switches_stay_out_of_event hpipelines
  obtain ⟨hbare, _⟩ := htwo first second hfirst hsecond
  have hanswer : ((Service.answer host lenient).run service).1 = .ok response := by
    rw [hasks.run_answer_of_ok hfirst, hreply]
    rfl
  obtain ⟨made, payload, hmade, hpayload, hresponse, hstrict⟩ := hhttp service lenient strict
    asked stern response rfl hasks hstern rfl rfl rfl hanswer hstatus
  obtain rfl : made = first := Except.ok.inj (hmade.symm.trans hfirst)
  refine ⟨rfl, made, second, payload, hfirst, hsecond, hbare, hinvalid, hvalid, hdropped, hnone,
    hpayload, ?_, ?_⟩
  · rw [hanswer, hresponse]
  · rw [hstrict, hinvalid]
    rfl

end SwitchesWitness

end EventIntake
