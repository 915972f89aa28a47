/-
A service that is ready: its engine is.  No request makes it less so, and it answers with what its
engine makes of an event, in the shape of an answer.
-/
import EventIntake.Proofs.Readiness
import EventIntake.Service.Answer

namespace EventIntake

open Stateful

namespace Contract

open Schema

/-- The data of an answer can be written if the payload in them can. -/
theorem dumps_normalizeData (payload : Value) (report : Normalization) :
    normalizeData.dumps (.record [("normalized_event", payload), ("metrics", report.counts)]) =
      decide (payload.depth ≤ dumpLimit) := by
  have hcounts : normalizationMetrics.dumps report.counts = true := rfl
  have hfields : normalizeData.dumps
      (.record [("normalized_event", payload), ("metrics", report.counts)]) =
        (decide (payload.depth ≤ dumpLimit) &&
          (normalizationMetrics.dumps report.counts && true)) := rfl
  rw [hfields, hcounts, Bool.and_true, Bool.and_true]

end Contract

/-- The engine of the service is ready. -/
def Service.Ready (host : Host) (settings : Settings) (tables : Profiles) (service : Service) :
    Prop :=
  service.engine.Ready host settings tables

namespace Service

variable {host : Host} {settings : Settings} {tables : Profiles} {service : Service} {α : Type}
  {property : Service → Prop}

theorem run_runEngine (run : Engine α) :
    (runEngine run).run service =
      ((run.run service.engine).1, { service with engine := (run.run service.engine).2 }) := rfl

theorem keeps_runEngine {run : Engine α}
    (hrun : Keeps (EngineState.Ready host settings tables) run) :
    Keeps (Ready host settings tables) (runEngine run) :=
  fun service hready => hrun service.engine hready

/-- The service after a text has been written to a path, if it can be. -/
def withFile (path text : String) (service : Service) : Service :=
  match service.engine.files.write path (Text.Utf8.encode text.toList) with
  | .ok files => { service with engine := { service.engine with files } }
  | .error _ => service

theorem counters_withFile (path text : String) :
    (service.withFile path text).counters = service.counters := by
  unfold withFile
  split <;> rfl

theorem settings_withFile (path text : String) :
    (service.withFile path text).settings host = service.settings host := by
  unfold withFile
  split <;> rfl

theorem run_metricsFile (hsettings : service.settings host = .ok settings) :
    (metricsFile host).run service = (.ok settings.metricsFile, service) := by
  have hget : (get : Metering Service).run service = (.ok service, service) := rfl
  rw [metricsFile, run_bind_ok hget, hsettings]
  rfl

section

variable [Limits]

theorem run_keepCounters (hsettings : service.settings host = .ok settings) :
    (keepCounters host).run service =
      match settings.metricsFile with
      | none => (.ok (), service)
      | some path =>
        match countersText service.counters with
        | .ok text => (.ok (), service.withFile path text)
        | .error fault => (.error fault, service) := by
  rw [keepCounters, run_bind_ok (run_metricsFile hsettings)]
  cases settings.metricsFile with
  | none => rfl
  | some path =>
      have hget : (get : Metering Service).run service = (.ok service, service) := rfl
      dsimp only
      rw [run_bind_ok hget]
      cases countersText service.counters with
      | error fault => rfl
      | ok text =>
          dsimp only
          unfold withFile
          cases service.engine.files.write path (Text.Utf8.encode text.toList) <;> rfl

theorem keeps_keepCounters : Keeps (Ready host settings tables) (keepCounters host) := by
  intro service hready
  have hsettings : service.settings host = .ok settings := hready.readable
  rw [run_keepCounters hsettings]
  cases hpath : settings.metricsFile with
  | none => exact hready
  | some path =>
      cases countersText service.counters with
      | error fault => exact hready
      | ok text =>
          simp only [withFile]
          cases hwrite : service.engine.files.write path (Text.Utf8.encode text.toList) with
          | ok files => exact EngineState.Ready.write hready hpath hwrite
          | error fault => exact hready

theorem keeps_count (counting : Counting Unit) :
    Keeps (Ready host settings tables) (count host counting) := by
  refine Keeps.get_bind fun service hready => ?_
  obtain ⟨fault | _, counters⟩ := counting.run service.counters
  · exact hready
  · exact keeps_keepCounters { service with counters } hready

end

theorem keeps_bestEffort {metering : Metering Unit}
    (hkeeps : Keeps (Ready host settings tables) metering) :
    Keeps (Ready host settings tables) (bestEffort metering) :=
  fun service hready => hkeeps service hready

theorem keeps_engineResult [Limits] {run : Engine α}
    (hrun : Keeps (EngineState.Ready host settings tables) run) :
    Keeps (Ready host settings tables) (engineResult host run) := by
  refine (keeps_runEngine hrun).attempt.bind fun outcome => ?_
  cases outcome with
  | ok a => exact .ofExcept _
  | error fault =>
      cases fault with
      | unsupported format =>
          exact (keeps_bestEffort (keeps_count _)).bind fun _ => .ofExcept _
      | _ => exact .ofExcept _

theorem keeps_effectiveConfig (request : EventRequest) :
    Keeps property (effectiveConfig host request) := by
  refine Keeps.get.bind fun service => ?_
  cases service.settings host with
  | ok settings => exact .ofExcept _
  | error fault => exact .ofExcept _

theorem keeps_payloadOf (event : Envelope) : Keeps property (payloadOf event) := by
  unfold payloadOf
  cases event.toPayload with
  | ok payload => exact .ofExcept _
  | error fault => exact .ofExcept _

theorem keeps_success (shape : Schema.Shape) (data : Value) :
    Keeps property (success shape data) := by
  unfold success
  cases shape.dumps data with
  | true => exact .ofExcept _
  | false => exact .ofExcept _

theorem keeps_tell (request : EventRequest) (config : Config) (response : Response) :
    Keeps property (tell request config response) := by
  unfold tell
  cases ExternalEvent.tellsHalf request.written config with
  | true => exact .ofExcept _
  | false => exact .ofExcept _

section

variable [Limits]

theorem keeps_answerNormalize (request : EventRequest) :
    Keeps (Ready host settings tables) (answerNormalize host request) := by
  refine (keeps_effectiveConfig request).bind fun config => ?_
  refine (keeps_engineResult (Engine.keeps_normalize request.event config)).bind fun outcome => ?_
  cases outcome with
  | error response => exact keeps_tell request config response
  | ok event =>
      refine (keeps_bestEffort (keeps_count _)).bind fun _ => ?_
      refine (keeps_payloadOf event).bind fun payload => ?_
      split
      next => exact keeps_tell request config _
      next => exact (keeps_success _ _).bind fun response => keeps_tell request config response

theorem keeps_answerInspect (request : EventRequest) :
    Keeps (Ready host settings tables) (answerInspect host request) := by
  refine (keeps_effectiveConfig request).bind fun config => ?_
  refine (keeps_engineResult (Engine.keeps_inspect request.event config)).bind fun outcome => ?_
  cases outcome with
  | error response => exact keeps_tell request config response
  | ok inspection =>
      refine (keeps_payloadOf inspection.event).bind fun payload => ?_
      exact (keeps_success _ _).bind fun response => keeps_tell request config response

theorem keeps_snapshot : Keeps (Ready host settings tables) snapshot := by
  unfold snapshot
  refine Keeps.bind (Keeps.modify fun service hready => ?_) fun _ => ?_
  · exact hready
  refine Keeps.get.bind fun service => ?_
  cases countersValue service.counters with
  | ok v => exact .ofExcept _
  | error fault => exact .ofExcept _

theorem keeps_answerMetrics : Keeps (Ready host settings tables) answerMetrics := by
  refine keeps_snapshot.attempt.bind fun outcome => ?_
  cases outcome with
  | error fault => exact .ofExcept _
  | ok counters =>
      dsimp only
      cases Contract.metricsResponse.check false [] counters with
      | error issues => exact .ofExcept _
      | ok checked =>
          dsimp only
          cases checked.isWhole with
          | true => exact .ofExcept _
          | false => exact .ofExcept _

theorem keeps_answerEvent {respond : EventRequest → Serving Response}
    (hrespond : ∀ request, Keeps (Ready host settings tables) (respond request)) (body : String) :
    Keeps (Ready host settings tables) (answerEvent respond body) := by
  unfold answerEvent
  cases EventRequest.ofBody body with
  | ok request => exact hrespond request
  | error response =>
      dsimp only
      cases EventRequest.hasHalf body with
      | true => exact .ofExcept _
      | false => exact .ofExcept _

/-- No request makes a service less ready. -/
theorem keeps_answer (request : Request) : Keeps (Ready host settings tables)
    (answer host request) := by
  unfold answer
  cases request.endpoint with
  | error response => exact .ofExcept _
  | ok endpoint =>
      cases endpoint with
      | normalize => exact keeps_answerEvent keeps_answerNormalize request.body
      | inspect => exact keeps_answerEvent keeps_answerInspect request.body
      | health => exact .ofExcept _
      | formats => exact .ofExcept _
      | metrics => exact keeps_answerMetrics

/-- The service after some requests, whatever has become of them. -/
def after (host : Host) (requests : List Request) (service : Service) : Service :=
  requests.foldl (fun service request => ((answer host request).run service).2) service

/-- A service that is ready stays so, whatever it is asked. -/
theorem ready_after (requests : List Request) (hready : service.Ready host settings tables) :
    (service.after host requests).Ready host settings tables := by
  induction requests generalizing service with
  | nil => exact hready
  | cons request rest ih => exact ih (keeps_answer request service hready)

end

/-- What a service has to answer to an event that its engine has made. -/
def reply (config : Config) (event : Envelope) : Except ServeFault Response := do
  let payload ← event.toPayload.mapError .payload
  if config.strictValidation && !event.validation.validated then
    return rejected event payload
  let data : Value := .record [
    ("normalized_event", payload), ("metrics", event.normalization.counts)]
  if Contract.normalizeData.dumps data then return .ofData (Wire.value data)
  throw .answerTooDeep

/-- An answer to a request can be written unless it tells halves of surrogate pairs. -/
def told (request : EventRequest) (config : Config) (response : Response) :
    Except ServeFault Response :=
  if ExternalEvent.tellsHalf request.written config then .error .halved else .ok response

variable {request : EventRequest}

theorem told_of_tellsHalf {config : Config}
    (hsent : ExternalEvent.tellsHalf request.written config = true) (response : Response) :
    told request config response = .error .halved := if_pos hsent

theorem told_of_not_tellsHalf {config : Config}
    (hsent : ExternalEvent.tellsHalf request.written config = false) :
    told request config = .ok := by
  funext response
  rw [told, hsent]
  rfl

/-- What follows an answer that is told has been told in full. -/
theorem of_bind_told_eq_ok {config : Config} {outcome : Except ServeFault Response}
    {response : Response} (htold : (outcome >>= told request config) = .ok response) :
    ExternalEvent.tellsHalf request.written config = false ∧ outcome = .ok response := by
  cases hsent : ExternalEvent.tellsHalf request.written config with
  | true =>
      cases outcome with
      | error fault => cases htold
      | ok answer => exact nomatch (told_of_tellsHalf hsent answer).symm.trans htold
  | false =>
      rw [told_of_not_tellsHalf hsent] at htold
      exact ⟨rfl, (bind_pure outcome).symm.trans htold⟩

theorem run_effectiveConfig (hsettings : service.settings host = .ok settings) :
    (effectiveConfig host request).run service = (.ok (request.effective settings), service) := by
  have hget : (get : Serving Service).run service = (.ok service, service) := rfl
  rw [effectiveConfig, run_bind_ok hget, hsettings]
  rfl

theorem run_bestEffort (metering : Metering Unit) :
    (bestEffort metering).run service = (.ok (), (metering.run service).2) := rfl

theorem run_engineResult_ok [Limits] {run : Engine α} {a : α}
    (hrun : (run.run service.engine).1 = .ok a) :
    (engineResult host run).run service =
      (.ok (.ok a), { service with engine := (run.run service.engine).2 }) := by
  rw [engineResult, run_bind_ok (run_attempt _ _), run_runEngine, hrun]
  rfl

theorem run_engineResult_error [Limits] {run : Engine α} {fault : NormalizeFault}
    (hrun : (run.run service.engine).1 = .error (.normalize fault)) :
    (engineResult host run).run service =
      (.error (.engine (.normalize fault)),
        { service with engine := (run.run service.engine).2 }) := by
  rw [engineResult, run_bind_ok (run_attempt _ _), run_runEngine, hrun]
  rfl

theorem run_success (shape : Schema.Shape) (data : Value) :
    (success shape data).run service =
      (if shape.dumps data then .ok (.ofData (Wire.value data)) else .error .answerTooDeep,
        service) := by
  unfold success
  cases shape.dumps data with
  | true => rfl
  | false => rfl

theorem run_tell (config : Config) (response : Response) :
    (tell request config response).run service = (told request config response, service) := by
  rw [tell, told]
  cases ExternalEvent.tellsHalf request.written config with
  | true => rfl
  | false => rfl

theorem run_payloadOf {event : Envelope} {payload : Value}
    (hpayload : event.toPayload = .ok payload) :
    (payloadOf event).run service = (.ok payload, service) := by
  rw [payloadOf, hpayload]
  rfl

theorem reply_of_toPayload {config : Config} {event : Envelope} {payload : Value}
    (hpayload : event.toPayload = .ok payload) :
    reply config event =
      if config.strictValidation && !event.validation.validated then
        .ok (rejected event payload)
      else if payload.depth ≤ Schema.dumpLimit then
        .ok (.ofData (Wire.value (.record [
          ("normalized_event", payload), ("metrics", event.normalization.counts)])))
      else .error .answerTooDeep := by
  rw [reply, hpayload]
  simp only [Except.mapError_ok, Contract.dumps_normalizeData, decide_eq_true_eq]
  rfl

variable [Limits]

/-- A service whose engine makes an event of what is asked counts it and replies with it. -/
theorem run_answerNormalize_of_ok {event : Envelope}
    (hsettings : service.settings host = .ok settings)
    (hevent : ((Engine.normalize host request.event (request.effective settings)).run
      service.engine).1 = .ok event) :
    (answerNormalize host request).run service =
      (reply (request.effective settings) event >>= told request (request.effective settings),
        ((countEvent host event).run { service with
          engine := ((Engine.normalize host request.event (request.effective settings)).run
            service.engine).2 }).2) := by
  rw [answerNormalize, run_bind_ok (run_effectiveConfig hsettings),
    run_bind_ok (run_engineResult_ok hevent)]
  dsimp only
  rw [run_bind_ok (run_bestEffort _)]
  cases hpayload : event.toPayload with
  | error fault =>
      rw [payloadOf, reply, hpayload]
      rfl
  | ok payload =>
      rw [run_bind_ok (run_payloadOf hpayload), reply_of_toPayload hpayload]
      split
      next => exact run_tell _ _
      next =>
        by_cases hdumps : payload.depth ≤ Schema.dumpLimit
        · rw [if_pos hdumps, run_bind_ok]
          · exact run_tell _ _
          · simp only [run_success, Contract.dumps_normalizeData, hdumps, decide_true, ↓reduceIte]
        · rw [if_neg hdumps, run_bind_error]
          · rfl
          · simp only [run_success, Contract.dumps_normalizeData, hdumps, decide_false,
              Bool.false_eq_true, ↓reduceIte]

theorem run_answerNormalize_of_error {fault : NormalizeFault}
    (hsettings : service.settings host = .ok settings)
    (hevent : ((Engine.normalize host request.event (request.effective settings)).run
      service.engine).1 = .error (.normalize fault)) :
    ((answerNormalize host request).run service).1 = .error (.engine (.normalize fault)) := by
  rw [answerNormalize, run_bind_ok (run_effectiveConfig hsettings),
    run_bind_error (run_engineResult_error hevent)]

end Service

end EventIntake
