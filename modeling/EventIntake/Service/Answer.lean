/-
Answering requests.  Counting is best effort: a counter that cannot be changed or kept never
stands in the way of an answer.
-/
import EventIntake.Contract
import EventIntake.Event.Telling
import EventIntake.Service.Http
import EventIntake.Service.Metrics
import EventIntake.Text.Wide

namespace EventIntake

variable [Limits]

/-- Why a request gets no answer. -/
inductive ServeFault where
  | settings (fault : SettingsFault)
  | engine (fault : EngineFault)
  | payload (fault : PayloadFault)
  | metrics (fault : MetricsFault)
  /-- The answer does not have its shape. -/
  | shape
  /-- The answer is nested too deeply to be written. -/
  | answerTooDeep
  /-- Half of a surrogate pair stands in the answer, so that it has no bytes. -/
  | halved
  /-- Half of a surrogate pair stands in a body that is refused.  Whether the refusal repeats it is
  not looked at. -/
  | refusedHalf

/-- A computation that answers; what it changes in the service stays changed when it fails. -/
abbrev Serving := ExceptT ServeFault (StateM Service)

/-- A request to normalize or inspect, with the configuration as it was sent. -/
structure EventRequest where
  event : ExternalEvent
  /-- The event as it was sent. -/
  written : Value
  sent : Entries
  config : Option Value

namespace EventRequest

def issueValue (issue : Schema.Issue) : Value :=
  .record [
    ("type", .string issue.problem.code),
    ("loc", .list (issue.place.map fun
      | .name name => .string name
      | .index n => .int n)),
    ("msg", .string issue.problem.message)]

/-- The answer to a body with issues. -/
def refusal (issues : List Schema.Issue) : Response :=
  .ofDetail 422 (.list (issues.map issueValue))

/-- The answer to a body that is no JSON from a position on. -/
def notJson (position : Nat) : Response :=
  .ofDetail 422 (.list [.record [
    ("type", .string "json_invalid"),
    ("loc", .list [.string "body", .int position]),
    ("msg", .string "JSON decode error")]])

/-- The answer to a body that cannot be read although it may be JSON. -/
def unreadable : Response :=
  .ofDetail 400 (.string "There was an error parsing the body")

/-- The text of a body, without a byte order mark; none if its bytes are no text. -/
def text? (body : String) : Option String :=
  let bytes := Text.Utf8.encode body.toList
  ((Text.Encoding.ofJson bytes).read? bytes).map fun cs =>
    String.ofList (if cs.head? == some '\ufeff' then cs.drop 1 else cs)

/-- The value in a body; an empty one holds none, and null counts as none. -/
def value? (body : String) : Except Response (Option Value) :=
  if body.isEmpty then .ok none
  else
    match (text? body).map Json.read with
    | some (.ok .null) => .ok none
    | some (.ok v) => .ok (some v)
    | some (.error (.malformed _ _ _ position)) => .error (notJson position)
    | _ => .error unreadable

def ofBody (body : String) : Except Response EventRequest := do
  match ← value? body with
  | none => throw (refusal [⟨[.name "body"], .missing⟩])
  | some v =>
    let checked ← (Contract.normalizeRequest.check true [.name "body"] v).mapError refusal
    return {
      event := .ofChecked (checked.valueAt "event")
      written := v.valueAt "event"
      sent := (v.valueAt "config").entries
      config := checked.recordAt? "config" }

/-- The configuration of a request: the service's own, under the keys that were sent. -/
def effective (settings : Settings) (request : EventRequest) : Config :=
  match request.config with
  | some checked => settings.config.overlay request.sent checked
  | none => settings.config

/-- Whether a body is a value with halves of surrogate pairs. -/
def hasHalf (body : String) : Bool :=
  match value? body with
  | .ok (some v) => !v.isWhole
  | _ => false

end EventRequest

namespace Service

/-- What is counted if it can be. -/
def bestEffort (metering : Metering Unit) : Serving Unit := ExceptT.mk do
  discard metering.run
  return .ok ()

def name : String := "event-normalizer"

def version : String := "1.0.0"

/-- The answer to an event of an unsupported format. -/
def unsupported (format : String) : Response :=
  .ofDetail 400 (.record [
    ("code", .string "UNSUPPORTED_FORMAT"),
    ("message", .string (Format.unsupportedMessage format))])

/-- A result of the engine, or the answer to an unsupported format, which is counted. -/
def engineResult {α : Type} (host : Host) (run : Engine α) : Serving (Except Response α) := do
  match (← (runEngine run).run : Except EngineFault α) with
  | .ok a => return .ok a
  | .error (.unsupported format) =>
    bestEffort (countUnsupported host)
    return .error (unsupported format)
  | .error fault => throw (.engine fault)

def effectiveConfig (host : Host) (request : EventRequest) : Serving Config := do
  match (← get).settings host with
  | .ok settings => return request.effective settings
  | .error fault => throw (.settings fault)

def payloadOf (event : Envelope) : Serving Value :=
  match event.toPayload with
  | .ok payload => return payload
  | .error fault => throw (.payload fault)

/-- The answer of success, if its data can be written in their shape. -/
def success (shape : Schema.Shape) (data : Value) : Serving Response := do
  if !shape.dumps data then throw .answerTooDeep
  return .ofData (Wire.value data)

/-- An answer to a request, if it can be written. -/
def tell (request : EventRequest) (config : Config) (response : Response) : Serving Response :=
  if ExternalEvent.tellsHalf request.written config then throw .halved else return response

/-- The answer to an event that fails validation where that is not allowed. -/
def rejected (event : Envelope) (payload : Value) : Response :=
  .ofDetail 422 (.record [
    ("code", .string "VALIDATION_FAILED"),
    ("message", .string "Normalized event failed validation"),
    ("errors", .list ((event.validation.errors.getD []).map DataIssue.toValue)),
    ("normalized_event", payload)])

def answerNormalize (host : Host) (request : EventRequest) : Serving Response := do
  let config ← effectiveConfig host request
  match ← engineResult host (Engine.normalize host request.event config) with
  | .error response => tell request config response
  | .ok event =>
    bestEffort (countEvent host event)
    let payload ← payloadOf event
    if config.strictValidation && !event.validation.validated then
      return ← tell request config (rejected event payload)
    tell request config (← success Contract.normalizeData (.record [
      ("normalized_event", payload), ("metrics", event.normalization.counts)]))

/-- Inspecting an event.  Rows are given with all members. -/
def answerInspect (host : Host) (request : EventRequest) : Serving Response := do
  let config ← effectiveConfig host request
  match ← engineResult host (Engine.inspect host request.event config) with
  | .error response => tell request config response
  | .ok inspection =>
    let payload ← payloadOf inspection.event
    tell request config (← success Contract.inspectData (.record [
      ("normalized_event", payload),
      ("field_mappings", .list (inspection.table.map Row.toValue)),
      ("detected_type", .string inspection.kind.name)]))

/-- The sign of life, with the time. -/
def health (now : Moment) : Response :=
  .ofValue 200 (.record [
    ("status", .string "healthy"), ("service", .string name), ("version", .string version),
    ("timestamp", .string now.wireText)])

def formatEntry (format : Format) : Value :=
  .record [("format", .string format.name), ("family", .string format.family.name)]

def catalog : Response :=
  .ofValue 200 (.record [
    ("format_count", .int Format.all.length), ("formats", .list (Format.all.map formatEntry))])

def answerMetrics : Serving Response := do
  match (← (snapshot).run : Except MetricsFault Value) with
  | .error fault => throw (.metrics fault)
  | .ok counters =>
    match Contract.metricsResponse.check false [] counters with
    | .ok checked => if checked.isWhole then return .ofValue 200 checked else throw .halved
    | .error _ => throw .shape

/-- The answer of an endpoint that takes an event. -/
def answerEvent (answer : EventRequest → Serving Response) (body : String) : Serving Response :=
  match EventRequest.ofBody body with
  | .ok request => answer request
  | .error response =>
    if EventRequest.hasHalf body then throw .refusedHalf else return response

def answer (host : Host) (request : Request) : Serving Response :=
  match request.endpoint with
  | .error response => return response
  | .ok .normalize => answerEvent (answerNormalize host) request.body
  | .ok .inspect => answerEvent (answerInspect host) request.body
  | .ok .health => return health request.received
  | .ok .formats => return catalog
  | .ok .metrics => answerMetrics

/-- The service when it starts: its counters go on from their file. -/
def start (host : Host) : Serving Unit := do
  match (← (recallCounters host).run : Except MetricsFault Unit) with
  | .error fault => throw (.metrics fault)
  | .ok _ => return

end Service

end EventIntake
