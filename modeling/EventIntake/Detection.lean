/-
Detecting the kind of an event by the shape of its payload.  A format has a list of rules, and
the first one that holds decides; rules look at keys and shapes, never at what a payload means.
-/
import EventIntake.Event.Kind
import EventIntake.Text.Case
import EventIntake.Value.Basic

namespace EventIntake

/-- A kind, and the payloads that a rule gives it to. -/
structure DetectionRule where
  kind : EventKind
  holds : Value → Bool

namespace Detection

def hasAll (keys : List String) (v : Value) : Bool :=
  v.isDict && keys.all fun key => (v.member? key).isSome

def hasAny (keys : List String) (v : Value) : Bool :=
  v.isDict && keys.any fun key => (v.member? key).isSome

def textAt (key expected : String) (v : Value) : Bool :=
  match v.member? key with
  | some w => w.same (.string expected)
  | none => false

def listAt (key : String) (v : Value) : Bool :=
  match v.member? key with
  | some w => w.isList
  | none => false

/-- A dictionary that has, under a key, a value of some shape. -/
def shapeAt (key : String) (shape : Value → Bool) (v : Value) : Bool :=
  match v.member? key with
  | some w => shape w
  | none => false

/-- A dictionary with a list of choices, the first of which carries a change. -/
def firstChoiceChanges (v : Value) : Bool :=
  match v.member? "choices" with
  | some (.list (first :: _)) =>
    match first.member? "delta" with
    | some delta => delta.truthy
    | none => false
  | _ => false

def connectionEvents : List String := [
  "connect", "disconnect", "connection_opened", "connection_closed", "authenticated"]

/-- A dictionary that names what happened to a connection, in letters of any case. -/
def namesConnectionEvent (v : Value) : Bool :=
  match v.member? "event" with
  | some (.string name) => connectionEvents.contains (Text.lower name)
  | _ => false

def chatRules : List DetectionRule := [
  ⟨.llmResponse, hasAll ["choices", "usage"]⟩,
  ⟨.llmRequest, hasAll ["model", "messages"]⟩,
  ⟨.llmStreamChunk, firstChoiceChanges⟩,
  ⟨.llmError, hasAll ["error"]⟩]

def messageRules : List DetectionRule := [
  ⟨.llmResponse, hasAll ["content", "stop_reason"]⟩,
  ⟨.llmRequest, hasAll ["model", "messages", "max_tokens"]⟩,
  ⟨.llmStreamChunk, textAt "type" "content_block_delta"⟩,
  ⟨.llmError, textAt "type" "error"⟩]

def candidateRules : List DetectionRule := [
  ⟨.llmResponse, hasAll ["candidates"]⟩,
  ⟨.llmRequest, hasAll ["contents"]⟩,
  ⟨.llmError, hasAll ["error"]⟩]

/-- Rules of the hosted models: content blocks go before results and generations. -/
def hostedRules : List DetectionRule := [
  ⟨.llmResponse, hasAll ["content", "stop_reason"]⟩,
  ⟨.llmRequest, hasAll ["anthropic_version", "messages"]⟩,
  ⟨.llmResponse, hasAny ["results", "generation"]⟩,
  ⟨.llmError, fun v => hasAll ["message"] v && hasAny ["__type", "error"] v⟩]

def repositoryRules : List DetectionRule := [
  ⟨.webhookValidated, hasAny ["repository", "sender", "action"]⟩,
  ⟨.webhookReceived, Value.isDict⟩]

def paymentRules : List DetectionRule := [
  ⟨.webhookValidated, fun v => textAt "object" "event" v && hasAll ["type", "data"] v⟩,
  ⟨.webhookReceived, Value.isDict⟩]

def messengerRules : List DetectionRule := [
  ⟨.webhookReceived, fun v => hasAll ["challenge"] v && textAt "type" "url_verification" v⟩,
  ⟨.webhookValidated, fun v => textAt "type" "event_callback" v && hasAll ["event"] v⟩,
  ⟨.webhookValidated, hasAny ["command", "payload"]⟩,
  ⟨.webhookReceived, Value.isDict⟩]

/-- Any payload is a webhook. -/
def anyWebhookRules : List DetectionRule := [⟨.webhookReceived, fun _ => true⟩]

/-- Rules of change captures with a header. -/
def changeHeaderRules : List DetectionRule := [
  ⟨.erpRecordChange, shapeAt "payload" (hasAll ["ChangeEventHeader"])⟩,
  ⟨.erpQueryResult, fun v => hasAll ["totalSize"] v && listAt "records" v⟩]

/-- Rules of cloud events and of query results below `d` or under `value`. -/
def cloudEventRules : List DetectionRule := [
  ⟨.erpRecordChange, hasAll ["specversion", "type", "data"]⟩,
  ⟨.erpQueryResult, shapeAt "d" (listAt "results")⟩,
  ⟨.erpQueryResult, listAt "value"⟩]

def executionRules : List DetectionRule := [
  ⟨.erpRecordChange, hasAll ["MessageName", "PrimaryEntityName"]⟩,
  ⟨.erpQueryResult, listAt "value"⟩]

def databaseRules : List DetectionRule := [
  ⟨.databaseQueryResult, listAt "rows"⟩,
  ⟨.databaseQueryResult, hasAll ["cursor"]⟩,
  ⟨.databaseConnectionEvent, namesConnectionEvent⟩]

/-- The place of the first rule that holds, past the end if there is none. -/
def firstMatch (rules : List DetectionRule) (payload : Value) : Nat :=
  rules.findIdx (·.holds payload)

def detect (rules : List DetectionRule) (payload : Value) : EventKind :=
  match rules.find? (·.holds payload) with
  | some rule => rule.kind
  | none => .unknown

end Detection

end EventIntake
