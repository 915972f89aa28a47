/-
The kinds of canonical events.
-/

namespace EventIntake

/-- What a canonical event tells. -/
inductive EventKind where
  | llmRequest
  | llmResponse
  | llmStreamChunk
  | llmError
  | webhookReceived
  | webhookValidated
  | erpRecordChange
  | erpQueryResult
  | databaseQueryResult
  | databaseConnectionEvent
  | authTokenVerified
  | authIdentityResolved
  | connectorHealthCheck
  | connectorMetrics
  | unknown
deriving DecidableEq, Repr

namespace EventKind

/-- All kinds, in the order of their catalog. -/
def all : List EventKind := [
  .llmRequest, .llmResponse, .llmStreamChunk, .llmError, .webhookReceived, .webhookValidated,
  .erpRecordChange, .erpQueryResult, .databaseQueryResult, .databaseConnectionEvent,
  .authTokenVerified, .authIdentityResolved, .connectorHealthCheck, .connectorMetrics, .unknown]

def name : EventKind → String
  | .llmRequest => "llm.request"
  | .llmResponse => "llm.response"
  | .llmStreamChunk => "llm.stream_chunk"
  | .llmError => "llm.error"
  | .webhookReceived => "webhook.received"
  | .webhookValidated => "webhook.validated"
  | .erpRecordChange => "erp.record_change"
  | .erpQueryResult => "erp.query_result"
  | .databaseQueryResult => "database.query_result"
  | .databaseConnectionEvent => "database.connection_event"
  | .authTokenVerified => "auth.token_verified"
  | .authIdentityResolved => "auth.identity_resolved"
  | .connectorHealthCheck => "connector.health_check"
  | .connectorMetrics => "connector.metrics"
  | .unknown => "unknown"

def ofName? (name : String) : Option EventKind :=
  all.find? (·.name == name)

end EventKind

end EventIntake
