/-
What belongs to each format: the rules that detect the kind of an event, the name of the system
behind it, and the checks of its data.
-/
import EventIntake.Detection
import EventIntake.Event.Input
import EventIntake.Format.Basic
import EventIntake.Headers
import EventIntake.Text.Split
import EventIntake.Value.Display

namespace EventIntake

variable [Limits]

/-- Checks that only some formats have. -/
inductive DataCheck where
  /-- Messages are a list, and token counts are counts. -/
  | llmShape
  /-- A payment event has an identifier and a type. -/
  | stripeShape
deriving DecidableEq, Repr

inductive SystemFault where
  | tooDeep
  | tooLong
deriving DecidableEq, Repr

def SystemFault.message : SystemFault → String
  | .tooDeep => "the name of the system is nested too deeply"
  | .tooLong => unwritableMessage

namespace Format

/-- The rules that detect the kind of an event. -/
def rules : Format → List DetectionRule
  | .openai | .azureOpenai => Detection.chatRules
  | .anthropic => Detection.messageRules
  | .googleAi => Detection.candidateRules
  | .awsBedrock => Detection.hostedRules
  | .github => Detection.repositoryRules
  | .stripe => Detection.paymentRules
  | .slack => Detection.messengerRules
  | .webhook => Detection.anyWebhookRules
  | .salesforce => Detection.changeHeaderRules
  | .sap => Detection.cloudEventRules
  | .dynamics => Detection.executionRules
  | .postgres | .mysql | .mongodb => Detection.databaseRules
  | .oauth2 | .saml | .oidc | .custom => []

/-- The kind of a payload in this format. -/
def detect (format : Format) (payload : Value) : EventKind :=
  Detection.detect format.rules payload

def checks (format : Format) : List DataCheck :=
  match format with
  | .stripe => [.stripeShape]
  | format => if format.family = .llm then [.llmShape] else []

/-- The first of some values that does not count as nothing, displayed. -/
def displayFirst (candidates : List (Option Value)) : Except SystemFault String :=
  match candidates.find? fun v? => (v?.map Value.truthy).getD false with
  | some (some v) =>
    if v.tooDeepToTell then .error .tooDeep
    else if v.hasTooLong then .error .tooLong
    else .ok v.plain
  | _ => .ok "unknown"

/-- The name of the system behind an event.  Some formats tell it in a header or in the
payload. -/
def system (format : Format) (event : ExternalEvent) : Except SystemFault String :=
  match format with
  | .openai => .ok "openai"
  | .anthropic => .ok "anthropic"
  | .googleAi => .ok "google-ai"
  | .azureOpenai => .ok "azure-openai"
  | .awsBedrock => .ok "aws-bedrock"
  | .github =>
    .ok ("github-" ++
      (Headers.text? (event.headers.getD []) ["x-github-event"]).getD "unknown")
  | .stripe =>
    (displayFirst [event.payload.member? "type"]).map fun name =>
      "stripe-" ++ Text.replaceChar '.' '-' name
  | .slack =>
    (displayFirst [(event.payload.member? "event").bind (·.member? "type"),
      event.payload.member? "type"]).map fun name => "slack-" ++ name
  | .webhook => .ok "generic-webhook"
  | .salesforce => .ok "salesforce"
  | .sap => .ok "sap"
  | .dynamics => .ok "dynamics-365"
  | .postgres => .ok "postgres"
  | .mysql => .ok "mysql"
  | .mongodb => .ok "mongodb"
  | .oauth2 | .saml | .oidc | .custom => .ok ("generic-" ++ format.name)

end Format

end EventIntake
