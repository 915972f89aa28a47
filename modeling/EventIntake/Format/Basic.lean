/-
The external formats that events come in.
-/

namespace EventIntake

inductive Format where
  | openai
  | anthropic
  | googleAi
  | azureOpenai
  | awsBedrock
  | github
  | stripe
  | slack
  | webhook
  | salesforce
  | sap
  | dynamics
  | postgres
  | mysql
  | mongodb
  | oauth2
  | saml
  | oidc
  | custom
deriving DecidableEq, Repr

/-- What kind of system uses a format. -/
inductive Family where
  | llm
  | webhook
  | erp
  | database
  | generic
deriving DecidableEq, Repr

def Family.name : Family → String
  | .llm => "llm"
  | .webhook => "webhook"
  | .erp => "erp"
  | .database => "database"
  | .generic => "generic"

namespace Format

/-- All formats, in the order of the catalog. -/
def all : List Format := [
  .openai, .anthropic, .googleAi, .azureOpenai, .awsBedrock, .github, .stripe, .slack, .webhook,
  .salesforce, .sap, .dynamics, .postgres, .mysql, .mongodb, .oauth2, .saml, .oidc, .custom]

theorem mem_all (format : Format) : format ∈ all := by
  cases format <;> simp [all]

def name : Format → String
  | .openai => "openai_api"
  | .anthropic => "anthropic_api"
  | .googleAi => "google_ai_api"
  | .azureOpenai => "azure_openai_api"
  | .awsBedrock => "aws_bedrock_api"
  | .github => "webhook_github"
  | .stripe => "webhook_stripe"
  | .slack => "webhook_slack"
  | .webhook => "webhook_generic"
  | .salesforce => "erp_salesforce"
  | .sap => "erp_sap"
  | .dynamics => "erp_dynamics"
  | .postgres => "database_postgres"
  | .mysql => "database_mysql"
  | .mongodb => "database_mongodb"
  | .oauth2 => "auth_oauth2"
  | .saml => "auth_saml"
  | .oidc => "auth_oidc"
  | .custom => "custom"

def names : List String := all.map name

theorem mem_names_iff {text : String} : text ∈ names ↔ ∃ format : Format, text = format.name := by
  rw [names, List.mem_map]
  constructor
  · intro ⟨format, _, hname⟩
    exact ⟨format, hname.symm⟩
  · intro ⟨format, hname⟩
    exact ⟨format, mem_all format, hname.symm⟩

def ofName? (name : String) : Option Format := all.find? (·.name == name)

theorem name_of_ofName? {text : String} {format : Format} (hformat : ofName? text = some format) :
    format.name = text := by
  have hfound := List.find?_some hformat
  exact beq_iff_eq.1 hfound

/-- The wording for an identifier that names no format. -/
def unsupportedMessage (name : String) : String :=
  s!"Unsupported event format '{name}'. Supported formats: " ++ String.intercalate ", " names

def family : Format → Family
  | .openai | .anthropic | .googleAi | .azureOpenai | .awsBedrock => .llm
  | .github | .stripe | .slack | .webhook => .webhook
  | .salesforce | .sap | .dynamics => .erp
  | .postgres | .mysql | .mongodb => .database
  | .oauth2 | .saml | .oidc | .custom => .generic

/-- Generic formats have no rules and need no mapping table. -/
def isGeneric (format : Format) : Bool := format.family = .generic

end Format

end EventIntake
