/-
Settings of the service, read from its environment.
-/
import EventIntake.Event.Config
import EventIntake.Text.Case
import EventIntake.Text.Quoted
import EventIntake.Text.Split

namespace EventIntake

abbrev Environment := List (String × String)

structure Settings where
  mappingPath : String
  maxPayloadBytes : Int
  includeDroppedFields : Bool
  includeFieldMappings : Bool
  strictValidation : Bool
  metricsFile : Option String
  logLevel : String
deriving DecidableEq, Repr

/-- A setting that cannot be read. -/
inductive SettingsFault where
  | notAnInteger (name text : String)
deriving DecidableEq, Repr

def SettingsFault.message : SettingsFault → String
  | .notAnInteger name text => s!"{name} must be an integer, got {Text.quoted text}"

/-- The normal form of a file's path: no empty parts and no dots between slashes, and one slash in
front, or the two that stand there. -/
def normalPath (path : String) : String :=
  let cs := path.toList
  let root :=
    match cs with
    | '/' :: '/' :: '/' :: _ => "/"
    | '/' :: '/' :: _ => "//"
    | '/' :: _ => "/"
    | _ => ""
  let parts := (Text.splitChars '/' cs).filter fun part => !part.isEmpty && part != ['.']
  let body := Text.joinWith "/" (parts.map String.ofList)
  if root.isEmpty && body.isEmpty then "." else root ++ body

namespace Settings

def trueWords : List String := ["1", "true", "yes", "y", "on"]

def falseWords : List String := ["0", "false", "no", "n", "off"]

/-- A truth value of the environment; what is no word for one leaves the default. -/
def truth (environment : Environment) (name : String) (default : Bool) : Bool :=
  match environment.lookup name with
  | none => default
  | some text =>
    let word := Text.lower (Text.strip text)
    if trueWords.contains word then true
    else if falseWords.contains word then false
    else default

/-- An integer of the environment; blanks leave the default. -/
def integer (environment : Environment) (name : String) (default : Int) :
    Except SettingsFault Int :=
  match environment.lookup name with
  | none => .ok default
  | some text =>
    let word := (Text.strip text).toList
    if word.isEmpty then .ok default
    else
      match Number.readInteger word with
      | .ok n => .ok n
      | .error _ => .error (.notAnInteger name text)

/-- A text of the environment that is not empty. -/
def text? (environment : Environment) (name : String) : Option String :=
  (environment.lookup name).filter fun text => !text.isEmpty

/-- The settings of an environment.  The mapping tables that come with the program are at
`bundled`. -/
def read (bundled : String) (environment : Environment) : Except SettingsFault Settings := do
  let maxPayloadBytes ← integer environment "EVENT_NORMALIZER_MAX_PAYLOAD_BYTES" 10485760
  return {
    mappingPath := ((text? environment "MAPPING_CONFIG_PATH").map normalPath).getD bundled
    maxPayloadBytes
    includeDroppedFields := truth environment "EVENT_NORMALIZER_INCLUDE_DROPPED_FIELDS" true
    includeFieldMappings := truth environment "EVENT_NORMALIZER_INCLUDE_FIELD_MAPPINGS" true
    strictValidation := truth environment "EVENT_NORMALIZER_STRICT_VALIDATION" false
    metricsFile := (text? environment "EVENT_NORMALIZER_METRICS_FILE").map normalPath
    logLevel := Text.upper ((environment.lookup "LOG_LEVEL").getD "INFO") }

/-- The configuration of a normalization that asks for nothing else. -/
def config (settings : Settings) : Config where
  strictValidation := settings.strictValidation
  maxPayloadBytes := settings.maxPayloadBytes
  includeDroppedFields := settings.includeDroppedFields
  includeFieldMappings := settings.includeFieldMappings
  pipelines := none

end Settings

end EventIntake
