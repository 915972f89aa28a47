/-
Running a command line on one event: its payload comes from a file or the standard input, and the
result goes to a file or the standard output.
-/
import EventIntake.CommandLine.Options
import EventIntake.Engine
import EventIntake.Event.Telling
import EventIntake.Json.Reader
import EventIntake.Json.Writer
import EventIntake.Printout

namespace EventIntake.CommandLine

variable [Limits]

inductive RunFault where
  | inputTooDeep
  | settings (fault : SettingsFault)
  | engine (fault : EngineFault)
  | payload (fault : PayloadFault)
  | write (fault : Json.WriteFault)
  | file (fault : FileFault)
  /-- Half of a surrogate pair stands outside the data of the event.  How it is written is not
  looked at. -/
  | halved

def RunFault.message : RunFault → String
  | .inputTooDeep => "the payload is nested too deeply"
  | .settings fault => fault.message
  | .engine fault => fault.message
  | .payload fault => fault.message
  | .write fault => fault.message
  | .file fault => fault.message
  | .halved => Json.WriteFault.halved.message

/-- A computation of a command; it may leave changes when it fails. -/
abbrev Running := ExceptT RunFault (StateM EngineState)

inductive EventFault where
  | header (text : String)
  | invalid (issues : List Schema.Issue)

def EventFault.message : EventFault → String
  | .header text => s!"Header must look like name=value, got '{text}'"
  | .invalid issues => Schema.issuesText "ExternalEventInput" issues

def addHeader (name value : String) : List (String × String) → List (String × String)
  | [] => [(name, value)]
  | (n, v) :: rest =>
    if n = name then (name, value) :: rest else (n, v) :: addHeader name value rest

/-- The headers that options give.  The last one of a name counts, in the first one's place. -/
def readHeaders (headers : List (String × String)) :
    List String → Except EventFault (List (String × String))
  | [] => .ok headers
  | text :: rest =>
    match Text.cutAt? '=' text with
    | none => .error (.header text)
    | some (name, value) =>
      if Text.isBlankText name then .error (.header text)
      else readHeaders (addHeader (Text.strip name) (Text.strip value) headers) rest

/-- The event that options and a payload give, before it is checked. -/
def writeEvent (options : Options) (payload : Value) : Except EventFault Value := do
  let headers ← readHeaders [] options.headers
  return .record [
    ("format", .string options.format),
    ("raw_payload", payload),
    ("headers", if headers.isEmpty then .null else
      Value.record (headers.map fun (name, value) => (name, .string value))),
    ("received_at", .ofOption .string options.receivedAt)]

def readEvent (given : Value) : Except EventFault ExternalEvent := do
  return .ofChecked (← (ExternalEvent.shape.check false [] given).mapError .invalid)

inductive PayloadReadFault where
  | file (fault : FileFault)
  | text (fault : Text.Utf8.Fault)
  | json (fault : Json.ReadFault)

def PayloadReadFault.message : PayloadReadFault → String
  | .file fault => fault.message
  | .text fault => fault.message
  | .json fault => fault.message

/-- The payload in a file, or in the standard input. -/
def readPayload (files : Files) (standardInput input : String) :
    Except PayloadReadFault Value := do
  let text ←
    if input == "-" then pure standardInput
    else do
      let bytes ← (files.read input).mapError .file
      let cs ← (Text.Utf8.decode bytes).mapError .text
      pure (String.ofList (Text.plainLines cs))
  (Json.read text).mapError .json

/-- The configuration of a command. -/
def configOf (host : Host) (options : Options) : Running Config := do
  match Settings.read host.tables.path (← get).environment with
  | .error fault => throw (.settings fault)
  | .ok settings =>
    if options.noDroppedFields then
      return { settings.config with includeDroppedFields := false }
    else return settings.config

/-- A result of the engine, or the wording for an unsupported format. -/
def engineResult {α : Type} (run : Engine α) : Running (Except String α) := do
  match (← (show StateM EngineState (Except EngineFault α) from run.run)) with
  | .ok a => return .ok a
  | .error (.unsupported format) => return .error (Format.unsupportedMessage format)
  | .error fault => throw (.engine fault)

/-- What a command gives for an event. -/
def resultOf (host : Host) (command : Command) (event : ExternalEvent) (config : Config) :
    Running (Except String Value) := do
  let payload ←
    match command with
    | .normalize =>
      (Except.map Envelope.toPayload) <$> engineResult (Engine.normalize host event config)
    | .inspect =>
      (Except.map Engine.Inspection.toPayload) <$>
        engineResult (Engine.inspect host event config)
  match payload with
  | .error message => return .error message
  | .ok (.ok v) => return .ok v
  | .ok (.error fault) => throw (.payload fault)

/-- An outcome with a message on what went wrong. -/
def failure (message : String) : Printout := ⟨2, "", message ++ "\n"⟩

/-- The text of a result goes to its file, or to the standard output. -/
def deliver (output : Option String) (v : Value) : Running Printout := do
  match Json.pretty.write v with
  | .error fault => throw (.write fault)
  | .ok text =>
    let text := text ++ "\n"
    match output.filter fun path => !path.isEmpty with
    | none => return ⟨0, text, ""⟩
    | some path =>
      let state ← get
      match state.files.write path (Text.Utf8.encode text.toList) with
      | .ok files => set { state with files }; return ⟨0, "", ""⟩
      | .error fault => throw (.file fault)

/-- Options are carried out. -/
def perform (host : Host) (standardInput : String) (options : Options) : Running Printout := do
  match readPayload (← get).files standardInput options.input with
  | .error (.json .tooDeep) => throw .inputTooDeep
  | .error fault => return failure s!"Failed to read JSON: {fault.message}"
  | .ok payload =>
    let given := writeEvent options payload
    match given.bind fun given => (readEvent given).map (given, ·) with
    | .error fault => return failure s!"Invalid event: {fault.message}"
    | .ok (given, event) =>
      let config ← configOf host options
      match ← resultOf host options.command event config with
      | .error message => return failure message
      | .ok v =>
        if ExternalEvent.tellsHalf given config then throw .halved
        deliver options.output v

/-- How a program of some name is called. -/
def usage (program : String) : String :=
  s!"usage: {program} [-h] --format EXTERNAL_FORMAT [--received-at RECEIVED_AT] [--header HEADER] " ++
    "[--no-dropped-fields] [-o OUTPUT] \x7bnormalize,inspect\x7d [input]\n"

/-- A command line is carried out by a program of some name. -/
def run (program : String) (host : Host) (standardInput : String) (arguments : List String) :
    Running Printout :=
  match Options.ofArguments arguments with
  | .ok options => perform host standardInput options
  | .error .help => return ⟨0, usage program, ""⟩
  | .error (.fault fault) =>
    return failure (usage program ++ s!"{program}: error: {fault.message}")

end EventIntake.CommandLine
