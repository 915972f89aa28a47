/-
The program: it looks at the world, has the command line carried out, and changes the world by
what has come of it.
-/
import EventIntake.CommandLine.Run
import EventIntake.Mapping.Report
import EventIntake.Text.Uuid
import Std.Time.DateTime.Timestamp

namespace EventIntake.Program

local instance : Limits := .standard

/-- The variables that the program reads. -/
def settingNames : List String := [
  "MAPPING_CONFIG_PATH", "LOG_LEVEL", "EVENT_NORMALIZER_MAX_PAYLOAD_BYTES",
  "EVENT_NORMALIZER_INCLUDE_DROPPED_FIELDS", "EVENT_NORMALIZER_INCLUDE_FIELD_MAPPINGS",
  "EVENT_NORMALIZER_STRICT_VALIDATION", "EVENT_NORMALIZER_METRICS_FILE"]

def environment : IO Environment :=
  settingNames.filterMapM fun name => return (← IO.getEnv name).map (name, ·)

/-- The directories that a normal path goes through. -/
def directoriesOf (path : String) : List String :=
  let parts := Text.splitAt '/' path
  (List.range parts.length).map fun n =>
    let directory := Text.joinWith "/" (parts.take n)
    if directory.isEmpty then (if path.startsWith "/" then "/" else ".") else directory

def lookAt (files : Files) (path : String) : IO Files := do
  let place := normalPath path
  let files := { files with directories := directoriesOf place ++ files.directories }
  try
    let bytes ← IO.FS.readBinFile path
    return { files with files := Files.insert place bytes.toList files.files }
  catch
    | .noFileOrDirectory .. => return files
    | _ => return { files with directories := place :: files.directories }

/-- All bytes of a stream. -/
partial def readAll (stream : IO.FS.Stream) (bytes : ByteArray) : IO ByteArray := do
  let more ← stream.read 65536
  if more.isEmpty then return bytes else readAll stream (bytes ++ more)

/-- The text of the standard input, if it is one. -/
def inputText : IO (Except Text.Utf8.Fault String) := do
  let bytes ← readAll (← IO.getStdin) .empty
  return (Text.Utf8.decode bytes.toList).map fun cs => String.ofList (Text.plainLines cs)

/-- The clock shows the time when the program started, and identifiers are chosen at random. -/
def instruments : IO Instruments := do
  let now ← Std.Time.Timestamp.now
  let bytes ← IO.getRandomBytes 16
  let micros := now.toNanosecondsSinceUnixEpoch.toInt / 1000
  return {
    clock := fun _ => ⟨micros, some 0⟩
    timer := fun _ => .zero false
    identifier := fun _ => Text.uuid bytes.toList }

/-- The texts are printed, and the exit status given. -/
def finish (printout : Printout) : IO UInt32 := do
  IO.print printout.output
  IO.eprint printout.errors
  return UInt32.ofNat printout.status

/-- A fault is told, and the program fails. -/
def fail (message : String) : IO UInt32 :=
  finish ⟨1, "", message ++ "\n"⟩

/-- The mapping tables that come with the program are in the directory where it runs. -/
def tables : TableSource where
  path := "field_mappings.yaml"
  parser := Yaml.reader

/-- The files that a command line speaks of. -/
def filesOf (environment : Environment) (arguments : List String) : IO Files := do
  let given := tables.path :: (environment.lookup "MAPPING_CONFIG_PATH").toList
  let given := match CommandLine.Options.ofArguments arguments with
    | .ok options => options.input :: options.output.toList ++ given
    | .error _ => given
  (given.filter fun path => !path.isEmpty && path != "-").foldlM lookAt ⟨[], ["."]⟩

/-- A command line on one event. -/
def event (host : Host) (environment : Environment) (arguments : List String) : IO UInt32 := do
  let files ← filesOf environment arguments
  let text ←
    match CommandLine.Options.ofArguments arguments with
    | .ok options => if options.input == "-" then inputText else pure (.ok "")
    | .error _ => pure (.ok "")
  match text with
  | .error fault => finish (CommandLine.failure s!"Failed to read JSON: {fault.message}")
  | .ok text =>
    let running := CommandLine.run "event-intake" host text arguments
    match ExceptT.run running { environment, files } with
    | (.error fault, _) => fail fault.message
    | (.ok printout, state) =>
      for (place, bytes) in state.files.files do
        if files.files.lookup place != some bytes then
          IO.FS.writeBinFile place ⟨bytes.toArray⟩
      finish printout

def report (environment : Environment) (arguments : List String) : IO UInt32 := do
  let files ← filesOf environment []
  match (Report.command "event-intake tables" tables arguments).run { environment, files } with
  | (.error fault, _) => fail fault.message
  | (.ok printout, _) => finish printout

/-- `tables --validate` reports on the mapping tables; anything else is a command on an event. -/
def run (arguments : List String) : IO UInt32 := do
  let environment ← Program.environment
  match arguments with
  | "tables" :: rest => report environment rest
  | arguments => event ⟨tables, ← instruments, []⟩ environment arguments

end EventIntake.Program

def main (arguments : List String) : IO UInt32 := EventIntake.Program.run arguments
