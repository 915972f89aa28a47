/-
The mapping tables in use.  They are read once for each path: a table that has been loaded is used
until the configured path changes or a new reading is asked for.
-/
import EventIntake.Files
import EventIntake.Mapping.Profile
import EventIntake.Settings
import EventIntake.Text.Utf8
import EventIntake.Yaml.Reader

namespace EventIntake

/-- Where mapping tables come from: the path of those that come with the program, and what parses
the text of a file. -/
structure TableSource where
  path : String
  parser : Yaml.Parser

inductive LoadFault where
  | settings (fault : SettingsFault)
  | notFound (path : String)
  | file (fault : FileFault)
  | text (fault : Text.Utf8.Fault)
  | yaml (path : String) (fault : Yaml.ReadFault)
  | notAMapping (path : String)
deriving DecidableEq, Repr

namespace LoadFault

def message : LoadFault → String
  | .settings fault => fault.message
  | .notFound path =>
    s!"Field mappings config not found at: {path}. " ++
      "Set MAPPING_CONFIG_PATH env var to override the default location."
  | .file fault => fault.message
  | .text fault => fault.message
  | .yaml path fault => fault.message path
  | .notAMapping path =>
    s!"Field mappings config at {path} must be a YAML mapping at the top level."

/-- Faults that loading reports: its own, and those of a text that is not well formed or nested too
deeply.  The others come from reading the file and from what its text says. -/
def isReported : LoadFault → Bool
  | .settings _ => true
  | .notFound _ => true
  | .yaml _ (.malformed _) => true
  | .yaml _ .tooDeep => true
  | .notAMapping _ => true
  | _ => false

end LoadFault

namespace Profiles

/-- The profiles that a parser has read from the text at a path. -/
def ofParsed (path : String) : Except Yaml.ReadFault Value → Except LoadFault Profiles
  | .error fault => .error (.yaml path fault)
  | .ok (.dict profiles) => .ok profiles
  | .ok _ => .error (.notAMapping path)

/-- The profiles in a file.  Where its bytes break off, the parser may have met a fault in the text
before. -/
def ofFile (parser : Yaml.Parser) (files : Files) (path : String) : Except LoadFault Profiles := do
  if !files.exists path then throw (.notFound path)
  let bytes ← (files.read path).mapError .file
  match Text.Utf8.decode bytes with
  | .ok cs => ofParsed path (parser.read (Text.plainLines cs))
  | .error fault =>
    match parser.readBroken (Text.plainLines (Text.Utf8.readable bytes)) fault with
    | some met => throw (.yaml path met)
    | none => throw (.text fault.leftOver)

end Profiles

/-- The tables that were loaded last, with their path. -/
structure MappingStore where
  loaded : Option (String × Profiles) := none

namespace MappingStore

/-- The tables of an environment, and the store that has them loaded.  They are read when `force`
asks for it, when none are loaded, or when those loaded are another path's. -/
def load (source : TableSource) (environment : Environment) (files : Files) (force : Bool)
    (store : MappingStore) : Except LoadFault (Profiles × MappingStore) := do
  let settings ← (Settings.read source.path environment).mapError .settings
  let path := settings.mappingPath
  match store.loaded, force with
  | some (known, profiles), false =>
    if known = path then return (profiles, store)
    let profiles ← Profiles.ofFile source.parser files path
    return (profiles, ⟨some (path, profiles)⟩)
  | _, _ =>
    let profiles ← Profiles.ofFile source.parser files path
    return (profiles, ⟨some (path, profiles)⟩)

end MappingStore

end EventIntake
