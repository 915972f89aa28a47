/-
Normalizing events of every supported format with the mapping tables in use.
-/
import EventIntake.Format.Catalog
import EventIntake.Mapping.Store
import EventIntake.Normalize

namespace EventIntake

variable [Limits]

/-- What the program is given from outside. -/
structure Host where
  tables : TableSource
  instruments : Instruments
  registry : Transform.Registry

/-- What changes from event to event. -/
structure EngineState where
  environment : Environment
  files : Files
  store : MappingStore := {}
  readings : Readings := {}

inductive EngineFault where
  | unsupported (format : String)
  | load (fault : LoadFault)
  | table (fault : TableFault)
  | normalize (fault : NormalizeFault)

def EngineFault.message : EngineFault → String
  | .unsupported format => Format.unsupportedMessage format
  | .load fault => fault.message
  | .table fault => fault.message
  | .normalize fault => fault.message

/-- A computation of the engine; tables stay loaded and readings taken when it fails. -/
abbrev Engine := ExceptT EngineFault (StateM EngineState)

namespace Engine

def load (host : Host) (force : Bool) : Engine Profiles := do
  let state ← get
  match state.store.load host.tables state.environment state.files force with
  | .ok (profiles, store) =>
    set { state with store }
    return profiles
  | .error fault => throw (.load fault)

def table (host : Host) (format : String) : Engine (List Row) := do
  let profiles ← load host false
  match Profile.table profiles (.string format) with
  | .ok rows => return rows
  | .error fault => throw (.table fault)

/-- A format that is supported. -/
def supported (name : String) : Engine Format :=
  match Format.ofName? name with
  | some format => return format
  | none => throw (.unsupported name)

/-- The canonical event by a table that has been looked up. -/
def normalizeBy (host : Host) (format : Format) (table : List Row) (event : ExternalEvent)
    (config : Config) : Engine Envelope := do
  let state ← get
  let setting : Normalize.Setting := ⟨host.instruments, host.registry, table, config⟩
  let (outcome, readings) := (Normalize.run setting format event).run state.readings
  set { state with readings }
  match outcome with
  | .ok envelope => return envelope
  | .error fault => throw (.normalize fault)

def normalize (host : Host) (event : ExternalEvent) (config : Config) : Engine Envelope := do
  let format ← supported event.format
  normalizeBy host format (← table host event.format) event config

/-- A canonical event, with the table and the kind that it came from. -/
structure Inspection where
  event : Envelope
  table : List Row
  kind : EventKind

/-- The inspection as it is written: rows without the members that are absent. -/
def Inspection.toPayload (inspection : Inspection) : Except PayloadFault Value := do
  let payload ← inspection.event.toPayload
  return .record [
    ("normalized_event", payload),
    ("field_mappings", .list (inspection.table.map Row.toBriefValue)),
    ("detected_type", .string inspection.kind.name)]

/-- The canonical event of an external one, with the table and the kind behind it. -/
def inspect (host : Host) (event : ExternalEvent) (config : Config) : Engine Inspection := do
  let format ← supported event.format
  let table ← table host event.format
  return ⟨← normalizeBy host format table event config, table, format.detect event.payload⟩

end Engine

end EventIntake
