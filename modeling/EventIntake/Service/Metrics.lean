/-
The counters of a running service.  They are kept in a file, if one is configured: written after
each change, and read when the service starts.  A file that cannot be written or read is no
fault.
-/
import EventIntake.Counters
import EventIntake.Engine

namespace EventIntake

variable [Limits]

structure Service where
  engine : EngineState
  counters : Counters := .zero

inductive MetricsFault where
  | counter (fault : CounterFault)
  | settings (fault : SettingsFault)
  | tooDeep
deriving DecidableEq, Repr

/-- A computation on the counters of a service; what has been counted stays counted when it
fails. -/
abbrev Metering := ExceptT MetricsFault (StateM Service)

namespace Service

/-- The engine runs in the service. -/
def runEngine {α : Type} (run : Engine α) : ExceptT EngineFault (StateM Service) α :=
  ExceptT.mk do
    let service ← get
    let (outcome, engine) := ExceptT.run run service.engine
    set { service with engine }
    return outcome

def settings (host : Host) (service : Service) : Except SettingsFault Settings :=
  Settings.read host.tables.path service.engine.environment

/-- The file of the counters, if one is configured. -/
def metricsFile (host : Host) : Metering (Option String) := do
  match (← get).settings host with
  | .ok settings => return settings.metricsFile
  | .error fault => throw (.settings fault)

def countersText (counters : Counters) : Except MetricsFault String :=
  if counters.tooLong then .error (.counter .tooLong)
  else counters.toText.mapError fun _ => .tooDeep

/-- The counters are written to their file. -/
def keepCounters (host : Host) : Metering Unit := do
  let some path ← metricsFile host | return
  let service ← get
  match countersText service.counters with
  | .error fault => throw fault
  | .ok text =>
    match service.engine.files.write path (Text.Utf8.encode text.toList) with
    | .ok files => set { service with engine := { service.engine with files } }
    | .error _ => return

/-- Something is counted, and the counters are kept. -/
def count (host : Host) (counting : Counting Unit) : Metering Unit := do
  let service ← get
  let (outcome, counters) := counting.run service.counters
  set { service with counters }
  match outcome with
  | .ok _ => keepCounters host
  | .error fault => throw (.counter fault)

def countEvent (host : Host) (event : Envelope) : Metering Unit :=
  count host (Counters.countEvent event)

def countUnsupported (host : Host) : Metering Unit :=
  count host Counters.countUnsupported

def countersValue (counters : Counters) : Except MetricsFault Value :=
  let v : Value := .dict counters.entries
  if counters.tooLong then .error (.counter .tooLong)
  else if Limits.writing < v.depth ∨ Limits.reading < v.depth then .error .tooDeep
  else .ok v

def snapshot : Metering Value := do
  modify fun service => { service with counters := service.counters.complete }
  match countersValue (← get).counters with
  | .ok v => return v
  | .error fault => throw fault

/-- The counters start from zero; their file stays as it is. -/
def resetCounters : Metering Unit :=
  modify fun service => { service with counters := .zero }

/-- The text of a file, if it is one. -/
def textOf? (files : Files) (path : String) : Option String := do
  let bytes ← (files.read path).toOption
  let cs ← (Text.Utf8.decode bytes).toOption
  return String.ofList (Text.plainLines cs)

/-- The counters go on from those in their file. -/
def recallCounters (host : Host) : Metering Unit := do
  let some path ← metricsFile host | return
  let some text := textOf? (← get).engine.files path | return
  match Counters.ofText? text with
  | .error .tooDeep => throw .tooDeep
  | .error _ => return
  | .ok none => return
  | .ok (some entries) =>
    modify fun service =>
      { service with counters := (service.counters.merge entries).complete }

end Service

end EventIntake
