/-
The report on the mapping tables in use: which profiles there are, how many rows each has, and
what is wrong with them.
-/
import EventIntake.Engine
import EventIntake.Mapping.Audit
import EventIntake.Printout

namespace EventIntake

inductive ReportFault where
  | load (fault : LoadFault)
  | audit (fault : AuditFault)
  /-- A line has no bytes. -/
  | print (fault : Text.EncodeFault)
  | profile (fault : ProfileFault)

def ReportFault.message : ReportFault → String
  | .load fault => fault.message
  | .audit fault => fault.message
  | .print fault => fault.message
  | .profile fault => fault.message

namespace Report

/-- The names of the profiles that belong to formats. -/
def formatNames : Profiles → Except ReportFault (List Scalar)
  | [] => .ok []
  | (key, _) :: rest => do
    if !key.isText then throw (.audit (.unnamedProfile (Value.scalar key).fullKindName))
    let names ← formatNames rest
    return if key.points.head? = some (.char '_') then names else key :: names

/-- The line with the names, which has to have bytes.  It goes before all others. -/
def namesLine (names : List Scalar) : Except ReportFault String :=
  let found := String.intercalate ", " (names.map Scalar.plain)
  if names.all Scalar.isWhole then
    .ok ("Profiles found: " ++ if found.isEmpty then "(none)" else found)
  else
    let points := names.map Scalar.points
    .error (.print (.ofPoints
      ("Profiles found: ".toList.map .char ++ (", ".toList.map .char).intercalate points)))

/-- The lines on the tables of some profiles.  A profile whose chain is broken has none. -/
def tableLines (profiles : Profiles) : List Scalar → Except ReportFault (List String)
  | [] => .ok []
  | name :: rest => do
    match Profile.resolve profiles name with
    | .ok rows => return s!"  {name.plain}: {rows.length} rows" :: (← tableLines profiles rest)
    | .error fault =>
      if fault.isReported then tableLines profiles rest else throw (.profile fault)

/-- The lines, each with its end. -/
def linesText (lines : List String) : String :=
  String.join (lines.map (· ++ "\n"))

def ofProfiles (profiles : Profiles) : Except ReportFault Printout := do
  let issues ← (Audit.run profiles).mapError .audit
  let names ← formatNames profiles
  let first ← namesLine names
  let lines := first :: (← tableLines profiles names)
  if issues.isEmpty then
    return ⟨0, linesText (lines ++ ["OK    All checks passed."]), ""⟩
  else
    let failures := issues.map fun issue => s!"FAIL  {issue.message}"
    return ⟨1, linesText lines, linesText failures⟩

/-- The command that reports: it reads the tables anew, and must be told to by a flag.  Its usage
names the program. -/
def command (program : String) (source : TableSource) (arguments : List String) :
    StateM EngineState (Except ReportFault Printout) := do
  if !arguments.contains "--validate" then
    return .ok ⟨1, "", linesText [s!"Usage: {program} --validate"]⟩
  let state ← get
  match state.store.load source state.environment state.files true with
  | .ok (profiles, store) =>
    set { state with store }
    return ofProfiles profiles
  | .error fault =>
    if fault.isReported then
      return .ok ⟨1, "", linesText [s!"FAIL  Config load error: {fault.message}"]⟩
    else return .error (.load fault)

end Report

end EventIntake
