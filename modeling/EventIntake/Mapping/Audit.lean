/-
Auditing a configuration of mapping tables: every format that needs a profile has one, every
profile is named for a format or is a shared base, rows are well formed, and bases exist and
form no cycle.
-/
import EventIntake.Format.Basic
import EventIntake.Mapping.Profile
import EventIntake.Text.Blank
import EventIntake.Transform.Builtin

namespace EventIntake

/-- What is wrong with a row. -/
inductive RowIssue where
  | notARow (kind : String)
  | unknownKeys (keys : List String)
  | blankPath (key : String)
  | unknownTransform (name : String)
  | requiredNotTruth
  | paramsNotDict
deriving DecidableEq, Repr

/-- What is wrong with a configuration. -/
inductive ConfigIssue where
  | missingProfile (format : String)
  | notAProfile (profile kind : String)
  | unsupportedName (profile : String)
  | unknownKeys (profile : String) (keys : List String)
  | noRowList (profile : String)
  | row (profile : String) (index : Nat) (issue : RowIssue)
  | unknownBase (profile base : String)
  | chain (fault : ProfileFault)
deriving DecidableEq, Repr

inductive AuditFault where
  /-- The name of a profile is no text. -/
  | unnamedProfile (kind : String)
  /-- A key or a base is a list or a dictionary. -/
  | noKey (kind : String)
  /-- Unknown keys are of kinds that have no order. -/
  | unordered (left right : String)
  /-- An unknown key is no text. -/
  | unnamedKey (index : Nat) (kind : String)
  /-- What is wrong cannot be told: a number in it has too many digits. -/
  | tooLong
  | profile (fault : ProfileFault)
deriving DecidableEq, Repr

/-- The wording of what is wrong with a row, after the words for the row. -/
def RowIssue.message : RowIssue → String
  | .notARow kind => s!" must be a mapping, got {kind}."
  | .unknownKeys keys =>
    let names := String.intercalate ", " keys
    s!" has unknown keys: {names}."
  | .blankPath key => s!" is missing a non-empty '{key}'."
  | .unknownTransform name => s!" uses unknown transformation '{name}'."
  | .requiredNotTruth => ": 'required' must be a boolean."
  | .paramsNotDict => ": 'params' must be a mapping."

def ConfigIssue.message : ConfigIssue → String
  | .missingProfile format => s!"Missing mapping profile for format '{format}'."
  | .notAProfile profile kind => s!"Profile '{profile}' must be a YAML mapping, got {kind}."
  | .unsupportedName profile => s!"Profile '{profile}' is not a supported format."
  | .unknownKeys profile keys =>
    let names := String.intercalate ", " keys
    s!"Profile '{profile}' has unknown keys: {names}."
  | .noRowList profile => s!"Profile '{profile}': 'mappings' must be a list."
  | .row profile index issue => s!"Profile '{profile}' row {index}" ++ issue.message
  | .unknownBase profile base => s!"Profile '{profile}' extends unknown profile '{base}'."
  | .chain fault => fault.message

def AuditFault.message : AuditFault → String
  | .unnamedProfile kind => s!"'{kind}' object has no attribute 'startswith'"
  | .noKey kind => s!"unhashable type: '{kind}'"
  | .unordered left right => s!"'<' not supported between instances of '{left}' and '{right}'"
  | .unnamedKey index kind => unnamedMessage index kind
  | .tooLong => unwritableMessage
  | .profile fault => fault.message

namespace Audit

def rowKeys : List String := [
  "source_path", "target_path", "transformation", "required", "params"]

def profileKeys : List String := ["extends", "mappings"]

/-- The keys of entries that are none of some names. -/
def unknownKeys (names : List String) (entries : Entries) : List Scalar :=
  (entries.map (·.1)).filter fun key => !names.any fun name => key.same (.string name)

/-- Texts in the order of their codes. -/
def sorted (texts : List Scalar) : List Scalar :=
  texts.mergeSort fun a b => !(b.points.map Point.code < a.points.map Point.code)

def least? : List Scalar → Option Scalar
  | [] => none
  | key :: rest =>
    match least? rest with
    | none => some key
    | some other =>
      match other.quantity?, key.quantity? with
      | some x, some y => some (if x.below y then other else key)
      | _, _ => some key

/-- The keys in order.  Only texts can be told; a fault says why others cannot. -/
def orderedNames (keys : List Scalar) : Except AuditFault (List String) :=
  let kind (key : Scalar) : String := (Value.scalar key).fullKindName
  if keys.all Scalar.isText then .ok ((sorted keys).map Scalar.plain)
  else
    match keys with
    | [key] => .error (.unnamedKey 0 (kind key))
    | first :: second :: _ =>
      if keys.all fun key => key.quantity?.isSome then
        .error (.unnamedKey 0 (kind ((least? keys).getD first)))
      else .error (.unordered (kind second) (kind first))
    | [] => .ok []

/-- The issue of unknown keys, if there are some. -/
def keyIssues {α : Type} (issue : List String → α) (keys : List Scalar) :
    Except AuditFault (List α) :=
  match keys with
  | [] => .ok []
  | keys => (orderedNames keys).map fun names => [issue names]

/-- A path of a row must be more than blanks. -/
def pathIssues (entries : Entries) (key : String) : List RowIssue :=
  match Entries.get? (.string key) entries with
  | some (.scalar s) =>
    if s.isText && !s.points.all Point.isBlank then [] else [.blankPath key]
  | _ => [.blankPath key]

/-- A transform must be built in. -/
def transformIssues (entries : Entries) : Except AuditFault (List RowIssue) :=
  match Entries.get? (.string "transformation") entries with
  | none => .ok []
  | some (.scalar .null) => .ok []
  | some (.scalar (.string name)) =>
    .ok (if (Transform.Builtin.ofName? name).isSome then [] else [.unknownTransform name])
  | some (.scalar s) => if s.isTooLong then .error .tooLong else .ok [.unknownTransform s.plain]
  | some v => .error (.noKey v.kindName)

/-- Whether a row is required must be a truth value. -/
def requiredIssues (entries : Entries) : List RowIssue :=
  match Entries.get? (.string "required") entries with
  | none => []
  | some (.scalar (.bool _)) => []
  | some _ => [.requiredNotTruth]

/-- Parameters must be a dictionary, if there are some. -/
def paramsIssues (entries : Entries) : List RowIssue :=
  match Entries.get? (.string "params") entries with
  | none => []
  | some (.scalar .null) => []
  | some (.dict _) => []
  | some _ => [.paramsNotDict]

def rowIssues (row : Value) : Except AuditFault (List RowIssue) :=
  match row with
  | .dict entries => do
    let keys ← keyIssues RowIssue.unknownKeys (unknownKeys rowKeys entries)
    let transform ← transformIssues entries
    return keys ++ pathIssues entries "source_path" ++ pathIssues entries "target_path"
      ++ transform ++ requiredIssues entries ++ paramsIssues entries
  | v => .ok [.notARow v.kindName]

/-- What is wrong with the rows of a profile from an index on. -/
def rowListIssues (profile : String) : Nat → List Value → Except AuditFault (List ConfigIssue)
  | _, [] => .ok []
  | index, row :: rest => do
    let here ← rowIssues row
    let others ← rowListIssues profile (index + 1) rest
    return here.map (.row profile index) ++ others

/-- The rows of a profile must be a list. -/
def rowsIssues (profile : String) (entries : Entries) : Except AuditFault (List ConfigIssue) :=
  match Entries.get? (.string "mappings") entries with
  | some (.list rows) => rowListIssues profile 0 rows
  | _ => .ok [.noRowList profile]

/-- The profile that a profile extends must be there, and so must what it extends in turn. -/
def baseIssues (profiles : Profiles) (name : Scalar) (entries : Entries) :
    Except AuditFault (List ConfigIssue) :=
  match Profile.base entries with
  | .scalar .null => .ok []
  | .scalar key =>
    if Entries.has key profiles then
      match Profile.resolve profiles name with
      | .ok _ => .ok []
      | .error fault => if fault.isReported then .ok [.chain fault] else .error (.profile fault)
    else if name.isTooLong || key.isTooLong then .error .tooLong
    else .ok [.unknownBase name.plain key.plain]
  | v => .error (.noKey v.kindName)

/-- A profile must be named for a format or be a shared base, whose name starts with an
underscore. -/
def nameIssues (name : Scalar) : Except AuditFault (List ConfigIssue) :=
  match name with
  | .string s =>
    .ok (if s.toList.head? = some '_' ∨ Format.names.contains s then [] else [.unsupportedName s])
  | .halved t => .ok (if t.points.head? = some (.char '_') then [] else [.unsupportedName t.shown])
  | key => .error (.unnamedProfile (Value.scalar key).fullKindName)

def profileIssues (profiles : Profiles) (name : Scalar) (profile : Value) :
    Except AuditFault (List ConfigIssue) :=
  match profile with
  | .dict entries => do
    let naming ← nameIssues name
    let keys ← keyIssues (ConfigIssue.unknownKeys name.plain) (unknownKeys profileKeys entries)
    let rows ← rowsIssues name.plain entries
    let base ← baseIssues profiles name entries
    return naming ++ keys ++ rows ++ base
  | v => if name.isTooLong then .error .tooLong else .ok [.notAProfile name.plain v.kindName]

def profileListIssues (profiles : Profiles) : Entries → Except AuditFault (List ConfigIssue)
  | [] => .ok []
  | (name, profile) :: rest => do
    let here ← profileIssues profiles name profile
    let others ← profileListIssues profiles rest
    return here ++ others

/-- The formats that need a profile and have none. -/
def missingProfiles (profiles : Profiles) : List ConfigIssue :=
  (Format.all.filter fun format =>
    !format.isGeneric && !Entries.has (.string format.name) profiles).map fun format =>
      .missingProfile format.name

/-- What is wrong with a configuration. -/
def run (profiles : Profiles) : Except AuditFault (List ConfigIssue) := do
  let found ← profileListIssues profiles profiles
  return missingProfiles profiles ++ found

end Audit

end EventIntake
