/-
Profiles of mapping tables.  A profile has rows of its own and may extend another profile, whose
table then goes before its rows.  A chain of profiles that comes back to itself has no table.
-/
import EventIntake.Mapping.Row
import EventIntake.Path

namespace EventIntake

/-- The profiles of a configuration by name, as they are written. -/
abbrev Profiles := Entries

inductive ProfileFault where
  /-- The chain comes back to a profile that is in it. -/
  | cycle (names : List Scalar)
  /-- The profile extends something that is no profile. -/
  | unknownBase (profile base : Scalar)
  /-- The base is no key. -/
  | noKey (kind : String)
  /-- The rows are not given in a row. -/
  | noRows (kind : String)
  /-- The cycle cannot be told, because a name in it is no text. -/
  | unnamed (index : Nat) (kind : String)
  /-- The base cannot be told: it is a number of too many digits. -/
  | tooLong
deriving DecidableEq, Repr

/-- The wording for a list of names one of which is no text. -/
def unnamedMessage (index : Nat) (kind : String) : String :=
  s!"sequence item {index}: expected str instance, {kind} found"

namespace ProfileFault

def message : ProfileFault → String
  | .cycle names => "Mapping profile cycle: " ++ String.intercalate " -> " (names.map Scalar.plain)
  | .unknownBase profile base =>
    s!"Profile '{profile.plain}' extends unknown profile '{base.plain}'."
  | .noKey kind => s!"unhashable type: '{kind}'"
  | .noRows kind => s!"'{kind}' object is not iterable"
  | .unnamed index kind => unnamedMessage index kind
  | .tooLong => unwritableMessage

/-- Faults of the configuration itself, which services report; the others mean that the
configuration is not even a table of profiles. -/
def isReported : ProfileFault → Bool
  | .cycle _ => true
  | .unknownBase _ _ => true
  | _ => false

end ProfileFault

namespace Profile

/-- The first of some names that is no text, with its place. -/
def firstUnnamed? : Nat → List Scalar → Option (Nat × String)
  | _, [] => none
  | i, key :: rest =>
    if key.isText then firstUnnamed? (i + 1) rest else some (i, (Value.scalar key).fullKindName)

/-- The fault of a chain that comes back to a name. -/
def cycleFault (names : List Scalar) : ProfileFault :=
  match firstUnnamed? 0 names with
  | none => .cycle names
  | some (index, kind) => .unnamed index kind

/-- The fault of a profile that extends something that is no profile. -/
def unknownBaseFault (profile base : Scalar) : ProfileFault :=
  if profile.isTooLong || base.isTooLong then .tooLong else .unknownBase profile base

/-- The profile that a profile extends, null if none. -/
def base (profile : Entries) : Value :=
  (Entries.get? (.string "extends") profile).getD .null

/-- The rows that a profile gives itself.  What counts as nothing is no rows. -/
def ownRows (profile : Entries) : Except ProfileFault (List Value) :=
  let given := (Entries.get? (.string "mappings") profile).getD .null
  if !given.truthy then .ok []
  else
    match given with
    | .list rows => .ok rows
    | .dict entries => .ok (entries.map fun (key, _) => .scalar key)
    | .string s => .ok (s.toList.map fun c => .string (String.singleton c))
    | .halved t => .ok (t.points.map fun p => .scalar (.ofPoints [p]))
    | v => .error (.noRows v.fullKindName)

/-- The profiles of a chain after some names, the last one first.  The chain goes on at `next`, and
`steps` bounds its length. -/
def chainFrom (profiles : Profiles) :
    Nat → List Scalar → List Entries → Value → Except ProfileFault (List Entries)
  | _, _, found, .scalar .null => .ok found
  | _, _, _, .list _ => .error (.noKey "list")
  | _, _, _, .dict _ => .error (.noKey "dict")
  | steps, names, found, .scalar name =>
    if names.any (·.same name) then .error (cycleFault (names ++ [name]))
    else
      match Entries.get? name profiles with
      | some (.dict profile) =>
        match steps with
        | 0 => .error (cycleFault (names ++ [name]))
        | steps + 1 =>
          chainFrom profiles steps (names ++ [name]) (profile :: found) (base profile)
      | _ =>
        match names.getLast? with
        | none => .ok []
        | some last => .error (unknownBaseFault last name)

/-- The profiles that a profile is made of, the most basic one first.  A name that is no profile has
none. -/
def chain (profiles : Profiles) (name : Scalar) : Except ProfileFault (List Entries) :=
  chainFrom profiles profiles.length [] [] (.scalar name)

/-- The rows of several profiles in order. -/
def rowsOf : List Entries → Except ProfileFault (List Value)
  | [] => .ok []
  | profile :: rest => do
    let own ← ownRows profile
    let others ← rowsOf rest
    return own ++ others

/-- The table of a profile: the table of the profile that it extends, and then its own rows. -/
def resolve (profiles : Profiles) (name : Scalar) : Except ProfileFault (List Value) := do
  rowsOf (← chain profiles name)

end Profile

inductive TableFault where
  | profile (fault : ProfileFault)
  /-- A row is a value of another kind. -/
  | notARow (kind : String)
  /-- A key of a row is no text. -/
  | keyword
  | invalid (issues : List Schema.Issue)
deriving DecidableEq, Repr

def TableFault.message : TableFault → String
  | .profile fault => fault.message
  | .notARow kind => s!"a row must be a mapping, not {kind}"
  | .keyword => "keywords must be strings"
  | .invalid issues => Schema.issuesText "FieldMapping" issues

namespace Row

/-- The row that a value writes. -/
def read (v : Value) : Except TableFault Row :=
  match v with
  | .dict entries =>
    if entries.all fun (key, _) => key.isText then
      match Row.shape.check false [] v with
      | .ok checked => .ok (.ofChecked checked)
      | .error issues => .error (.invalid issues)
    else .error .keyword
  | v => .error (.notARow v.kindName)

def readAll : List Value → Except TableFault (List Row)
  | [] => .ok []
  | v :: rest => do
    let row ← read v
    let others ← readAll rest
    return row :: others

end Row

def Profile.table (profiles : Profiles) (name : Scalar) : Except TableFault (List Row) := do
  Row.readAll (← (Profile.resolve profiles name).mapError .profile)

end EventIntake
