/-
Reading the members of checked records.  A member that is not there, or is something else, counts
as nothing; the check has made sure of it.  Halves of surrogate pairs are shown by their escapes.
-/
import EventIntake.Value.Basic

namespace EventIntake

namespace Value

def textAt? (key : String) (v : Value) : Option String :=
  match v.member? key with
  | some (.string s) => some s
  | some (.halved t) => some t.shown
  | _ => none

/-- The text under a key, empty if there is none. -/
def textAt (key : String) (v : Value) : String := (v.textAt? key).getD ""

/-- The truth value under a key, false if there is none. -/
def truthAt (key : String) (v : Value) : Bool :=
  match v.member? key with
  | some (.bool b) => b
  | _ => false

/-- The integer under a key, zero if there is none. -/
def integerAt (key : String) (v : Value) : Int :=
  match v.member? key with
  | some (.int n) => n
  | _ => 0

/-- The value under a key, null if there is none. -/
def valueAt (key : String) (v : Value) : Value := (v.member? key).getD .null

/-- The items under a key, if there is a list. -/
def itemsAt? (key : String) (v : Value) : Option (List Value) :=
  match v.member? key with
  | some (.list items) => some items
  | _ => none

/-- The entries under a key, if there is a dictionary. -/
def entriesAt? (key : String) (v : Value) : Option Entries :=
  (v.member? key).bind entries?

/-- The record under a key, if it is not null. -/
def recordAt? (key : String) (v : Value) : Option Value :=
  match v.member? key with
  | some (.dict entries) => some (.dict entries)
  | _ => none

/-- Entries whose keys and values are texts. -/
def textEntries (entries : Entries) : List (String × String) :=
  entries.filterMap fun entry =>
    match entry with
    | (key, .scalar s) => key.shown?.bind fun name => s.shown?.map fun text => (name, text)
    | _ => none

def texts (items : List Value) : List String :=
  items.filterMap fun item =>
    match item with
    | .scalar s => s.shown?
    | _ => none

/-- Null for nothing. -/
def ofOption {α : Type} (f : α → Value) : Option α → Value
  | some a => f a
  | none => .null

/-- A dictionary with text keys. -/
def record (members : List (String × Value)) : Value :=
  .dict (members.map fun (key, v) => (.string key, v))

def ofTexts (texts : List String) : Value := .list (texts.map .string)

end Value

end EventIntake
