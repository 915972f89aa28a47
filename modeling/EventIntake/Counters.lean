/-
Counters of the service.  They may have come from a file with anything in it, so a counter is any
value, and counting fails on one that is no number.
-/
import EventIntake.Event.Envelope
import EventIntake.Json.Reader
import EventIntake.Json.Writer

namespace EventIntake

variable [Limits]

structure Counters where
  entries : Entries

inductive CounterFault where
  /-- The counter is a text. -/
  | text
  /-- The counter is a list; counters by name are lists one by one. -/
  | list (byName : Bool)
  /-- The counter is of a kind that nothing is added to. -/
  | operand (kind : String) (byName : Bool)
  /-- The counters by name are no dictionary. -/
  | noNames (kind : String)
  /-- The counter has more digits than can be written. -/
  | tooLong
deriving DecidableEq, Repr

def CounterFault.message : CounterFault → String
  | .text => "can only concatenate str (not \"int\") to str"
  | .list false => "'int' object is not iterable"
  | .list true => "can only concatenate list (not \"int\") to list"
  | .operand name byName =>
    let sign := if byName then "+" else "+="
    s!"unsupported operand type(s) for {sign}: '{name}' and 'int'"
  | .noNames kind => s!"'{kind}' object has no attribute 'get'"
  | .tooLong => unwritableMessage

/-- A computation on counters; what has been counted stays counted when it fails. -/
abbrev Counting := ExceptT CounterFault (StateM Counters)

namespace Counters

/-- The counters in their order, at zero. -/
def zeros : List (String × Value) := [
  ("normalizations_total", .int 0), ("validation_failed_total", .int 0),
  ("unsupported_format_total", .int 0), ("warnings_total", .int 0),
  ("dropped_fields_total", .int 0), ("events_by_format", .dict []), ("events_by_type", .dict [])]

def zero : Counters := ⟨(Value.record zeros).entries⟩

/-- The counters with those at zero that are missing. -/
def complete (counters : Counters) : Counters :=
  ⟨zeros.foldl (fun entries (name, v) =>
    if Entries.has (.string name) entries then entries
    else Entries.insert (.string name) v entries) counters.entries⟩

/-- The counters with others laid over them. -/
def merge (others : Entries) (counters : Counters) : Counters :=
  ⟨others.foldl (fun entries (key, v) => Entries.insert key v entries) counters.entries⟩

/-- A counter and a number more. -/
def plus (v : Value) (n : Nat) (byName : Bool) : Except CounterFault Value :=
  match v with
  | .int m => .ok (.int (m + n))
  | .bool b => .ok (.int ((if b then 1 else 0) + n))
  | .float x => .ok (.float (x.add (.ofInt n)))
  | .string _ => .error .text
  | .halved _ => .error .text
  | .list _ => .error (.list byName)
  | v => .error (.operand v.kindName byName)

def isTooLong : Value → Bool
  | .scalar s => s.isTooLong
  | _ => false

/-- Whether a counter has more digits than can be written.  No other integers can: they are as they
were read. -/
def tooLong (counters : Counters) : Bool :=
  counters.entries.any fun (_, v) => isTooLong v || v.entries.any fun (_, w) => isTooLong w

def valueOf (name : String) (counters : Counters) : Value :=
  (Entries.get? (.string name) counters.entries).getD .null

def put (name : String) (v : Value) : Counting Unit :=
  modify fun counters => ⟨Entries.insert (.string name) v counters.entries⟩

/-- A number more on a counter. -/
def add (name : String) (n : Nat) : Counting Unit := do
  put name (← plus ((← get).valueOf name) n false)

/-- One more under a key of a counter by name. -/
def addUnder (name key : String) : Counting Unit := do
  match (← get).valueOf name with
  | .dict entries =>
    let count ← plus ((Entries.get? (.string key) entries).getD (.int 0)) 1 true
    put name (.dict (Entries.insert (.string key) count entries))
  | v => throw (.noNames v.kindName)

/-- An event has been normalized. -/
def countEvent (event : Envelope) : Counting Unit := do
  modify complete
  add "normalizations_total" 1
  if !event.validation.validated then add "validation_failed_total" 1
  add "warnings_total" (event.normalization.warnings.getD []).length
  add "dropped_fields_total" (event.normalization.dropped.getD []).length
  addUnder "events_by_format" event.source.format
  addUnder "events_by_type" event.kind.name

/-- An event of an unsupported format has come. -/
def countUnsupported : Counting Unit := do
  modify complete
  add "unsupported_format_total" 1

/-- The counters as they are kept in a file. -/
def toText (counters : Counters) : Except Json.WriteFault String :=
  Json.pretty.write (.dict counters.entries)

/-- The counters that a text holds, if it is one of counters. -/
def ofText? (text : String) : Except Json.ReadFault (Option Entries) := do
  match (← Json.read text) with
  | .dict entries =>
    return if Entries.has (.string "normalizations_total") entries then some entries else none
  | _ => return none

end Counters

end EventIntake
