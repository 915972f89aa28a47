/-
Checking mapped data: its size, and what its format asks of it.  What is wrong is listed.
-/
import EventIntake.Event.Envelope
import EventIntake.Format.Catalog
import EventIntake.Json.Writer

namespace EventIntake

variable [Limits]

inductive CheckFault where
  | write (fault : Json.WriteFault)
  /-- The data have no bytes. -/
  | encode (fault : Text.EncodeFault)
  | tooDeep
deriving DecidableEq, Repr

def CheckFault.message : CheckFault → String
  | .write fault => fault.message
  | .encode fault => fault.message
  | .tooDeep => "data are nested too deeply"

namespace DataCheck

def ofWrite : Json.WriteFault → CheckFault
  | .tooDeep => .tooDeep
  | fault => .write fault

/-- The bytes of the data as compact JSON.  Data with halves of surrogate pairs are written all the
same, but have no bytes then. -/
def size (data : Value) : Except CheckFault Nat :=
  match (Json.measured.write data : Except Json.WriteFault String) with
  | .ok text => .ok text.utf8ByteSize
  | .error .halved =>
    match (Json.measured.write data : Except Json.WriteFault (List Point)) with
    | .ok points => .error (.encode (.ofPoints points))
    | .error fault => .error (ofWrite fault)
  | .error fault => .error (ofWrite fault)

/-- The issue of data that is too large. -/
def sizeIssues (size : Nat) (limit : Int) : List DataIssue :=
  if limit < size then
    [⟨"$", s!"Payload size {size} exceeds maximum {limit}", "PAYLOAD_TOO_LARGE"⟩]
  else []

/-- What stands at a path of the data. -/
def at? (data : Value) (path : String) : Option Value :=
  match Path.find data path with
  | .ok v => v
  | .error _ => none

/-- Messages that are there must be a list. -/
def messageIssues (data : Value) : List DataIssue :=
  match at? data "messages" with
  | none => []
  | some (.list _) => []
  | some v => [⟨"$.messages", s!"messages must be a list, got {v.kindName}", "INVALID_TYPE"⟩]

def counters : List String := ["prompt_tokens", "completion_tokens", "total_tokens"]

/-- A counter that is there must be a count. -/
def counterIssues (data : Value) (counter : String) : Except CheckFault (List DataIssue) :=
  match at? data s!"response.usage.{counter}" with
  | none => .ok []
  | some v =>
    let isCount : Bool :=
      match v with
      | .int n => 0 ≤ n
      | _ => false
    if isCount then .ok []
    else if v.tooDeepToTell then .error .tooDeep
    else
      .ok [⟨s!"$.response.usage.{counter}",
        s!"{counter} must be a non-negative integer, got {v.quoted}", "INVALID_VALUE"⟩]

def allCounterIssues (data : Value) : List String → Except CheckFault (List DataIssue)
  | [] => .ok []
  | counter :: rest => do
    let here ← counterIssues data counter
    let others ← allCounterIssues data rest
    return here ++ others

/-- A path of a payment event must lead to something. -/
def requiredIssues (data : Value) (path : String) : List DataIssue :=
  match at? data path with
  | none | some .null | some (.string "") =>
    [⟨s!"$.{path}", s!"Stripe event is missing {path}", "MISSING_FIELD"⟩]
  | _ => []

def issues (check : DataCheck) (data : Value) (kind : EventKind) :
    Except CheckFault (List DataIssue) :=
  match check, kind with
  | .llmShape, .llmRequest => .ok (messageIssues data)
  | .llmShape, .llmResponse => allCounterIssues data counters
  | .stripeShape, .webhookValidated =>
    .ok (requiredIssues data "event.id" ++ requiredIssues data "event.type")
  | _, _ => .ok []

def allIssues (data : Value) (kind : EventKind) :
    List DataCheck → Except CheckFault (List DataIssue)
  | [] => .ok []
  | check :: rest => do
    let here ← check.issues data kind
    let others ← allIssues data kind rest
    return here ++ others

/-- All issues of the data: its size first, and then what the checks find. -/
def run (checks : List DataCheck) (data : Value) (kind : EventKind) (limit : Int) :
    Except CheckFault (List DataIssue) := do
  let size ← size data
  let found ← allIssues data kind checks
  return sizeIssues size limit ++ found

end DataCheck

end EventIntake
