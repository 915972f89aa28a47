/-
Halves of surrogate pairs in the texts that a canonical event repeats outside its data.  Events show
them by their escapes, so they are looked for in the event as it was sent.
-/
import EventIntake.Event.Config
import EventIntake.Event.Trace
import EventIntake.Format.Catalog

namespace EventIntake

namespace Value

/-- Whether the value is a text with halves. -/
def isHalved : Value → Bool
  | .halved _ => true
  | _ => false

mutual

/-- Whether the path to a leaf of the value has a half in it; `inside` tells that the path to the
value has one. -/
def hidesHalf (inside : Bool) : Value → Bool
  | .dict entries => entriesHideHalf inside entries
  | .list _ => inside
  | .scalar _ => inside

def entriesHideHalf (inside : Bool) : Entries → Bool
  | [] => false
  | (key, v) :: rest => v.hidesHalf (inside || !key.isWhole) || entriesHideHalf inside rest

end

end Value

namespace ExternalEvent

/-- The headers of a sent event, with their texts as they are. -/
def sentHeaders (sent : Value) : List (String × Scalar) :=
  ((sent.entriesAt? "headers").getD []).filterMap fun entry =>
    match entry with
    | (key, .scalar s) => key.shown?.map fun name => (name, s)
    | _ => none

/-- The first header among some names that is not empty. -/
def sentHeader? (sent : Value) (names : List String) : Option Value :=
  (Headers.find? Scalar.truthy (sentHeaders sent) names).map .scalar

/-- The first text among some keys of a payload that is more than blanks. -/
def sentText? (payload : Value) (keys : List String) : Option Value :=
  keys.findSome? fun key =>
    match payload.textAt? key with
    | some s => if Text.isBlankText s then none else payload.member? key
    | none => none

/-- The value that names the system behind an event, if its format looks for one. -/
def sentSystem? (format : Format) (sent : Value) : Option Value :=
  let payload := sent.valueAt "raw_payload"
  let first (candidates : List (Option Value)) : Option Value :=
    (candidates.find? fun v? => (v?.map Value.truthy).getD false).join
  match format with
  | .github => sentHeader? sent ["x-github-event"]
  | .stripe => first [payload.member? "type"]
  | .slack => first [(payload.member? "event").bind (·.member? "type"), payload.member? "type"]
  | _ => none

/-- What a canonical event repeats of a sent one. -/
def repeated (format : Format) (sent : Value) : List (Option Value) :=
  let connector := sent.valueAt "connector_metadata"
  [sent.member? "received_at", connector.member? "connector_id",
    connector.member? "connector_version", sentHeader? sent regionHeaders,
    (sentHeader? sent correlationHeaders).or
      (sentText? (sent.valueAt "raw_payload") correlationKeys),
    sentSystem? format sent]

/-- Whether what is told of a sent event has halves outside the data: in the name of an unsupported
format, or in what the canonical event repeats and the leaves that it drops.  No row of a table
takes a leaf whose path has a half. -/
def tellsHalf (sent : Value) (config : Config) : Bool :=
  match Format.ofName? (sent.textAt "format") with
  | none => (sent.valueAt "format").isHalved
  | some format =>
    ((repeated format sent).any fun v? => (v?.map Value.isHalved).getD false)
      || (config.includeDroppedFields
        && Value.entriesHideHalf false (sent.valueAt "raw_payload").entries)

end ExternalEvent

end EventIntake
