/-
What can be wrong with a value that should have a shape, and where.
-/
import EventIntake.Value.Display

namespace EventIntake.Schema

/-- A step from a value to a part of it. -/
inductive Step where
  | name (text : String)
  | index (n : Int)
deriving DecidableEq, Repr

inductive Problem where
  /-- A record is expected; `anyObject` tells that any object with its fields would do. -/
  | record (name : String) (anyObject : Bool)
  | missing
  | extra
  | keyType
  | text
  | dict
  | list
  | choice (options : List String)
  | truth
  | truthText
  | integer
  | integerText
  | integerSize
  | fraction
  | notFinite
  | receivedAt
deriving DecidableEq, Repr

/-- A problem and the steps that lead to it. -/
structure Issue where
  place : List Step
  problem : Problem
deriving DecidableEq, Repr

def optionText (options : List String) : String :=
  match options.reverse with
  | [] => ""
  | [only] => s!"'{only}'"
  | last :: before =>
    String.intercalate ", " (before.reverse.map fun option => s!"'{option}'") ++ s!" or '{last}'"

namespace Problem

def code : Problem → String
  | .record _ false => "model_type"
  | .record _ true => "model_attributes_type"
  | .missing => "missing"
  | .extra => "extra_forbidden"
  | .keyType => "invalid_key"
  | .text => "string_type"
  | .dict => "dict_type"
  | .list => "list_type"
  | .choice _ => "literal_error"
  | .truth => "bool_type"
  | .truthText => "bool_parsing"
  | .integer => "int_type"
  | .integerText => "int_parsing"
  | .integerSize => "int_parsing_size"
  | .fraction => "int_from_float"
  | .notFinite => "finite_number"
  | .receivedAt => "value_error"

def message : Problem → String
  | .record name false => s!"Input should be a valid dictionary or instance of {name}"
  | .record _ true => "Input should be a valid dictionary or object to extract fields from"
  | .missing => "Field required"
  | .extra => "Extra inputs are not permitted"
  | .keyType => "Keys should be strings"
  | .text => "Input should be a valid string"
  | .dict => "Input should be a valid dictionary"
  | .list => "Input should be a valid list"
  | .choice options => s!"Input should be {optionText options}"
  | .truth => "Input should be a valid boolean"
  | .truthText => "Input should be a valid boolean, unable to interpret input"
  | .integer => "Input should be a valid integer"
  | .integerText => "Input should be a valid integer, unable to parse string as an integer"
  | .integerSize => "Unable to parse input string as an integer, exceeded maximum size"
  | .fraction => "Input should be a valid integer, got a number with a fractional part"
  | .notFinite => "Input should be a finite number"
  | .receivedAt => "Value error, received_at must be an ISO 8601 timestamp"

end Problem

/-- The step that a key stands for. -/
def Step.ofKey : Scalar → Step
  | .string s => .name s
  | .halved t => .name t.shown
  | .bool b => .index (if b then 1 else 0)
  | .int n =>
    if -9223372036854775808 ≤ n ∧ n ≤ 9223372036854775807 then .index n
    else .name (toString n)
  | key => .name key.quoted

/-- Where an issue is. -/
def placeText (place : List Step) : String :=
  String.intercalate "." (place.map fun
    | .name name => name
    | .index n => toString n)

/-- The wording of all issues with a record of some name. -/
def issuesText (name : String) (issues : List Issue) : String :=
  let count :=
    if issues.length = 1 then "1 validation error" else s!"{issues.length} validation errors"
  let lines := issues.map fun issue => s!"\n{placeText issue.place}\n  {issue.problem.message}"
  s!"{count} for {name}" ++ String.join lines

end EventIntake.Schema
