/-
The transforms that every table of mappings can name.
-/
import EventIntake.Path
import EventIntake.Text.Split
import EventIntake.Transform.Timestamp

namespace EventIntake.Transform

/-- A transform by its meaning. -/
inductive Builtin where
  | toString
  | toNumber
  | toBoolean
  | toLowercase
  | toUppercase
  | trim
  | toIsoDate
  | toUnixTimestamp
  | jsonParse
  | jsonStringify
  | base64Encode
  | base64Decode
  | mapValue
deriving DecidableEq, Repr

namespace Builtin

/-- All transforms, in the order of their catalog. -/
def all : List Builtin := [
  .toString, .toNumber, .toBoolean, .toLowercase, .toUppercase, .trim, .toIsoDate,
  .toUnixTimestamp, .jsonParse, .jsonStringify, .base64Encode, .base64Decode, .mapValue]

/-- The name of a transform in tables. -/
def name : Builtin → String
  | .toString => "to_string"
  | .toNumber => "to_number"
  | .toBoolean => "to_boolean"
  | .toLowercase => "to_lowercase"
  | .toUppercase => "to_uppercase"
  | .trim => "trim"
  | .toIsoDate => "to_iso_date"
  | .toUnixTimestamp => "to_unix_timestamp"
  | .jsonParse => "json_parse"
  | .jsonStringify => "json_stringify"
  | .base64Encode => "base64_encode"
  | .base64Decode => "base64_decode"
  | .mapValue => "map_value"

def ofName? (name : String) : Option Builtin :=
  all.find? (·.name == name)

theorem ofName?_eq_some_iff {name : String} {b : Builtin} :
    ofName? name = some b ↔ name = b.name := by
  constructor
  · intro hname
    have hfound := List.find?_some hname
    exact (beq_iff_eq.1 hfound).symm
  · intro hname
    subst hname
    cases b <;> rfl

variable [Limits]

/-- The text of a value.  Halves of surrogate pairs are escaped in lists and dictionaries alone. -/
def text (v : Value) : Except Fault Scalar :=
  match v with
  | .halved t => .ok (.halved t)
  | v =>
    if v.tooDeepToTell then .error .tooDeep
    else if v.hasTooLong then .error .tooLong
    else .ok (.string v.plain)

/-- The number of a value: truth values count as one and zero, and a text that is no integer may
be a decimal. -/
def number (v : Value) : Except Fault Value :=
  match v with
  | .bool b => .ok (.int (if b then 1 else 0))
  | .int n => .ok (.int n)
  | .float x => .ok (.float x)
  | .string t =>
    let body := Text.strip t
    match Number.readInteger body.toList with
    | .ok n => .ok (.int n)
    | .error _ =>
      match Number.readDecimal? body.toList with
      | some x => .ok (.float x)
      | none => .error (.malformedNumber body)
  | .halved t => .error (.malformedPoints t.strip)
  | v => .error (.noNumber v.kindName)

/-- A function on texts, with or without halves, that leaves other values as they are. -/
def onText (f : String → String) (onHalved : Halved → List Point) : Value → Value
  | .string t => .string (f t)
  | .halved t => .scalar (.ofPoints (onHalved t))
  | v => v

/-- The text in base 64. -/
def encode (t : String) : String :=
  String.ofList (Text.Base64.encode (Text.Utf8.encode t.toList))

/-- The text that base 64 stands for. -/
def decode (t : String) : Except Fault String := do
  let bytes ← (Text.Base64.decode t.toList).mapError .base64
  let cs ← (Text.Utf8.decode bytes).mapError .bytes
  return String.ofList cs

/-- The index that a value stands for, if it is an integer; truth values are one and zero. -/
def index? : Value → Option Int
  | .bool b => some (if b then 1 else 0)
  | .int n => some n
  | _ => none

/-- The item of a list at the place that a value names; negative ones count from the end. -/
def place (items : List Value) (v : Value) : Except Fault Value :=
  match index? v with
  | none => .error (.listPlace v.fullKindName)
  | some n =>
    if n < -9223372036854775808 ∨ 9223372036854775807 < n then .error .hugePlace
    else
      let n := if n < 0 then n + items.length else n
      if n < 0 then .error .noPlace
      else
        match items[n.toNat]? with
        | some w => .ok w
        | none => .error .noPlace

/-- What a table has for a value: nothing if the value is not in it. -/
def lookup (table v : Value) : Except Fault (Option Value) :=
  match table with
  | .dict entries =>
    match v with
    | .scalar key => .ok (Entries.get? key entries)
    | v => .error (.noKey v.kindName)
  | .list items =>
    match v.isAmong items with
    | some true => (place items v).map some
    | some false => .ok none
    | none => .error .tooDeep
  | .string whole =>
    match v with
    | .string part =>
      if Text.isPart part.toList whole.toList then .error .textPlace else .ok none
    | .halved _ => .ok none
    | v => .error (.noPart v.fullKindName)
  | .halved whole =>
    match v with
    | .string part =>
      if Text.isPart (part.toList.map .char) whole.points then .error .textPlace else .ok none
    | .halved part =>
      if Text.isPart part.points whole.points then .error .textPlace else .ok none
    | v => .error (.noPart v.fullKindName)
  | table => .error (.noTable table.fullKindName)

/-- What a table has in exchange for a value, or for its text, or else the default. -/
def exchange (v : Value) (params : Entries) : Except Fault Value := do
  let given := (Entries.get? (.string "mapping") params).getD .null
  let table := if given.truthy then given else .dict []
  match ← lookup table v with
  | some w => return w
  | none =>
    let key ← text v
    match ← lookup table (.scalar key) with
    | some w => return w
    | none => return (Entries.get? (.string "default") params).getD v

/-- The compact JSON of a value, in which halves of surrogate pairs stand as they are. -/
def stringify (v : Value) : Except Fault Value :=
  match (Json.compact.write v : Except Json.WriteFault String) with
  | .ok text => .ok (.string text)
  | .error .halved =>
    ((Json.compact.write v : Except Json.WriteFault (List Point)).mapError .ofWrite).map
      fun points => .scalar (.ofPoints points)
  | .error fault => .error (.ofWrite fault)

/-- The value of a transform under parameters. -/
def run (b : Builtin) (params : Entries) (v : Value) : Except Fault Value :=
  match b with
  | .toString => (text v).map Value.scalar
  | .toNumber => number v
  | .toBoolean => .ok (.bool v.truthy)
  | .toLowercase => .ok (onText Text.lower Halved.lower v)
  | .toUppercase => .ok (onText Text.upper Halved.upper v)
  | .trim => .ok (onText Text.strip Halved.strip v)
  | .toIsoDate => do
    let millis ← Timestamp.read v ((Entries.get? (.string "unit") params).getD .null)
    return .string (← Timestamp.write millis)
  | .toUnixTimestamp =>
    (Timestamp.read v ((Entries.get? (.string "unit") params).getD .null)).map Value.int
  | .jsonParse =>
    match v with
    | .string t => (Json.read t).mapError .ofRead
    | .halved t => (Json.readPoints t.points).mapError .ofRead
    | v => .ok v
  | .jsonStringify => stringify v
  | .base64Encode =>
    match v with
    | .string t => .ok (.string (encode t))
    | .halved t => .error (.encode (.ofPoints t.points))
    | v => .ok v
  | .base64Decode =>
    match v with
    | .string t => (decode t).map Value.string
    | .halved _ => .error (.base64 .notAscii)
    | v => .ok v
  | .mapValue => exchange v params

end Builtin

end EventIntake.Transform
