/-
What scalars without quotes stand for: truth values, integers in four bases and in sixties,
decimals with a point, dates and moments, nothing, and else the text itself.
-/
import EventIntake.Calendar.Iso
import EventIntake.Number.Reading
import EventIntake.Text.Split
import EventIntake.Value.Basic
import EventIntake.Yaml.Quote

namespace EventIntake.Yaml

/-- Why a scalar has no value, although its form shows what it is. -/
inductive ScalarFault where
  /-- No digits follow the mark of a base. -/
  | noDigits (base : Nat)
  | tooLong (digits : Nat)
  /-- A number in sixties has too many parts. -/
  | tooManyParts
  | offset (micros : Int)
  | field (fault : FieldFault)
deriving DecidableEq, Repr

def ScalarFault.message : ScalarFault → String
  | .noDigits base => s!"invalid literal for int() with base {base}: ''"
  | .tooLong digits => tooLongMessage digits
  | .tooManyParts => "int too large to convert to float"
  | .offset micros => (IsoFault.offset micros).message
  | .field fault => fault.message

/-- What a scalar without quotes stands for. -/
inductive Plain where
  | value (s : Scalar)
  /-- The key whose value is merged into the mapping. -/
  | merge
  /-- The key that stands for a mapping's own value, and is a text. -/
  | own
deriving DecidableEq, Repr

namespace Plain

def truths : List (String × Bool) :=
  ["yes", "Yes", "YES", "true", "True", "TRUE", "on", "On", "ON"].map (·, true)
    ++ ["no", "No", "NO", "false", "False", "FALSE", "off", "Off", "OFF"].map (·, false)

def nulls : List String := ["", "~", "null", "Null", "NULL"]

/-- Digits with underscores between and after them. -/
def isDigits (isDigit : Char → Bool) (cs : List Char) : Bool :=
  cs.all fun c => isDigit c || c == '_'

/-- Digits of one base with underscores, the first one a digit. -/
def isNumber (cs : List Char) : Bool :=
  (cs.head?.map Text.isAsciiDigit).getD false && isDigits Text.isAsciiDigit cs

def digitsOf (cs : List Char) : List Char := cs.filter (· != '_')

def ofBase (base : Nat) (cs : List Char) : Except ScalarFault Nat :=
  let digits := digitsOf cs
  if digits.isEmpty then .error (.noDigits base)
  else .ok (digits.foldl (fun total c => base * total + (Text.hexValue? c).getD 0) 0)

def ofDecimals (cs : List Char) : Except ScalarFault Nat :=
  let digits := digitsOf cs
  if digitLimit < digits.length then .error (.tooLong digits.length)
  else .ok (Text.decimalNumber digits)

/-- A part of a number in sixties: one digit, or two of which the first is below six. -/
def isSixtieth : List Char → Bool
  | [c] => Text.isAsciiDigit c
  | [c, d] => '0' ≤ c && c ≤ '5' && Text.isAsciiDigit d
  | _ => false

/-- The number of several parts in sixties, the first one most significant. -/
def ofSixties (parts : List (List Char)) : Except ScalarFault Nat :=
  parts.foldlM (fun total part => do return 60 * total + (← ofDecimals part)) 0

/-- The integer that a scalar without its sign writes; nothing if it writes none. -/
def magnitude? (cs : List Char) : Option (Except ScalarFault Nat) :=
  let isOctal (c : Char) : Bool := '0' ≤ c && c ≤ '7'
  let isHex (c : Char) : Bool := (Text.hexValue? c).isSome
  match cs with
  | '0' :: 'b' :: rest =>
    if !rest.isEmpty && isDigits (fun c => c == '0' || c == '1') rest then some (ofBase 2 rest)
    else none
  | '0' :: 'x' :: rest =>
    if !rest.isEmpty && isDigits isHex rest then some (ofBase 16 rest) else none
  | '0' :: rest => if isDigits isOctal rest then some (ofBase 8 cs) else none
  | _ =>
    match Text.splitChars ':' cs with
    | whole :: parts =>
      if !isNumber whole then none
      else if parts.isEmpty then some (ofDecimals whole)
      else if parts.all isSixtieth then some (ofSixties (whole :: parts))
      else none
    | [] => none

def integer? (cs : List Char) : Option (Except ScalarFault Scalar) :=
  let (negative, body) := Number.takeSign cs
  (magnitude? body).map fun found => found.map fun n =>
    .int (if negative then -(n : Int) else n)

/-- The exponent of a decimal, which must have a sign; nothing of it is left over. -/
def isExponent : List Char → Bool
  | [] => true
  | 'e' :: sign :: rest | 'E' :: sign :: rest =>
    (sign == '-' || sign == '+') && !rest.isEmpty && rest.all Text.isAsciiDigit
  | _ => false

/-- The digits after the point and an exponent. -/
def isFraction (cs : List Char) : Bool :=
  isExponent (cs.dropWhile fun c => Text.isAsciiDigit c || c == '_')

/-- The product of a number and a power of sixty, which must not be too large. -/
def timesSixties (x : Binary64) (places : Nat) : Except ScalarFault Binary64 :=
  match (Binary64.ofInt (Nat.pow 60 places)).exact, x.exact with
  | .fraction a b, .fraction num den => .ok (.ofFraction (num * a) (den * b))
  | .fraction _ _, _ => .ok x
  | _, _ => .error .tooManyParts

/-- The number of several parts in sixties, summed from the last part on. -/
def decimalSixties (parts : List (List Char)) : Except ScalarFault Binary64 := do
  let numbers := parts.reverse.map fun part => (Number.readDecimal? part).getD .nan
  let scaled ← numbers.zipIdx.mapM fun (x, places) => timesSixties x places
  return scaled.foldl Binary64.add (.zero false)

/-- The decimal that a scalar without its sign writes; nothing if it writes none. -/
def decimalMagnitude? (signed : Bool) (cs : List Char) : Option (Except ScalarFault Binary64) :=
  let word := String.ofList cs
  if [".inf", ".Inf", ".INF"].contains word then some (.ok (.infinite false))
  else if [".nan", ".NaN", ".NAN"].contains word && !signed then some (.ok .nan)
  else
    let number := (Number.readDecimal? (digitsOf cs)).getD .nan
    match Text.cutChars? '.' cs with
    | none => none
    | some ([], fraction) =>
      if (fraction.head?.map Text.isAsciiDigit).getD false && isFraction fraction && !signed then
        some (.ok number)
      else none
    | some (whole, fraction) =>
      if isNumber whole then if isFraction fraction then some (.ok number) else none
      else
        match Text.splitChars ':' whole with
        | first :: part :: parts =>
          if isNumber first && (part :: parts).all isSixtieth
            && isDigits Text.isAsciiDigit fraction then
            some (decimalSixties (Text.splitChars ':' (digitsOf cs)))
          else none
        | _ => none

def decimal? (cs : List Char) : Option (Except ScalarFault Scalar) :=
  let (negative, body) := Number.takeSign cs
  (decimalMagnitude? (body.length < cs.length) body).map fun found => found.map fun x =>
    .float (if negative then x.neg else x)

/-- One or two digits, and what follows them. -/
def shortNumber? (cs : List Char) : Option (Nat × List Char) :=
  let digits := (cs.take 2).takeWhile Text.isAsciiDigit
  if digits.isEmpty then none else some (Text.decimalNumber digits, cs.drop digits.length)

/-- So many digits, and what follows them. -/
def digits? (width : Nat) (cs : List Char) : Option (Nat × List Char) :=
  let digits := cs.take width
  if digits.length == width && digits.all Text.isAsciiDigit then
    some (Text.decimalNumber digits, cs.drop width)
  else none

/-- What follows one character. -/
def after? (c : Char) : List Char → Option (List Char)
  | d :: rest => if d == c then some rest else none
  | [] => none

/-- The offset at the end of a moment: `Z`, a sign with hours and maybe minutes, or nothing. -/
def offset? (cs : List Char) : Option (Option Int) :=
  if cs.isEmpty then some none
  else
    match cs.dropWhile isSpace with
    | ['Z'] => some (some 0)
    | sign :: rest =>
      if sign == '-' || sign == '+' then do
        let (hours, rest) ← shortNumber? rest
        let minutes ←
          if rest.isEmpty then some 0
          else do
            let (minutes, rest) ← digits? 2 (← after? ':' rest)
            if rest.isEmpty then some minutes else none
        let micros : Int := (hours * 60 + minutes) * 60000000
        return some (if sign == '-' then -micros else micros)
      else none
    | [] => none

/-- The digits after a point, if there is one, as microseconds, and what follows. -/
def micros (cs : List Char) : Nat × List Char :=
  match cs with
  | '.' :: rest =>
    let digits := rest.takeWhile Text.isAsciiDigit
    let shown := digits.take 6
    (Text.decimalNumber (shown ++ List.replicate (6 - shown.length) '0'), rest.drop digits.length)
  | _ => (0, cs)

/-- The moment that fields and an offset give; the offset is looked at first. -/
def moment (c : Civil) (t : TimeOfDay) (offset : Option Int) : Except ScalarFault Scalar :=
  match offset with
  | some micros =>
    if micros ≤ -Calendar.dayMicros ∨ Calendar.dayMicros ≤ micros then .error (.offset micros)
    else ((Moment.ofFields c t offset).mapError .field).map .moment
  | none => ((Moment.ofFields c t none).mapError .field).map .moment

/-- The time of day and the offset that follow a date. -/
def clock? (cs : List Char) : Option (TimeOfDay × Option Int) := do
  let (hour, rest) ← shortNumber? cs
  let (minute, rest) ← digits? 2 (← after? ':' rest)
  let (second, rest) ← digits? 2 (← after? ':' rest)
  let (micro, rest) := micros rest
  return (⟨hour, minute, second, micro⟩, ← offset? rest)

/-- What separates date and time: a letter, or blanks. -/
def separated? (cs : List Char) : Option (List Char) :=
  match cs with
  | 'T' :: rest => some rest
  | 't' :: rest => some rest
  | c :: rest => if isSpace c then some (rest.dropWhile isSpace) else none
  | [] => none

/-- The date or moment that a scalar writes.  A date alone has two digits for month and day. -/
def date? (cs : List Char) : Option (Except ScalarFault Scalar) := do
  let (year, rest) ← digits? 4 cs
  let (month, rest) ← shortNumber? (← after? '-' rest)
  let (day, rest) ← shortNumber? (← after? '-' rest)
  let c : Civil := ⟨year, month, day⟩
  if rest.isEmpty then
    if cs.length == 10 then
      return (c.check.mapError .field).map fun _ => .date c.toDate
    else none
  else
    let (t, offset) ← clock? (← separated? rest)
    return moment c t offset

/-- What a scalar without quotes stands for. -/
def read (text : String) : Except ScalarFault Plain :=
  let cs := text.toList
  match truths.lookup text with
  | some b => .ok (.value (.bool b))
  | none =>
    if nulls.contains text then .ok (.value .null)
    else if text == "<<" then .ok .merge
    else if text == "=" then .ok .own
    else
      match (decimal? cs).or ((integer? cs).or (date? cs)) with
      | some found => found.map .value
      | none => .ok (.value (.string text))

end Plain

end EventIntake.Yaml
