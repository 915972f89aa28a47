/-
Timestamps: moments, dates in texts, and numbers of seconds or milliseconds, as milliseconds
since the first of January 1970 in universal time.
-/
import EventIntake.Transform.Fault

namespace EventIntake.Transform.Timestamp

variable [Limits]

/-- Without a unit, numbers below this are seconds. -/
def secondsBelow : Exact := .fraction 1000000000000 1

/-- The integer part of a count. -/
def whole (x : Binary64) : Except Fault Int :=
  match x with
  | .infinite _ => .error .infiniteCount
  | .nan => .error .undefinedCount
  | x => .ok (x.truncate?.getD 0)

/-- A count in milliseconds, by its unit or by its size. -/
def scale (x : Binary64) (unit : Value) : Except Fault Binary64 :=
  match unit with
  | .string "s" => .ok x.timesThousand
  | .string "ms" => .ok x
  | .null => .ok (if x.exact.below secondsBelow then x.timesThousand else x)
  | unit =>
    .error (if unit.tooDeepToTell then .tooDeep
      else if unit.hasTooLong then .tooLong
      else .unknownUnit unit.plain)

/-- The milliseconds of an instant, rounded to a float before the fraction is cut off. -/
def ofInstant (micros : Int) : Int :=
  (Binary64.ofFraction micros 1000).truncate?.getD 0

/-- The text is a number: an optional minus, digits, and a point with digits after it if there is
one. -/
def isNumeric (cs : List Char) : Bool :=
  let body := if cs.head? = some '-' then cs.drop 1 else cs
  let rest := body.dropWhile Text.isDecimal
  rest.length < body.length &&
    match rest with
    | [] => true
    | c :: fraction => c == '.' && !fraction.isEmpty && fraction.all Text.isDecimal

def ofFloat (x : Binary64) (unit : Value) : Except Fault Int := do
  whole (← scale x unit)

def ofInteger (n : Int) (unit : Value) : Except Fault Int :=
  match Binary64.ofInt n with
  | .infinite _ => .error .hugeInteger
  | x => ofFloat x unit

def ofText (text : String) (unit : Value) : Except Fault Int :=
  let body := Text.strip text
  match isNumeric body.toList, Number.readDecimal? body.toList with
  | true, some x => ofFloat x unit
  | _, _ =>
    match Instant.read body with
    | .ok m => .ok (ofInstant m.instant)
    | .error fault => .error (.instant fault)

/-- The milliseconds of a text with halves of surrogate pairs, which is no number. -/
def ofHalved (text : Halved) : Except Fault Int :=
  match Instant.readHalved text with
  | .ok m => .ok (ofInstant m.instant)
  | .error fault => .error (.instant fault)

def read (v : Value) (unit : Value) : Except Fault Int :=
  match v with
  | .moment m => .ok (ofInstant m.instant)
  | .bool _ => .error .truthTimestamp
  | .int n => ofInteger n unit
  | .float x => ofFloat x unit
  | .string text => ofText text unit
  | .halved text => ofHalved text
  | v => .error (.noTimestamp v.kindName)

/-- The written form of milliseconds. -/
def write (millis : Int) : Except Fault String := do
  (Calendar.checkDuration (millis * 1000)).mapError .overflow
  match Moment.millisText? ⟨millis * 1000, some 0⟩ with
  | some text => return text
  | none => throw (.overflow .date)

end EventIntake.Transform.Timestamp
