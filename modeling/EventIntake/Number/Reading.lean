/-
Numbers in texts: integers and decimals, in the digits of any script, with single underscores
between digits.
-/
import EventIntake.Number.Binary64
import EventIntake.Text.Case
import EventIntake.Text.Digit

namespace EventIntake

def digitLimit : Nat := 4300

/-- The least number that has more than some digits. -/
def digitBound (digits : Nat) : Nat := Nat.pow 10 digits

/-- Why a text is no integer. -/
inductive IntegerFault where
  | malformed
  | tooLong (digits : Nat)
deriving DecidableEq, Repr

/-- The wording of the limit on digits. -/
def tooLongMessage (digits : Nat) : String :=
  s!"Exceeds the limit ({digitLimit} digits) for integer string conversion: value has {digits} " ++
    "digits; use sys.set_int_max_str_digits() to increase the limit"

/-- The wording of the limit on digits for an integer that is to be written. -/
def unwritableMessage : String :=
  s!"Exceeds the limit ({digitLimit} digits) for integer string conversion; " ++
    "use sys.set_int_max_str_digits() to increase the limit"

namespace Number

/-- The values of the digits that a text starts with, and what follows them.  A single
underscore may stand between two digits; `inside` tells that a digit went before. -/
def digitRun (inside : Bool) : List Char → List Nat × List Char
  | [] => ([], [])
  | '_' :: c :: rest =>
    match inside, Text.decimalValue? c with
    | true, some d =>
      let (digits, left) := digitRun true rest
      (d :: digits, left)
    | _, _ => ([], '_' :: c :: rest)
  | c :: rest =>
    match Text.decimalValue? c with
    | some d =>
      let (digits, left) := digitRun true rest
      (d :: digits, left)
    | none => ([], c :: rest)

/-- The number that digits write. -/
def ofDigits (digits : List Nat) : Nat :=
  digits.foldl (fun total d => 10 * total + d) 0

/-- A sign, if there is one, and what follows it. -/
def takeSign : List Char → Bool × List Char
  | '-' :: rest => (true, rest)
  | '+' :: rest => (false, rest)
  | cs => (false, cs)

/-- The integer that a text writes.  Too many digits are told before what follows them, unless that
is an underscore. -/
def readInteger (cs : List Char) : Except IntegerFault Int :=
  let (negative, body) := takeSign cs
  let (digits, left) := digitRun false body
  if digits.isEmpty || left.head? == some '_' then .error .malformed
  else if digitLimit < digits.length then .error (.tooLong digits.length)
  else if !left.isEmpty then .error .malformed
  else
    let n : Int := ofDigits digits
    .ok (if negative then -n else n)

/-- The exponent part of a decimal, which must be all that is left. -/
def readExponent? : List Char → Option Int
  | [] => some 0
  | c :: rest =>
    if c = 'e' ∨ c = 'E' then
      let (negative, body) := takeSign rest
      match digitRun false body with
      | ([], _) => none
      | (digits, []) =>
        let n : Int := ofDigits digits
        some (if negative then -n else n)
      | _ => none
    else none

/-- The digits after a point, if there is a point. -/
def readFraction : List Char → List Nat × List Char
  | '.' :: rest => digitRun false rest
  | cs => ([], cs)

/-- The number that a text writes as a decimal, or by the name of what is not finite. -/
def readDecimal? (cs : List Char) : Option Binary64 :=
  let (negative, body) := takeSign cs
  let word := Text.lower (String.ofList body)
  if word = "inf" ∨ word = "infinity" then some (.infinite negative)
  else if word = "nan" then some .nan
  else do
    let (whole, rest) := digitRun false body
    let (fraction, rest) := readFraction rest
    if whole.isEmpty && fraction.isEmpty then none
    else
      let exponent ← readExponent? rest
      return .ofDecimal negative (ofDigits (whole ++ fraction)) (exponent - fraction.length)

end Number

end EventIntake
