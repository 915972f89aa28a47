/-
Shortest decimals: the fewest significant digits that read back as the same number, and of
those the ones nearest to it.  A format then says where the point and the exponent go.
-/
import EventIntake.Number.Binary64

namespace EventIntake

/-- A positive decimal in scientific form: `digits` is read with a point after its first
digit, times a power of ten. -/
structure Scientific where
  digits : Nat
  power : Int
deriving DecidableEq, Repr

namespace Scientific

/-- Whether `10 ^ power` is at most `num / den`. -/
def reaches (num den : Nat) (power : Int) : Bool :=
  Nat.pow 10 power.toNat * den ≤ num * Nat.pow 10 (-power).toNat

/-- The largest of the powers from `power` to `power + steps` that `num / den` reaches, when it
reaches the first. -/
def climb (num den : Nat) : Nat → Int → Int
  | 0, power => power
  | steps + 1, power =>
    if reaches num den (power + 1) then climb num den steps (power + 1) else power

/-- The power of ten of the leading digit of `num / den`. -/
def leadingPower (num den : Nat) : Int :=
  let bits : Int := (num.log2 : Int) - den.log2
  climb num den 4 ((bits * 30103).fdiv 100000 - 2)

/-- The neighbours of a mantissa at its exponent, in quarters of its last place: halfway down,
the number itself, halfway up.  Below a power of two the numbers lie twice as close. -/
def window (mantissa : Nat) (exponent : Int) : Nat × Nat × Nat :=
  let down := if mantissa = Nat.pow 2 52 ∧ -1074 < exponent then 1 else 2
  (4 * mantissa - down, 4 * mantissa, 4 * mantissa + 2)

/-- The decimal with `count` digits that lies in the window and nearest to its middle, if any.
All bounds are over the common denominator `den`. -/
def pick? (count : Nat) (power : Int) (low mid high den : Nat) (closed : Bool) :
    Option Nat :=
  let shift : Int := power - count + 1
  -- One unit of the grid is `unit`, and a point `k` of it stands at `k * unit`.
  let unit := Nat.pow 10 shift.toNat * den
  let stretch := Nat.pow 10 (-shift).toNat
  let (low, mid, high) := (low * stretch, mid * stretch, high * stretch)
  let floor := mid / unit
  let inside (k : Nat) : Bool :=
    if closed then low ≤ k * unit && k * unit ≤ high else low < k * unit && k * unit < high
  match inside floor, inside (floor + 1) with
  | true, true =>
    let before := mid - floor * unit
    let after := (floor + 1) * unit - mid
    if before < after then some floor
    else if after < before then some (floor + 1)
    else if floor % 2 = 0 then some floor
    else some (floor + 1)
  | true, false => some floor
  | false, true => some (floor + 1)
  | false, false => none

/-- The decimal of the first count of digits, from `count` on, that has one in the window, with
the power of ten of its last digit. -/
def search (power : Int) (low mid high den : Nat) (closed : Bool) : Nat → Nat → Nat × Int
  | 0, _ => (0, power)
  | tries + 1, count =>
    match pick? count power low mid high den closed with
    | some digits => (digits, power - count + 1)
    | none => search power low mid high den closed tries (count + 1)

/-- The number without the zeros at its end, of which at most `steps` are dropped. -/
def dropZeros : Nat → Nat → Nat
  | 0, n => n
  | steps + 1, n => if n % 10 = 0 then dropZeros steps (n / 10) else n

/-- The shortest decimal of a positive mantissa at an exponent.  A decimal that was rounded up
to the next power of ten has one digit more than was asked for, so the leading power is counted
from the last digit. -/
def ofFinite (mantissa : Nat) (exponent : Int) : Scientific :=
  let (low, mid, high) := window mantissa exponent
  let up := Nat.pow 2 exponent.toNat
  let den := 4 * Nat.pow 2 (-exponent).toNat
  let power := leadingPower (mid * up) den
  let (digits, last) :=
    search power (low * up) (mid * up) (high * up) den (mantissa % 2 == 0) 17 1
  let width := (Nat.toDigits 10 digits).length
  ⟨dropZeros (width - 1) digits, last + width - 1⟩

end Scientific

/-- How numbers are written: between which powers of ten without an exponent. -/
structure NumberFormat where
  leastPositional : Int
  firstExponential : Int
  positiveInfinity : String
  negativeInfinity : String
  notANumber : String

namespace NumberFormat

/-- The decimal with its point: zeros fill the places between the digits and the point, and a
whole number keeps `.0`. -/
def positional (digits : List Char) (power : Int) : List Char :=
  if power < 0 then
    '0' :: '.' :: List.replicate (-power - 1).toNat '0' ++ digits
  else
    let whole := power.toNat + 1
    let front := digits.take whole ++ List.replicate (whole - digits.length) '0'
    match digits.drop whole with
    | [] => front ++ ['.', '0']
    | back => front ++ '.' :: back

/-- The decimal with an exponent, which has a sign and at least two digits. -/
def exponential (digits : List Char) (power : Int) : List Char :=
  let tail := Nat.toDigits 10 power.natAbs
  let tail := if tail.length < 2 then '0' :: tail else tail
  let sign := if power < 0 then '-' else '+'
  match digits with
  | [] => []
  | [d] => d :: 'e' :: sign :: tail
  | d :: more => d :: '.' :: more ++ 'e' :: sign :: tail

/-- The text of a positive decimal. -/
def decimal (format : NumberFormat) (s : Scientific) : List Char :=
  let digits := Nat.toDigits 10 s.digits
  if format.leastPositional ≤ s.power ∧ s.power < format.firstExponential then
    positional digits s.power
  else
    exponential digits s.power

def text (format : NumberFormat) : Binary64 → String
  | .nan => format.notANumber
  | .infinite negative => if negative then format.negativeInfinity else format.positiveInfinity
  | .finite negative mantissa exponent =>
    let body :=
      if mantissa = 0 then ['0', '.', '0'] else format.decimal (.ofFinite mantissa exponent)
    String.ofList (if negative then '-' :: body else body)

end NumberFormat

end EventIntake
