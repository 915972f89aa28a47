/-
Binary floating point with 53 bits, in exact integer arithmetic.  Every operation computes
the exact fraction and rounds it once, to the nearest number and to the even one of two.
-/

namespace EventIntake

/-- A number of 64 bits.  A finite one is `mantissa * 2 ^ exponent` with a sign of its own, so
that zero has two signs. -/
inductive Binary64 where
  | finite (negative : Bool) (mantissa : Nat) (exponent : Int)
  | infinite (negative : Bool)
  | nan
deriving DecidableEq, Repr

/-- The integer nearest to `num / den`, the even one of two. -/
def roundHalfEven (num den : Nat) : Nat :=
  let below := num / den
  let twice := 2 * (num % den)
  if twice < den then below
  else if den < twice then below + 1
  else if below % 2 = 0 then below
  else below + 1

/-- The integer nearest to a signed fraction, the even one of two. -/
def roundHalfEvenInt (num : Int) (den : Nat) : Int :=
  if num < 0 then -(roundHalfEven num.natAbs den : Int) else roundHalfEven num.natAbs den

/-- What a number stands for: a fraction, an infinity, or nothing. -/
inductive Exact where
  | fraction (num : Int) (den : Nat)
  | infinite (negative : Bool)
  | nan
deriving DecidableEq, Repr

namespace Exact

/-- Whether both stand for the same number; what is no number equals nothing. -/
def same : Exact → Exact → Bool
  | .fraction a b, .fraction c d => a * d == c * b
  | .infinite a, .infinite b => a == b
  | _, _ => false

def below : Exact → Exact → Bool
  | .fraction a b, .fraction c d => a * d < c * b
  | .infinite a, .infinite b => a && !b
  | .infinite a, .fraction _ _ => a
  | .fraction _ _, .infinite b => !b
  | _, _ => false

end Exact

namespace Binary64

def zero (negative : Bool) : Binary64 := .finite negative 0 (-1074)

/-- The fraction `num / den` as a multiple of `2 ^ exponent`. -/
def scaled (num den : Nat) (exponent : Int) : Nat × Nat :=
  (num * Nat.pow 2 (-exponent).toNat, den * Nat.pow 2 exponent.toNat)

/-- The exponent at which `num / den` has a mantissa of 53 bits, or the least exponent. -/
def exponentFor (num den : Nat) : Int :=
  let guess : Int := (num.log2 : Int) - den.log2 - 52
  let (n, d) := scaled num den guess
  max (if n / d < Nat.pow 2 52 then guess - 1 else guess) (-1074)

/-- A rounded mantissa at its exponent: a carry moves the exponent, and what is past the
largest number is infinite. -/
def assemble (negative : Bool) (mantissa : Nat) (exponent : Int) : Binary64 :=
  let (m, e) :=
    if mantissa = Nat.pow 2 53 then (Nat.pow 2 52, exponent + 1) else (mantissa, exponent)
  if 971 < e then .infinite negative else .finite negative m e

/-- The number nearest to `num / den`. -/
def roundQuotient (negative : Bool) (num den : Nat) : Binary64 :=
  if num = 0 then zero negative
  else
    let e := exponentFor num den
    let (n, d) := scaled num den e
    assemble negative (roundHalfEven n d) e

/-- The number nearest to a signed fraction. -/
def ofFraction (num : Int) (den : Nat) : Binary64 :=
  roundQuotient (num < 0) num.natAbs den

/-- The number nearest to an integer, infinite when the integer is too large. -/
def ofInt (n : Int) : Binary64 := ofFraction n 1

def exact : Binary64 → Exact
  | .finite negative mantissa exponent =>
    let num : Int := (mantissa * Nat.pow 2 exponent.toNat : Nat)
    .fraction (if negative then -num else num) (Nat.pow 2 (-exponent).toNat)
  | .infinite negative => .infinite negative
  | .nan => .nan

def isZero : Binary64 → Bool
  | .finite _ mantissa _ => mantissa == 0
  | _ => false

/-- The sign bit. -/
def isNegative : Binary64 → Bool
  | .finite negative _ _ => negative
  | .infinite negative => negative
  | .nan => false

def neg : Binary64 → Binary64
  | .finite negative mantissa exponent => .finite (!negative) mantissa exponent
  | .infinite negative => .infinite (!negative)
  | .nan => .nan

/-- The sum.  Two opposite numbers give the positive zero. -/
def add (x y : Binary64) : Binary64 :=
  match x.exact, y.exact with
  | .fraction a b, .fraction c d =>
    let num := a * d + c * b
    if num = 0 then zero (x.isNegative && y.isNegative) else ofFraction num (b * d)
  | .infinite a, .infinite b => if a = b then .infinite a else .nan
  | .infinite a, .fraction _ _ => .infinite a
  | .fraction _ _, .infinite b => .infinite b
  | _, _ => .nan

def sub (x y : Binary64) : Binary64 := x.add y.neg

def timesThousand (x : Binary64) : Binary64 :=
  match x.exact with
  | .fraction num den => roundQuotient x.isNegative (num.natAbs * 1000) den
  | _ => x

/-- The integer part, toward zero; none for what is not finite. -/
def truncate? (x : Binary64) : Option Int :=
  match x.exact with
  | .fraction num den => some (num.tdiv den)
  | _ => none

/-- The nearest integer, the even one of two; none for what is not finite. -/
def round? (x : Binary64) : Option Int :=
  match x.exact with
  | .fraction num den => some (roundHalfEvenInt num den)
  | _ => none

/-- The integer that the number is; none when it is no integer. -/
def integer? (x : Binary64) : Option Int :=
  match x.exact with
  | .fraction num den => if num % den = 0 then some (num / den) else none
  | _ => none

/-- The number nearest to a decimal `digits * 10 ^ exponent`.  Far beyond the largest and far
below the smallest number the power is not computed. -/
def ofDecimal (negative : Bool) (digits : Nat) (exponent : Int) : Binary64 :=
  if digits = 0 then zero negative
  else
    let places : Int := (Nat.toDigits 10 digits).length + exponent
    if 400 < places then .infinite negative
    else if places < -400 then zero negative
    else
      roundQuotient negative (digits * Nat.pow 10 exponent.toNat) (Nat.pow 10 (-exponent).toNat)

end Binary64

end EventIntake
