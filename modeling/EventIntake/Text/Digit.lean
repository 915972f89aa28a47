/-
Digits of every script: decimal ones, which have a value, and digit signs, which do not.
-/
import EventIntake.Text.DigitTable

namespace EventIntake.Text

/-- Membership of a code point in a list of ranges, ends included. -/
def inRanges (ranges : List (Nat × Nat)) (n : Nat) : Bool :=
  ranges.any fun range => range.1 ≤ n && n ≤ range.2

def decimalValue? (c : Char) : Option Nat :=
  let n := c.toNat
  if n < 128 then
    if 48 ≤ n ∧ n ≤ 57 then some (n - 48) else none
  else
    (decimalZeros.find? fun start => start ≤ n && n < start + 10).map (n - ·)

/-- A decimal digit of some script. -/
def isDecimal (c : Char) : Bool :=
  (decimalValue? c).isSome

/-- A decimal digit or a digit sign. -/
def isDigit (c : Char) : Bool :=
  isDecimal c || inRanges digitSigns c.toNat

/-- The digits `0` to `9` alone. -/
def isAsciiDigit (c : Char) : Bool :=
  48 ≤ c.toNat && c.toNat ≤ 57

/-- The number that a row of decimal digits writes; other characters count as zero. -/
def decimalNumber (cs : List Char) : Nat :=
  cs.foldl (fun total c => 10 * total + (decimalValue? c).getD 0) 0

end EventIntake.Text
