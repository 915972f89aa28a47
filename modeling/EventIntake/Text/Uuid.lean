/-
Identifiers of 128 bits, chosen at random.
-/
import EventIntake.Text.Hex

namespace EventIntake.Text

/-- Sixteen bytes as an identifier: hexadecimal digits in groups of 8, 4, 4, 4 and 12.  Four bits
tell that it was chosen at random, and two that it follows this form. -/
def uuid (bytes : List UInt8) : String :=
  let byte (n : Nat) : Nat := (bytes.getD n 0).toNat
  let marked (n : Nat) : Nat :=
    if n = 6 then 0x40 + byte n % 16 else if n = 8 then 0x80 + byte n % 64 else byte n
  let group (first count : Nat) : String :=
    String.ofList ((List.range count).flatMap fun n => hexDigits 2 (marked (first + n)))
  String.intercalate "-" [group 0 4, group 4 2, group 6 2, group 8 2, group 10 6]

end EventIntake.Text
