/-
Texts in units of two or four bytes.  JSON begins with characters below `0x80`, so zero bytes at
the beginning tell how wide the units are, and which of their bytes comes first.
-/
import EventIntake.Text.Utf8

namespace EventIntake.Text

/-- How the characters of a text are laid out in bytes. -/
inductive Encoding where
  | utf8
  /-- Units of two bytes, the most significant one first or last. -/
  | pairs (bigFirst : Bool)
  /-- Units of four bytes. -/
  | quads (bigFirst : Bool)
deriving DecidableEq, Repr

namespace Encoding

/-- The encoding of JSON by its first bytes. -/
def ofJson (bytes : List UInt8) : Encoding :=
  match bytes with
  | [a, b] => if a == 0 then .pairs true else if b == 0 then .pairs false else .utf8
  | a :: b :: c :: d :: _ =>
    if a == 0 then if b == 0 then .quads true else .pairs true
    else if b == 0 then if c == 0 && d == 0 then .quads false else .pairs false
    else .utf8
  | _ => .utf8

/-- The number that bytes write, the most significant one first. -/
def number (bytes : List UInt8) : Nat :=
  bytes.foldl (fun n b => 256 * n + b.toNat) 0

/-- The units of two bytes; none if a byte is left over. -/
def pairsOf? (bigFirst : Bool) : List UInt8 → Option (List Nat)
  | [] => some []
  | a :: b :: rest =>
    (pairsOf? bigFirst rest).map (number (if bigFirst then [a, b] else [b, a]) :: ·)
  | _ => none

/-- The units of four bytes; none if bytes are left over. -/
def quadsOf? (bigFirst : Bool) : List UInt8 → Option (List Nat)
  | [] => some []
  | a :: b :: c :: d :: rest =>
    (quadsOf? bigFirst rest).map
      (number (if bigFirst then [a, b, c, d] else [d, c, b, a]) :: ·)
  | _ => none

/-- The character of a code point.  Half of a pair is no character, and is replaced. -/
def character (n : Nat) : Char :=
  if n.isValidChar then Char.ofNat n else '\ufffd'

/-- The characters of units of two bytes: two halves of a pair are one character. -/
def ofPairs : List Nat → List Char
  | [] => []
  | [n] => [character n]
  | high :: low :: rest =>
    if 0xd800 ≤ high && high < 0xdc00 && 0xdc00 ≤ low && low < 0xe000 then
      character (0x10000 + (high - 0xd800) * 0x400 + (low - 0xdc00)) :: ofPairs rest
    else character high :: ofPairs (low :: rest)

/-- The characters of bytes; none if they are no text. -/
def read? (encoding : Encoding) (bytes : List UInt8) : Option (List Char) :=
  match encoding with
  | .utf8 => (Utf8.decode bytes).toOption
  | .pairs bigFirst => (pairsOf? bigFirst bytes).map ofPairs
  | .quads bigFirst => do
    let units ← quadsOf? bigFirst bytes
    if units.all (· < 0x110000) then some (units.map character) else none

end Encoding

end EventIntake.Text
