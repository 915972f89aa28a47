/-
Base 64: three bytes are four letters, and padding fills the last four.  Reading skips
characters that are no letters and stops at the padding that completes a group.
-/

namespace EventIntake.Text.Base64

/-- The letter of a value below 64. -/
def letter (n : Nat) : Char :=
  if n < 26 then Char.ofNat (65 + n)
  else if n < 52 then Char.ofNat (71 + n)
  else if n < 62 then Char.ofNat (n - 4)
  else if n = 62 then '+'
  else '/'

def value? (c : Char) : Option Nat :=
  let n := c.toNat
  if 65 ≤ n ∧ n ≤ 90 then some (n - 65)
  else if 97 ≤ n ∧ n ≤ 122 then some (n - 71)
  else if 48 ≤ n ∧ n ≤ 57 then some (n + 4)
  else if c = '+' then some 62
  else if c = '/' then some 63
  else none

/-- The letters of bytes. -/
def encode : List UInt8 → List Char
  | [] => []
  | [a] => [letter (a.toNat / 4), letter (a.toNat % 4 * 16), '=', '=']
  | [a, b] =>
    [letter (a.toNat / 4), letter (a.toNat % 4 * 16 + b.toNat / 16),
      letter (b.toNat % 16 * 4), '=']
  | a :: b :: c :: rest =>
    letter (a.toNat / 4) :: letter (a.toNat % 4 * 16 + b.toNat / 16)
      :: letter (b.toNat % 16 * 4 + c.toNat / 64) :: letter (c.toNat % 64) :: encode rest

inductive Fault where
  /-- Some character is outside ASCII. -/
  | notAscii
  /-- The last group lacks padding. -/
  | incorrectPadding
  /-- The last group is a single letter; `letters` counts all of them. -/
  | loneLetter (letters : Nat)
deriving DecidableEq, Repr

def Fault.message : Fault → String
  | .notAscii => "string argument should contain only ASCII characters"
  | .incorrectPadding => "Incorrect padding"
  | .loneLetter letters =>
    s!"Invalid base64-encoded string: number of data characters ({letters}) cannot be 1 more " ++
      "than a multiple of 4"

/-- Where reading stands in a group of four letters: how many have been read, the bits of the
last one that no byte holds yet, and the padding seen since. -/
structure Group where
  letters : Nat
  bits : Nat
  pads : Nat
deriving DecidableEq, Repr

/-- Nothing of the group has been read. -/
def Group.start : Group := ⟨0, 0, 0⟩

/-- The byte that a letter completes, if any, and the group after it. -/
def Group.push (group : Group) (v : Nat) : Option UInt8 × Group :=
  match group.letters with
  | 0 => (none, ⟨1, v, 0⟩)
  | 1 => (some (UInt8.ofNat (group.bits * 4 + v / 16)), ⟨2, v % 16, 0⟩)
  | 2 => (some (UInt8.ofNat (group.bits * 16 + v / 4)), ⟨3, v % 4, 0⟩)
  | _ => (some (UInt8.ofNat (group.bits * 64 + v)), ⟨0, 0, 0⟩)

/-- The bytes of the letters from a place in a group on; `written` bytes went before. -/
def decodeFrom (group : Group) (written : Nat) : List Char → Except Fault (List UInt8)
  | [] =>
    match group.letters with
    | 0 => .ok []
    | 1 => .error (.loneLetter (written / 3 * 4 + 1))
    | _ => .error .incorrectPadding
  | c :: rest =>
    if c = '=' then
      if 2 ≤ group.letters then
        if 4 ≤ group.letters + group.pads + 1 then .ok []
        else decodeFrom { group with pads := group.pads + 1 } written rest
      else decodeFrom group written rest
    else
      match value? c with
      | none => decodeFrom group written rest
      | some v =>
        match group.push v with
        | (none, next) => decodeFrom next written rest
        | (some byte, next) => do
          let bytes ← decodeFrom next (written + 1) rest
          return byte :: bytes

/-- The bytes of a text. -/
def decode (cs : List Char) : Except Fault (List UInt8) :=
  if cs.any fun c => 128 ≤ c.toNat then .error .notAscii else decodeFrom .start 0 cs

end EventIntake.Text.Base64
