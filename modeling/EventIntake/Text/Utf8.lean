/-
UTF-8: the bytes of a text, and the text of bytes.  Reading stops at the first bytes that no
text has, and says where they stand and what is wrong with them.
-/
import EventIntake.Text.Hex

namespace EventIntake.Text.Utf8

def encodeChar (c : Char) : List UInt8 :=
  let n := c.toNat
  if n < 0x80 then [UInt8.ofNat n]
  else if n < 0x800 then [UInt8.ofNat (0xc0 + n / 64), UInt8.ofNat (0x80 + n % 64)]
  else if n < 0x10000 then
    [UInt8.ofNat (0xe0 + n / 4096), UInt8.ofNat (0x80 + n / 64 % 64),
      UInt8.ofNat (0x80 + n % 64)]
  else
    [UInt8.ofNat (0xf0 + n / 262144), UInt8.ofNat (0x80 + n / 4096 % 64),
      UInt8.ofNat (0x80 + n / 64 % 64), UInt8.ofNat (0x80 + n % 64)]

def encode (cs : List Char) : List UInt8 :=
  cs.flatMap encodeChar

/-- What is wrong with bytes that are no character. -/
inductive Reason where
  | invalidStart
  | invalidContinuation
  | truncated
deriving DecidableEq, Repr

def Reason.message : Reason → String
  | .invalidStart => "invalid start byte"
  | .invalidContinuation => "invalid continuation byte"
  | .truncated => "unexpected end of data"

/-- Bytes that are no character: the first of them, its position, and how many they are. -/
structure Fault where
  firstByte : UInt8
  position : Nat
  count : Nat
  reason : Reason
deriving DecidableEq, Repr

/-- The fault of a reading in pieces: bytes that the end cuts off are left over from the last piece,
and their positions are counted anew. -/
def Fault.leftOver (fault : Fault) : Fault :=
  if fault.reason = .truncated then { fault with position := 0 } else fault

/-- The wording of a fault names one byte by its value and several by their positions. -/
def Fault.message (fault : Fault) : String :=
  if fault.count = 1 then
    s!"'utf-8' codec can't decode byte 0x{String.ofList (hexDigits 2 fault.firstByte.toNat)} " ++
      s!"in position {fault.position}: {fault.reason.message}"
  else
    s!"'utf-8' codec can't decode bytes in position {fault.position}-" ++
      s!"{fault.position + fault.count - 1}: {fault.reason.message}"

/-- A byte that may follow the first one of a character. -/
def isContinuation (b : UInt8) : Bool :=
  0x80 ≤ b.toNat && b.toNat < 0xc0

/-- A byte that may come second after `first`: characters have one spelling, the shortest, and
surrogates and code points past the last one have none. -/
def isSecond (first second : UInt8) : Bool :=
  isContinuation second
    && !(first.toNat == 0xe0 && second.toNat < 0xa0)
    && !(first.toNat == 0xed && 0xa0 ≤ second.toNat)
    && !(first.toNat == 0xf0 && second.toNat < 0x90)
    && !(first.toNat == 0xf4 && 0x90 ≤ second.toNat)

/-- The six low bits of a continuation byte. -/
def payload (b : UInt8) : Nat := b.toNat % 64

/-- The character that a byte starts, with the number of bytes after it that belong to the
character; or the number of faulty bytes and what is wrong with them. -/
def readChar (first : UInt8) (rest : List UInt8) : Except (Nat × Reason) (Char × Nat) :=
  let n := first.toNat
  if n < 0x80 then .ok (Char.ofNat n, 0)
  else if n < 0xc2 ∨ 0xf5 ≤ n then .error (1, .invalidStart)
  else if n < 0xe0 then
    match rest with
    | [] => .error (1, .truncated)
    | b :: _ =>
      if isContinuation b then .ok (Char.ofNat ((n - 0xc0) * 64 + payload b), 1)
      else .error (1, .invalidContinuation)
  else if n < 0xf0 then
    match rest with
    | [] => .error (1, .truncated)
    | [b] => if isSecond first b then .error (2, .truncated) else .error (1, .invalidContinuation)
    | b :: c :: _ =>
      if !isSecond first b then .error (1, .invalidContinuation)
      else if !isContinuation c then .error (2, .invalidContinuation)
      else .ok (Char.ofNat ((n - 0xe0) * 4096 + payload b * 64 + payload c), 2)
  else
    match rest with
    | [] => .error (1, .truncated)
    | [b] => if isSecond first b then .error (2, .truncated) else .error (1, .invalidContinuation)
    | [b, c] =>
      if !isSecond first b then .error (1, .invalidContinuation)
      else if !isContinuation c then .error (2, .invalidContinuation)
      else .error (3, .truncated)
    | b :: c :: d :: _ =>
      if !isSecond first b then .error (1, .invalidContinuation)
      else if !isContinuation c then .error (2, .invalidContinuation)
      else if !isContinuation d then .error (3, .invalidContinuation)
      else
        .ok (Char.ofNat ((n - 0xf0) * 262144 + payload b * 4096 + payload c * 64 + payload d), 3)

/-- The characters of bytes whose first one stands at `position`. -/
def decodeFrom (position : Nat) : List UInt8 → Except Fault (List Char)
  | [] => .ok []
  | b :: rest =>
    match readChar b rest with
    | .error (count, reason) => .error ⟨b, position, count, reason⟩
    | .ok (c, taken) => do
      let cs ← decodeFrom (position + 1 + taken) (rest.drop taken)
      return c :: cs
termination_by bytes => bytes.length
decreasing_by simp only [List.length_cons, List.length_drop]; omega

/-- The characters in front of the first bytes that no text has. -/
def readable : List UInt8 → List Char
  | [] => []
  | b :: rest =>
    match readChar b rest with
    | .error _ => []
    | .ok (c, taken) => c :: readable (rest.drop taken)
termination_by bytes => bytes.length
decreasing_by simp only [List.length_cons, List.length_drop]; omega

def decode (bytes : List UInt8) : Except Fault (List Char) :=
  decodeFrom 0 bytes

end EventIntake.Text.Utf8
