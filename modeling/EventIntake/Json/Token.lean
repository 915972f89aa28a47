/-
The tokens of a JSON text: brackets, separators and scalars, each with the position where it
starts.  A scalar that is written wrongly is a token too, because it only matters where a scalar
is expected.
-/
import EventIntake.Number.Reading
import EventIntake.Text.Hex
import EventIntake.Value.Basic

namespace EventIntake.Json

/-- What can be wrong at a place of a text. -/
inductive Problem where
  | expectingValue
  | expectingName
  | expectingColon
  | expectingComma
  | unterminated
  | controlCharacter
  | badEscape
  | badUnicodeEscape
  | extraData
  | byteOrderMark
deriving DecidableEq, Repr

def Problem.message : Problem → String
  | .expectingValue => "Expecting value"
  | .expectingName => "Expecting property name enclosed in double quotes"
  | .expectingColon => "Expecting ':' delimiter"
  | .expectingComma => "Expecting ',' delimiter"
  | .unterminated => "Unterminated string starting at"
  | .controlCharacter => "Invalid control character at"
  | .badEscape => "Invalid \\escape"
  | .badUnicodeEscape => "Invalid \\uXXXX escape"
  | .extraData => "Extra data"
  | .byteOrderMark => "Unexpected UTF-8 BOM (decode using utf-8-sig)"

/-- Why a scalar cannot be read: a problem at a position, or too many digits. -/
inductive ScalarFault where
  | problem (kind : Problem) (position : Nat)
  | tooLong (digits : Nat)
deriving DecidableEq, Repr

inductive Token where
  | openList
  | closeList
  | openDict
  | closeDict
  | comma
  | colon
  | scalar (s : Scalar)
  | broken (opens : Bool) (fault : ScalarFault)
  | stray
deriving DecidableEq, Repr

def isSpace (c : Char) : Bool := c == ' ' || c == '\t' || c == '\n' || c == '\r'

/-- A high or a low surrogate. -/
def isHighSurrogate (n : Nat) : Bool := 0xd800 ≤ n && n < 0xdc00

/-- The second half of a pair. -/
def isLowSurrogate (n : Nat) : Bool := 0xdc00 ≤ n && n < 0xe000

/-- The escapes of one letter. -/
def simpleEscape? (c : Char) : Option Char :=
  if c = '"' ∨ c = '\\' ∨ c = '/' then some c
  else if c = 'b' then some (Char.ofNat 8)
  else if c = 'f' then some (Char.ofNat 12)
  else if c = 'n' then some '\n'
  else if c = 'r' then some '\r'
  else if c = 't' then some '\t'
  else none

/-- The number of the four digits that a text starts with, when a character follows them. -/
def unit? (cs : List Char) : Option (Option Nat) :=
  if (cs.drop 4).isEmpty then none else some (Text.hexNumber? (cs.take 4))

/-- The second escape of a pair right behind the first, if there is room for it and a character
after it: the number that it writes, or nothing if its digits are none. -/
def secondUnit? (cs : List Char) : Option (Option Nat) :=
  match cs with
  | '\\' :: 'u' :: more => unit? more
  | _ => none

/-- The point that an escape writes, from its letter on, and how many characters the escape has.
The string starts at `start`, and the letter stands at `position`.  Half of a pair is a point of its
own if the other half does not follow. -/
def readEscape (start position : Nat) (cs : List Char) : Except ScalarFault (Point × Nat) :=
  match cs with
  | [] => .error (.problem .unterminated start)
  | 'u' :: more =>
    match unit? more with
    | some (some n) =>
      if isHighSurrogate n then
        match secondUnit? (more.drop 4) with
        | none => .ok (.ofCode n, 5)
        | some none => .error (.problem .badUnicodeEscape (position + 6))
        | some (some m) =>
          if isLowSurrogate m then
            .ok (.ofCode (0x10000 + (n - 0xd800) * 1024 + (m - 0xdc00)), 11)
          else .ok (.ofCode n, 5)
      else .ok (.ofCode n, 5)
    | _ => .error (.problem .badUnicodeEscape position)
  | c :: _ =>
    match simpleEscape? c with
    | some d => .ok (.char d, 1)
    | none => .error (.problem .badEscape (position - 1))

/-- What is read of a string: its points, and the text and position behind it. -/
structure StringRead where
  points : List Point
  rest : List Char
  position : Nat

/-- The points of a string from a position behind its opening quote on. -/
def readString (start position : Nat) : List Char → Except ScalarFault StringRead
  | [] => .error (.problem .unterminated start)
  | c :: rest =>
    if c = '"' then .ok ⟨[], rest, position + 1⟩
    else if c = '\\' then
      match readEscape start (position + 1) rest with
      | .error fault => .error fault
      | .ok (p, taken) =>
        match readString start (position + 1 + taken) (rest.drop taken) with
        | .error fault => .error fault
        | .ok read => .ok { read with points := p :: read.points }
    else if c.toNat < 0x20 then .error (.problem .controlCharacter position)
    else
      match readString start (position + 1) rest with
      | .error fault => .error fault
      | .ok read => .ok { read with points := .char c :: read.points }
termination_by cs => cs.length
decreasing_by
  · simp only [List.length_cons, List.length_drop]; omega
  · simp only [List.length_cons]; omega

/-- What follows a string is shorter than the string with what follows it. -/
theorem readString_length (start position : Nat) (cs : List Char) (read : StringRead)
    (h : readString start position cs = .ok read) : read.rest.length < cs.length := by
  fun_induction readString start position cs generalizing read with
  | case1 => simp at h
  | case2 position rest =>
    simp only [Except.ok.injEq] at h
    subst h
    simp
  | case3 => simp at h
  | case4 => simp at h
  | case5 position rest p taken _ inner hrest _ ih =>
    simp only [Except.ok.injEq] at h
    subst h
    have := ih _ hrest
    simp only [List.length_drop] at this
    simp only [List.length_cons]
    omega
  | case6 => simp at h
  | case7 => simp at h
  | case8 position c rest _ _ _ inner hrest ih =>
    simp only [Except.ok.injEq] at h
    subst h
    have := ih _ hrest
    simp only [List.length_cons]
    omega

/-- How many digits a text starts with. -/
def digitCount (cs : List Char) : Nat := (cs.takeWhile Text.isAsciiDigit).length

/-- How many characters the digits before the point have: a zero, or a row of digits that does
not start with one. -/
def wholeCount (cs : List Char) : Nat :=
  match cs with
  | '0' :: _ => 1
  | cs => digitCount cs

/-- How many characters the point and the digits after it have. -/
def fractionCount (cs : List Char) : Nat :=
  match cs with
  | '.' :: rest => if digitCount rest = 0 then 0 else 1 + digitCount rest
  | _ => 0

/-- How many characters the exponent has. -/
def exponentCount (cs : List Char) : Nat :=
  match cs with
  | c :: rest =>
    if c = 'e' ∨ c = 'E' then
      match rest with
      | sign :: digits =>
        if sign = '+' ∨ sign = '-' then
          if digitCount digits = 0 then 0 else 2 + digitCount digits
        else if digitCount rest = 0 then 0
        else 1 + digitCount rest
      | [] => 0
    else 0
  | [] => 0

/-- The number that a text starts with, and how many characters it has. -/
def readNumber? (cs : List Char) : Option (Token × Nat) :=
  let sign := if cs.head? = some '-' then 1 else 0
  let whole := wholeCount (cs.drop sign)
  if whole = 0 then none
  else
    let fraction := fractionCount (cs.drop (sign + whole))
    let exponent := exponentCount (cs.drop (sign + whole + fraction))
    let count := sign + whole + fraction + exponent
    if fraction + exponent = 0 then
      match Number.readInteger (cs.take count) with
      | .ok n => some (.scalar (.int n), count)
      | .error (.tooLong digits) => some (.broken false (.tooLong digits), count)
      | .error .malformed => none
    else
      (Number.readDecimal? (cs.take count)).map fun x => (.scalar (.float x), count)

/-- Scalars that are written as words. -/
def words : List (List Char × Scalar) := [
  ("null".toList, .null), ("true".toList, .bool true), ("false".toList, .bool false),
  ("NaN".toList, .float .nan), ("Infinity".toList, .float (.infinite false)),
  ("-Infinity".toList, .float (.infinite true))]

/-- The word that a text starts with. -/
def readWord? (cs : List Char) : Option (Token × Nat) :=
  (words.find? fun (word, _) => word.isPrefixOf cs).map fun (word, s) =>
    (.scalar s, word.length)

/-- The word or number that a text starts with, and how many characters it has beyond the
first. -/
def readPlain (cs : List Char) : Token × Nat :=
  match (readWord? cs).orElse fun _ => readNumber? cs with
  | some (token, count) => (token, count - 1)
  | none => (.stray, 0)

/-- The token of a single character. -/
def mark? (c : Char) : Option Token :=
  if c = '[' then some .openList
  else if c = ']' then some .closeList
  else if c.toNat = 0x7b then some .openDict
  else if c.toNat = 0x7d then some .closeDict
  else if c = ',' then some .comma
  else if c = ':' then some .colon
  else none

/-- The tokens of a text that starts at a position, each with its position.  Nothing is read
behind a string that is written wrongly. -/
def tokensFrom (position : Nat) : List Char → List (Token × Nat)
  | [] => []
  | c :: rest =>
    if isSpace c then tokensFrom (position + 1) rest
    else if c = '"' then
      match _h : readString position (position + 1) rest with
      | .ok read =>
        (.scalar (.ofPoints read.points), position)
          :: tokensFrom read.position read.rest
      | .error fault => [(.broken true fault, position)]
    else
      match mark? c with
      | some token => (token, position) :: tokensFrom (position + 1) rest
      | none =>
        let (token, more) := readPlain (c :: rest)
        (token, position) :: tokensFrom (position + 1 + more) (rest.drop more)
termination_by cs => cs.length
decreasing_by
  · simp only [List.length_cons]; omega
  · simp only [List.length_cons]; have := readString_length _ _ _ _ _h; omega
  · simp only [List.length_cons]; omega
  · simp only [List.length_cons, List.length_drop]; omega

def tokens (cs : List Char) : List (Token × Nat) := tokensFrom 0 cs

end EventIntake.Json
