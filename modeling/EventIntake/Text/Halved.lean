/-
Texts in which halves of surrogate pairs stand on their own.  A half is no character, so such a
text has no bytes; where only characters will do, it is shown by the escapes of its halves.
-/
import EventIntake.Text.Blank
import EventIntake.Text.Case
import EventIntake.Text.Quoted

namespace EventIntake

/-- What stands at a place of a text: a character, or half of a pair, by its number from `0xd800`
on. -/
inductive Point where
  | char (c : Char)
  | half (n : Fin 0x800)
deriving DecidableEq, Repr

namespace Point

/-- The point of a code. -/
def ofCode (n : Nat) : Point :=
  if h : 0xd800 ≤ n ∧ n < 0xe000 then .half ⟨n - 0xd800, by omega⟩ else .char (Char.ofNat n)

def code : Point → Nat
  | .char c => c.toNat
  | .half n => 0xd800 + n

def isHalf : Point → Bool
  | .char _ => false
  | .half _ => true

def char? : Point → Option Char
  | .char c => some c
  | .half _ => none

/-- The escape of a half; characters stand for themselves. -/
def shown : Point → List Char
  | .char c => [c]
  | p => '\\' :: 'u' :: Text.hexDigits 4 p.code

/-- The point with the replacement character, which is neither a blank nor a letter nor a digit, in
the place of a half. -/
def filled : Point → Char
  | .char c => c
  | .half _ => '\ufffd'

def isBlank : Point → Bool
  | .char c => Text.isBlank c
  | .half _ => false

end Point

namespace Text

def quotedPoints (points : List Point) : String :=
  let quote := quoteFor (points.filterMap Point.char?)
  let inside := points.flatMap fun
    | .char c => quotedChar quote c
    | p => p.shown
  String.ofList (quote :: inside ++ [quote])

def stripPoints (points : List Point) : List Point :=
  ((points.dropWhile Point.isBlank).reverse.dropWhile Point.isBlank).reverse

end Text

/-- A text with a half in it. -/
structure Halved where
  points : List Point
  hasHalf : points.any Point.isHalf = true
deriving DecidableEq, Repr

namespace Halved

def shown (t : Halved) : String := String.ofList (t.points.flatMap Point.shown)

def quoted (t : Halved) : String := Text.quotedPoints t.points

/-- The text with a character in the place of each half. -/
def filled (t : Halved) : String := String.ofList (t.points.map Point.filled)

/-- The points with a function carried out on the characters between the halves; `run` holds the
characters before, the last one first. -/
def mapRuns (f : List Char → List Char) (run : List Char) : List Point → List Point
  | [] => (f run.reverse).map .char
  | .char c :: rest => mapRuns f (c :: run) rest
  | .half n :: rest => (f run.reverse).map .char ++ .half n :: mapRuns f [] rest

/-- Lower case.  A half ends a word, as far as the final sigma is concerned. -/
def lower (t : Halved) : List Point := mapRuns (Text.lowerChars false) [] t.points

def upper (t : Halved) : List Point := mapRuns (·.flatMap Text.upperLetter) [] t.points

def strip (t : Halved) : List Point := Text.stripPoints t.points

end Halved

namespace Text

/-- A text that has no bytes in UTF-8: the points that have none, from the first one on, and the
place where they begin. -/
structure EncodeFault where
  start : Nat
  halves : List Point
deriving DecidableEq, Repr

namespace EncodeFault

/-- The fault of points that have a half among them. -/
def ofPoints (points : List Point) : EncodeFault :=
  let start := (points.takeWhile (!·.isHalf)).length
  ⟨start, (points.drop start).takeWhile Point.isHalf⟩

def message (fault : EncodeFault) : String :=
  match fault.halves with
  | [half] =>
    s!"'utf-8' codec can't encode character '{String.ofList half.shown}' in position " ++
      s!"{fault.start}: surrogates not allowed"
  | halves =>
    s!"'utf-8' codec can't encode characters in position " ++
      s!"{fault.start}-{fault.start + halves.length - 1}: surrogates not allowed"

end EncodeFault

end Text

end EventIntake
