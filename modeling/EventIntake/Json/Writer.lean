/-
Writing values as JSON.  A layout says how items are separated, whether the text is broken into
lines, which characters are escaped, and what stands for scalars that JSON does not have.  Values
are written in characters, or in points where halves of surrogate pairs have to stand as they are.
-/
import EventIntake.Text.Hex
import EventIntake.Value.Display

namespace EventIntake.Json

structure Layout where
  itemSeparator : String
  keySeparator : String
  /-- Spaces per level where each item has a line of its own. -/
  indent : Option Nat
  /-- Everything outside printable ASCII is escaped. -/
  asciiOnly : Bool
  /-- A key that cannot be written is told by the full name of its kind. -/
  fullKinds : Bool
  /-- The text that stands for a moment or a date, if there is one. -/
  foreign : Scalar → Option String

inductive WriteFault where
  | foreign (kind : String)
  | key (kind : String)
  /-- A half of a surrogate pair would have to stand among characters. -/
  | halved
  /-- An integer has more digits than can be written. -/
  | tooLong
  | tooDeep
deriving DecidableEq, Repr

def WriteFault.message : WriteFault → String
  | .foreign kind => s!"Object of type {kind} is not JSON serializable"
  | .key kind => s!"keys must be str, int, float, bool or None, not {kind}"
  | .halved => "half of a surrogate pair is no character"
  | .tooLong => unwritableMessage
  | .tooDeep => "value is nested too deeply"

/-- What values are written in. -/
class Medium (τ : Type) extends Append τ where
  text : String → τ
  /-- Points as they are, if a half can stand there. -/
  points? : List Point → Option τ

instance : Medium String where
  text s := s
  points? _ := none

instance : Medium (List Point) where
  text s := s.toList.map .char
  points? points := some points

@[simp] theorem Medium.text_string (s : String) : (Medium.text s : String) = s := rfl

/-- No blanks, and only what must be escaped is. -/
def compact : Layout := ⟨",", ":", none, false, true, fun _ => none⟩

/-- As `compact`, with the display of moments and dates as texts. -/
def measured : Layout := { compact with foreign := fun s => some s.plain }

/-- One line with a blank after each separator, and only what must be escaped is. -/
def spaced : Layout := ⟨", ", ": ", none, false, true, fun _ => none⟩

/-- A line for each item, two spaces a level, in ASCII. -/
def pretty : Layout := ⟨",", ": ", some 2, true, false, fun _ => none⟩

/-- The escape of a code point below `0x10000`. -/
def unitEscape (n : Nat) : List Char := '\\' :: 'u' :: Text.hexDigits 4 n

/-- A character inside quotes.  Past `0x10000` an escape is a pair. -/
def escapeChar (asciiOnly : Bool) (c : Char) : List Char :=
  if c = '"' ∨ c = '\\' then ['\\', c]
  else if 0x20 ≤ c.toNat ∧ (c.toNat ≤ 0x7e ∨ !asciiOnly) then [c]
  else if c = '\n' then ['\\', 'n']
  else if c = '\r' then ['\\', 'r']
  else if c = '\t' then ['\\', 't']
  else if c.toNat = 8 then ['\\', 'b']
  else if c.toNat = 12 then ['\\', 'f']
  else if c.toNat < 0x10000 then unitEscape c.toNat
  else
    let n := c.toNat - 0x10000
    unitEscape (0xd800 + n / 1024) ++ unitEscape (0xdc00 + n % 1024)

def quote (asciiOnly : Bool) (s : String) : String :=
  (s.foldl (fun out c => (escapeChar asciiOnly c).foldl String.push out) "\"").push '"'

/-- A point inside quotes. -/
def escapePoint (asciiOnly : Bool) : Point → List Point
  | .char c => (escapeChar asciiOnly c).map .char
  | p => if asciiOnly then (unitEscape p.code).map .char else [p]

/-- The points of a text in quotes. -/
def quotePoints (asciiOnly : Bool) (points : List Point) : List Point :=
  .char '"' :: points.flatMap (escapePoint asciiOnly) ++ [.char '"']

/-- Numbers are written as they are displayed, but for the names of what is not finite. -/
def numbers : NumberFormat :=
  { displayedNumbers with
    positiveInfinity := "Infinity"
    negativeInfinity := "-Infinity"
    notANumber := "NaN" }

namespace Layout

variable [Limits] {τ : Type} [Medium τ]

/-- A text with halves of surrogate pairs, in quotes.  In ASCII they are escaped. -/
def halved (layout : Layout) (t : Halved) : Except WriteFault τ :=
  let points := quotePoints layout.asciiOnly t.points
  if layout.asciiOnly then .ok (Medium.text (String.ofList (points.filterMap Point.char?)))
  else
    match Medium.points? points with
    | some written => .ok written
    | none => .error .halved

/-- A scalar that is a value. -/
def scalar (layout : Layout) (s : Scalar) : Except WriteFault τ :=
  match s with
  | .null => .ok (Medium.text "null")
  | .bool b => .ok (Medium.text (if b then "true" else "false"))
  | .int n =>
    if (Scalar.int n).isTooLong then .error .tooLong else .ok (Medium.text (toString n))
  | .float x => .ok (Medium.text (numbers.text x))
  | .string t => .ok (Medium.text (quote layout.asciiOnly t))
  | .halved t => layout.halved t
  | s =>
    match layout.foreign s with
    | some t => .ok (Medium.text (quote layout.asciiOnly t))
    | none => .error (.foreign (Value.scalar s).kindName)

/-- A scalar that is a key: its text as a value, in quotes. -/
def key (layout : Layout) (s : Scalar) : Except WriteFault τ :=
  let quoted (t : String) : Except WriteFault τ := .ok (Medium.text (quote layout.asciiOnly t))
  match s with
  | .null => quoted "null"
  | .bool b => quoted (if b then "true" else "false")
  | .int n => if (Scalar.int n).isTooLong then .error .tooLong else quoted (toString n)
  | .float x => quoted (numbers.text x)
  | .string t => quoted t
  | .halved t => layout.halved t
  | s =>
    let v := Value.scalar s
    .error (.key (if layout.fullKinds then v.fullKindName else v.kindName))

/-- The break in front of an item at a level. -/
def lineBreak (layout : Layout) (level : Nat) : String :=
  match layout.indent with
  | none => ""
  | some width => String.ofList ('\n' :: List.replicate (width * level) ' ')

mutual

/-- The text of a value that stands inside `level` lists and dictionaries. -/
def writeAt (layout : Layout) (level : Nat) : Value → Except WriteFault τ
  | .scalar s => layout.scalar s
  | .list [] => .ok (Medium.text "[]")
  | .list (v :: rest) => do
    if Limits.writing ≤ level then throw .tooDeep
    let first ← layout.writeAt (level + 1) v
    let others ← layout.writeItems (level + 1) rest
    return Medium.text "[" ++ (Medium.text (layout.lineBreak (level + 1)) ++ (first ++ (others ++
      (Medium.text (layout.lineBreak level) ++ Medium.text "]"))))
  | .dict [] => .ok (Medium.text "\x7b\x7d")
  | .dict ((k, v) :: rest) => do
    if Limits.writing ≤ level then throw .tooDeep
    let name ← layout.key k
    let first ← layout.writeAt (level + 1) v
    let others ← layout.writeEntries (level + 1) rest
    return Medium.text "\x7b" ++ (Medium.text (layout.lineBreak (level + 1)) ++ (name ++
      (Medium.text layout.keySeparator ++ (first ++ (others ++
        (Medium.text (layout.lineBreak level) ++ Medium.text "\x7d"))))))

/-- The text of further items, each behind a separator. -/
def writeItems (layout : Layout) (level : Nat) : List Value → Except WriteFault τ
  | [] => .ok (Medium.text "")
  | v :: rest => do
    let first ← layout.writeAt level v
    let others ← layout.writeItems level rest
    return Medium.text layout.itemSeparator ++ (Medium.text (layout.lineBreak level) ++
      (first ++ others))

/-- The text of further entries, each behind a separator. -/
def writeEntries (layout : Layout) (level : Nat) : Entries → Except WriteFault τ
  | [] => .ok (Medium.text "")
  | (k, v) :: rest => do
    let name ← layout.key k
    let first ← layout.writeAt level v
    let others ← layout.writeEntries level rest
    return Medium.text layout.itemSeparator ++ (Medium.text (layout.lineBreak level) ++ (name ++
      (Medium.text layout.keySeparator ++ (first ++ others))))

end

def write (layout : Layout) (v : Value) : Except WriteFault τ :=
  layout.writeAt 0 v

end Layout

end EventIntake.Json
