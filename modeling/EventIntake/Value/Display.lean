/-
Values as messages and texts show them.  A text stands for itself on its own and is quoted
inside a list or a dictionary.
-/
import EventIntake.Calendar.Iso
import EventIntake.Number.Reading
import EventIntake.Number.Shortest
import EventIntake.Text.Quoted
import EventIntake.Value.Basic

namespace EventIntake

/-- Numbers are written without an exponent from a ten-thousandth up to sixteen digits. -/
def displayedNumbers : NumberFormat where
  leastPositional := -4
  firstExponential := 16
  positiveInfinity := "inf"
  negativeInfinity := "-inf"
  notANumber := "nan"

def Binary64.display (x : Binary64) : String := displayedNumbers.text x

/-- The fields of a moment in parentheses.  Seconds and microseconds that are zero are left
out. -/
def Moment.display (m : Moment) : String :=
  let c := m.date.civil
  let t := m.timeOfDay
  let tail :=
    if t.micro ≠ 0 then s!", {t.second}, {t.micro}"
    else if t.second ≠ 0 then s!", {t.second}"
    else ""
  let zone :=
    match m.offset with
    | none => ""
    | some 0 => ", tzinfo=datetime.timezone.utc"
    | some offset => s!", tzinfo=datetime.timezone({Calendar.durationText offset})"
  s!"datetime.datetime({c.year}, {c.month}, {c.day}, {t.hour}, {t.minute}{tail}{zone})"

/-- The fields of a date in parentheses. -/
def Date.display (d : Date) : String :=
  let c := d.civil
  s!"datetime.date({c.year}, {c.month}, {c.day})"

/-- The scalar on its own.  Halves of surrogate pairs are shown by their escapes. -/
def Scalar.plain : Scalar → String
  | .null => "None"
  | .bool b => if b then "True" else "False"
  | .int n => toString n
  | .float x => x.display
  | .string s => s
  | .halved t => t.shown
  | .moment m => m.isoText " "
  | .date d => d.isoText

/-- An integer of more digits than can be written.  It cannot be told. -/
def Scalar.isTooLong : Scalar → Bool
  | .int n => digitBound digitLimit ≤ n.natAbs
  | _ => false

/-- The scalar inside a list or a dictionary. -/
def Scalar.quoted : Scalar → String
  | .string s => Text.quoted s
  | .halved t => t.quoted
  | .moment m => m.display
  | .date d => d.display
  | s => s.plain

namespace Value

mutual

/-- The value inside a list or a dictionary. -/
def quoted : Value → String
  | .scalar s => s.quoted
  | .list [] => "[]"
  | .list (v :: rest) => "[" ++ v.quoted ++ quotedItems rest ++ "]"
  | .dict [] => "\x7b\x7d"
  | .dict ((k, v) :: rest) =>
    "\x7b" ++ k.quoted ++ ": " ++ v.quoted ++ quotedEntries rest ++ "\x7d"

/-- Further items, each with a comma in front. -/
def quotedItems : List Value → String
  | [] => ""
  | v :: rest => ", " ++ v.quoted ++ quotedItems rest

/-- Further entries, each with a comma in front. -/
def quotedEntries : Entries → String
  | [] => ""
  | (k, v) :: rest => ", " ++ k.quoted ++ ": " ++ v.quoted ++ quotedEntries rest

end

mutual

/-- Whether an integer of too many digits stands in the value, keys included. -/
def hasTooLong : Value → Bool
  | .scalar s => s.isTooLong
  | .list items => itemsTooLong items
  | .dict entries => entriesTooLong entries

def itemsTooLong : List Value → Bool
  | [] => false
  | v :: rest => v.hasTooLong || itemsTooLong rest

def entriesTooLong : Entries → Bool
  | [] => false
  | (key, v) :: rest => key.isTooLong || v.hasTooLong || entriesTooLong rest

end

/-- The value on its own. -/
def plain : Value → String
  | .scalar s => s.plain
  | v => v.quoted

end Value

end EventIntake
