/-
Reading moments in the international notation: calendar dates and week dates, with or without
separators, one character between date and time, fractions of the last time unit, and an offset
or `Z`.
-/
import EventIntake.Calendar.Moment
import EventIntake.Text.Blank
import EventIntake.Text.Digit
import EventIntake.Text.Halved

namespace EventIntake

/-- A length of time by whole days and what is left of a day. -/
def Calendar.durationText (micros : Int) : String :=
  let days := micros / dayMicros
  let rest := micros % dayMicros
  let parts := [("days", days), ("seconds", rest / 1000000), ("microseconds", rest % 1000000)]
  let shown := parts.filterMap fun (name, n) => if n = 0 then none else some s!"{name}={n}"
  if shown.isEmpty then "datetime.timedelta(0)"
  else
    let body := String.intercalate ", " shown
    s!"datetime.timedelta({body})"

inductive IsoFault where
  /-- The text does not follow the notation. -/
  | malformed (text : String)
  /-- The offset is a day or longer. -/
  | offset (micros : Int)
  /-- The text follows the notation, but a number in it is out of range. -/
  | field (fault : FieldFault)
deriving DecidableEq, Repr

def IsoFault.message : IsoFault → String
  | .malformed text => s!"Invalid isoformat string: {Text.quoted text}"
  | .offset micros =>
    "offset must be a timedelta strictly between -timedelta(hours=24) and " ++
      s!"timedelta(hours=24), not {Calendar.durationText micros}."
  | .field fault => fault.message

namespace Iso

/-- The character that stands for the end of a text. -/
def endMark : Char := Char.ofNat 0

/-- The number of the first `count` characters, which must be digits, and what follows them. -/
def digits? : Nat → List Char → Option (Nat × List Char)
  | 0, cs => some (0, cs)
  | count + 1, c :: rest =>
    if Text.isAsciiDigit c then do
      let (n, left) ← digits? count rest
      return ((c.toNat - 48) * Nat.pow 10 count + n, left)
    else none
  | _ + 1, [] => none

/-- Where the date ends, by the form that its fifth character and those after it show.  None
where no form fits. -/
def dateLength? (cs : List Char) : Option Nat :=
  let length := cs.length
  if length < 7 then none
  else if length = 7 then some 7
  else if cs[4]? = some '-' then
    if cs[5]? = some 'W' then
      if cs[8]? = some '-' then
        if length = 9 then none
        else if (cs[10]?.map Text.isAsciiDigit).getD false then some 8
        else some 10
      else some 8
    else some 10
  else if cs[4]? = some 'W' then
    let past := 7 + ((cs.drop 7).takeWhile Text.isAsciiDigit).length
    if past < 9 then some past else if past % 2 = 0 then some 7 else some 8
  else some 8

/-- Whether a year of weeks has a week of this number. -/
def hasWeek (year : Int) (week : Nat) : Bool :=
  let newYear := (Civil.toDate ⟨year, 1, 1⟩).weekday
  (1 ≤ week && week ≤ 52)
    || (week == 53 && (newYear == 3 || (newYear == 2 && Calendar.isLeap year)))

/-- The fields of a week date.  The year zero has weeks but no months. -/
def ofWeek? (year week day : Nat) : Option Civil :=
  if year = 0 then
    if 1 ≤ week ∧ week ≤ 52 ∧ 1 ≤ day ∧ day ≤ 7 then some ⟨1, 0, 0⟩ else none
  else if hasWeek year week && 1 ≤ day && day ≤ 7 then
    some (Date.civil ⟨(Date.firstMonday year).day + (week - 1) * 7 + day - 1⟩)
  else none

/-- A separator that is there when `expected`. -/
def dash? (expected : Bool) (cs : List Char) : Option (List Char) :=
  if expected then
    match cs with
    | '-' :: rest => some rest
    | _ => none
  else some cs

/-- The week and day of a week date whose length, year and week mark included, is `length`.  The
first day is meant where none is written. -/
def readWeek? (year : Nat) (dashed : Bool) (length : Nat) (cs : List Char) : Option Civil := do
  let (week, rest) ← digits? 2 cs
  if (if dashed then 8 else 7) < length then
    let (day, _) ← digits? 1 (← dash? dashed rest)
    ofWeek? year week day
  else
    ofWeek? year week 1

/-- The fields of a date of some length. -/
def readDate? (length : Nat) (cs : List Char) : Option Civil := do
  let (year, rest) ← digits? 4 cs
  let dashed := rest.head? == some '-'
  let rest := if dashed then rest.drop 1 else rest
  match rest with
  | 'W' :: rest => readWeek? year dashed length rest
  | rest =>
    let (month, rest) ← digits? 2 rest
    let (day, _) ← digits? 2 (← dash? dashed rest)
    return ⟨year, month, day⟩

/-- The first six digits after a decimal mark as microseconds, and whether something other than
further digits follows. -/
def readFraction? (cs : List Char) (next : Char) : Option (Nat × Bool) := do
  let count := min 6 cs.length
  let (n, rest) ← digits? count cs
  let left := rest.dropWhile Text.isAsciiDigit
  return (n * Nat.pow 10 (6 - count), left.headD next != endMark)

/-- The time with its fraction. -/
def withFraction? (t : TimeOfDay) (cs : List Char) (next : Char) :
    Option (TimeOfDay × Bool) := do
  let (micro, left) ← readFraction? cs next
  return ({ t with micro }, left)

/-- The fields from the seconds on.  `colons` tells whether fields are separated. -/
def readSecond? (colons : Bool) (t : TimeOfDay) (cs : List Char) (next : Char) :
    Option (TimeOfDay × Bool) := do
  let (n, rest) ← digits? 2 cs
  let t := { t with second := n }
  match rest with
  | [] => some (t, next != endMark)
  | [c] => some (t, c != endMark)
  | c :: more =>
    if (colons && c == ':') || c == '.' || c == ',' then withFraction? t more next
    else if colons then none
    else withFraction? t rest next

/-- The fields from the minutes on. -/
def readMinute? (colons : Bool) (t : TimeOfDay) (cs : List Char) (next : Char) :
    Option (TimeOfDay × Bool) := do
  let (n, rest) ← digits? 2 cs
  let t := { t with minute := n }
  match rest with
  | [] => some (t, next != endMark)
  | [c] => some (t, c != endMark)
  | c :: more =>
    if colons && c == ':' then readSecond? colons t more next
    else if c == '.' || c == ',' then withFraction? t more next
    else if colons then none
    else readSecond? colons t rest next

/-- The time of day that a text writes, and whether something follows it.  The character after
the text is `next`.  Whether colons separate the fields shows after the hour. -/
def readTime? (cs : List Char) (next : Char) : Option (TimeOfDay × Bool) := do
  let (n, rest) ← digits? 2 cs
  let t : TimeOfDay := ⟨n, 0, 0, 0⟩
  match rest with
  | [] => some (t, next != endMark)
  | [c] => some (t, c != endMark)
  | c :: more =>
    if c == ':' then readMinute? true t more next
    else if c == '.' || c == ',' then withFraction? t more next
    else readMinute? false t rest next

/-- The characters that start an offset. -/
def startsOffset (c : Char) : Bool := c == '+' || c == '-' || c == 'Z'

/-- An offset from its mark on, in microseconds.  Less than a second counts as none. -/
def readOffset? : List Char → Option Int
  | 'Z' :: rest => if rest.headD endMark = endMark then some 0 else none
  | sign :: rest => do
    let (t, left) ← readTime? rest endMark
    if left then none
    else
      let micros := t.toMicros
      if micros < 1000000 then some 0
      else some (if sign = '-' then -micros else micros)
  | [] => none

/-- The time of day and the offset of a text that follows a date. -/
def readTimeOfDay? (cs : List Char) : Option (TimeOfDay × Option Int) := do
  let clock := cs.takeWhile (!startsOffset ·)
  match cs.dropWhile (!startsOffset ·) with
  | [] =>
    let (t, left) ← readTime? clock endMark
    if left then none else some (t, none)
  | mark :: rest =>
    let (t, _) ← readTime? clock mark
    let offset ← readOffset? (mark :: rest)
    return (t, some offset)

/-- The characters of a text, each as often as it has bytes: places are counted in bytes. -/
def units (text : String) : List Char :=
  text.toList.flatMap fun c => List.replicate c.utf8Size c

/-- The fields of a text, before they are looked at. -/
def readFields? (cs : List Char) : Option (Civil × TimeOfDay × Option Int) := do
  let length ← dateLength? cs
  let date ← readDate? length cs
  match cs.drop length with
  | [] => return (date, ⟨0, 0, 0, 0⟩, none)
  | separator :: rest =>
    let (t, offset) ← readTimeOfDay? (rest.drop (separator.utf8Size - 1))
    return (date, t, offset)

/-- The moment that a text writes.  The offset is looked at before the other fields. -/
def read (text : String) : Except IsoFault Moment :=
  match readFields? (units text) with
  | none => .error (.malformed text)
  | some (date, t, offset) =>
    match offset with
    | some micros =>
      if Calendar.dayMicros ≤ micros.natAbs then .error (.offset micros)
      else (Moment.ofFields date t offset).mapError .field
    | none => (Moment.ofFields date t none).mapError .field

/-- The text without blanks around it, and with a last `Z` written as an offset. -/
def withOffset (text : String) : String :=
  let text := Text.strip text
  match text.toList.reverse with
  | 'Z' :: rest => String.ofList rest.reverse ++ "+00:00"
  | 'z' :: rest => String.ofList rest.reverse ++ "+00:00"
  | _ => text

/-- The moment that a text writes, blanks around it aside and with `Z` in either case. -/
def readLoose (text : String) : Except IsoFault Moment := read (withOffset text)

/-- Where a half may stand in the text without blanks around it: between date and time. -/
def separatorPlaces : List Nat := [7, 8, 10]

/-- The text with a `T` in the place of the half between date and time, if there is no other. -/
def separated? (t : Halved) : Option String :=
  let lead := (t.points.takeWhile Point.isBlank).length
  let isHalfAt (place : Nat) : Bool := (t.points[lead + place]?.map Point.isHalf).getD false
  (separatorPlaces.find? isHalfAt).bind fun place =>
    let points := t.points.set (lead + place) (.char 'T')
    if points.any Point.isHalf then none else some (String.ofList (points.map Point.filled))

def accepts (text : String) : Bool :=
  match readLoose text with
  | .ok _ => true
  | .error _ => false

end Iso

end EventIntake
