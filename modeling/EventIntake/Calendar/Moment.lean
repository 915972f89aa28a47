/-
Moments: a wall clock's reading in microseconds, with the clock's distance from universal
time when it is known.  A reading without it is taken as universal time.
-/
import EventIntake.Calendar.Date

namespace EventIntake

/-- A clock's reading, in microseconds since the first of January 1970 on that clock. -/
structure Moment where
  wall : Int
  offset : Option Int
deriving DecidableEq, Repr

structure TimeOfDay where
  hour : Nat
  minute : Nat
  second : Nat
  micro : Nat
deriving DecidableEq, Repr

namespace Calendar

def dayMicros : Int := 86400000000

/-- The first reading that a clock can have. -/
def firstWall : Int := (daysBeforeYear firstYear - epochDay) * dayMicros

/-- The last reading that a clock can have. -/
def lastWall : Int := (daysBeforeYear (lastYear + 1) - epochDay) * dayMicros - 1

/-- Numbers that are too large for a calendar. -/
inductive OverflowFault where
  /-- The date would lie outside the years of the calendar. -/
  | date
  /-- A duration of this many days is too long. -/
  | days (count : Int)
  /-- A duration's days are no machine number. -/
  | machineDays
  /-- A field of a date is no machine number: far too large, too large or too small. -/
  | machineField
  | fieldAbove
  | fieldBelow
deriving DecidableEq, Repr

def OverflowFault.message : OverflowFault → String
  | .date => "date value out of range"
  | .days count => s!"days={count}; must have magnitude <= 999999999"
  | .machineDays => "Python int too large to convert to C int"
  | .machineField => "Python int too large to convert to C long"
  | .fieldAbove => "signed integer is greater than maximum"
  | .fieldBelow => "signed integer is less than minimum"

/-- A duration must have fewer days than a machine number of 32 bits, and at most nine digits of
them. -/
def checkDuration (micros : Int) : Except OverflowFault Unit :=
  let days := micros / dayMicros
  if days < -2147483648 ∨ 2147483647 < days then .error .machineDays
  else if 999999999 < days.natAbs then .error (.days days)
  else .ok ()

/-- A field of a date must be a machine number of 32 bits. -/
def checkField (n : Int) : Except OverflowFault Unit :=
  if n < -9223372036854775808 ∨ 9223372036854775807 < n then .error .machineField
  else if 2147483647 < n then .error .fieldAbove
  else if n < -2147483648 then .error .fieldBelow
  else .ok ()

/-- Readings that a clock can have. -/
def inRange (wall : Int) : Bool := firstWall ≤ wall && wall ≤ lastWall

end Calendar

open Calendar

namespace TimeOfDay

def check (t : TimeOfDay) : Except FieldFault Unit :=
  if 23 < t.hour then .error .hour
  else if 59 < t.minute then .error .minute
  else if 59 < t.second then .error .second
  else if 999999 < t.micro then .error .microsecond
  else .ok ()

def toMicros (t : TimeOfDay) : Int :=
  ((t.hour * 60 + t.minute) * 60 + t.second) * 1000000 + t.micro

/-- The time of day at some microseconds after midnight. -/
def ofMicros (micros : Nat) : TimeOfDay :=
  let seconds := micros / 1000000
  ⟨seconds / 3600, seconds / 60 % 60, seconds % 60, micros % 1000000⟩

end TimeOfDay

namespace Moment

/-- The reading of a clock by date and time of day; the date's fields are looked at first. -/
def ofFields (c : Civil) (t : TimeOfDay) (offset : Option Int) : Except FieldFault Moment := do
  c.check
  t.check
  return ⟨c.toDate.day * dayMicros + t.toMicros, offset⟩

def date (m : Moment) : Date := ⟨m.wall / dayMicros⟩

def timeOfDay (m : Moment) : TimeOfDay := .ofMicros (m.wall % dayMicros).toNat

/-- The instant, in microseconds of universal time. -/
def instant (m : Moment) : Int := m.wall - m.offset.getD 0

/-- The same instant on a clock of universal time, if that clock can show it. -/
def toUniversal? (m : Moment) : Option Moment :=
  if inRange m.instant then some ⟨m.instant, some 0⟩ else none

/-- The reading of a clock without offset, taken as universal time. -/
def assumeUniversal (m : Moment) : Moment := { m with offset := some (m.offset.getD 0) }

/-- Whether both are the same instant; a reading without offset equals only readings without. -/
def same (a b : Moment) : Bool :=
  match a.offset, b.offset with
  | none, none => a.wall == b.wall
  | some _, some _ => a.instant == b.instant
  | _, _ => false

/-- An offset in hours and minutes, and seconds and microseconds where it has them. -/
def offsetText (offset : Int) : String :=
  let t := TimeOfDay.ofMicros offset.natAbs
  let sign := if offset < 0 then "-" else "+"
  let seconds := if t.second = 0 ∧ t.micro = 0 then "" else s!":{padded 2 t.second}"
  let micros := if t.micro = 0 then "" else s!".{padded 6 t.micro}"
  s!"{sign}{padded 2 t.hour}:{padded 2 t.minute}{seconds}{micros}"

/-- Date, separator and time of day, with microseconds where there are some and the offset where
it is known. -/
def isoText (separator : String) (m : Moment) : String :=
  let t := m.timeOfDay
  let micros := if t.micro = 0 then "" else s!".{padded 6 t.micro}"
  let zone := (m.offset.map offsetText).getD ""
  s!"{m.date.isoText}{separator}{padded 2 t.hour}:{padded 2 t.minute}:{padded 2 t.second}" ++
    micros ++ zone

/-- The form of a moment in written events: the offset of universal time is a `Z`, and offsets
are told to the minute. -/
def wireText (m : Moment) : String :=
  let clock := isoText "T" { m with offset := none }
  match m.offset with
  | none => clock
  | some 0 => clock ++ "Z"
  | some offset =>
    let minutes := offset.natAbs / 60000000
    let sign := if offset < 0 then "-" else "+"
    s!"{clock}{sign}{padded 2 (minutes / 60)}:{padded 2 (minutes % 60)}"

/-- Universal time to the millisecond below, with a `Z`.  Years have as many digits as they
need. -/
def millisText? (m : Moment) : Option String := do
  let m ← m.toUniversal?
  let c := m.date.civil
  let t := m.timeOfDay
  return s!"{c.year}-{padded 2 c.month}-{padded 2 c.day}T" ++
    s!"{padded 2 t.hour}:{padded 2 t.minute}:{padded 2 t.second}.{padded 3 (t.micro / 1000)}Z"

end Moment

end EventIntake
