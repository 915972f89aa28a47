/-
Days of the Gregorian calendar, extended to all years.  A date is a count of days, and its
year, month and day are read off by counting cycles of 400, 100, 4 and single years.
-/

namespace EventIntake

/-- A day, counted from the first of January 1970. -/
structure Date where
  day : Int
deriving DecidableEq, Repr

/-- A day by its year, month and day of the month, from one on. -/
structure Civil where
  year : Int
  month : Nat
  day : Nat
deriving DecidableEq, Repr

namespace Calendar

/-- Every fourth year is long, except those of full centuries that 400 does not divide. -/
def isLeap (year : Int) : Bool :=
  year % 4 == 0 && (year % 100 != 0 || year % 400 == 0)

def daysInMonth (year : Int) (month : Nat) : Nat :=
  match month with
  | 2 => if isLeap year then 29 else 28
  | 4 | 6 | 9 | 11 => 30
  | _ => 31

/-- The days of a year before a month. -/
def daysBeforeMonth (leap : Bool) (month : Nat) : Nat :=
  let days := [0, 31, 59, 90, 120, 151, 181, 212, 243, 273, 304, 334]
  days.getD (month - 1) 0 + if leap && 2 < month then 1 else 0

/-- The days before a year, counted from the first of January of the year one. -/
def daysBeforeYear (year : Int) : Int :=
  let y := year - 1
  y * 365 + y / 4 - y / 100 + y / 400

/-- The first of January 1970, counted from the first day of the year one. -/
def epochDay : Int := 719162

/-- The years that all dates lie in. -/
def firstYear : Int := 1

def lastYear : Int := 9999

end Calendar

open Calendar

/-- Why numbers are no date or time of day. -/
inductive FieldFault where
  | year (value : Int)
  | month
  | day
  | hour
  | minute
  | second
  | microsecond
deriving DecidableEq, Repr

def FieldFault.message : FieldFault → String
  | .year value => s!"year {value} is out of range"
  | .month => "month must be in 1..12"
  | .day => "day is out of range for month"
  | .hour => "hour must be in 0..23"
  | .minute => "minute must be in 0..59"
  | .second => "second must be in 0..59"
  | .microsecond => "microsecond must be in 0..999999"

namespace Civil

/-- The fields name a day: the year, then the month, then the day is looked at. -/
def check (c : Civil) : Except FieldFault Unit :=
  if c.year < firstYear ∨ lastYear < c.year then .error (.year c.year)
  else if c.month < 1 ∨ 12 < c.month then .error .month
  else if c.day < 1 ∨ daysInMonth c.year c.month < c.day then .error .day
  else .ok ()

/-- The day that the fields name. -/
def toDate (c : Civil) : Date :=
  ⟨daysBeforeYear c.year + daysBeforeMonth (isLeap c.year) c.month + c.day - 1 - epochDay⟩

end Civil

namespace Date

/-- The day of the week, from zero on a Monday. -/
def weekday (d : Date) : Int := (d.day + 3) % 7

/-- The month of a day of the year, both counted from zero. -/
def monthIndex (leap : Bool) (dayOfYear : Nat) : Nat :=
  ((List.range 12).filter fun m => daysBeforeMonth leap (m + 1) ≤ dayOfYear).length - 1

/-- The year of a day and the day's place in it, from zero on. -/
def yearAndDay (d : Date) : Int × Nat :=
  let n := d.day + epochDay
  let n400 := n / 146097
  let r400 := n % 146097
  let n100 := min (r400 / 36524) 3
  let r100 := r400 - n100 * 36524
  let n4 := r100 / 1461
  let r4 := r100 % 1461
  let n1 := min (r4 / 365) 3
  (n400 * 400 + n100 * 100 + n4 * 4 + n1 + 1, (r4 - n1 * 365).toNat)

def civil (d : Date) : Civil :=
  let (year, dayOfYear) := d.yearAndDay
  let leap := isLeap year
  let month := monthIndex leap dayOfYear + 1
  ⟨year, month, dayOfYear - daysBeforeMonth leap month + 1⟩

/-- The first Monday of a year's weeks: the week with the year's first Thursday. -/
def firstMonday (year : Int) : Date :=
  let newYear : Date := Civil.toDate ⟨year, 1, 1⟩
  let monday := newYear.day - newYear.weekday
  ⟨if 3 < newYear.weekday then monday + 7 else monday⟩

end Date

namespace Calendar

/-- A number with zeros in front, up to a width. -/
def padded (width n : Nat) : String :=
  let digits := Nat.toDigits 10 n
  String.ofList (List.replicate (width - digits.length) '0' ++ digits)

end Calendar

/-- A date as year, month and day with dashes. -/
def Date.isoText (d : Date) : String :=
  let c := d.civil
  s!"{padded 4 c.year.toNat}-{padded 2 c.month}-{padded 2 c.day}"

end EventIntake
