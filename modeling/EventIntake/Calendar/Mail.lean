/-
Reading moments in the notation of mail headers: an optional day name, the day, the month's
name, the year, the time and the zone, separated by blanks.
-/
import EventIntake.Calendar.Moment
import EventIntake.Number.Reading
import EventIntake.Text.Blank
import EventIntake.Text.Case
import EventIntake.Text.Split

namespace EventIntake.Mail

/-- Why a text is no moment: it does not follow the notation, or a number in it is too large. -/
inductive Fault where
  | unreadable
  | overflow (fault : Calendar.OverflowFault)
deriving DecidableEq, Repr

def dayNames : List String := ["mon", "tue", "wed", "thu", "fri", "sat", "sun"]

/-- The short names of the months, and then the long ones. -/
def monthNames : List String := [
  "jan", "feb", "mar", "apr", "may", "jun", "jul", "aug", "sep", "oct", "nov", "dec",
  "january", "february", "march", "april", "may", "june", "july", "august", "september",
  "october", "november", "december"]

/-- Named zones, by hours and minutes written as one number. -/
def zones : List (String × Int) := [
  ("UT", 0), ("UTC", 0), ("GMT", 0), ("Z", 0), ("AST", -400), ("ADT", -300), ("EST", -500),
  ("EDT", -400), ("CST", -600), ("CDT", -500), ("MST", -700), ("MDT", -600), ("PST", -800),
  ("PDT", -700)]

/-- The words of a date before they are read. -/
structure Parts where
  day : List Char
  month : List Char
  year : List Char
  time : List Char
  zone : List Char
deriving DecidableEq, Repr

/-- What follows the last comma. -/
def afterLastComma (cs : List Char) : List Char :=
  (cs.reverse.takeWhile (· != ',')).reverse

/-- The word without a comma at its end. -/
def dropLastComma (cs : List Char) : List Char :=
  if cs.getLast? = some ',' then cs.dropLast else cs

/-- The words without the day's name, which may be joined to the next word by a comma. -/
def dropDayName : List (List Char) → List (List Char)
  | [] => []
  | first :: rest =>
    if first.getLast? = some ',' ∨ dayNames.contains (Text.lower (String.ofList first)) then rest
    else afterLastComma first :: rest

/-- Three words may write the day, the month and the year with dashes. -/
def splitDashes : List (List Char) → List (List Char)
  | [first, second, third] =>
    match Text.splitChars '-' first with
    | [day, month, year] => [day, month, year, second, third]
    | _ => [first, second, third]
  | words => words

/-- Where a zone starts inside the word of the time: at a plus, or else at a minus. -/
def zoneStart (time : List Char) : Nat :=
  if time.contains '+' then (time.takeWhile (· != '+')).length
  else if time.contains '-' then (time.takeWhile (· != '-')).length
  else 0

/-- Four words may write the zone right behind the time, or no zone. -/
def splitZone : List (List Char) → List (List Char)
  | [day, month, year, time] =>
    let start := zoneStart time
    if 0 < start then [day, month, year, time.take start, time.drop start]
    else [day, month, year, time, []]
  | words => words

def monthNumber? (word : List Char) : Option Nat :=
  let name := Text.lower (String.ofList word)
  if monthNames.contains name then some (monthNames.idxOf name % 12 + 1) else none

/-- The five words of a date in order.  Day and month, year and time, year and zone may have
changed places. -/
def Parts.ofWords? (words : List (List Char)) : Option (Parts × Nat) :=
  match splitZone (splitDashes (dropDayName words)) with
  | day :: month :: year :: time :: zone :: _ => do
    if day.isEmpty || month.isEmpty || year.isEmpty then none
    else
      let (day, number) ←
        match monthNumber? month with
        | some number => some (day, number)
        | none => (monthNumber? day).map fun number =>
            ((Text.lower (String.ofList month)).toList, number)
      let (year, time) :=
        if year.contains ':' && year.head? != some ':' then (time, year) else (year, time)
      let year := dropLastComma year
      match year with
      | [] => none
      | c :: _ =>
        let (year, zone) := if Text.isDigit c then (year, zone) else (zone, year)
        return (⟨dropLastComma day, month, year, dropLastComma time, zone⟩, number)
  | _ => none

/-- The words of hour, minute and second, between colons or else between points. -/
def timeWords? (time : List Char) : Option (List Char × List Char × List Char) :=
  match Text.splitChars ':' time with
  | [hour, minute] => some (hour, minute, ['0'])
  | [hour, minute, second] => some (hour, minute, second)
  | [whole] =>
    match Text.splitChars '.' whole with
    | [hour, minute] => some (hour, minute, ['0'])
    | [hour, minute, second] => some (hour, minute, second)
    | _ => none
  | _ => none

def integer? (word : List Char) : Option Int :=
  match Number.readInteger word with
  | .ok n => some n
  | .error _ => none

/-- The full year: two digits mean the years from 1969 to 2068. -/
def fullYear (year : Int) : Int :=
  if 100 ≤ year then year else if 68 < year then year + 1900 else year + 2000

/-- The offset of a zone in seconds, which `-0000` and unknown names leave open. -/
def zoneSeconds? (zone : List Char) : Option Int :=
  let name := Text.upper (String.ofList zone)
  let number :=
    match zones.lookup name with
    | some n => some n
    | none =>
      match integer? name.toList with
      | some 0 => if zone.head? = some '-' then none else some 0
      | other => other
  number.map fun n =>
    let seconds : Int := (n.natAbs / 100 * 3600 + n.natAbs % 100 * 60 : Nat)
    if n < 0 then -seconds else seconds

/-- A number as the field of a date; a negative one is out of any range. -/
def toField (n : Int) : Nat := if n < 0 then 1000 else n.toNat

/-- The moment of numbers, each of which is looked at in turn: first as a machine number, then by
its range. -/
def ofNumbers (year : Int) (month : Nat) (day hour minute second : Int) (offset : Option Int) :
    Except Fault Moment := do
  match offset with
  | none => pure ()
  | some micros =>
    (Calendar.checkDuration micros).mapError .overflow
    if Calendar.dayMicros ≤ micros.natAbs then throw .unreadable
  for n in [year, month, day, hour, minute, second] do
    (Calendar.checkField n).mapError .overflow
  (Moment.ofFields ⟨year, month, toField day⟩
    ⟨toField hour, toField minute, toField second, 0⟩ offset).mapError fun _ => .unreadable

def read (text : String) : Except Fault Moment :=
  let numbers : Option (Except Fault Moment) := do
    let (parts, month) ← Parts.ofWords? (Text.words text.toList)
    let (hour, minute, second) ← timeWords? parts.time
    let year ← integer? parts.year
    let day ← integer? parts.day
    let hour ← integer? hour
    let minute ← integer? minute
    let second ← integer? second
    let offset := (zoneSeconds? parts.zone).map (· * 1000000)
    return ofNumbers (fullYear year) month day hour minute second offset
  numbers.getD (.error .unreadable)

end EventIntake.Mail
