/-
The text of a moment in universal time tells its millisecond, and nothing else: a day is found again
from its year, month and day, and numbers padded to one width are told apart.
-/
import EventIntake.Calendar.Moment
import EventIntake.Proofs.Digits

namespace EventIntake

namespace Date

open Calendar

/-- The month of a day of the year begins at that day or before, and not long before. -/
theorem monthIndex_bounds (leap : Bool) {dayOfYear : Nat} (hday : dayOfYear < 366) :
    monthIndex leap dayOfYear < 12 ∧
      daysBeforeMonth leap (monthIndex leap dayOfYear + 1) ≤ dayOfYear ∧
      dayOfYear ≤ daysBeforeMonth leap (monthIndex leap dayOfYear + 1) + 31 := by
  have hall : ∀ leap, ∀ day < 366, monthIndex leap day < 12 ∧
      daysBeforeMonth leap (monthIndex leap day + 1) ≤ day ∧
      day ≤ daysBeforeMonth leap (monthIndex leap day + 1) + 31 := by decide +kernel
  exact hall leap dayOfYear hday

/-- A year of a cycle: the days before it, by the centuries, fours and single years before it. -/
theorem daysBeforeYear_of_cycles {n400 n100 n4 n1 : Int} (h100 : 0 ≤ n100 ∧ n100 ≤ 3)
    (h4 : 0 ≤ n4 ∧ n4 ≤ 24) (h1 : 0 ≤ n1 ∧ n1 ≤ 3) :
    daysBeforeYear (n400 * 400 + n100 * 100 + n4 * 4 + n1 + 1) =
      n400 * 146097 + n100 * 36524 + n4 * 1461 + n1 * 365 := by
  have hfours : (n400 * 400 + n100 * 100 + n4 * 4 + n1) / 4 = n400 * 100 + n100 * 25 + n4 := by
    omega
  have hcenturies : (n400 * 400 + n100 * 100 + n4 * 4 + n1) / 100 = n400 * 4 + n100 := by omega
  have hcycles : (n400 * 400 + n100 * 100 + n4 * 4 + n1) / 400 = n400 := by omega
  simp only [daysBeforeYear, Int.add_sub_cancel, hfours, hcenturies, hcycles]
  omega

theorem yearAndDay_bounds (d : Date) : d.yearAndDay.2 < 366 ∧
    daysBeforeYear d.yearAndDay.1 + d.yearAndDay.2 = d.day + epochDay := by
  simp only [yearAndDay]
  generalize d.day + epochDay = n
  have hcycle : 0 ≤ n % 146097 ∧ n % 146097 < 146097 := by omega
  have hsplit : n / 146097 * 146097 + n % 146097 = n := by omega
  generalize n / 146097 = n400 at *
  generalize n % 146097 = r400 at *
  have h100 : 0 ≤ min (r400 / 36524) 3 ∧ min (r400 / 36524) 3 ≤ 3 := by omega
  have hcentury : 0 ≤ r400 - min (r400 / 36524) 3 * 36524 ∧
      r400 - min (r400 / 36524) 3 * 36524 ≤ 36524 := by omega
  generalize min (r400 / 36524) 3 = n100 at *
  generalize hr100 : r400 - n100 * 36524 = r100 at *
  have h4 : 0 ≤ r100 / 1461 ∧ r100 / 1461 ≤ 24 := by omega
  have h1 : 0 ≤ min (r100 % 1461 / 365) 3 ∧ min (r100 % 1461 / 365) 3 ≤ 3 := by omega
  have hday : 0 ≤ r100 % 1461 - min (r100 % 1461 / 365) 3 * 365 ∧
      r100 % 1461 - min (r100 % 1461 / 365) 3 * 365 < 366 := by omega
  rw [daysBeforeYear_of_cycles h100 h4 h1]
  omega

/-- A day is the day that its year, month and day name. -/
theorem toDate_civil (d : Date) : d.civil.toDate = d := by
  obtain ⟨hday, hyear⟩ := d.yearAndDay_bounds
  obtain ⟨_, hmonth, _⟩ := monthIndex_bounds (isLeap d.yearAndDay.1) hday
  have hcount : d.civil.toDate.day = d.day := by
    simp only [civil, Civil.toDate]
    omega
  exact congrArg Date.mk hcount

theorem eq_of_civil {d e : Date} (hyear : d.civil.year = e.civil.year)
    (hmonth : d.civil.month = e.civil.month) (hday : d.civil.day = e.civil.day) : d = e := by
  have hcivil : d.civil = e.civil := by
    calc d.civil = ⟨d.civil.year, d.civil.month, d.civil.day⟩ := rfl
      _ = e.civil := by rw [hyear, hmonth, hday]
  rw [← toDate_civil d, hcivil, toDate_civil]

theorem civil_bounds (d : Date) : d.civil.month < 100 ∧ d.civil.day < 100 := by
  obtain ⟨hmonth, _, hday⟩ := monthIndex_bounds (isLeap d.yearAndDay.1) d.yearAndDay_bounds.1
  simp only [civil]
  omega

end Date

namespace Calendar

theorem length_padded {width n : Nat} (hwidth : 0 < width) (hn : n < digitBound width) :
    (padded width n).toList.length = width := by
  have hlength := Number.length_toDigits_le hwidth hn
  rw [padded, String.toList_ofList, List.length_append, List.length_replicate]
  omega

/-- Zeros in front do not change the number. -/
theorem ofDigits_padded (width n : Nat) :
    Number.ofDigits ((padded width n).toList.map (·.toNat - 48)) = n := by
  have hzeros : ∀ count (digits : List Nat),
      Number.ofDigits (List.replicate count 0 ++ digits) = Number.ofDigits digits := by
    intro count digits
    induction count with
    | zero => rfl
    | succ count ih => exact ih
  rw [padded, String.toList_ofList, List.map_append, List.map_replicate]
  exact (hzeros _ _).trans (Number.ofDigits_toDigits n)

theorem padded_inj {width a b : Nat} : padded width a = padded width b ↔ a = b := by
  refine ⟨fun hequal => ?_, fun hequal => by rw [hequal]⟩
  rw [← ofDigits_padded width a, hequal, ofDigits_padded]

/-- A padded number is told from what stands before it. -/
theorem append_padded_inj {width a b : Nat} (hwidth : 0 < width) (ha : a < digitBound width)
    (hb : b < digitBound width) {s t mark : String}
    (hequal : s ++ padded width a ++ mark = t ++ padded width b ++ mark) : s = t ∧ a = b := by
  have hlists := congrArg String.toList hequal
  simp only [String.toList_append] at hlists
  have hlength : (padded width a).toList.length = (padded width b).toList.length := by
    rw [length_padded hwidth ha, length_padded hwidth hb]
  obtain ⟨hfront, hnumber⟩ := List.append_inj' (List.append_cancel_right hlists) hlength
  exact ⟨String.toList_inj.1 hfront, padded_inj.1 (String.toList_inj.1 hnumber)⟩

/-- The calendar begins with the year one and ends with the year 9999. -/
theorem inRange_iff {wall : Int} :
    inRange wall = true ↔ -62135596800000000 ≤ wall ∧ wall ≤ 253402300799999999 := by
  have hbounds : firstWall = -62135596800000000 ∧ lastWall = 253402300799999999 := by decide
  rw [inRange, Bool.and_eq_true, decide_eq_true_eq, decide_eq_true_eq, hbounds.1, hbounds.2]

end Calendar

namespace TimeOfDay

/-- The millisecond of a day is told by hour, minute, second and the millisecond of the second. -/
theorem ofMicros_div_eq_iff {a b : Nat} : a / 1000 = b / 1000 ↔
    (ofMicros a).hour = (ofMicros b).hour ∧ (ofMicros a).minute = (ofMicros b).minute ∧
      (ofMicros a).second = (ofMicros b).second ∧
      (ofMicros a).micro / 1000 = (ofMicros b).micro / 1000 := by
  simp only [ofMicros]
  omega

theorem ofMicros_bounds {micros : Nat} (hday : micros < 86400000000) :
    (ofMicros micros).hour < 100 ∧ (ofMicros micros).minute < 100 ∧
      (ofMicros micros).second < 100 ∧ (ofMicros micros).micro / 1000 < 1000 := by
  simp only [ofMicros]
  omega

end TimeOfDay

namespace Moment

open Calendar

/-- A clock of universal time shows the instant. -/
@[simp] theorem instant_universal (wall : Int) : (⟨wall, some 0⟩ : Moment).instant = wall :=
  Int.sub_zero wall

/-- The written form, whatever the year. -/
def millisText (m : Moment) : String :=
  let c := m.date.civil
  let t := m.timeOfDay
  s!"{c.year}-" ++ padded 2 c.month ++ "-" ++ padded 2 c.day ++ "T" ++ padded 2 t.hour ++ ":" ++
    padded 2 t.minute ++ ":" ++ padded 2 t.second ++ "." ++ padded 3 (t.micro / 1000) ++ "Z"

theorem millisText?_eq (m : Moment) : m.millisText? =
    if inRange m.instant then some (millisText ⟨m.instant, some 0⟩) else none := by
  unfold millisText? toUniversal?
  by_cases hrange : inRange m.instant = true
  · rw [if_pos hrange, if_pos hrange]
    simp only [Option.bind_eq_bind, Option.bind_some, millisText, String.append_assoc]
    rfl
  · rw [if_neg hrange, if_neg hrange]
    rfl

theorem timeOfDay_bounds (m : Moment) : m.timeOfDay.hour < 100 ∧ m.timeOfDay.minute < 100 ∧
    m.timeOfDay.second < 100 ∧ m.timeOfDay.micro / 1000 < 1000 := by
  refine TimeOfDay.ofMicros_bounds ?_
  simp only [dayMicros]
  omega

/-- The text shows the day and the time of day to the millisecond. -/
theorem millisText_eq_iff {a b : Moment} :
    a.millisText = b.millisText ↔ a.wall / 1000 = b.wall / 1000 := by
  have hsplit : a.wall / 1000 = b.wall / 1000 ↔ a.date = b.date ∧
      (a.wall % dayMicros).toNat / 1000 = (b.wall % dayMicros).toNat / 1000 := by
    simp only [date, Date.mk.injEq, dayMicros]
    omega
  rw [hsplit, TimeOfDay.ofMicros_div_eq_iff]
  constructor
  · intro hequal
    obtain ⟨hmonth, hday⟩ := a.date.civil_bounds
    obtain ⟨hmonth', hday'⟩ := b.date.civil_bounds
    obtain ⟨hhour, hminute, hsecond, hmilli⟩ := a.timeOfDay_bounds
    obtain ⟨hhour', hminute', hsecond', hmilli'⟩ := b.timeOfDay_bounds
    -- The fields are taken off one by one, the last one first.
    obtain ⟨hequal, hmillis⟩ := append_padded_inj (by decide) hmilli hmilli' hequal
    obtain ⟨hequal, hseconds⟩ := append_padded_inj (by decide) hsecond hsecond' hequal
    obtain ⟨hequal, hminutes⟩ := append_padded_inj (by decide) hminute hminute' hequal
    obtain ⟨hequal, hhours⟩ := append_padded_inj (by decide) hhour hhour' hequal
    obtain ⟨hequal, hdays⟩ := append_padded_inj (by decide) hday hday' hequal
    obtain ⟨hequal, hmonths⟩ := append_padded_inj (by decide) hmonth hmonth' hequal
    have hyears := Number.toString_inj.1 ((String.append_left_inj "-").1 hequal)
    exact ⟨Date.eq_of_civil hyears hmonths hdays, hhours, hminutes, hseconds, hmillis⟩
  · rintro ⟨hdate, hhour, hminute, hsecond, hmilli⟩
    simp only [millisText, timeOfDay, hdate, hhour, hminute, hsecond, hmilli]

/-- Two moments have the same text exactly if they lie in the same millisecond. -/
theorem millisText?_eq_some_iff {a b : Moment} {text : String} (htext : a.millisText? = some text) :
    b.millisText? = some text ↔ b.instant / 1000 = a.instant / 1000 := by
  rw [millisText?_eq] at htext ⊢
  have hrange : inRange a.instant = true := by
    by_cases hrange : inRange a.instant = true
    · exact hrange
    · rw [if_neg hrange] at htext
      cases htext
  rw [if_pos hrange] at htext
  obtain rfl := Option.some.inj htext
  constructor
  · intro hequal
    split at hequal
    next => exact millisText_eq_iff.1 (Option.some.inj hequal)
    next => cases hequal
  · intro hequal
    have hrange' : inRange b.instant = true := by
      rw [inRange_iff] at hrange ⊢
      omega
    rw [if_pos hrange']
    exact congrArg some (millisText_eq_iff.2 hequal)

end Moment

end EventIntake
