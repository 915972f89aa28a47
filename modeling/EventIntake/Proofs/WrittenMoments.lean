/-
Moments in their written form: the text of a moment is accepted, it is read as the beginning of the
moment's millisecond, and writing that again changes nothing.
-/
import EventIntake.Proofs.ZoneNames

namespace EventIntake

namespace Date

open Calendar

/-- A day's place in its year: only a leap year has a 366th day. -/
theorem yearAndDay_lt (d : Date) :
    d.yearAndDay.2 < if isLeap d.yearAndDay.1 then 366 else 365 := by
  by_cases hshort : d.yearAndDay.2 < 365
  · split <;> omega
  -- Only a fourth year is as long, and of those that end a century only a fourth one.
  have hleap : isLeap d.yearAndDay.1 = true := by
    simp only [isLeap, Bool.and_eq_true, Bool.or_eq_true, beq_iff_eq, bne_iff_ne]
    simp only [yearAndDay] at hshort ⊢
    generalize d.day + epochDay = n at *
    have hcycle : 0 ≤ n % 146097 ∧ n % 146097 < 146097 := by omega
    generalize n / 146097 = n400 at *
    generalize n % 146097 = r400 at *
    omega
  rw [if_pos hleap]
  exact d.yearAndDay_bounds.1

/-- A day of a year lies in its month. -/
theorem lt_add_daysInMonth {year : Int} {dayOfYear : Nat}
    (hday : dayOfYear < if isLeap year then 366 else 365) :
    dayOfYear < daysBeforeMonth (isLeap year) (monthIndex (isLeap year) dayOfYear + 1) +
      daysInMonth year (monthIndex (isLeap year) dayOfYear + 1) := by
  unfold daysInMonth
  generalize isLeap year = leap at hday ⊢
  revert dayOfYear
  cases leap <;> decide +kernel

theorem check_civil {d : Date} (hfirst : firstYear ≤ d.civil.year)
    (hlast : d.civil.year ≤ lastYear) : d.civil.check = .ok () := by
  obtain ⟨hmonth, hbefore, _⟩ :=
    monthIndex_bounds (isLeap d.yearAndDay.1) d.yearAndDay_bounds.1
  have hday := lt_add_daysInMonth d.yearAndDay_lt
  have hlength : d.civil.day ≤ daysInMonth d.civil.year d.civil.month := by
    simp only [civil]
    omega
  have hmonths : 1 ≤ d.civil.month ∧ d.civil.month ≤ 12 := by
    simp only [civil]
    omega
  have hdays : 1 ≤ d.civil.day := by
    simp only [civil]
    omega
  rw [Civil.check, if_neg (by omega), if_neg (by omega), if_neg (by omega)]

end Date

open Calendar

namespace TimeOfDay

/-- A time of a day, cut off to the millisecond. -/
theorem toMicros_ofMicros (micros : Nat) :
    toMicros { ofMicros micros with micro := (ofMicros micros).micro / 1000 * 1000 } =
      (micros / 1000 * 1000 : Nat) := by
  unfold toMicros ofMicros
  dsimp only
  omega

theorem check_ofMicros {micros : Nat} (hday : micros < 86400000000) :
    check { ofMicros micros with micro := (ofMicros micros).micro / 1000 * 1000 } = .ok () := by
  unfold check ofMicros
  dsimp only
  rw [if_neg (by omega), if_neg (by omega), if_neg (by omega), if_neg (by omega)]

end TimeOfDay

namespace Moment

variable {m : Moment}

/-- Date and time of day to the millisecond, as they are written in years of four digits. -/
def shownChars (m : Moment) : List Char :=
  Iso.dateChars m.date.civil.year.toNat m.date.civil.month m.date.civil.day ++
    'T' :: Iso.clockChars m.timeOfDay.hour m.timeOfDay.minute m.timeOfDay.second
      (m.timeOfDay.micro / 1000)

theorem toList_millisText (hfirst : 1000 ≤ m.date.civil.year) (hlast : m.date.civil.year ≤ 9999) :
    m.millisText.toList = m.shownChars ++ ['Z'] := by
  have hyear : (toString m.date.civil.year).toList =
      (padded 4 m.date.civil.year.toNat).toList := by
    have habs : m.date.civil.year.natAbs = m.date.civil.year.toNat := by omega
    have hlow : digitBound (4 - 1) ≤ m.date.civil.year.toNat := by
      have hbound : digitBound (4 - 1) = 1000 := rfl
      omega
    have hhigh : m.date.civil.year.toNat < digitBound 4 := by
      have hbound : digitBound 4 = 10000 := rfl
      omega
    rw [Number.toList_toString, if_neg (by omega), habs, padded_of_le (by decide) hlow hhigh,
      String.toList_ofList, List.nil_append]
  have hdash : (toString "-").toList = ['-'] := rfl
  simp only [millisText, String.toList_append, hyear, hdash, shownChars, Iso.dateChars,
    Iso.clockChars]
  simp

theorem isPlain_of_mem_shownChars : ∀ c ∈ m.shownChars, Iso.IsPlain c := by
  have hletter : Iso.IsPlain 'T' := by
    rw [Iso.IsPlain]
    decide
  simp only [shownChars, List.forall_mem_append, List.forall_mem_cons]
  exact ⟨Iso.isPlain_of_mem_dateChars, hletter, Iso.isPlain_of_mem_clockChars⟩

/-- The fields of a moment are read as they are written, in universal time. -/
theorem readFields?_shownChars (hfirst : 1000 ≤ m.date.civil.year)
    (hlast : m.date.civil.year ≤ 9999) :
    Iso.readFields? (m.shownChars ++ Iso.zeroOffset) = some (m.date.civil,
      { m.timeOfDay with micro := m.timeOfDay.micro / 1000 * 1000 }, some 0) := by
  obtain ⟨hmonth, hday⟩ := m.date.civil_bounds
  obtain ⟨hhour, hminute, hsecond, hmilli⟩ := m.timeOfDay_bounds
  have hcast : (m.date.civil.year.toNat : Int) = m.date.civil.year := Int.toNat_of_nonneg (by omega)
  have hyear : m.date.civil.year.toNat < 10000 := by omega
  have hfields := Iso.readFields?_chars hyear hmonth hday hhour hminute hsecond hmilli
  rw [hcast] at hfields
  rw [shownChars, List.append_assoc, List.cons_append]
  exact hfields

theorem ofFields_timeOfDay (hfirst : firstYear ≤ m.date.civil.year)
    (hlast : m.date.civil.year ≤ lastYear) :
    ofFields m.date.civil { m.timeOfDay with micro := m.timeOfDay.micro / 1000 * 1000 } (some 0) =
      .ok ⟨m.wall / 1000 * 1000, some 0⟩ := by
  have hmicros : (m.wall % dayMicros).toNat < 86400000000 := by
    simp only [dayMicros]
    omega
  have hwall : m.date.day * dayMicros + ((m.wall % dayMicros).toNat / 1000 * 1000 : Nat) =
      m.wall / 1000 * 1000 := by
    simp only [date, dayMicros]
    omega
  refine ofFields_eq_ok_iff.2 ⟨Date.check_civil hfirst hlast, TimeOfDay.check_ofMicros hmicros, ?_⟩
  rw [timeOfDay, TimeOfDay.toMicros_ofMicros, Date.toDate_civil, hwall]

theorem strip_millisText (hfirst : 1000 ≤ m.date.civil.year) (hlast : m.date.civil.year ≤ 9999) :
    Text.strip m.millisText = m.millisText := by
  have hplain : ∀ c ∈ m.millisText.toList, Text.isBlank c = false := by
    rw [toList_millisText hfirst hlast, List.forall_mem_append]
    exact ⟨fun c hc => (isPlain_of_mem_shownChars c hc).2, by simp [Text.isBlank]⟩
  rw [Text.strip, Text.stripChars_eq_self (fun c hc => hplain c (List.mem_of_head? hc))
    (fun c hc => hplain c (List.mem_of_getLast? hc)), String.ofList_toList]

/-- What is written is read as the beginning of the millisecond that the moment lies in. -/
theorem readLoose_millisText (hfirst : 1000 ≤ m.date.civil.year)
    (hlast : m.date.civil.year ≤ 9999) :
    Iso.readLoose m.millisText = .ok ⟨m.wall / 1000 * 1000, some 0⟩ := by
  have hoffset := Iso.toList_withOffset (strip_millisText hfirst hlast)
    (toList_millisText hfirst hlast)
  have hascii : ∀ c ∈ (Iso.withOffset m.millisText).toList, c.toNat < 128 := by
    rw [hoffset, List.forall_mem_append]
    exact ⟨fun c hc => (isPlain_of_mem_shownChars c hc).1, by simp [Iso.zeroOffset]⟩
  have hfields := ofFields_timeOfDay (m := m) (by simp only [firstYear]; omega) hlast
  rw [Iso.readLoose, Iso.read, Iso.units_of_ascii hascii, hoffset,
    readFields?_shownChars hfirst hlast]
  dsimp only
  rw [if_neg (by decide), hfields]
  rfl

/-- The years of the calendar are those that a clock can show. -/
theorem inRange_of_year (hfirst : firstYear ≤ m.date.civil.year)
    (hlast : m.date.civil.year ≤ lastYear) : inRange m.wall = true := by
  have hday := m.date.yearAndDay_lt
  have hcount := m.date.yearAndDay_bounds.2
  have hyear : m.date.civil.year = m.date.yearAndDay.1 := rfl
  rw [hyear] at hfirst hlast
  have hbounds : 0 ≤ m.date.day + epochDay ∧ m.date.day + epochDay < 3652059 := by
    have hlong : m.date.yearAndDay.1 = 9999 → m.date.yearAndDay.2 < 365 := by
      intro hend
      rw [hend] at hday
      exact hday
    simp only [firstYear, lastYear, daysBeforeYear] at hfirst hlast hcount
    split at hday <;> omega
  rw [inRange_iff]
  simp only [date, dayMicros, epochDay] at hbounds
  omega

end Moment

namespace Transform.Timestamp

/-- A text with a character that is neither a digit nor a point, past its beginning, is no
number. -/
theorem isNumeric_eq_false {cs : List Char} {c : Char} (hc : c ∈ cs.drop 1)
    (hdigit : Text.isDecimal c = false) (hpoint : c ≠ '.') : isNumeric cs = false := by
  have hbody : c ∈ if cs.head? = some '-' then cs.drop 1 else cs := by
    split
    next => exact hc
    next => exact List.mem_of_mem_drop hc
  rw [isNumeric]
  generalize (if cs.head? = some '-' then cs.drop 1 else cs) = body at hbody
  have hrest : c ∈ body.dropWhile Text.isDecimal := by
    rw [← List.takeWhile_append_dropWhile (p := Text.isDecimal) (l := body),
      List.mem_append] at hbody
    rcases hbody with hfront | hrest
    · have htaken := List.all_takeWhile (p := Text.isDecimal) (l := body)
      rw [List.all_eq_true] at htaken
      rw [htaken c hfront] at hdigit
      cases hdigit
    · exact hrest
  cases hsplit : body.dropWhile Text.isDecimal with
  | nil =>
      rw [hsplit] at hrest
      cases hrest
  | cons mark fraction =>
      rw [hsplit] at hrest
      rcases List.mem_cons.1 hrest with rfl | hfraction
      · simp [hpoint]
      · have hall : fraction.all Text.isDecimal = false :=
          List.all_eq_false.2 ⟨c, hfraction, by simp [hdigit]⟩
        simp [hall]

/-- Whole milliseconds are kept. -/
theorem ofInstant_of_whole {micros : Int} (hsize : micros.natAbs < 2 ^ 52 * 1000)
    (hwhole : micros % 1000 = 0) : ofInstant micros = micros / 1000 := by
  have hkeeps : KeepsMillis micros := by
    rcases Int.lt_or_le micros 0 with hsign | hsign
    · exact (keepsMillis_of_neg hsign).2 (Or.inl hwhole)
    · exact (keepsMillis_of_nonneg hsign).2 (not_roundsUp_of_whole hsize (by omega))
  rw [ofInstant_eq hsize, if_pos hkeeps]

end Transform.Timestamp


namespace Moment

variable {m : Moment}

theorem readIso_millisText (hfirst : 1000 ≤ m.date.civil.year) (hlast : m.date.civil.year ≤ 9999) :
    Instant.readIso m.millisText = .ok ⟨m.wall / 1000 * 1000, some 0⟩ := by
  have hrange := inRange_iff.1 (m.inRange_of_year (by simp only [firstYear]; omega) hlast)
  have hcut : inRange (m.wall / 1000 * 1000) = true := inRange_iff.2 (by omega)
  unfold Instant.readIso
  rw [readLoose_millisText hfirst hlast]
  dsimp only
  rw [Instant.universal, toUniversal?, instant_universal, if_pos hcut]

/-- A written moment is a date to the transformations. -/
theorem isDate_millisText (hfirst : 1000 ≤ m.date.civil.year) (hlast : m.date.civil.year ≤ 9999) :
    Transform.Timestamp.IsDate (.string m.millisText) ⟨m.wall / 1000 * 1000, some 0⟩ := by
  have hletter : 'T' ∈ m.millisText.toList.drop 1 := by
    have hyear : m.date.civil.year.toNat < 10000 := by omega
    have hlength := Iso.length_dateChars hyear m.date.civil_bounds.1 m.date.civil_bounds.2
    rw [toList_millisText hfirst hlast, shownChars, List.append_assoc, List.drop_append_of_le_length
      (by omega)]
    simp
  refine .text ?_ (Instant.read_of_readIso (readIso_millisText hfirst hlast))
  rw [strip_millisText hfirst hlast]
  exact Transform.Timestamp.isNumeric_eq_false hletter (by decide +kernel) (by decide)

end Moment

open Transform in
/-- The written form of a moment is accepted, is read as the beginning of the millisecond that the
moment lies in, and is written again as it was. -/
theorem timestamp_restored [Limits] {m : Moment}
    (hfirst : 1000 ≤ (⟨m.instant, some 0⟩ : Moment).date.civil.year)
    (hlast : (⟨m.instant, some 0⟩ : Moment).date.civil.year ≤ 9999) (params : Entries) :
    ∃ text, m.millisText? = some text ∧ Iso.accepts text = true ∧
      Instant.readIso text = .ok ⟨m.instant / 1000 * 1000, some 0⟩ ∧
      (⟨m.instant / 1000 * 1000, some 0⟩ : Moment).millisText? = some text ∧
      Builtin.run .toIsoDate params (.string text) = .ok (.string text) := by
  have hrange : inRange m.instant = true :=
    Moment.inRange_of_year (by simp only [firstYear]; omega) hlast
  have hbounds := inRange_iff.1 hrange
  have hshown : m.millisText? = some (Moment.millisText ⟨m.instant, some 0⟩) := by
    rw [Moment.millisText?_eq, if_pos hrange]
  have hcut : (⟨m.instant / 1000 * 1000, some 0⟩ : Moment).millisText? =
      some (Moment.millisText ⟨m.instant, some 0⟩) := by
    rw [Moment.millisText?_eq_some_iff hshown, Moment.instant_universal]
    omega
  have hdate := Moment.isDate_millisText hfirst hlast
  have hmillis : Timestamp.ofInstant (m.instant / 1000 * 1000) = m.instant / 1000 := by
    rw [Timestamp.ofInstant_of_whole (by omega) (by omega)]
    omega
  have hread : Timestamp.read (.string (Moment.millisText ⟨m.instant, some 0⟩))
      (Builtin.unitOf params) = .ok (m.instant / 1000) := by
    rw [hdate.read_eq, Moment.instant_universal, hmillis]
  refine ⟨_, hshown, ?_, Moment.readIso_millisText hfirst hlast, hcut, ?_⟩
  · unfold Iso.accepts
    rw [Moment.readLoose_millisText hfirst hlast]
  · rw [Builtin.run_toIsoDate_of_near hread (by omega), hcut]

namespace WrittenWitness

local instance : Limits := .standard

open Transform

/-- The evening of the 28th of February 1904, five hours west of universal time, where it is the
leap day already. -/
def evening : Moment := ⟨-2077756199876001, some (-18000000000)⟩

theorem timestamp_restored_across_day :
    evening.millisText? = some "1904-02-29T02:30:00.123Z" ∧
      Instant.readIso "1904-02-29T02:30:00.123Z" = .ok ⟨-2077738199877000, some 0⟩ ∧
      Builtin.run .toIsoDate [] (.string "1904-02-29T02:30:00.123Z") =
        .ok (.string "1904-02-29T02:30:00.123Z") := by
  obtain ⟨text, hshown, _, hread, _, hrun⟩ :=
    timestamp_restored (m := evening) (by decide) (by decide) []
  have htext : evening.millisText? = some "1904-02-29T02:30:00.123Z" := by decide +kernel
  obtain rfl := Option.some.inj (htext.symm.trans hshown)
  exact ⟨htext, hread, hrun⟩

end WrittenWitness

end EventIntake
