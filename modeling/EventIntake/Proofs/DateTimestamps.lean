/-
The milliseconds of dates.  A number of microseconds is divided by a thousand, the quotient is
rounded to 53 bits, and its fraction is cut off toward zero, while the written form of a moment cuts
off downward.  Both agree unless the cut or the rounding leads to the next millisecond.
-/
import EventIntake.Proofs.Milliseconds
import EventIntake.Proofs.Rounding
import EventIntake.Proofs.Transforming

namespace EventIntake

/-- So little is missing to a whole number of milliseconds that the rounded quotient has it. -/
def RoundsUp (micros : Nat) : Prop :=
  2 ^ 53 * (1000 - micros % 1000) ≤ 1000 * 2 ^ (micros / 1000).log2

instance (micros : Nat) : Decidable (RoundsUp micros) :=
  inferInstanceAs (Decidable (_ ≤ _))

/-- What is left of the quotient is the millisecond that the instant lies in.  From 1970 on it must
not be rounded up; before, where cutting off leads upward, it must be, or have no fraction. -/
def KeepsMillis (micros : Int) : Prop :=
  if 0 ≤ micros then ¬ RoundsUp micros.natAbs
  else micros % 1000 = 0 ∨ RoundsUp micros.natAbs

instance (micros : Int) : Decidable (KeepsMillis micros) :=
  inferInstanceAs (Decidable (if 0 ≤ micros then _ else _))

theorem keepsMillis_of_nonneg {micros : Int} (hsign : 0 ≤ micros) :
    KeepsMillis micros ↔ ¬ RoundsUp micros.natAbs := by
  rw [KeepsMillis, if_pos hsign]

theorem keepsMillis_of_neg {micros : Int} (hsign : micros < 0) :
    KeepsMillis micros ↔ micros % 1000 = 0 ∨ RoundsUp micros.natAbs := by
  rw [KeepsMillis, if_neg (Int.not_le.2 hsign)]

/-- The place where the quotient is rounded, by the number of milliseconds. -/
theorem log2_millis {micros k : Nat} (hlow : 2 ^ 52 * 1000 ≤ micros * 2 ^ k)
    (hhigh : micros * 2 ^ k < 2 ^ 53 * 1000) (hmillis : 0 < micros / 1000) :
    k + (micros / 1000).log2 = 52 := by
  have hbelow : 1000 * (micros / 1000) * 2 ^ k ≤ micros * 2 ^ k :=
    Nat.mul_le_mul_right _ (by omega)
  have habove : micros * 2 ^ k < 1000 * (micros / 1000 + 1) * 2 ^ k :=
    Nat.mul_lt_mul_of_pos_right (by omega) (Nat.two_pow_pos k)
  rw [Nat.mul_assoc] at hbelow habove
  have hproduct : 2 ^ k ≤ micros / 1000 * 2 ^ k := Nat.le_mul_of_pos_left _ hmillis
  have hk : k < 53 := (Nat.pow_lt_pow_iff_right (by decide : 1 < 2)).1 (by omega)
  obtain ⟨l, hl⟩ := Nat.exists_eq_add_of_le (Nat.le_of_lt_succ hk)
  have hpower : 2 ^ 52 = 2 ^ l * 2 ^ k := by rw [← Nat.pow_add, hl, Nat.add_comm]
  have hlog : (micros / 1000).log2 = l := by
    refine (Nat.log2_eq_iff (Nat.ne_of_gt hmillis)).2 ⟨?_, ?_⟩
    · have hless : 2 ^ l * 2 ^ k < (micros / 1000 + 1) * 2 ^ k := by omega
      exact Nat.le_of_lt_succ (Nat.lt_of_mul_lt_mul_right hless)
    · have hless : micros / 1000 * 2 ^ k < 2 ^ (l + 1) * 2 ^ k := by
        rw [Nat.pow_succ, Nat.mul_right_comm]
        omega
      exact Nat.lt_of_mul_lt_mul_right hless
  omega

/-- Half a unit in the last place reaches the next integer. -/
theorem roundsUp_iff {micros k : Nat} (hlow : 2 ^ 52 * 1000 ≤ micros * 2 ^ k)
    (hhigh : micros * 2 ^ k < 2 ^ 53 * 1000) :
    RoundsUp micros ↔ 2 * ((1000 - micros % 1000) * 2 ^ k) ≤ 1000 := by
  have hmissing : 0 < 1000 - micros % 1000 := by omega
  by_cases hmillis : 0 < micros / 1000
  · have hlog := log2_millis hlow hhigh hmillis
    have hpower : 2 ^ 53 * (1000 - micros % 1000) =
        2 * ((1000 - micros % 1000) * 2 ^ k) * 2 ^ (micros / 1000).log2 := by
      rw [Nat.mul_assoc 2, Nat.mul_assoc, ← Nat.pow_add, hlog]
      omega
    rw [RoundsUp, hpower]
    exact Nat.mul_le_mul_right_iff (Nat.two_pow_pos _)
  · -- Below one millisecond the quotient is less than one by far more than it can be rounded.
    have hzero : micros / 1000 = 0 := by omega
    have hless : micros * 2 ^ k < 1000 * 2 ^ k :=
      Nat.mul_lt_mul_of_pos_right (by omega) (Nat.two_pow_pos k)
    have hstretched : 2 ^ k ≤ (1000 - micros % 1000) * 2 ^ k := Nat.le_mul_of_pos_left _ hmissing
    rw [RoundsUp, hzero, Nat.log2_zero]
    omega

/-- The next millisecond is reached exactly if the rounding reaches it. -/
theorem lt_roundHalfEven_div_iff {micros k : Nat} (hk : k ≠ 0) :
    micros / 1000 < roundHalfEven (micros * 2 ^ k) 1000 / 2 ^ k ↔
      2 * ((1000 - micros % 1000) * 2 ^ k) ≤ 1000 := by
  have heven : (micros / 1000 + 1) * 2 ^ k % 2 = 0 := by
    obtain ⟨l, rfl⟩ := Nat.exists_eq_succ_of_ne_zero hk
    rw [Nat.pow_succ, ← Nat.mul_assoc, Nat.mul_mod_left]
  have hparts : micros * 2 ^ k = 1000 * (micros / 1000 * 2 ^ k) + micros % 1000 * 2 ^ k := by
    rw [← Nat.mul_assoc, ← Nat.add_mul, Nat.div_add_mod]
  have hmissing : (1000 - micros % 1000) * 2 ^ k + micros % 1000 * 2 ^ k = 1000 * 2 ^ k := by
    rw [← Nat.add_mul]
    congr 1
    omega
  rw [Nat.lt_iff_add_one_le, Nat.le_div_iff_mul_le (Nat.two_pow_pos k),
    even_le_roundHalfEven_iff (by decide) heven, Nat.add_mul, hparts]
  omega

theorem truncate?_roundQuotient_thousand (negative : Bool) {micros : Nat}
    (hsize : micros < 2 ^ 52 * 1000) :
    (Binary64.roundQuotient negative micros 1000).truncate? =
      some (signed negative (if RoundsUp micros then micros / 1000 + 1 else micros / 1000)) := by
  by_cases hzero : micros = 0
  · subst hzero
    have hround : ¬ RoundsUp 0 := by decide
    rw [Binary64.roundQuotient, if_pos rfl, if_neg hround]
    exact (Binary64.isFraction_zero negative 1000).truncate?_eq (by decide)
  have hpos : 0 < micros := Nat.pos_of_ne_zero hzero
  obtain ⟨k, hlow, hhigh, hfraction⟩ :=
    Binary64.exists_isFraction_roundQuotient negative hpos (show micros < 2 ^ 53 * 1000 by omega)
      (by omega)
  have hk : k ≠ 0 := by
    rintro rfl
    omega
  have hunit : 0 < 2 ^ k := Nat.two_pow_pos k
  have hround := (roundsUp_iff hlow hhigh).trans (lt_roundHalfEven_div_iff hk).symm
  -- The rounded mantissa lies between two milliseconds.
  have hfloor : micros / 1000 ≤ roundHalfEven (micros * 2 ^ k) 1000 / 2 ^ k := by
    refine (Nat.le_div_iff_mul_le hunit).2 (le_roundHalfEven (by decide) ?_)
    rw [Nat.mul_right_comm]
    exact Nat.mul_le_mul_right (2 ^ k) (Nat.div_mul_le_self micros 1000)
  have hceiling : roundHalfEven (micros * 2 ^ k) 1000 / 2 ^ k ≤ micros / 1000 + 1 := by
    refine Nat.div_le_of_le_mul (roundHalfEven_le (by decide) ?_)
    rw [Nat.mul_comm (2 ^ k), Nat.mul_right_comm]
    exact Nat.mul_le_mul_right _ (by omega)
  rw [hfraction.truncate?_eq hunit]
  congr 2
  split
  next hup => exact Nat.le_antisymm hceiling (hround.1 hup)
  next hdown => exact Nat.le_antisymm (Nat.le_of_not_lt (mt hround.2 hdown)) hfloor

theorem pow_log2_le {n bits : Nat} (hn : n < 2 ^ (bits + 1)) : 2 ^ n.log2 ≤ 2 ^ bits := by
  refine Nat.pow_le_pow_right (by decide) ?_
  by_cases hzero : n = 0
  · rw [hzero, Nat.log2_zero]
    exact Nat.zero_le bits
  · exact Nat.le_of_lt_succ ((Nat.log2_lt hzero).2 hn)

/-- Whole milliseconds are not rounded. -/
theorem not_roundsUp_of_whole {micros : Nat} (hsize : micros < 2 ^ 52 * 1000)
    (hwhole : micros % 1000 = 0) : ¬ RoundsUp micros := by
  have hpower := pow_log2_le (show micros / 1000 < 2 ^ (51 + 1) by omega)
  rw [RoundsUp, hwhole]
  omega

/-- The milliseconds of an instant are those that it lies in, or the next ones. -/
theorem Transform.Timestamp.ofInstant_eq {micros : Int} (hsize : micros.natAbs < 2 ^ 52 * 1000) :
    ofInstant micros = if KeepsMillis micros then micros / 1000 else micros / 1000 + 1 := by
  rw [ofInstant, Binary64.ofFraction, truncate?_roundQuotient_thousand _ hsize, Option.getD_some,
    signed]
  rcases Int.lt_or_le micros 0 with hsign | hsign
  · have hkeeps := keepsMillis_of_neg hsign
    have hwhole := not_roundsUp_of_whole hsize
    rw [if_pos (decide_eq_true hsign)]
    by_cases hround : RoundsUp micros.natAbs
    · have hpart : ¬ micros.natAbs % 1000 = 0 := fun hzero => hwhole hzero hround
      rw [if_pos hround, if_pos (hkeeps.2 (Or.inr hround))]
      omega
    · rw [if_neg hround]
      split
      next hkept =>
        have hzero := (hkeeps.1 hkept).resolve_right hround
        omega
      next hlost =>
        have hpart : ¬ micros % 1000 = 0 := fun hzero => hlost (hkeeps.2 (Or.inl hzero))
        omega
  · have hkeeps := keepsMillis_of_nonneg hsign
    rw [if_neg (by simpa using hsign)]
    by_cases hround : RoundsUp micros.natAbs
    · rw [if_pos hround, if_neg (fun hkept => hkeeps.1 hkept hround)]
      omega
    · rw [if_neg hround, if_pos (hkeeps.2 hround)]
      omega

/-- Up to the year 2527, and as long before 1970, the rounding changes nothing. -/
theorem keepsMillis_iff {micros : Int} (hnear : micros.natAbs < 2 ^ 44 * 1000) :
    KeepsMillis micros ↔ 0 ≤ micros ∨ micros % 1000 = 0 := by
  have hround : ¬ RoundsUp micros.natAbs := by
    have hpower := pow_log2_le (show micros.natAbs / 1000 < 2 ^ (43 + 1) by omega)
    rw [RoundsUp]
    omega
  rcases Int.lt_or_le micros 0 with hsign | hsign
  · rw [keepsMillis_of_neg hsign]
    constructor
    · exact fun hkept => Or.inr (hkept.resolve_right hround)
    · exact fun hkept => Or.inl (hkept.resolve_left (Int.not_le.2 hsign))
  · rw [keepsMillis_of_nonneg hsign]
    exact ⟨fun _ => Or.inl hsign, fun _ => hround⟩

namespace Text

/-- What has no blanks at its ends stays as it is. -/
theorem stripChars_eq_self {cs : List Char} (hfirst : ∀ c, cs.head? = some c → isBlank c = false)
    (hlast : ∀ c, cs.getLast? = some c → isBlank c = false) : stripChars cs = cs := by
  have hkeep : ∀ ds : List Char, (∀ c, ds.head? = some c → isBlank c = false) →
      ds.dropWhile isBlank = ds := by
    intro ds hhead
    cases ds with
    | nil => rfl
    | cons d rest => rw [List.dropWhile_cons_of_neg (by simp [hhead d rfl])]
  rw [stripChars, hkeep cs hfirst, hkeep cs.reverse (by simpa using hlast), List.reverse_reverse]

theorem head?_stripChars {cs : List Char} {c : Char} (hhead : (stripChars cs).head? = some c) :
    isBlank c = false := by
  -- What is cut off at the end leaves the first character where it was.
  obtain ⟨ending, hending⟩ := List.dropWhile_suffix isBlank (l := (cs.dropWhile isBlank).reverse)
  have hparts : cs.dropWhile isBlank = stripChars cs ++ ending.reverse := by
    rw [stripChars, ← List.reverse_append, hending, List.reverse_reverse]
  have hfirst := List.head?_dropWhile_not isBlank cs
  rw [hparts, List.head?_append, hhead] at hfirst
  simpa using hfirst

theorem getLast?_stripChars {cs : List Char} {c : Char}
    (hlast : (stripChars cs).getLast? = some c) : isBlank c = false := by
  have hfirst := List.head?_dropWhile_not isBlank (cs.dropWhile isBlank).reverse
  rw [stripChars, List.getLast?_reverse] at hlast
  rw [hlast] at hfirst
  simpa using hfirst

theorem strip_strip (s : String) : strip (strip s) = strip s := by
  rw [strip, strip, String.toList_ofList]
  exact congrArg String.ofList
    (stripChars_eq_self (fun _ => head?_stripChars) (fun _ => getLast?_stripChars))

end Text

namespace Instant

/-- An instant that has been read lies in the calendar. -/
theorem inRange_of_read {s : String} {m : Moment} (hread : read s = .ok m) :
    Calendar.inRange m.instant = true := by
  have huniversal : ∀ {wall : Moment}, universal wall = .ok m →
      Calendar.inRange m.instant = true := by
    intro wall hwall
    unfold universal Moment.toUniversal? at hwall
    by_cases hrange : Calendar.inRange wall.instant = true
    · rw [if_pos hrange] at hwall
      cases hwall
      simpa using hrange
    · rw [if_neg hrange] at hwall
      cases hwall
  have hiso : ∀ {text}, readIso text = .ok m → Calendar.inRange m.instant = true := by
    intro text htext
    unfold readIso at htext
    split at htext
    next => exact huniversal htext
    next => cases htext
  unfold read at hread
  dsimp only at hread
  split at hread
  next hfirst =>
    cases hread
    exact hiso hfirst
  next => cases hread
  next =>
    split at hread
    next => exact huniversal hread
    next => cases hread
    next => cases hread

/-- The blanks around a text do not change the instant that is read. -/
theorem read_strip {s : String} {m : Moment} (hread : read s = .ok m) :
    read (Text.strip s) = .ok m := by
  unfold read at hread ⊢
  rw [Text.strip_strip]
  dsimp only at hread ⊢
  -- Only the fault of a text in neither notation tells the text itself.
  split at hread
  next => exact hread
  next => cases hread
  next =>
    split at hread
    next => exact hread
    next => cases hread
    next => cases hread

end Instant

namespace Transform

namespace Timestamp

/-- The value is a date: a moment that a clock of universal time can show, or a text that is read as
one and is no number. -/
inductive IsDate : Value → Moment → Prop
  | moment {m : Moment} (hshown : Calendar.inRange m.instant = true) : IsDate (.moment m) m
  | text {s : String} {m : Moment} (hword : isNumeric (Text.strip s).toList = false)
      (hread : Instant.read s = .ok m) : IsDate (.string s) m

variable {v : Value} {m : Moment}

theorem IsDate.inRange (hdate : IsDate v m) : Calendar.inRange m.instant = true := by
  cases hdate with
  | moment hshown => exact hshown
  | text _ hread => exact Instant.inRange_of_read hread

theorem IsDate.read_eq [Limits] (hdate : IsDate v m) (unit : Value) :
    Timestamp.read v unit = .ok (ofInstant m.instant) := by
  cases hdate with
  | moment _ => rfl
  | @text s _ hword hread =>
      simp only [Timestamp.read, ofText, hword, Instant.read_strip hread]

/-- Milliseconds in or near the calendar: the calendar alone decides. -/
theorem write_of_near {millis : Int} (hnear : millis.natAbs < 10 ^ 15) :
    write millis =
      match (⟨millis * 1000, some 0⟩ : Moment).millisText? with
      | some text => .ok text
      | none => .error (.overflow .date) := by
  have hduration : Calendar.checkDuration (millis * 1000) = .ok () := by
    unfold Calendar.checkDuration Calendar.dayMicros
    dsimp only
    rw [if_neg (by omega), if_neg (by omega)]
  rw [write, hduration]
  rfl

/-- Other milliseconds are told as an overflow. -/
theorem exists_write_of_not_inRange {millis : Int}
    (hrange : ¬ Calendar.inRange (millis * 1000) = true) :
    ∃ fault, write millis = .error (.overflow fault) := by
  rw [write, Moment.millisText?_eq, Moment.instant_universal, if_neg hrange]
  cases hduration : Calendar.checkDuration (millis * 1000) with
  | ok _ => exact ⟨_, rfl⟩
  | error fault => exact ⟨fault, rfl⟩

end Timestamp

namespace Builtin

variable [Limits]

theorem run_toIsoDate {params : Entries} {v : Value} {millis : Int}
    (hread : Timestamp.read v (unitOf params) = .ok millis) :
    run .toIsoDate params v = (Timestamp.write millis).map Value.string := by
  rw [unitOf] at hread
  simp only [run, hread, bind, Except.bind]
  generalize Timestamp.write millis = written
  cases written <;> rfl

theorem run_toIsoDate_of_error {params : Entries} {v : Value} {fault : Fault}
    (hread : Timestamp.read v (unitOf params) = .error fault) :
    run .toIsoDate params v = .error fault := by
  rw [unitOf] at hread
  simp only [run, hread, bind, Except.bind]

theorem run_toIsoDate_of_near {params : Entries} {v : Value} {millis : Int}
    (hread : Timestamp.read v (unitOf params) = .ok millis) (hnear : millis.natAbs < 10 ^ 15) :
    run .toIsoDate params v =
      match (⟨millis * 1000, some 0⟩ : Moment).millisText? with
      | some text => .ok (.string text)
      | none => .error (.overflow .date) := by
  rw [run_toIsoDate hread, Timestamp.write_of_near hnear]
  generalize Moment.millisText? _ = shown
  cases shown <;> rfl

end Builtin

end Transform

open Transform in
/-- A date is written as its moment is, exactly if the milliseconds of its instant are kept.
Otherwise the next millisecond is written, if the calendar has one. -/
theorem isoDate_eq_millisText_iff [Limits] {v : Value} {m : Moment} (hdate : Timestamp.IsDate v m)
    (params : Entries) :
    ∃ text, m.millisText? = some text ∧
      Timestamp.read v (Builtin.unitOf params) =
        .ok (if KeepsMillis m.instant then m.instant / 1000 else m.instant / 1000 + 1) ∧
      (Builtin.run .toIsoDate params v = .ok (.string text) ↔ KeepsMillis m.instant) ∧
      (¬ KeepsMillis m.instant → Builtin.run .toIsoDate params v =
        match (⟨(m.instant / 1000 + 1) * 1000, some 0⟩ : Moment).millisText? with
        | some later => .ok (.string later)
        | none => .error (.overflow .date)) := by
  have hrange := hdate.inRange
  have hbounds := Calendar.inRange_iff.1 hrange
  have htext : m.millisText? = some (Moment.millisText ⟨m.instant, some 0⟩) := by
    rw [Moment.millisText?_eq, if_pos hrange]
  have hread : Timestamp.read v (Builtin.unitOf params) =
      .ok (if KeepsMillis m.instant then m.instant / 1000 else m.instant / 1000 + 1) := by
    rw [hdate.read_eq, Timestamp.ofInstant_eq (by omega)]
  -- The text of a millisecond is the moment's text only for the millisecond that it lies in.
  have hsame : ∀ millis : Int, (⟨millis * 1000, some 0⟩ : Moment).millisText? =
      some (Moment.millisText ⟨m.instant, some 0⟩) ↔ millis = m.instant / 1000 := by
    intro millis
    rw [Moment.millisText?_eq_some_iff htext, Moment.instant_universal]
    omega
  refine ⟨_, htext, hread, ?_⟩
  by_cases hkeeps : KeepsMillis m.instant
  · rw [if_pos hkeeps] at hread
    have hrun := Builtin.run_toIsoDate_of_near hread (by omega)
    rw [(hsame _).2 rfl] at hrun
    exact ⟨iff_of_true hrun hkeeps, fun hlost => absurd hkeeps hlost⟩
  · rw [if_neg hkeeps] at hread
    have hrun := Builtin.run_toIsoDate_of_near hread (by omega)
    refine ⟨iff_of_false (fun hequal => ?_) hkeeps, fun _ => hrun⟩
    have hother := mt (hsame (m.instant / 1000 + 1)).1 (by omega)
    rw [hequal] at hrun
    generalize Moment.millisText? _ = later at hrun hother
    generalize Moment.millisText _ = text at hrun hother
    cases later with
    | some later =>
        cases hrun
        exact hother rfl
    | none => cases hrun

namespace DateWitness

local instance : Limits := .standard

open Transform

/-- A tenth of a millisecond before 1970, as a text and as a moment: both are shown as the first
moment of 1970. -/
theorem isoDate_eq_millisText_iff_before_epoch :
    Timestamp.IsDate (.string "1969-12-31T23:59:59.999900Z") ⟨-100, some 0⟩ ∧
      Timestamp.IsDate (.moment ⟨-100, some 0⟩) ⟨-100, some 0⟩ ∧
      Builtin.run .toIsoDate [] (.string "1969-12-31T23:59:59.999900Z") ≠
        .ok (.string "1969-12-31T23:59:59.999Z") ∧
      Builtin.run .toIsoDate [] (.moment ⟨-100, some 0⟩) =
        .ok (.string "1970-01-01T00:00:00.000Z") := by
  have hlost : ¬ KeepsMillis (Moment.instant ⟨-100, some 0⟩) :=
    mt (keepsMillis_iff (by decide)).1 (by decide)
  have htext : Timestamp.IsDate (.string "1969-12-31T23:59:59.999900Z") ⟨-100, some 0⟩ :=
    .text (by decide +kernel) (by decide +kernel)
  have hmoment : Timestamp.IsDate (.moment ⟨-100, some 0⟩) ⟨-100, some 0⟩ :=
    .moment (by decide +kernel)
  have hshown : (⟨-100, some 0⟩ : Moment).millisText? = some "1969-12-31T23:59:59.999Z" := by
    decide +kernel
  have hnext : Moment.millisText? ⟨(Moment.instant ⟨-100, some 0⟩ / 1000 + 1) * 1000, some 0⟩ =
      some "1970-01-01T00:00:00.000Z" := by
    decide +kernel
  refine ⟨htext, hmoment, ?_, ?_⟩
  · obtain ⟨text, hmillis, _, hiff, _⟩ := isoDate_eq_millisText_iff htext []
    obtain rfl := Option.some.inj (hshown.symm.trans hmillis)
    exact fun hrun => hlost (hiff.1 hrun)
  · obtain ⟨_, _, _, _, hlater⟩ := isoDate_eq_millisText_iff hmoment []
    rw [hlater hlost, hnext]

end DateWitness

end EventIntake
