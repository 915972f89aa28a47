/-
The milliseconds of counts.  A count of seconds or milliseconds, as an integer or as its digits, is
rounded to a float, scaled and cut off.  Nothing of this is felt where the calendar has a date, and
what lies outside of the calendar stays outside.
-/
import EventIntake.Proofs.DateTimestamps

namespace EventIntake

namespace Text

theorem isBlank_of_isDigit {c : Char} (hdigit : c.isDigit = true) : isBlank c = false := by
  have hrange := toNat_of_isDigit hdigit
  simp only [isBlank, Bool.or_eq_false_iff, Bool.and_eq_false_iff, decide_eq_false_iff_not,
    beq_eq_false_iff_ne]
  omega

/-- Digits have no case. -/
theorem lowerChars_of_isDigit {cs : List Char} (hdigits : ∀ c ∈ cs, c.isDigit = true)
    (before : Bool) : lowerChars before cs = cs := by
  induction cs generalizing before with
  | nil => rfl
  | cons c rest ih =>
      obtain ⟨hc, hrest⟩ := List.forall_mem_cons.1 hdigits
      have hsigma : c ≠ capitalSigma := by
        rintro rfl
        cases hc
      have hrange := toNat_of_isDigit hc
      have hletter : lowerLetter c = [c] := by
        rw [lowerLetter, if_pos (by omega), if_neg (by omega)]
      rw [lowerChars, if_neg hsigma, hletter, ih hrest]
      rfl

/-- The text of an integer has no blanks around it. -/
theorem strip_toString (n : Int) : strip (toString n) = toString n := by
  have hplain : ∀ c ∈ (toString n).toList, isBlank c = false := by
    intro c hc
    rw [Number.toList_toString, List.mem_append] at hc
    rcases hc with hsign | hdigit
    · split at hsign
      next =>
        rw [List.mem_singleton.1 hsign]
        rfl
      next => cases hsign
    · exact isBlank_of_isDigit (Number.isDigit_of_mem_toDigits c hdigit)
  rw [strip, stripChars_eq_self (fun c hc => hplain c (List.mem_of_head? hc))
    (fun c hc => hplain c (List.mem_of_getLast? hc)), String.ofList_toList]

end Text

/-- The text of an integer is read as a decimal. -/
theorem Number.readDecimal?_toString (n : Int) :
    readDecimal? (toString n).toList = some (.ofDecimal (n < 0) n.natAbs 0) := by
  have hdigits : ∀ c ∈ Nat.toDigits 10 n.natAbs, c.isDigit = true := isDigit_of_mem_toDigits
  have hlower : Text.lower (String.ofList (Nat.toDigits 10 n.natAbs)) =
      String.ofList (Nat.toDigits 10 n.natAbs) := by
    rw [Text.lower, String.toList_ofList, Text.lowerChars_of_isDigit hdigits]
  -- Digits are none of the names of numbers that are not finite.
  have hname : ∀ word : String, (∃ c ∈ word.toList, c.isDigit = false) →
      String.ofList (Nat.toDigits 10 n.natAbs) ≠ word := by
    rintro word ⟨c, hc, hletter⟩ rfl
    rw [String.toList_ofList] at hc
    rw [hdigits c hc] at hletter
    cases hletter
  rw [readDecimal?, takeSign_toString]
  dsimp only
  rw [hlower, if_neg (not_or.2 ⟨hname "inf" ⟨'i', by decide, rfl⟩,
    hname "infinity" ⟨'i', by decide, rfl⟩⟩), if_neg (hname "nan" ⟨'n', by decide, rfl⟩),
    digitRun_of_isDigit hdigits]
  simp [readFraction, readExponent?, Nat.toDigits_ne_nil, ofDigits_toDigits]

/-- The text of an integer is a number. -/
theorem Transform.Timestamp.isNumeric_toString (n : Int) :
    isNumeric (toString n).toList = true := by
  have hdigits : ∀ c ∈ Nat.toDigits 10 n.natAbs, c.isDigit = true := Number.isDigit_of_mem_toDigits
  have hbody : (if (toString n).toList.head? = some '-' then (toString n).toList.drop 1
      else (toString n).toList) = Nat.toDigits 10 n.natAbs := by
    rw [Number.toList_toString]
    by_cases hsign : n < 0
    · rw [if_pos hsign]
      rfl
    · rw [if_neg hsign, List.nil_append, if_neg]
      intro hminus
      cases hdigits '-' (List.mem_of_head? hminus)
  have hrest : (Nat.toDigits 10 n.natAbs ++ []).dropWhile Text.isDecimal =
      [].dropWhile Text.isDecimal :=
    List.dropWhile_append_of_pos fun c hc => Text.isDecimal_of_isDigit (hdigits c hc)
  rw [List.append_nil, List.dropWhile_nil] at hrest
  rw [isNumeric, hbody, hrest]
  simp [List.length_pos_iff, Nat.toDigits_ne_nil]

namespace Binary64

/-- The number is the integer, as long as that has no more than 53 bits; past them, the number lies
as far out on the same side. -/
def Tells (x : Binary64) (n : Int) : Prop :=
  if n.natAbs < 2 ^ 53 then x.IsFraction (n < 0) n.natAbs 1 else x.IsFar (n < 0)

variable {x : Binary64} {n : Int}

theorem tells_of_lt (hsmall : n.natAbs < 2 ^ 53) :
    x.Tells n ↔ x.IsFraction (n < 0) n.natAbs 1 := by
  rw [Tells, if_pos hsmall]

theorem tells_of_le (hlarge : 2 ^ 53 ≤ n.natAbs) : x.Tells n ↔ x.IsFar (n < 0) := by
  rw [Tells, if_neg (Nat.not_lt.2 hlarge)]

theorem tells_roundQuotient (n : Int) : (roundQuotient (n < 0) n.natAbs 1).Tells n := by
  rcases Nat.lt_or_ge n.natAbs (2 ^ 53) with hsmall | hlarge
  · have hinteger := isFraction_roundQuotient_of_integer (n < 0) Nat.one_pos hsmall
    rw [Nat.mul_one] at hinteger
    exact (tells_of_lt hsmall).2 hinteger
  · exact (tells_of_le hlarge).2 (isFar_roundQuotient _ Nat.one_pos (by rwa [Nat.mul_one]))

theorem tells_ofInt (n : Int) : (ofInt n).Tells n := tells_roundQuotient n

/-- The digits of an integer tell it, also those that are too many to be looked at. -/
theorem tells_ofDecimal (n : Int) : (ofDecimal (n < 0) n.natAbs 0).Tells n := by
  unfold ofDecimal
  by_cases hzero : n.natAbs = 0
  · rw [if_pos hzero, tells_of_lt (by omega), hzero]
    exact isFraction_zero _ 1
  rw [if_neg hzero]
  dsimp only
  split
  next hlong =>
    have hlarge : 2 ^ 53 ≤ n.natAbs := by
      refine Nat.le_of_not_lt fun hsmall => ?_
      have hlength := Number.length_toDigits_le (by decide : 0 < 16)
        (show n.natAbs < digitBound 16 from Nat.lt_trans hsmall (by decide))
      omega
    exact (tells_of_le hlarge).2 (Or.inl rfl)
  next =>
    rw [if_neg (by omega)]
    have hpower : n.natAbs * Nat.pow 10 (0 : Int).toNat = n.natAbs := Nat.mul_one _
    rw [hpower]
    exact tells_roundQuotient n

theorem Tells.timesThousand (htells : x.Tells n) : x.timesThousand.Tells (1000 * n) := by
  have hsign : decide (1000 * n < 0) = decide (n < 0) := decide_eq_decide.2 (by omega)
  have habs : (1000 * n).natAbs = n.natAbs * 1000 := by omega
  unfold Tells at htells ⊢
  rw [hsign, habs]
  split at htells
  next hsmall => exact htells.timesThousand
  next hlarge =>
    rw [if_neg (by omega)]
    exact htells.timesThousand

theorem Tells.below_iff (htells : x.Tells n) :
    x.exact.below Transform.Timestamp.secondsBelow = true ↔ n < 1000000000000 := by
  rcases Nat.lt_or_ge n.natAbs (2 ^ 53) with hsmall | hlarge
  · obtain ⟨c, d, hd, hexact, _, hcross⟩ := (tells_of_lt hsmall).1 htells
    have hcount : signed (n < 0) c = n * d := by
      rw [Nat.mul_one] at hcross
      rw [hcross, signed_mul, signed_natAbs]
    rw [hexact, Transform.Timestamp.secondsBelow, Exact.below, decide_eq_true_eq, hcount]
    simp only [Int.natCast_one, Int.mul_one]
    exact Int.mul_lt_mul_right (by omega)
  · rcases (tells_of_le hlarge).1 htells with rfl | ⟨c, d, hd, hexact, _, hfar⟩
    · rw [exact, Transform.Timestamp.secondsBelow, Exact.below, decide_eq_true_eq]
      omega
    · rw [hexact, Transform.Timestamp.secondsBelow, Exact.below, decide_eq_true_eq, signed]
      simp only [decide_eq_true_eq]
      split
      next hsign => omega
      next hsign => omega

end Binary64

namespace Transform

namespace Timestamp

/-- How a count is to be taken: as seconds, as milliseconds, or as what its size suggests. -/
inductive TimeUnit where
  | seconds
  | millis
  | bySize
deriving DecidableEq, Repr

namespace TimeUnit

/-- The parameter of a unit; there is none for the choice by size. -/
def value : TimeUnit → Value
  | .seconds => .string "s"
  | .millis => .string "ms"
  | .bySize => .null

def toMillis (unit : TimeUnit) (n : Int) : Int :=
  match unit with
  | .seconds => 1000 * n
  | .millis => n
  | .bySize => if n < 1000000000000 then 1000 * n else n

end TimeUnit

variable {x : Binary64} {n millis : Int} {unit : TimeUnit}

theorem exists_scale [Limits] (htells : x.Tells n) (unit : TimeUnit) :
    ∃ y, scale x unit.value = .ok y ∧ y.Tells (unit.toMillis n) := by
  cases unit with
  | seconds => exact ⟨_, rfl, htells.timesThousand⟩
  | millis => exact ⟨_, rfl, htells⟩
  | bySize =>
      refine ⟨_, rfl, ?_⟩
      by_cases hsize : n < 1000000000000
      · rw [if_pos (htells.below_iff.2 hsize), TimeUnit.toMillis, if_pos hsize]
        exact htells.timesThousand
      · rw [if_neg (mt htells.below_iff.1 hsize), TimeUnit.toMillis, if_neg hsize]
        exact htells

/-- The result is the milliseconds, as long as they have no more than 53 bits; past them, it may be
other milliseconds past them. -/
def Yields (result : Except Fault Int) (millis : Int) : Prop :=
  if millis.natAbs < 2 ^ 53 then result = .ok millis
  else ∀ other, result = .ok other → 2 ^ 53 ≤ other.natAbs

theorem yields_of_lt {result : Except Fault Int} (hsmall : millis.natAbs < 2 ^ 53) :
    Yields result millis ↔ result = .ok millis := by
  rw [Yields, if_pos hsmall]

theorem yields_of_le {result : Except Fault Int} (hlarge : 2 ^ 53 ≤ millis.natAbs) :
    Yields result millis ↔ ∀ other, result = .ok other → 2 ^ 53 ≤ other.natAbs := by
  rw [Yields, if_neg (Nat.not_lt.2 hlarge)]

/-- One fault is as good as another. -/
theorem Yields.error {fault : Fault} (hyields : Yields (.error fault) millis) (other : Fault) :
    Yields (.error other) millis := by
  rcases Nat.lt_or_ge millis.natAbs (2 ^ 53) with hsmall | hlarge
  · cases (yields_of_lt hsmall).1 hyields
  · exact (yields_of_le hlarge).2 fun _ hother => nomatch hother

theorem whole_of_exact {num : Int} {den : Nat} (hexact : x.exact = .fraction num den) :
    whole x = .ok (x.truncate?.getD 0) := by
  cases x with
  | finite negative mantissa exponent => rfl
  | infinite negative => cases hexact
  | nan => cases hexact

theorem yields_whole (htells : x.Tells n) : Yields (whole x) n := by
  rcases Nat.lt_or_ge n.natAbs (2 ^ 53) with hsmall | hlarge
  · have hfraction := (Binary64.tells_of_lt hsmall).1 htells
    have hcut := hfraction.truncate?_eq Nat.one_pos
    obtain ⟨_, _, _, hexact, _⟩ := hfraction
    rw [yields_of_lt hsmall, whole_of_exact hexact, hcut, Nat.div_one, signed_natAbs]
    rfl
  · rw [yields_of_le hlarge]
    rcases (Binary64.tells_of_le hlarge).1 htells with rfl | ⟨c, d, hd, hexact, hsign, hfar⟩
    · exact fun _ hother => nomatch hother
    · have hfraction : x.IsFraction (n < 0) c d := ⟨c, d, hd, hexact, hsign, rfl⟩
      rw [whole_of_exact hexact, hfraction.truncate?_eq hd]
      rintro other hother
      cases hother
      rw [Option.getD_some, natAbs_signed]
      exact (Nat.le_div_iff_mul_le hd).2 hfar

variable [Limits]

theorem yields_ofFloat (htells : x.Tells n) (unit : TimeUnit) :
    Yields (ofFloat x unit.value) (unit.toMillis n) := by
  obtain ⟨y, hscale, hy⟩ := exists_scale htells unit
  have hwhole : ofFloat x unit.value = whole y := by
    rw [ofFloat, hscale]
    rfl
  rw [hwhole]
  exact yields_whole hy

theorem ofFloat_infinite (negative : Bool) (unit : TimeUnit) :
    ofFloat (.infinite negative) unit.value = .error .infiniteCount := by
  cases unit <;> cases negative <;> rfl

/-- The milliseconds of an integer. -/
theorem yields_int (n : Int) (unit : TimeUnit) :
    Yields (Timestamp.read (.int n) unit.value) (unit.toMillis n) := by
  have hfloat := yields_ofFloat (Binary64.tells_ofInt n) unit
  rw [Timestamp.read, ofInteger]
  split
  next negative hinfinite =>
    rw [hinfinite, ofFloat_infinite] at hfloat
    exact hfloat.error .hugeInteger
  next => exact hfloat

/-- The milliseconds of the digits of an integer. -/
theorem yields_text (n : Int) (unit : TimeUnit) :
    Yields (Timestamp.read (.string (toString n)) unit.value) (unit.toMillis n) := by
  have hread : Timestamp.read (.string (toString n)) unit.value =
      ofFloat (.ofDecimal (n < 0) n.natAbs 0) unit.value := by
    simp only [Timestamp.read, ofText, Text.strip_toString, isNumeric_toString,
      Number.readDecimal?_toString]
  rw [hread]
  exact yields_ofFloat (Binary64.tells_ofDecimal n) unit

end Timestamp

namespace Builtin

open Timestamp

variable {params : Entries} {v : Value} {millis : Int} {unit : TimeUnit}

variable [Limits]

/-- Milliseconds in the calendar are written as they are. -/
theorem run_toIsoDate_of_inRange (hyields : Yields (Timestamp.read v (unitOf params)) millis)
    (hrange : Calendar.inRange (millis * 1000) = true) :
    run .toIsoDate params v = .ok (.string (Moment.millisText ⟨millis * 1000, some 0⟩)) := by
  have hbounds := Calendar.inRange_iff.1 hrange
  have hread := (yields_of_lt (by omega)).1 hyields
  rw [run_toIsoDate_of_near hread (by omega), Moment.millisText?_eq, Moment.instant_universal,
    if_pos hrange]

/-- Other milliseconds are a fault that is told. -/
theorem exists_run_toIsoDate_of_not_inRange (hunit : unitOf params = unit.value)
    (hyields : Yields (Timestamp.read v (unitOf params)) millis)
    (hrange : ¬ Calendar.inRange (millis * 1000) = true) :
    ∃ fault, run .toIsoDate params v = .error fault ∧ fault.stops = false := by
  have hfault : ∃ fault, run .toIsoDate params v = .error fault := by
    cases hread : Timestamp.read v (unitOf params) with
    | error fault => exact ⟨fault, run_toIsoDate_of_error hread⟩
    | ok other =>
        rw [hread] at hyields
        -- What is cut off past 53 bits is farther out than the calendar reaches.
        have hother : ¬ Calendar.inRange (other * 1000) = true := by
          rcases Nat.lt_or_ge millis.natAbs (2 ^ 53) with hsmall | hlarge
          · rw [Except.ok.inj ((yields_of_lt hsmall).1 hyields)]
            exact hrange
          · have hfar := (yields_of_le hlarge).1 hyields other rfl
            rw [Calendar.inRange_iff]
            omega
        obtain ⟨fault, hwrite⟩ := exists_write_of_not_inRange hother
        rw [run_toIsoDate hread, hwrite]
        exact ⟨_, rfl⟩
  obtain ⟨fault, hrun⟩ := hfault
  have hshallow : unit.value.tooDeepToTell = false := by
    cases unit <;> simp [TimeUnit.value, Value.tooDeepToTell]
  have htold : ¬ Stops (run .toIsoDate params v) := by
    rw [stops_run, Escapes, hunit, hshallow]
    simp
  rw [hrun, stops_error, Bool.not_eq_true] at htold
  exact ⟨fault, hrun, htold⟩

end Builtin

end Transform

open Transform Timestamp in
/-- Counts of seconds and milliseconds are read as they are: a count has a date exactly if the
calendar has its millisecond, as an integer and as the text of one, and that date is shown. -/
theorem count_isoDate [Limits] {params : Entries} {unit : TimeUnit}
    (hunit : Builtin.unitOf params = unit.value) (n : Int) :
    (-62135596800000 ≤ unit.toMillis n ∧ unit.toMillis n ≤ 253402300799999 →
      ∃ text, (⟨unit.toMillis n * 1000, some 0⟩ : Moment).millisText? = some text ∧
        Builtin.run .toIsoDate params (.int n) = .ok (.string text) ∧
        Builtin.run .toIsoDate params (.string (toString n)) = .ok (.string text)) ∧
    (¬ (-62135596800000 ≤ unit.toMillis n ∧ unit.toMillis n ≤ 253402300799999) →
      (∃ fault, Builtin.run .toIsoDate params (.int n) = .error fault ∧ fault.stops = false) ∧
      ∃ fault, Builtin.run .toIsoDate params (.string (toString n)) = .error fault ∧
        fault.stops = false) ∧
    (1000000000 ≤ n → n < 1000000000000 → unit ≠ .millis →
      ∀ {others : Entries} {other : TimeUnit}, Builtin.unitOf others = other.value →
        other ≠ .seconds →
        Builtin.run .toIsoDate others (.int (1000 * n)) =
            Builtin.run .toIsoDate params (.int n) ∧
          Builtin.run .toIsoDate others (.string (toString (1000 * n))) =
            Builtin.run .toIsoDate params (.string (toString n))) := by
  have hint := yields_int n unit
  have htext := yields_text n unit
  rw [← hunit] at hint htext
  have hrange : Calendar.inRange (unit.toMillis n * 1000) = true ↔
      -62135596800000 ≤ unit.toMillis n ∧ unit.toMillis n ≤ 253402300799999 := by
    rw [Calendar.inRange_iff]
    omega
  refine ⟨fun hinside => ?_, fun houtside => ?_, ?_⟩
  · have hinside := hrange.2 hinside
    refine ⟨_, ?_, Builtin.run_toIsoDate_of_inRange hint hinside,
      Builtin.run_toIsoDate_of_inRange htext hinside⟩
    rw [Moment.millisText?_eq, Moment.instant_universal, if_pos hinside]
  · have houtside := mt hrange.1 houtside
    exact ⟨Builtin.exists_run_toIsoDate_of_not_inRange hunit hint houtside,
      Builtin.exists_run_toIsoDate_of_not_inRange hunit htext houtside⟩
  · intro hlow hhigh hseconds others other hother hmillis
    have hcount : unit.toMillis n = 1000 * n := by
      cases unit with
      | seconds => rfl
      | millis => exact absurd rfl hseconds
      | bySize => rw [TimeUnit.toMillis, if_pos hhigh]
    have hsame : other.toMillis (1000 * n) = 1000 * n := by
      cases other with
      | seconds => exact absurd rfl hmillis
      | millis => rfl
      | bySize => rw [TimeUnit.toMillis, if_neg (by omega)]
    have hint' := yields_int (1000 * n) other
    have htext' := yields_text (1000 * n) other
    rw [← hother, hsame] at hint' htext'
    rw [hcount] at hint htext
    have hshort : (1000 * n).natAbs < 2 ^ 53 := by omega
    rw [yields_of_lt hshort] at hint htext hint' htext'
    rw [Builtin.run_toIsoDate hint, Builtin.run_toIsoDate hint', Builtin.run_toIsoDate htext,
      Builtin.run_toIsoDate htext']
    exact ⟨rfl, rfl⟩

namespace CountWitness

local instance : Limits := .standard

open Transform Timestamp

/-- The parameters of a count of seconds. -/
def inSeconds : Entries := [(.string "unit", .string "s")]

/-- A count of seconds, its digits, and a thousand times the count without a unit; and a count of
seconds that no float can hold. -/
theorem count_isoDate_of_seconds :
    Builtin.unitOf inSeconds = TimeUnit.seconds.value ∧
      Builtin.run .toIsoDate inSeconds (.int 1705314600) =
        .ok (.string "2024-01-15T10:30:00.000Z") ∧
      Builtin.run .toIsoDate inSeconds (.string (toString (1705314600 : Int))) =
        .ok (.string "2024-01-15T10:30:00.000Z") ∧
      Builtin.run .toIsoDate [] (.int (1000 * 1705314600)) =
        Builtin.run .toIsoDate inSeconds (.int 1705314600) ∧
      ∃ fault, Builtin.run .toIsoDate inSeconds (.int (digitBound 400)) = .error fault ∧
        fault.stops = false := by
  have hunit : Builtin.unitOf inSeconds = TimeUnit.seconds.value := rfl
  obtain ⟨hinside, _, hsame⟩ := count_isoDate hunit 1705314600
  obtain ⟨text, htext, hint, hdigits⟩ := hinside (by decide)
  have hshown : (⟨TimeUnit.seconds.toMillis 1705314600 * 1000, some 0⟩ : Moment).millisText? =
      some "2024-01-15T10:30:00.000Z" := by
    decide +kernel
  obtain rfl := Option.some.inj (hshown.symm.trans htext)
  obtain ⟨_, houtside, _⟩ := count_isoDate hunit (digitBound 400)
  have hbySize : Builtin.unitOf [] = TimeUnit.bySize.value := rfl
  exact ⟨hunit, hint, hdigits,
    (hsame (by decide) (by decide) (by decide) hbySize (by decide)).1,
    (houtside (by decide +kernel)).1⟩

end CountWitness

end EventIntake
