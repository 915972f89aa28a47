/-
How large the numbers are that are read.  Integers in texts have no more digits than the limit, and
floats have a place in 64 bits, so that the milliseconds of a timestamp can be written as well.
-/
import EventIntake.Proofs.Digits
import EventIntake.Proofs.Nesting
import EventIntake.Proofs.Rounding
import EventIntake.Transform.Timestamp

namespace EventIntake

theorem Text.decimalValue?_lt {c : Char} {d : Nat} (hvalue : decimalValue? c = some d) :
    d < 10 := by
  unfold decimalValue? at hvalue
  dsimp only at hvalue
  split at hvalue
  next =>
    split at hvalue
    next hrange =>
      cases hvalue
      omega
    next => cases hvalue
  next =>
    obtain ⟨start, hstart, rfl⟩ := Option.map_eq_some_iff.1 hvalue
    have hrun := List.find?_some hstart
    simp only [Bool.and_eq_true, decide_eq_true_eq] at hrun
    omega

theorem digitBound_pos (digits : Nat) : 0 < digitBound digits := Nat.pow_pos (by decide)

theorem one_lt_digitBound : 1 < digitBound digitLimit := by
  rw [digitBound, Nat.pow_eq]
  exact Nat.one_lt_pow (by decide) (by decide)

theorem Scalar.isTooLong_int_eq_false {n : Int} :
    (Scalar.int n).isTooLong = false ↔ n.natAbs < digitBound digitLimit := by
  rw [isTooLong, decide_eq_false_iff_not, Nat.not_le]

theorem Scalar.isTooLong_of_isText {key : Scalar} (hkey : key.isText = true) :
    key.isTooLong = false := by
  cases key with
  | int n => cases hkey
  | _ => rfl

theorem Json.Layout.scalar_int {τ : Type} [Json.Medium τ] {n : Int} (layout : Json.Layout)
    (hshort : (Scalar.int n).isTooLong = false) :
    (layout.scalar (.int n) : Except Json.WriteFault τ) =
      .ok (Json.Medium.text (toString n)) := by
  rw [scalar, hshort]
  rfl

namespace Number

/-- The first of some digits counts for as many tens as digits follow. -/
theorem ofDigits_cons (d : Nat) (ds : List Nat) :
    ofDigits (d :: ds) = d * 10 ^ ds.length + ofDigits ds := by
  have hfold : ∀ (ds : List Nat) (total : Nat), ds.foldl (fun total d => 10 * total + d) total =
      total * 10 ^ ds.length + ofDigits ds := by
    intro ds
    induction ds with
    | nil => simp [ofDigits]
    | cons d ds ih =>
        intro total
        rw [ofDigits, List.foldl_cons, List.foldl_cons, ih, ih (10 * 0 + d), List.length_cons,
          Nat.pow_succ]
        grind
  rw [ofDigits, List.foldl_cons, hfold, Nat.mul_zero, Nat.zero_add]

theorem ofDigits_lt {digits : List Nat} (hdigits : ∀ d ∈ digits, d < 10) :
    ofDigits digits < 10 ^ digits.length := by
  induction digits with
  | nil => decide
  | cons d digits ih =>
      rw [List.forall_mem_cons] at hdigits
      obtain ⟨hd, hrest⟩ := hdigits
      have hlater := ih hrest
      rw [ofDigits_cons, List.length_cons, Nat.pow_succ, Nat.mul_comm _ 10]
      have hfirst : d * 10 ^ digits.length ≤ 9 * 10 ^ digits.length :=
        Nat.mul_le_mul_right _ (by omega)
      omega

theorem lt_of_mem_digitRun (inside : Bool) (cs : List Char) :
    ∀ d ∈ (digitRun inside cs).1, d < 10 := by
  fun_induction digitRun inside cs with
  | case1 => simp
  | case2 c rest d hvalue digits left hrun ih =>
      rw [hrun] at ih
      exact List.forall_mem_cons.2 ⟨Text.decimalValue?_lt hvalue, ih⟩
  | case3 => simp
  | case4 inside c rest hother d hvalue digits left hrun ih =>
      rw [hrun] at ih
      exact List.forall_mem_cons.2 ⟨Text.decimalValue?_lt hvalue, ih⟩
  | case5 => simp

/-- An integer that is read can be written. -/
theorem natAbs_lt_of_readInteger {cs : List Char} {n : Int} (hread : readInteger cs = .ok n) :
    n.natAbs < digitBound digitLimit := by
  rw [readInteger] at hread
  dsimp only at hread
  split at hread
  next => cases hread
  next =>
    split at hread
    next => cases hread
    next hlimit =>
      split at hread
      next => cases hread
      next =>
        have hsize := Nat.lt_of_lt_of_le (ofDigits_lt (lt_of_mem_digitRun false (takeSign cs).2))
          (Nat.pow_le_pow_right (by decide : 0 < 10) (Nat.le_of_not_lt hlimit))
        rw [digitBound, Nat.pow_eq]
        cases hread
        split <;> omega

end Number

namespace Binary64

/-- The number has a place in 64 bits: its mantissa has 53 of them, and its exponent is not past the
greatest. -/
def IsStored : Binary64 → Prop
  | .finite _ mantissa exponent => mantissa < 2 ^ 53 ∧ exponent ≤ 971
  | .infinite _ => True
  | .nan => True

theorem isStored_zero (negative : Bool) : (zero negative).IsStored := ⟨by decide, by decide⟩

theorem isStored_assemble (negative : Bool) {mantissa : Nat} (hmantissa : mantissa ≤ 2 ^ 53)
    (exponent : Int) : (assemble negative mantissa exponent).IsStored := by
  unfold assemble
  by_cases hcarry : mantissa = Nat.pow 2 53
  · rw [if_pos hcarry]
    dsimp only
    split
    next => trivial
    next hexponent => exact ⟨by decide, by omega⟩
  · rw [if_neg hcarry]
    dsimp only
    split
    next => trivial
    next hexponent => exact ⟨Nat.lt_of_le_of_ne hmantissa hcarry, by omega⟩

/-- At the exponent that a quotient is rounded at, it has no more than 53 bits before the point. -/
theorem scaled_exponentFor_le {num den : Nat} (hnum : 0 < num) (hden : 0 < den) :
    0 < (scaled num den (exponentFor num den)).2 ∧
      (scaled num den (exponentFor num den)).1 ≤
        2 ^ 53 * (scaled num den (exponentFor num den)).2 := by
  obtain ⟨exponent, hfits, hexponent⟩ := exists_fits hnum hden
  have hpos : ∀ e, 0 < (scaled num den e).2 := fun e =>
    Nat.mul_pos hden (Nat.two_pow_pos _)
  refine ⟨hpos _, ?_⟩
  rw [hexponent]
  by_cases hlow : -1074 ≤ exponent
  · rw [Int.max_eq_left hlow]
    exact Nat.le_of_lt hfits.high
  · -- Below the least exponent, the quotient has even fewer bits there.
    rw [Int.max_eq_right (by omega)]
    obtain ⟨k, rfl⟩ : ∃ k : Nat, exponent = -(k : Int) := ⟨(-exponent).toNat, by omega⟩
    obtain ⟨least, hleast⟩ : ∃ least : Nat, (-1074 : Int) = -(least : Int) := ⟨1074, rfl⟩
    have hhigh := (fits_neg_iff.1 hfits).2
    rw [hleast, scaled_neg]
    have hpower : num * 2 ^ least ≤ num * 2 ^ k :=
      Nat.mul_le_mul_left _ (Nat.pow_le_pow_right (by decide) (by omega))
    exact Nat.le_trans hpower (Nat.le_of_lt hhigh)

theorem isStored_roundQuotient (negative : Bool) (num : Nat) {den : Nat} (hden : 0 < den) :
    (roundQuotient negative num den).IsStored := by
  unfold roundQuotient
  split
  next => exact isStored_zero negative
  next hnum =>
    obtain ⟨hpos, hle⟩ := scaled_exponentFor_le (Nat.pos_of_ne_zero hnum) hden
    exact isStored_assemble negative (roundHalfEven_le hpos hle) _

theorem isStored_ofDecimal (negative : Bool) (digits : Nat) (exponent : Int) :
    (ofDecimal negative digits exponent).IsStored := by
  unfold ofDecimal
  dsimp only
  split
  next => exact isStored_zero negative
  next =>
    split
    next => trivial
    next =>
      split
      next => exact isStored_zero negative
      next => exact isStored_roundQuotient negative _ (Nat.pow_pos (by decide))

theorem exact_den_pos {x : Binary64} {num : Int} {den : Nat}
    (hexact : x.exact = .fraction num den) : 0 < den := by
  cases x with
  | finite negative mantissa exponent =>
      cases hexact
      exact Nat.two_pow_pos _
  | infinite negative => cases hexact
  | nan => cases hexact

theorem IsStored.timesThousand {x : Binary64} (hx : x.IsStored) : x.timesThousand.IsStored := by
  unfold Binary64.timesThousand
  split
  next num den hexact => exact isStored_roundQuotient _ _ (exact_den_pos hexact)
  next => exact hx

/-- The integer part of a float can be written. -/
theorem IsStored.natAbs_truncate?_lt {x : Binary64} (hx : x.IsStored) {n : Int}
    (htruncate : x.truncate? = some n) : n.natAbs < digitBound digitLimit := by
  cases x with
  | finite negative mantissa exponent =>
      obtain ⟨hmantissa, hexponent⟩ := hx
      obtain ⟨greatest, hgreatest, hroom⟩ : ∃ greatest : Nat, exponent ≤ greatest ∧
          2 ^ 53 * 2 ^ greatest ≤ digitBound digitLimit := ⟨971, hexponent, by decide +kernel⟩
      rw [truncate?, exact_finite] at htruncate
      cases htruncate
      rw [Int.natAbs_tdiv, natAbs_signed]
      calc mantissa * 2 ^ exponent.toNat / _ ≤ mantissa * 2 ^ exponent.toNat := Nat.div_le_self _ _
        _ ≤ mantissa * 2 ^ greatest :=
          Nat.mul_le_mul_left _ (Nat.pow_le_pow_right (by decide) (by omega))
        _ < 2 ^ 53 * 2 ^ greatest :=
          Nat.mul_lt_mul_of_pos_right hmantissa (Nat.two_pow_pos greatest)
        _ ≤ digitBound digitLimit := hroom
  | infinite negative => cases htruncate
  | nan => cases htruncate

end Binary64

theorem Number.isStored_of_readDecimal? {cs : List Char} {x : Binary64}
    (hread : readDecimal? cs = some x) : x.IsStored := by
  rw [readDecimal?] at hread
  dsimp only at hread
  split at hread
  next =>
    cases hread
    trivial
  next =>
    split at hread
    next =>
      cases hread
      trivial
    next =>
      split at hread
      next => cases hread
      next =>
        obtain ⟨exponent, _, hread⟩ := Option.bind_eq_some_iff.1 hread
        cases hread
        exact Binary64.isStored_ofDecimal _ _ _

namespace Transform.Timestamp

theorem natAbs_lt_of_whole {x : Binary64} (hx : x.IsStored) {n : Int} (hwhole : whole x = .ok n) :
    n.natAbs < digitBound digitLimit := by
  unfold whole at hwhole
  split at hwhole
  next => cases hwhole
  next => cases hwhole
  next =>
    cases hwhole
    cases htruncate : x.truncate? with
    | none => exact digitBound_pos digitLimit
    | some n => exact hx.natAbs_truncate?_lt htruncate

theorem natAbs_ofInstant_lt (micros : Int) : (ofInstant micros).natAbs < digitBound digitLimit := by
  have hx : (Binary64.ofFraction micros 1000).IsStored :=
    Binary64.isStored_roundQuotient _ _ (by decide)
  rw [ofInstant]
  cases htruncate : (Binary64.ofFraction micros 1000).truncate? with
  | none => exact digitBound_pos digitLimit
  | some n => exact hx.natAbs_truncate?_lt htruncate

variable [Limits] {unit : Value} {millis : Int}

theorem isStored_of_scale {x y : Binary64} (hx : x.IsStored) (hscale : scale x unit = .ok y) :
    y.IsStored := by
  unfold scale at hscale
  split at hscale
  next =>
    cases hscale
    exact hx.timesThousand
  next =>
    cases hscale
    exact hx
  next =>
    cases hscale
    split
    next => exact hx.timesThousand
    next => exact hx
  next => cases hscale

theorem natAbs_lt_of_ofFloat {x : Binary64} (hx : x.IsStored)
    (hread : ofFloat x unit = .ok millis) : millis.natAbs < digitBound digitLimit := by
  obtain ⟨y, hscale, hwhole⟩ := Except.bind_eq_ok_iff.1 hread
  exact natAbs_lt_of_whole (isStored_of_scale hx hscale) hwhole

/-- The milliseconds of a timestamp are those of a float. -/
theorem natAbs_lt_of_read {v : Value} (hv : ∀ x, v = .float x → x.IsStored)
    (hread : read v unit = .ok millis) : millis.natAbs < digitBound digitLimit := by
  unfold read at hread
  split at hread
  next =>
    cases hread
    exact natAbs_ofInstant_lt _
  next => cases hread
  next n =>
    have hx : (Binary64.ofInt n).IsStored := Binary64.isStored_roundQuotient _ _ (by decide)
    unfold ofInteger at hread
    split at hread
    next => cases hread
    next => exact natAbs_lt_of_ofFloat hx hread
  next x => exact natAbs_lt_of_ofFloat (hv x rfl) hread
  next =>
    unfold ofText at hread
    dsimp only at hread
    split at hread
    next x _ hdecimal =>
      exact natAbs_lt_of_ofFloat (Number.isStored_of_readDecimal? hdecimal) hread
    next =>
      split at hread
      next =>
        cases hread
        exact natAbs_ofInstant_lt _
      next => cases hread
  next =>
    unfold ofHalved at hread
    split at hread
    next =>
      cases hread
      exact natAbs_ofInstant_lt _
    next => cases hread
  next => cases hread

end Transform.Timestamp

end EventIntake
