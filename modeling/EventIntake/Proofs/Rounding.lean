/-
Rounding a quotient to 53 bits: at which exponent it is rounded, that integers below `2 ^ 53` stay
as they are, and that nothing past them comes back.
-/
import Mathlib.Algebra.Group.Nat.Defs
import EventIntake.Number.Binary64

namespace EventIntake

/-- A magnitude with a sign. -/
def signed (negative : Bool) (n : Nat) : Int := if negative then -(n : Int) else n

@[simp] theorem natAbs_signed (negative : Bool) (n : Nat) : (signed negative n).natAbs = n := by
  cases negative <;> simp [signed]

theorem signed_natAbs (n : Int) : signed (n < 0) n.natAbs = n := by
  by_cases hsign : n < 0
  · rw [signed, if_pos (decide_eq_true hsign)]
    omega
  · rw [signed, if_neg (by simpa using hsign)]
    omega

theorem signed_mul (negative : Bool) (n m : Nat) :
    signed negative (n * m) = signed negative n * m := by
  cases negative with
  | false => exact Int.natCast_mul n m
  | true => exact (congrArg Neg.neg (Int.natCast_mul n m)).trans (Int.neg_mul n m).symm

theorem roundHalfEven_cases (num den : Nat) :
    (roundHalfEven num den = num / den ∧ 2 * (num % den) ≤ den) ∨
      (roundHalfEven num den = num / den + 1 ∧ den ≤ 2 * (num % den)) := by
  unfold roundHalfEven
  dsimp only
  split
  next => exact Or.inl ⟨rfl, by omega⟩
  next =>
    split
    next => exact Or.inr ⟨rfl, by omega⟩
    next =>
      split
      next => exact Or.inl ⟨rfl, by omega⟩
      next => exact Or.inr ⟨rfl, by omega⟩

/-- What is a multiple is not rounded. -/
theorem roundHalfEven_mul {den : Nat} (hden : 0 < den) (n : Nat) :
    roundHalfEven (n * den) den = n := by
  rcases roundHalfEven_cases (n * den) den with ⟨hround, _⟩ | ⟨_, hup⟩
  · rw [hround, Nat.mul_div_cancel n hden]
  · rw [Nat.mul_mod_left] at hup
    omega

theorem le_roundHalfEven {num den low : Nat} (hden : 0 < den) (hlow : low * den ≤ num) :
    low ≤ roundHalfEven num den := by
  have hfloor : low ≤ num / den := (Nat.le_div_iff_mul_le hden).2 hlow
  rcases roundHalfEven_cases num den with ⟨hround, _⟩ | ⟨hround, _⟩ <;> omega

theorem roundHalfEven_le {num den high : Nat} (hden : 0 < den) (hhigh : num ≤ high * den) :
    roundHalfEven num den ≤ high := by
  have hfloor := Nat.div_le_of_le_mul (Nat.mul_comm high den ▸ hhigh)
  rcases roundHalfEven_cases num den with ⟨hround, _⟩ | ⟨hround, hup⟩
  · omega
  · -- Rounded up, the quotient is no integer and lies below the bound.
    have hrest : 0 < num % den := by omega
    have hsplit := Nat.div_add_mod num den
    have hbelow : den * (num / den) < den * high := by
      rw [Nat.mul_comm den high]
      omega
    have hlt := Nat.lt_of_mul_lt_mul_left hbelow
    omega

/-- An even integer is reached from half a part below it on. -/
theorem even_le_roundHalfEven_iff {num den high : Nat} (hden : 0 < den) (heven : high % 2 = 0) :
    high ≤ roundHalfEven num den ↔ 2 * (den * high) ≤ 2 * num + den := by
  have hsplit := Nat.div_add_mod num den
  have hrest := Nat.mod_lt num hden
  rcases Nat.lt_trichotomy high (num / den + 1) with hbelow | rfl | habove
  · have hfloor : high ≤ num / den := by omega
    have hproduct := Nat.mul_le_mul_left den hfloor
    rcases roundHalfEven_cases num den with ⟨hround, _⟩ | ⟨hround, _⟩ <;> omega
  · -- Only here does the half matter.
    rw [Nat.mul_add, Nat.mul_one]
    have hodd : ¬ num / den % 2 = 0 := by omega
    unfold roundHalfEven
    dsimp only
    rw [if_neg hodd]
    split
    next => omega
    next => split <;> omega
  · have hproduct : den * (num / den + 2) ≤ den * high := Nat.mul_le_mul_left den habove
    rw [Nat.mul_add] at hproduct
    rcases roundHalfEven_cases num den with ⟨hround, _⟩ | ⟨hround, _⟩ <;> omega

namespace Binary64

theorem scaled_neg (num den k : Nat) : scaled num den (-(k : Int)) = (num * 2 ^ k, den) := by
  simp [scaled]

theorem scaled_natCast (num den k : Nat) : scaled num den (k : Int) = (num, den * 2 ^ k) := by
  simp [scaled]

/-- At an exponent the quotient has 53 bits before the point. -/
structure Fits (num den : Nat) (exponent : Int) : Prop where
  low : 2 ^ 52 * (scaled num den exponent).2 ≤ (scaled num den exponent).1
  high : (scaled num den exponent).1 < 2 ^ 53 * (scaled num den exponent).2

theorem fits_neg_iff {num den k : Nat} :
    Fits num den (-(k : Int)) ↔ 2 ^ 52 * den ≤ num * 2 ^ k ∧ num * 2 ^ k < 2 ^ 53 * den := by
  constructor
  · rintro ⟨hlow, hhigh⟩
    rw [scaled_neg] at hlow hhigh
    exact ⟨hlow, hhigh⟩
  · rintro ⟨hlow, hhigh⟩
    refine ⟨?_, ?_⟩ <;> rw [scaled_neg]
    · exact hlow
    · exact hhigh

theorem fits_natCast_iff {num den k : Nat} :
    Fits num den (k : Int) ↔
      2 ^ 52 * (den * 2 ^ k) ≤ num ∧ num < 2 ^ 53 * (den * 2 ^ k) := by
  constructor
  · rintro ⟨hlow, hhigh⟩
    rw [scaled_natCast] at hlow hhigh
    exact ⟨hlow, hhigh⟩
  · rintro ⟨hlow, hhigh⟩
    refine ⟨?_, ?_⟩ <;> rw [scaled_natCast]
    · exact hlow
    · exact hhigh

/-- The guess from the lengths of both numbers is right or one too high. -/
theorem guess_bounds {num den : Nat} (hnum : 0 < num) (hden : 0 < den) {n d : Nat}
    (hscaled : scaled num den ((num.log2 : Int) - den.log2 - 52) = (n, d)) :
    0 < d ∧ 2 ^ 51 * d < n ∧ n < 2 ^ 53 * d := by
  have hnumlow := Nat.log2_self_le (Nat.ne_of_gt hnum)
  have hnumhigh := Nat.lt_log2_self (n := num)
  have hdenlow := Nat.log2_self_le (Nat.ne_of_gt hden)
  have hdenhigh := Nat.lt_log2_self (n := den)
  generalize num.log2 = a at *
  generalize den.log2 = b at *
  by_cases hguess : a ≤ b + 52
  · -- The numerator is stretched.
    obtain ⟨k, hk⟩ := Nat.exists_eq_add_of_le hguess
    have hexponent : (a : Int) - b - 52 = -(k : Int) := by omega
    rw [hexponent, scaled_neg, Prod.mk.injEq] at hscaled
    obtain ⟨rfl, rfl⟩ := hscaled
    have hlow : 2 ^ (b + 52) ≤ num * 2 ^ k := by
      rw [hk, Nat.pow_add]
      exact Nat.mul_le_mul_right _ hnumlow
    have hhigh : num * 2 ^ k < 2 ^ (b + 53) := by
      have hpower : 2 ^ (b + 53) = 2 ^ (a + 1) * 2 ^ k := by
        rw [← Nat.pow_add]
        congr 1
        omega
      rw [hpower]
      exact Nat.mul_lt_mul_of_pos_right hnumhigh (Nat.two_pow_pos k)
    rw [Nat.pow_add] at hlow hhigh hdenhigh
    omega
  · -- The denominator is stretched.
    obtain ⟨k, hk⟩ := Nat.exists_eq_add_of_le (Nat.le_of_not_le hguess)
    have hexponent : (a : Int) - b - 52 = (k : Int) := by omega
    rw [hexponent, scaled_natCast, Prod.mk.injEq] at hscaled
    obtain ⟨rfl, rfl⟩ := hscaled
    have hlow : 2 ^ b * 2 ^ k ≤ den * 2 ^ k := Nat.mul_le_mul_right _ hdenlow
    have hhigh : den * 2 ^ k < 2 ^ (b + 1) * 2 ^ k :=
      Nat.mul_lt_mul_of_pos_right hdenhigh (Nat.two_pow_pos k)
    rw [hk] at hnumlow hnumhigh
    have hlength : 2 ^ (b + 52 + k) = 2 ^ 52 * (2 ^ b * 2 ^ k) := by
      rw [Nat.pow_add, Nat.pow_add, Nat.mul_comm (2 ^ b), Nat.mul_assoc]
    have hdouble : 2 ^ (b + 1) * 2 ^ k = 2 * (2 ^ b * 2 ^ k) := by
      rw [Nat.pow_add, Nat.mul_comm (2 ^ b), Nat.mul_assoc, Nat.pow_one]
    rw [Nat.pow_succ, hlength] at hnumhigh
    rw [hlength] at hnumlow
    rw [hdouble] at hhigh
    have hpos : 0 < 2 ^ b * 2 ^ k := Nat.mul_pos (Nat.two_pow_pos b) (Nat.two_pow_pos k)
    omega

/-- One exponent lower, the quotient has twice the size. -/
theorem scaled_pred {num den n d : Nat} {exponent : Int}
    (hscaled : scaled num den exponent = (n, d)) :
    ∃ m c, scaled num den (exponent - 1) = (m, c) ∧
      ((m = 2 * n ∧ c = d) ∨ (m = n ∧ 2 * c = d)) := by
  by_cases hsign : exponent ≤ 0
  · obtain ⟨k, rfl⟩ : ∃ k : Nat, exponent = -(k : Int) := ⟨(-exponent).toNat, by omega⟩
    have hlower : -(k : Int) - 1 = -((k + 1 : Nat) : Int) := by omega
    rw [scaled_neg, Prod.mk.injEq] at hscaled
    rw [hlower, scaled_neg]
    refine ⟨_, _, rfl, Or.inl ⟨?_, hscaled.2⟩⟩
    rw [← hscaled.1, Nat.pow_succ, ← Nat.mul_assoc, Nat.mul_comm]
  · obtain ⟨k, rfl⟩ : ∃ k : Nat, exponent = ((k + 1 : Nat) : Int) :=
      ⟨(exponent - 1).toNat, by omega⟩
    have hlower : ((k + 1 : Nat) : Int) - 1 = (k : Int) := by omega
    rw [scaled_natCast, Prod.mk.injEq] at hscaled
    rw [hlower, scaled_natCast]
    refine ⟨_, _, rfl, Or.inr ⟨hscaled.1, ?_⟩⟩
    rw [← hscaled.2, Nat.pow_succ, Nat.mul_comm 2, Nat.mul_assoc]

/-- A quotient is rounded where it has 53 bits before the point, unless that lies below the least
exponent. -/
theorem exists_fits {num den : Nat} (hnum : 0 < num) (hden : 0 < den) :
    ∃ exponent, Fits num den exponent ∧ exponentFor num den = max exponent (-1074) := by
  rcases hscaled : scaled num den ((num.log2 : Int) - den.log2 - 52) with ⟨n, d⟩
  obtain ⟨hd, hlow, hhigh⟩ := guess_bounds hnum hden hscaled
  have hchoice : exponentFor num den =
      max (if n / d < 2 ^ 52 then (num.log2 : Int) - den.log2 - 52 - 1
        else (num.log2 : Int) - den.log2 - 52) (-1074) := by
    unfold exponentFor
    dsimp only
    rw [hscaled]
    rfl
  by_cases hshort : n / d < 2 ^ 52
  · rw [if_pos hshort] at hchoice
    rw [Nat.div_lt_iff_lt_mul hd] at hshort
    obtain ⟨m, c, hpred, hsize⟩ := scaled_pred hscaled
    refine ⟨_, ⟨?_, ?_⟩, hchoice⟩ <;> rw [hpred] <;> dsimp only
    · rcases hsize with ⟨rfl, rfl⟩ | ⟨rfl, rfl⟩ <;> omega
    · rcases hsize with ⟨rfl, rfl⟩ | ⟨rfl, rfl⟩ <;> omega
  · rw [if_neg hshort] at hchoice
    rw [Nat.div_lt_iff_lt_mul hd] at hshort
    refine ⟨_, ⟨?_, ?_⟩, hchoice⟩ <;> rw [hscaled] <;> dsimp only
    · omega
    · omega

/-- The number is a fraction, with the sign beside it. -/
def IsFraction (x : Binary64) (negative : Bool) (num den : Nat) : Prop :=
  ∃ n d, 0 < d ∧ x.exact = .fraction (signed negative n) d ∧ x.isNegative = negative ∧
    n * den = num * d

/-- The number lies at `2 ^ 53` or farther from zero. -/
def IsFar (x : Binary64) (negative : Bool) : Prop :=
  x = .infinite negative ∨
    ∃ n d, 0 < d ∧ x.exact = .fraction (signed negative n) d ∧ x.isNegative = negative ∧
      2 ^ 53 * d ≤ n

theorem exact_finite (negative : Bool) (mantissa : Nat) (exponent : Int) :
    (finite negative mantissa exponent).exact =
      .fraction (signed negative (mantissa * 2 ^ exponent.toNat)) (2 ^ (-exponent).toNat) := rfl

theorem isFraction_zero (negative : Bool) (den : Nat) : (zero negative).IsFraction negative 0 den :=
  ⟨0, _, Nat.two_pow_pos _, by rw [zero, exact_finite, Nat.zero_mul], rfl, by omega⟩

/-- A mantissa of 53 bits, or one that a carry has made longer, is put together as it is. -/
theorem isFraction_assemble (negative : Bool) {mantissa : Nat} (hmantissa : mantissa ≤ 2 ^ 53)
    (k : Nat) : (assemble negative mantissa (-(k : Int))).IsFraction negative mantissa (2 ^ k) := by
  unfold assemble
  by_cases hcarry : mantissa = Nat.pow 2 53
  · have hexponent : ¬ (971 : Int) < -(k : Int) + 1 := by omega
    rw [if_pos hcarry]
    dsimp only
    rw [if_neg hexponent]
    refine ⟨_, _, Nat.two_pow_pos _, exact_finite _ _ _, rfl, ?_⟩
    subst hcarry
    cases k with
    | zero => rfl
    | succ k =>
        have hup : (-((k + 1 : Nat) : Int) + 1).toNat = 0 := by omega
        have hdown : (-(-((k + 1 : Nat) : Int) + 1)).toNat = k := by omega
        rw [hup, hdown, Nat.pow_succ 2 k]
        change 2 ^ 52 * 1 * (2 ^ k * 2) = 2 ^ 52 * 2 * 2 ^ k
        omega
  · have hexponent : ¬ (971 : Int) < -(k : Int) := by omega
    rw [if_neg hcarry]
    dsimp only
    rw [if_neg hexponent]
    refine ⟨_, _, Nat.two_pow_pos _, exact_finite _ _ _, rfl, ?_⟩
    have hup : (-(k : Int)).toNat = 0 := by omega
    have hdown : (-(-(k : Int))).toNat = k := by omega
    rw [hup, hdown, Nat.pow_zero, Nat.mul_one]

/-- A mantissa of 53 bits at a positive exponent is far from zero. -/
theorem isFar_assemble (negative : Bool) {mantissa : Nat} (hlow : 2 ^ 52 ≤ mantissa)
    {exponent : Int} (hexponent : 1 ≤ exponent) : (assemble negative mantissa exponent).IsFar
      negative := by
  have hfar : ∀ (m : Nat) (e : Int), 2 ^ 52 ≤ m → 1 ≤ e →
      (if 971 < e then infinite negative else finite negative m e).IsFar negative := by
    intro m e hm he
    split
    next => exact Or.inl rfl
    next =>
      have hdown : (-e).toNat = 0 := by omega
      refine Or.inr ⟨_, _, Nat.two_pow_pos _, exact_finite _ _ _, rfl, ?_⟩
      have hpower : 2 ^ 1 ≤ 2 ^ e.toNat := Nat.pow_le_pow_right (by decide) (by omega)
      have hproduct := Nat.mul_le_mul hm hpower
      rw [hdown]
      omega
  unfold assemble
  by_cases hcarry : mantissa = Nat.pow 2 53
  · rw [if_pos hcarry]
    exact hfar _ _ (Nat.le_refl _) (by omega)
  · rw [if_neg hcarry]
    exact hfar _ _ hlow hexponent

/-- A quotient below `2 ^ 53`, but not too close to zero, is a rounded number of parts, each of
which is a power of two. -/
theorem exists_isFraction_roundQuotient (negative : Bool) {num den : Nat} (hnum : 0 < num)
    (hsmall : num < 2 ^ 53 * den) (hlarge : den ≤ num * 2 ^ 100) :
    ∃ k, 2 ^ 52 * den ≤ num * 2 ^ k ∧ num * 2 ^ k < 2 ^ 53 * den ∧
      (roundQuotient negative num den).IsFraction negative (roundHalfEven (num * 2 ^ k) den)
        (2 ^ k) := by
  have hden : 0 < den := by omega
  obtain ⟨exponent, hfits, hexponent⟩ := exists_fits hnum hden
  have hnonpos : exponent ≤ 0 := by
    refine Int.not_lt.1 fun hpos => ?_
    obtain ⟨k, rfl⟩ : ∃ k : Nat, exponent = ((k + 1 : Nat) : Int) :=
      ⟨(exponent - 1).toNat, by omega⟩
    have hlow := (fits_natCast_iff.1 hfits).1
    have hpower : den * 2 ^ 1 ≤ den * 2 ^ (k + 1) :=
      Nat.mul_le_mul_left _ (Nat.pow_le_pow_right (by decide) (by omega))
    omega
  obtain ⟨k, rfl⟩ : ∃ k : Nat, exponent = -(k : Int) := ⟨(-exponent).toNat, by omega⟩
  obtain ⟨hlow, hhigh⟩ := fits_neg_iff.1 hfits
  have hbound : k < 153 := by
    have hless : num * 2 ^ k < num * 2 ^ 153 := by
      have hstretched : 2 ^ 53 * den ≤ num * 2 ^ 153 := by
        calc 2 ^ 53 * den ≤ 2 ^ 53 * (num * 2 ^ 100) := Nat.mul_le_mul_left _ hlarge
          _ = num * 2 ^ 153 := by rw [Nat.mul_left_comm, ← Nat.pow_add]
      exact Nat.lt_of_lt_of_le hhigh hstretched
    exact (Nat.pow_lt_pow_iff_right (by decide)).1 (Nat.lt_of_mul_lt_mul_left hless)
  have hchosen : exponentFor num den = -(k : Int) := by
    rw [hexponent]
    omega
  have hmantissa : roundHalfEven (num * 2 ^ k) den ≤ 2 ^ 53 :=
    roundHalfEven_le hden (Nat.le_of_lt hhigh)
  refine ⟨k, hlow, hhigh, ?_⟩
  rw [roundQuotient, if_neg (Nat.ne_of_gt hnum), hchosen]
  dsimp only
  rw [scaled_neg]
  exact isFraction_assemble negative hmantissa k

theorem IsFraction.of_mul {x : Binary64} {negative : Bool} {num den c : Nat} (hc : 0 < c)
    (hfraction : x.IsFraction negative (num * c) (den * c)) : x.IsFraction negative num den := by
  obtain ⟨n, d, hd, hexact, hsign, hcross⟩ := hfraction
  refine ⟨n, d, hd, hexact, hsign, Nat.eq_of_mul_eq_mul_right hc ?_⟩
  rw [Nat.mul_assoc, hcross, Nat.mul_right_comm]

/-- Integers below `2 ^ 53` are numbers. -/
theorem isFraction_roundQuotient_of_integer (negative : Bool) {n den : Nat} (hden : 0 < den)
    (hsmall : n < 2 ^ 53) : (roundQuotient negative (n * den) den).IsFraction negative n 1 := by
  by_cases hzero : n = 0
  · subst hzero
    rw [roundQuotient, if_pos (Nat.zero_mul den)]
    exact isFraction_zero negative 1
  · have hnum : 0 < n * den := Nat.mul_pos (Nat.pos_of_ne_zero hzero) hden
    have hlarge : den ≤ n * den * 2 ^ 100 := by
      calc den ≤ n * den := Nat.le_mul_of_pos_left den (Nat.pos_of_ne_zero hzero)
        _ ≤ n * den * 2 ^ 100 := Nat.le_mul_of_pos_right _ (Nat.two_pow_pos 100)
    obtain ⟨k, _, _, hfraction⟩ := exists_isFraction_roundQuotient negative hnum
      (Nat.mul_lt_mul_of_pos_right hsmall hden) hlarge
    rw [Nat.mul_right_comm, roundHalfEven_mul hden, ← Nat.one_mul (2 ^ k)] at hfraction
    simp only [Nat.one_mul] at hfraction
    exact IsFraction.of_mul (Nat.two_pow_pos k) (by rwa [Nat.one_mul])

/-- Quotients from `2 ^ 53` on stay there. -/
theorem isFar_roundQuotient (negative : Bool) {num den : Nat} (hden : 0 < den)
    (hfar : 2 ^ 53 * den ≤ num) : (roundQuotient negative num den).IsFar negative := by
  have hnum : 0 < num := by omega
  obtain ⟨exponent, hfits, hexponent⟩ := exists_fits hnum hden
  have hpos : 1 ≤ exponent := by
    refine Int.not_lt.1 fun hnonpos => ?_
    obtain ⟨k, rfl⟩ : ∃ k : Nat, exponent = -(k : Int) := ⟨(-exponent).toNat, by omega⟩
    have hhigh := (fits_neg_iff.1 hfits).2
    have hpower : num * 1 ≤ num * 2 ^ k := Nat.mul_le_mul_left _ (Nat.two_pow_pos k)
    omega
  have hchosen : exponentFor num den = exponent := by
    rw [hexponent]
    omega
  obtain ⟨k, rfl⟩ : ∃ k : Nat, exponent = (k : Int) := ⟨exponent.toNat, by omega⟩
  have hmantissa : 2 ^ 52 ≤ roundHalfEven num (den * 2 ^ k) :=
    le_roundHalfEven (Nat.mul_pos hden (Nat.two_pow_pos k)) (fits_natCast_iff.1 hfits).1
  rw [roundQuotient, if_neg (Nat.ne_of_gt hnum), hchosen]
  dsimp only
  rw [scaled_natCast]
  exact isFar_assemble negative hmantissa hpos

/-- The integer part of a fraction, toward zero. -/
theorem IsFraction.truncate?_eq {x : Binary64} {negative : Bool} {num den : Nat} (hden : 0 < den)
    (hfraction : x.IsFraction negative num den) :
    x.truncate? = some (signed negative (num / den)) := by
  obtain ⟨n, d, hd, hexact, _, hcross⟩ := hfraction
  have hquotient : n / d = num / den := by
    calc n / d = n * den / (d * den) := (Nat.mul_div_mul_right n d hden).symm
      _ = num * d / (den * d) := by rw [hcross, Nat.mul_comm d den]
      _ = num / den := Nat.mul_div_mul_right num den hd
  rw [truncate?, hexact]
  dsimp only
  rw [← hquotient]
  cases negative with
  | false => simp [signed]
  | true => simp [signed, Int.neg_tdiv]

theorem IsFraction.timesThousand {x : Binary64} {negative : Bool} {n : Nat}
    (hfraction : x.IsFraction negative n 1) :
    if n * 1000 < 2 ^ 53 then x.timesThousand.IsFraction negative (n * 1000) 1
    else x.timesThousand.IsFar negative := by
  obtain ⟨c, d, hd, hexact, hsign, hcross⟩ := hfraction
  have hproduct : c * 1000 = n * 1000 * d := by
    rw [Nat.mul_one] at hcross
    rw [hcross, Nat.mul_right_comm]
  rw [Binary64.timesThousand, hexact]
  dsimp only
  rw [hsign, natAbs_signed, hproduct]
  split
  next hsmall => exact isFraction_roundQuotient_of_integer negative hd hsmall
  next hfar =>
    exact isFar_roundQuotient negative hd (Nat.mul_le_mul_right d (Nat.le_of_not_lt hfar))

theorem IsFar.timesThousand {x : Binary64} {negative : Bool} (hfar : x.IsFar negative) :
    x.timesThousand.IsFar negative := by
  rcases hfar with rfl | ⟨n, d, hd, hexact, hsign, hn⟩
  · exact Or.inl rfl
  · rw [Binary64.timesThousand, hexact]
    dsimp only
    rw [hsign, natAbs_signed]
    exact isFar_roundQuotient negative hd (by omega)

end Binary64

end EventIntake
