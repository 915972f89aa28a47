/-
The milliseconds that are stored with an event.  The microseconds of its instant become seconds and
then milliseconds of 53 bits, and the nearest integer to those.  In the calendar the three roundings
together go hardly farther than the last one alone, and for some centuries not at all.
-/
import Mathlib.Tactic.FieldSimp
import Mathlib.Tactic.GCongr
import Mathlib.Tactic.Linarith
import Mathlib.Tactic.NormNum
import Mathlib.Tactic.Ring
import Mathlib.Algebra.Order.Field.Basic
import Mathlib.Data.Rat.Cast.Order
import EventIntake.Normalize
import EventIntake.Proofs.DateTimestamps

namespace EventIntake

/-- Rounding goes no farther than half a unit. -/
theorem abs_roundHalfEven_sub_le {num den : Nat} (hden : 0 < den) :
    |(roundHalfEven num den : ℚ) - num / den| ≤ 1 / 2 := by
  have hpos : (0 : ℚ) < den := Nat.cast_pos.2 hden
  have hsplit : (num : ℚ) / den = (num / den : Nat) + (num % den : Nat) / den := by
    rw [div_eq_iff hpos.ne', add_mul, div_mul_cancel₀ _ hpos.ne', mul_comm]
    exact_mod_cast (Nat.div_add_mod num den).symm
  rw [hsplit]
  rcases roundHalfEven_cases num den with ⟨hround, hdown⟩ | ⟨hround, hup⟩
  · have hrest : ((num % den : Nat) : ℚ) / den ≤ 1 / 2 := by
      rw [div_le_iff₀ hpos]
      have hcast : (2 : ℚ) * (num % den : Nat) ≤ den := by exact_mod_cast hdown
      linarith
    have hnonneg : (0 : ℚ) ≤ ((num % den : Nat) : ℚ) / den := by positivity
    rw [hround, abs_le]
    constructor <;> linarith
  · have hrest : (1 : ℚ) / 2 ≤ ((num % den : Nat) : ℚ) / den := by
      rw [le_div_iff₀ hpos]
      have hcast : (den : ℚ) ≤ 2 * (num % den : Nat) := by exact_mod_cast hup
      linarith
    have hless : ((num % den : Nat) : ℚ) / den ≤ 1 := by
      rw [div_le_one hpos]
      exact_mod_cast (Nat.mod_lt num hden).le
    rw [hround, Nat.cast_add, Nat.cast_one, abs_le]
    constructor <;> linarith

theorem roundHalfEvenInt_signed (negative : Bool) (num den : Nat) :
    roundHalfEvenInt (signed negative num) den = signed negative (roundHalfEven num den) := by
  rw [roundHalfEvenInt, natAbs_signed]
  cases negative with
  | false => exact if_neg (Int.not_lt.2 (Int.natCast_nonneg num))
  | true =>
      cases num with
      | zero => simp [signed, roundHalfEven]
      | succ num => exact if_pos (Int.negSucc_lt_zero num)

namespace Binary64

/-- A quotient that leaves `l` of the 53 bits to its fraction is rounded by no more than a part of
`2 ^ (l + 1)`. -/
theorem exists_near_roundQuotient (negative : Bool) {num den l : Nat} (hnum : 0 < num)
    (hsmall : num * 2 ^ l < 2 ^ 53 * den) (hlarge : den ≤ num * 2 ^ 47) :
    ∃ k m, k < 100 ∧ 2 ^ 52 ≤ m ∧
      (roundQuotient negative num den).IsFraction negative m (2 ^ k) ∧
      |(m : ℚ) / 2 ^ k - num / den| ≤ 1 / 2 ^ (l + 1) := by
  have hden : 0 < den := by omega
  have hbelow : num ≤ num * 2 ^ l := Nat.le_mul_of_pos_right _ (Nat.two_pow_pos l)
  have hfinite : num < 2 ^ 53 * den := Nat.lt_of_le_of_lt hbelow hsmall
  have hclose : den ≤ num * 2 ^ 100 :=
    Nat.le_trans hlarge (Nat.mul_le_mul_left _ (Nat.pow_le_pow_right (by decide) (by decide)))
  obtain ⟨k, hlow, hhigh, hfraction⟩ :=
    exists_isFraction_roundQuotient negative hnum hfinite hclose
  have hfew : k < 100 := by
    have hless : num * 2 ^ k < num * 2 ^ 100 := by
      calc num * 2 ^ k < 2 ^ 53 * den := hhigh
        _ ≤ 2 ^ 53 * (num * 2 ^ 47) := Nat.mul_le_mul_left _ hlarge
        _ = num * 2 ^ 100 := by rw [Nat.mul_left_comm, ← Nat.pow_add]
    exact (Nat.pow_lt_pow_iff_right (by decide)).1 (Nat.lt_of_mul_lt_mul_left hless)
  have hbits : l ≤ k := by
    refine Nat.le_of_not_lt fun hless => ?_
    have hstretched : num * 2 ^ (k + 1) ≤ num * 2 ^ l :=
      Nat.mul_le_mul_left _ (Nat.pow_le_pow_right (by decide) hless)
    rw [Nat.pow_succ, ← Nat.mul_assoc] at hstretched
    omega
  refine ⟨k, _, hfew, le_roundHalfEven hden hlow, hfraction, ?_⟩
  have hround : |(roundHalfEven (num * 2 ^ k) den : ℚ) - (num * 2 ^ k : Nat) / den| ≤ 1 / 2 :=
    abs_roundHalfEven_sub_le hden
  have hunit : (0 : ℚ) < 2 ^ k := by positivity
  have hscaled : (roundHalfEven (num * 2 ^ k) den : ℚ) / 2 ^ k - num / den =
      ((roundHalfEven (num * 2 ^ k) den : ℚ) - (num * 2 ^ k : Nat) / den) / 2 ^ k := by
    push_cast
    field_simp
  rw [hscaled, abs_div, abs_of_pos hunit]
  calc _ ≤ 1 / 2 / (2 : ℚ) ^ k := by gcongr
    _ ≤ 1 / 2 / 2 ^ l := by gcongr; norm_num
    _ = 1 / 2 ^ (l + 1) := by rw [pow_succ]; field_simp

/-- The nearest integer to a fraction is no farther from it than half. -/
theorem IsFraction.exists_round? {x : Binary64} {negative : Bool} {num den : Nat}
    (hfraction : x.IsFraction negative num den) (hden : 0 < den) :
    ∃ n : Nat, x.round? = some (signed negative n) ∧ |(n : ℚ) - num / den| ≤ 1 / 2 := by
  obtain ⟨n, d, hd, hexact, _, hcross⟩ := hfraction
  have hvalue : (n : ℚ) / d = num / den := by
    rw [div_eq_div_iff (by positivity) (by positivity)]
    exact_mod_cast hcross
  refine ⟨roundHalfEven n d, ?_, hvalue ▸ abs_roundHalfEven_sub_le hd⟩
  rw [round?, hexact]
  exact congrArg some (roundHalfEvenInt_signed negative n d)

/-- A thousand times a fraction is rounded by no more than a part of `2 ^ (l + 1)`, if it leaves `l`
of the 53 bits to its fraction. -/
theorem IsFraction.exists_timesThousand {x : Binary64} {negative : Bool} {m k l : Nat}
    (hfraction : x.IsFraction negative m (2 ^ k)) (hk : k < 100) (hm : 2 ^ 52 ≤ m)
    (hsmall : m * 1000 * 2 ^ l < 2 ^ 53 * 2 ^ k) :
    ∃ k' m', x.timesThousand.IsFraction negative m' (2 ^ k') ∧
      |(m' : ℚ) / 2 ^ k' - 1000 * (m / 2 ^ k)| ≤ 1 / 2 ^ (l + 1) := by
  obtain ⟨n, d, hd, hexact, hsign, hcross⟩ := hfraction
  have hnum : 0 < n * 1000 := by
    have hpos : 0 < m * d := Nat.mul_pos (by omega) hd
    rw [← hcross] at hpos
    exact Nat.mul_pos (Nat.pos_of_mul_pos_right hpos) (by decide)
  have hfew : n * 1000 * 2 ^ l < 2 ^ 53 * d := by
    have hless : n * 1000 * 2 ^ l * 2 ^ k < 2 ^ 53 * d * 2 ^ k := by
      calc n * 1000 * 2 ^ l * 2 ^ k = n * 2 ^ k * (1000 * 2 ^ l) := by ring
        _ = m * 1000 * 2 ^ l * d := by rw [hcross]; ring
        _ < 2 ^ 53 * 2 ^ k * d := Nat.mul_lt_mul_of_pos_right hsmall hd
        _ = 2 ^ 53 * d * 2 ^ k := by ring
    exact Nat.lt_of_mul_lt_mul_right hless
  have hlarge : d ≤ n * 1000 * 2 ^ 47 := by
    have hunit : 2 ^ k ≤ 2 ^ 100 := Nat.pow_le_pow_right (by decide) hk.le
    have hle : d * 2 ^ k ≤ n * 2 ^ 48 * 2 ^ k := by
      calc d * 2 ^ k ≤ d * 2 ^ 100 := Nat.mul_le_mul_left d hunit
        _ ≤ d * (m * 2 ^ 48) := Nat.mul_le_mul_left d (by omega)
        _ = m * d * 2 ^ 48 := by ring
        _ = n * 2 ^ 48 * 2 ^ k := by rw [← hcross]; ring
    calc d ≤ n * 2 ^ 48 := Nat.le_of_mul_le_mul_right hle (Nat.two_pow_pos k)
      _ ≤ n * (1000 * 2 ^ 47) := Nat.mul_le_mul_left n (by norm_num)
      _ = n * 1000 * 2 ^ 47 := by ring
  obtain ⟨k', m', _, _, hrounded, hnear⟩ := exists_near_roundQuotient negative hnum hfew hlarge
  refine ⟨k', m', ?_, ?_⟩
  · rw [Binary64.timesThousand, hexact]
    dsimp only
    rwa [hsign, natAbs_signed]
  · have hvalue : ((n * 1000 : Nat) : ℚ) / d = 1000 * (m / 2 ^ k) := by
      have hratio : (n : ℚ) / d = m / 2 ^ k := by
        rw [div_eq_div_iff (by positivity) (by positivity)]
        exact_mod_cast hcross
      rw [← hratio]
      push_cast
      ring
    rwa [hvalue] at hnear

/-- Microseconds become seconds, milliseconds and a whole number of those.  In the `2 ^ j`-th part
of the calendar around 1970 the two roundings to 53 bits add less than 31 parts of `2 ^ j` to the
half millisecond. -/
theorem exists_near_millis (negative : Bool) {micros : Nat} (hpos : 0 < micros) (j : Nat)
    (hrange : micros * 2 ^ j ≤ 253402300800000000) :
    ∃ millis : Nat, (roundQuotient negative micros 1000000).timesThousand.round? =
        some (signed negative millis) ∧
      |(1000 * millis : ℚ) - micros| < 500 + 31 / 2 ^ j := by
  have hscale : (0 : ℚ) < 2 ^ j := by positivity
  have hinv : (0 : ℚ) < (2 ^ j)⁻¹ := inv_pos.2 hscale
  have hpart (l : Nat) : (1 : ℚ) / 2 ^ (l + j + 1) = 1 / 2 ^ (l + 1) * (2 ^ j)⁻¹ := by
    rw [Nat.add_right_comm, pow_add, ← div_div, div_eq_mul_inv]
  have hmicros : (micros : ℚ) ≤ 253402300800000000 * (2 ^ j)⁻¹ := by
    rw [← div_eq_mul_inv, le_div_iff₀ hscale]
    exact_mod_cast hrange
  obtain ⟨k, m, hk, hm, hseconds, hnear⟩ := exists_near_roundQuotient negative hpos
    (show micros * 2 ^ (15 + j) < 2 ^ 53 * 1000000 by
      rw [Nat.pow_add, Nat.mul_left_comm]
      omega)
    (show 1000000 ≤ micros * 2 ^ 47 by omega)
  rw [hpart, abs_le] at hnear
  norm_num at hnear
  have hsmall : m * 1000 * 2 ^ (5 + j) < 2 ^ 53 * 2 ^ k := by
    have hunit : (0 : ℚ) < 2 ^ k := by positivity
    have hratio : (m : ℚ) / 2 ^ k ≤ 253402300801 / 2 ^ j := by
      rw [div_eq_mul_inv 253402300801]
      linarith
    rw [div_le_div_iff₀ hunit hscale] at hratio
    have hless : (m : ℚ) * 1000 * 2 ^ (5 + j) < 2 ^ 53 * 2 ^ k := by
      rw [pow_add]
      linarith
    exact_mod_cast hless
  obtain ⟨k', m', hmillis, hnear'⟩ := hseconds.exists_timesThousand hk hm hsmall
  obtain ⟨millis, hround, hnear''⟩ := hmillis.exists_round? (Nat.two_pow_pos k')
  rw [hpart, abs_le] at hnear'
  rw [abs_le] at hnear''
  norm_num at hnear' hnear''
  refine ⟨millis, hround, ?_⟩
  rw [div_eq_mul_inv, abs_lt]
  constructor <;> linarith

end Binary64

namespace Envelope

/-- In the `2 ^ j`-th part of the calendar the milliseconds that are stored are the nearest ones to
the instant, with an error of `slack` microseconds. -/
theorem epochMillis_within {micros : Int} (hzero : micros ≠ 0) (j slack : Nat)
    (hrange : micros.natAbs * 2 ^ j ≤ 253402300800000000) (hslack : 31 ≤ (slack + 1) * 2 ^ j) :
    (1000 * epochMillis micros - micros).natAbs ≤ 500 + slack := by
  obtain ⟨millis, hround, hnear⟩ :=
    Binary64.exists_near_millis (micros < 0) (Int.natAbs_pos.2 hzero) j hrange
  have hvalue : epochMillis micros = signed (micros < 0) millis := by
    rw [epochMillis, Binary64.ofFraction, hround]
    rfl
  have herror : (31 : ℚ) / 2 ^ j ≤ slack + 1 := by
    rw [div_le_iff₀ (by positivity)]
    exact_mod_cast hslack
  rw [abs_lt] at hnear
  have habove : (1000 * millis : ℚ) < micros.natAbs + 500 + slack + 1 := by linarith
  have hbelow : (micros.natAbs : ℚ) < 1000 * millis + 500 + slack + 1 := by linarith
  norm_cast at habove hbelow
  rw [hvalue, signed]
  split
  next hsign =>
    have hnegative := of_decide_eq_true hsign
    omega
  next hsign =>
    have hnonneg : ¬ micros < 0 := by simpa using hsign
    omega

/-- By how many microseconds the floats may miss the nearest millisecond: not at all from 1720 to
2219. -/
def roundingSlack (micros : Int) : Nat :=
  if micros.natAbs ≤ 7918821900000000 then 0 else 30

/-- In the calendar, the milliseconds that are stored are the nearest ones to the instant, up to the
rounding of floats. -/
theorem epochMillis_near {micros : Int} (hrange : micros.natAbs ≤ 253402300800000000) :
    (1000 * epochMillis micros - micros).natAbs ≤ 500 + roundingSlack micros := by
  by_cases hzero : micros = 0
  · subst hzero
    decide +kernel
  rw [roundingSlack]
  split
  next hclose => exact epochMillis_within hzero 5 0 (by omega) (by decide)
  next => exact epochMillis_within hzero 0 30 (by omega) (by decide)

/-- Within the nearer half of a millisecond, the milliseconds that are stored are those of a
transformation, up to the rounding of floats. -/
theorem epochMillis_eq_ofInstant {micros : Int} (hrange : micros.natAbs ≤ 253402300800000000)
    (hrest : micros.natAbs % 1000 + roundingSlack micros < 500) :
    Transform.Timestamp.ofInstant micros = epochMillis micros := by
  have hnear := epochMillis_near hrange
  have hround : ¬ RoundsUp micros.natAbs := by
    have hpower := pow_log2_le (show micros.natAbs / 1000 < 2 ^ (47 + 1) by omega)
    rw [RoundsUp]
    omega
  rw [Transform.Timestamp.ofInstant_eq (by omega)]
  rcases Int.lt_or_le micros 0 with hsign | hsign
  · have hkeeps := keepsMillis_of_neg hsign
    split
    next hkept =>
      have hwhole := (hkeeps.1 hkept).resolve_right hround
      omega
    next hlost =>
      have hpart : ¬ micros % 1000 = 0 := fun hwhole => hlost (hkeeps.2 (.inl hwhole))
      omega
  · rw [if_pos ((keepsMillis_of_nonneg hsign).2 hround)]
    omega

end Envelope

end EventIntake
