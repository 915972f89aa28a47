/-
Decimal digits of numbers: they are read as the number that they write.
-/
import EventIntake.Json.Token
import Mathlib.Data.List.TakeWhile

namespace EventIntake

namespace Text

theorem isAsciiDigit_iff {c : Char} : isAsciiDigit c = true ↔ c.isDigit = true := by
  rw [isAsciiDigit, Char.isDigit, Bool.and_eq_true, Bool.and_eq_true, decide_eq_true_eq,
    decide_eq_true_eq, decide_eq_true_eq, decide_eq_true_eq]
  exact Iff.rfl

theorem toNat_of_isDigit {c : Char} (hdigit : c.isDigit = true) :
    48 ≤ c.toNat ∧ c.toNat ≤ 57 := by
  rwa [← isAsciiDigit_iff, isAsciiDigit, Bool.and_eq_true, decide_eq_true_eq,
    decide_eq_true_eq] at hdigit

theorem decimalValue?_of_isDigit {c : Char} (hdigit : c.isDigit = true) :
    decimalValue? c = some (c.toNat - 48) := by
  have hrange := toNat_of_isDigit hdigit
  rw [decimalValue?, if_pos (by omega), if_pos hrange]

theorem isDecimal_of_isDigit {c : Char} (hdigit : c.isDigit = true) : isDecimal c = true := by
  rw [isDecimal, decimalValue?_of_isDigit hdigit, Option.isSome_some]

end Text

namespace Number

/-- Where there are no underscores the run of digits are the decimal ones at the start. -/
theorem digitRun_of_not_mem {cs : List Char} (hplain : '_' ∉ cs) (inside : Bool) :
    digitRun inside cs =
      ((cs.takeWhile Text.isDecimal).map fun c => (Text.decimalValue? c).getD 0,
        cs.dropWhile Text.isDecimal) := by
  induction cs generalizing inside with
  | nil => rfl
  | cons c rest ih =>
      simp only [List.mem_cons, not_or] at hplain
      obtain ⟨hc, hrest⟩ := hplain
      rw [digitRun]
      · cases hvalue : Text.decimalValue? c with
        | none => simp [Text.isDecimal, hvalue]
        | some d => simp [Text.isDecimal, hvalue, ih hrest]
      · exact fun _ _ hline => absurd hline.symm hc

theorem digitRun_of_isDigit {cs : List Char} (hdigits : ∀ c ∈ cs, c.isDigit = true)
    (inside : Bool) : digitRun inside cs = (cs.map (·.toNat - 48), []) := by
  have hplain : '_' ∉ cs := fun hmem => by cases hdigits '_' hmem
  have hdecimal : ∀ c ∈ cs, Text.isDecimal c = true :=
    fun c hc => Text.isDecimal_of_isDigit (hdigits c hc)
  have hvalues : cs.map (fun c => (Text.decimalValue? c).getD 0) = cs.map (·.toNat - 48) :=
    List.map_congr_left fun c hc => by
      rw [Text.decimalValue?_of_isDigit (hdigits c hc), Option.getD_some]
  rw [digitRun_of_not_mem hplain, List.takeWhile_eq_self_iff.2 hdecimal, hvalues,
    List.dropWhile_eq_nil_iff.2 hdecimal]

/-- The digits of a number write it. -/
theorem ofDigits_toDigits (n : Nat) : ofDigits ((Nat.toDigits 10 n).map (·.toNat - 48)) = n := by
  rw [ofDigits, List.foldl_map]
  exact Nat.ofDigitChars_ten_toDigits

/-- The text of an integer: its digits, behind a minus if it is negative. -/
theorem toList_toString (n : Int) :
    (toString n).toList =
      (if n < 0 then ['-'] else []) ++ Nat.toDigits 10 n.natAbs := by
  rw [Int.toString_eq_repr, Int.repr_eq_if]
  by_cases hsign : 0 ≤ n
  · have habs : n.toNat = n.natAbs := by omega
    rw [if_pos hsign, if_neg (by omega), habs, Nat.toList_repr, List.nil_append]
  · have habs : (-n).toNat = n.natAbs := by omega
    rw [if_neg hsign, if_pos (by omega), habs, String.toList_append, Nat.toList_repr]
    rfl

theorem isDigit_of_mem_toDigits {n : Nat} : ∀ c ∈ Nat.toDigits 10 n, c.isDigit = true :=
  fun _ hc => Nat.isDigit_of_mem_toDigits (by decide) (by decide) hc

/-- The text of an integer is read back in one way only. -/
theorem toString_inj {a b : Int} : toString a = toString b ↔ a = b := by
  refine ⟨fun hequal => ?_, fun hequal => by rw [hequal]⟩
  have hlists := congrArg String.toList hequal
  rw [toList_toString, toList_toString] at hlists
  have hplain : ∀ n rest, Nat.toDigits 10 n ≠ '-' :: rest := by
    intro n rest hline
    have hdigit := isDigit_of_mem_toDigits '-' (hline ▸ List.mem_cons_self)
    cases hdigit
  have hdigits : ∀ {n m}, Nat.toDigits 10 n = Nat.toDigits 10 m → n = m := by
    intro n m hline
    rw [← ofDigits_toDigits n, hline, ofDigits_toDigits]
  by_cases ha : a < 0 <;> by_cases hb : b < 0
  · rw [if_pos ha, if_pos hb] at hlists
    have habs := hdigits (List.append_cancel_left hlists)
    omega
  · rw [if_pos ha, if_neg hb] at hlists
    exact absurd hlists.symm (hplain _ _)
  · rw [if_neg ha, if_pos hb] at hlists
    exact absurd hlists (hplain _ _)
  · rw [if_neg ha, if_neg hb] at hlists
    have habs := hdigits (List.append_cancel_left hlists)
    omega

/-- A zero in front has no digits behind it. -/
theorem eq_zero_of_toDigits {n : Nat} {rest : List Char}
    (hdigits : Nat.toDigits 10 n = '0' :: rest) : n = 0 := by
  induction n using Nat.strongRecOn generalizing rest with
  | ind n ih =>
      by_cases hsmall : n < 10
      · rw [Nat.toDigits_of_lt_base hsmall] at hdigits
        have hzero : n = 0 ∧ rest = [] := by simpa using hdigits
        exact hzero.1
      · rw [Nat.toDigits_of_base_le (by decide) (by omega)] at hdigits
        cases hinner : Nat.toDigits 10 (n / 10) with
        | nil => exact absurd hinner Nat.toDigits_ne_nil
        | cons c more =>
            rw [hinner] at hdigits
            obtain ⟨rfl, _⟩ := List.cons.inj hdigits
            have hzero := ih (n / 10) (by omega) hinner
            omega

theorem length_toDigits_le {n digits : Nat} (hdigits : 0 < digits) (hn : n < digitBound digits) :
    (Nat.toDigits 10 n).length ≤ digits :=
  (Nat.length_toDigits_le_iff (by decide) hdigits).2 hn

/-- The sign and the digits of an integer are told apart. -/
theorem takeSign_toString (n : Int) :
    takeSign (toString n).toList = (decide (n < 0), Nat.toDigits 10 n.natAbs) := by
  rw [toList_toString]
  by_cases hsign : n < 0
  · rw [if_pos hsign, decide_eq_true hsign]
    rfl
  · rw [if_neg hsign, decide_eq_false hsign, List.nil_append, takeSign]
    · rintro rest hminus
      have hdigit := isDigit_of_mem_toDigits '-' (hminus ▸ List.mem_cons_self)
      cases hdigit
    · rintro rest hplus
      have hdigit := isDigit_of_mem_toDigits '+' (hplus ▸ List.mem_cons_self)
      cases hdigit

/-- An integer that is not too long is read as it is written. -/
theorem readInteger_toString {n : Int} (hshort : n.natAbs < digitBound digitLimit) :
    readInteger (toString n).toList = .ok n := by
  have hlength : (Nat.toDigits 10 n.natAbs).length ≤ digitLimit :=
    length_toDigits_le (by decide) hshort
  have hrun : digitRun false (Nat.toDigits 10 n.natAbs) = _ :=
    digitRun_of_isDigit isDigit_of_mem_toDigits false
  have hsome : (Nat.toDigits 10 n.natAbs).isEmpty = false := by
    simp [Nat.toDigits_ne_nil]
  rw [readInteger, takeSign_toString]
  dsimp only
  rw [hrun, List.isEmpty_map, hsome]
  dsimp only
  rw [if_neg (by simp), List.length_map, if_neg (by omega), if_neg (by simp), ofDigits_toDigits]
  congr 1
  by_cases hsign : n < 0
  · rw [if_pos (decide_eq_true hsign)]
    omega
  · rw [if_neg (by simpa using hsign)]
    omega

end Number

end EventIntake
