/-
The name of universal time at the end of a text.  What the international notation accepts with such
a name, it reads the same with the offset of universal time in its place, so that the name is never
felt.
-/
import Mathlib.Data.List.Induction
import EventIntake.Proofs.IsoEnding

namespace EventIntake

namespace Text

/-- The letters of the names of universal time, and the blank before them. -/
def zoneLetters : List Char := [' ', 'C', 'G', 'M', 'T', 'U']

/-- The same letters in either case. -/
def zoneChars : List Char := zoneLetters ++ ['c', 'g', 'm', 't', 'u']

variable {c d : Char}

theorem toNat_bounds_of_mem_zoneLetters (hd : d ∈ zoneLetters) : 0 < d.toNat ∧ d.toNat < 128 := by
  have hall : zoneLetters.all fun d => 0 < d.toNat ∧ d.toNat < 128 := by decide
  simp only [List.all_eq_true, decide_eq_true_eq] at hall
  exact hall d hd

/-- Past ASCII no span leads to a zone letter. -/
theorem ofNat_not_mem_zoneLetters {span : CaseSpan} {n : Nat} (hspan : span ∈ upperSpans)
    (hcovers : span.covers n = true) (hhigh : 128 ≤ n) :
    Char.ofNat ((n : Int) + span.shift).toNat ∉ zoneLetters := by
  have hmoved : upperSpans.all fun span => zoneLetters.all fun d => span.last < 128 ∨
      (d.toNat : Int) < span.first + span.shift ∨ (span.last : Int) + span.shift < d.toNat := by
    decide +kernel
  simp only [List.all_eq_true, decide_eq_true_eq] at hmoved
  intro hd
  simp only [CaseSpan.covers, Bool.and_eq_true, decide_eq_true_eq] at hcovers
  have hrange := hmoved span hspan _ hd
  have hpos := (toNat_bounds_of_mem_zoneLetters hd).1
  -- What is no character is no zone letter either.
  have hcode : (Char.ofNat ((n : Int) + span.shift).toNat).toNat =
      ((n : Int) + span.shift).toNat ∨
        (Char.ofNat ((n : Int) + span.shift).toNat).toNat = 0 := by
    rw [Char.ofNat]
    by_cases hvalid : ((n : Int) + span.shift).toNat.isValidChar
    · rw [dif_pos hvalid]
      exact .inl rfl
    · rw [dif_neg hvalid]
      exact .inr rfl
  omega

/-- The upper case of a letter is one letter, which is a zone letter only for the letters of the
zones' names, or one of the expansions. -/
theorem upperLetter_cases (c : Char) :
    (∃ d, upperLetter c = [d] ∧ (d ∈ zoneLetters → c ∈ zoneChars)) ∨
      ∃ entry ∈ upperExpansions, upperLetter c = entry.2.map Char.ofNat := by
  have hascii : ∀ n < 128, (upperLetter (Char.ofNat n)).length = 1 ∧
      (upperLetter (Char.ofNat n)).all fun d => d ∈ zoneLetters → Char.ofNat n ∈ zoneChars := by
    decide +kernel
  simp only [List.all_eq_true, decide_eq_true_eq] at hascii
  rcases Nat.lt_or_ge c.toNat 128 with hlow | hhigh
  · obtain ⟨hlength, hzone⟩ := hascii c.toNat hlow
    rw [Char.ofNat_toNat] at hlength hzone
    obtain ⟨d, hd⟩ := List.length_eq_one_iff.1 hlength
    exact .inl ⟨d, hd, hzone d (hd ▸ List.mem_cons_self)⟩
  rw [upperLetter, if_neg (by omega), mapLetter]
  split
  next letters hletters =>
    obtain ⟨before, after, hmem, _⟩ := List.lookup_eq_some_iff.1 hletters
    refine .inr ⟨(c.toNat, letters), ?_, rfl⟩
    rw [hmem]
    simp
  next =>
    split
    next span hspan =>
      have hcovers : span.covers c.toNat = true := by simpa using List.find?_some hspan
      have hnone := ofNat_not_mem_zoneLetters (List.mem_of_find?_eq_some hspan) hcovers hhigh
      exact .inl ⟨_, rfl, fun hd => absurd hd hnone⟩
    next =>
      refine .inl ⟨c, rfl, fun hc => ?_⟩
      have hless := (toNat_bounds_of_mem_zoneLetters hc).2
      omega

/-- A text whose upper case ends in a zone letter ends in one, unless it ends in a ligature. -/
theorem exists_of_upper_concat {cs letters : List Char} (hd : d ∈ zoneLetters)
    (hupper : cs.flatMap upperLetter = letters ++ [d])
    (hligature : d = 'T' → letters.getLast? ≠ some 'S') :
    ∃ front c, cs = front ++ [c] ∧ front.flatMap upperLetter = letters ∧ c ∈ zoneChars := by
  have hexpanded : upperExpansions.all fun entry => entry.2 ≠ [] ∧
      zoneLetters.all fun d => (entry.2.map Char.ofNat).getLast? = some d →
        d = 'T' ∧ entry.2.map Char.ofNat = ['S', 'T'] := by
    decide +kernel
  simp only [List.all_eq_true, decide_eq_true_eq] at hexpanded
  rcases List.eq_nil_or_concat cs with rfl | ⟨front, c, rfl⟩
  · simp at hupper
  rw [List.concat_eq_append, List.flatMap_append, List.flatMap_singleton] at hupper
  rcases upperLetter_cases c with ⟨e, hletter, hzone⟩ | ⟨entry, hentry, hletters⟩
  · rw [hletter] at hupper
    obtain ⟨hfront, hlast⟩ := List.append_inj' hupper rfl
    cases hlast
    exact ⟨front, c, List.concat_eq_append, hfront, hzone hd⟩
  · obtain ⟨hsome, hends⟩ := hexpanded entry hentry
    have hlast : (entry.2.map Char.ofNat).getLast? = some d := by
      have hend := congrArg List.getLast? hupper
      rwa [hletters, List.getLast?_append_of_ne_nil _ (by simpa using hsome),
        List.getLast?_concat] at hend
    obtain ⟨rfl, hligated⟩ := hends d hd hlast
    have hboth : ['S', 'T'] = ['S'] ++ ['T'] := rfl
    rw [hletters, hligated, hboth, ← List.append_assoc, List.append_left_inj] at hupper
    rw [← hupper, List.getLast?_concat] at hligature
    exact absurd rfl (hligature rfl)

/-- A text whose upper case ends in a word of zone letters ends in as many of either case. -/
theorem exists_of_upper_append {word letters cs : List Char}
    (hword : ∀ d ∈ word, d ∈ zoneLetters) (hfirst : word.head? ≠ some 'T')
    (hupper : cs.flatMap upperLetter = letters ++ word) :
    ∃ front zone, cs = front ++ zone ∧ zone.length = word.length ∧ ∀ c ∈ zone, c ∈ zoneChars := by
  induction word using List.reverseRecOn generalizing cs with
  | nil => exact ⟨cs, [], by simp, rfl, by simp⟩
  | append_singleton word d ih =>
      obtain ⟨hbefore, hd⟩ := List.forall_mem_append.1 hword
      have hligature : d = 'T' → (letters ++ word).getLast? ≠ some 'S' := by
        rintro rfl hend
        rcases List.eq_nil_or_concat word with rfl | ⟨before, e, rfl⟩
        · exact hfirst rfl
        · rw [List.concat_eq_append, ← List.append_assoc, List.getLast?_concat] at hend
          cases hend
          have hletter := hbefore 'S' (by simp)
          revert hletter
          decide
      rw [← List.append_assoc] at hupper
      obtain ⟨front, c, rfl, hfront, hc⟩ :=
        exists_of_upper_concat (hd d List.mem_cons_self) hupper hligature
      have hstart : word.head? ≠ some 'T' := by
        cases word with
        | nil => simp
        | cons e word => exact hfirst
      obtain ⟨front, zone, rfl, hlength, hzone⟩ := ih hbefore hstart hfront
      refine ⟨front, zone ++ [c], by rw [List.append_assoc], by simp [hlength], ?_⟩
      exact List.forall_mem_append.2 ⟨hzone, by simpa using hc⟩

end Text

/-- The name of a zone is written in zone letters of either case. -/
theorem Instant.withZone_cases (text : String) : withZone text = text ∨
    ∃ front zone, text.toList = front ++ zone ∧ zone.length = 4 ∧
      (∀ c ∈ zone, c ∈ Text.zoneChars) ∧ withZone text = String.ofList front ++ "+00:00" := by
  have hend : ∀ word ∈ [" UTC".toList, " GMT".toList],
      (Text.upper text).toList.reverse.take 4 = word.reverse →
        ∃ front zone, text.toList = front ++ zone ∧ zone.length = 4 ∧
          ∀ c ∈ zone, c ∈ Text.zoneChars := by
    intro word hword hending
    have hnames : [" UTC".toList, " GMT".toList].all fun word =>
        word.all (· ∈ Text.zoneLetters) ∧ word.head? ≠ some 'T' ∧ word.length = 4 := by
      decide
    simp only [List.all_eq_true, decide_eq_true_eq] at hnames
    obtain ⟨hletters, hfirst, hlength⟩ := hnames word hword
    have hsplit := List.take_append_drop 4 (Text.upper text).toList.reverse
    have hupper := congrArg List.reverse hsplit
    rw [hending, List.reverse_append, List.reverse_reverse, List.reverse_reverse, Text.upper,
      String.toList_ofList] at hupper
    rw [← hlength]
    exact Text.exists_of_upper_append hletters hfirst hupper.symm
  rw [withZone]
  split
  next hzone =>
    have hsplit : ∃ front zone, text.toList = front ++ zone ∧ zone.length = 4 ∧
        ∀ c ∈ zone, c ∈ Text.zoneChars := by
      rcases hzone with hutc | hgmt
      · exact hend _ (by simp) hutc
      · exact hend _ (by simp) hgmt
    obtain ⟨front, zone, htext, hlength, hzone⟩ := hsplit
    have hfront : text.toList.take (text.length - 4) = front := by
      rw [← String.length_toList, htext, List.length_append, hlength, Nat.add_sub_cancel,
        List.take_left]
    exact .inr ⟨front, zone, htext, hlength, hzone, by rw [hfront]⟩
  next => exact .inl rfl

namespace Iso

theorem isIdle_of_mem_zoneChars {c : Char} (hc : c ∈ Text.zoneChars) : IsIdle c := by
  have hall : Text.zoneChars.all fun c => Text.isAsciiDigit c = false ∧ startsOffset c = false ∧
      c ≠ endMark ∧ (c ≠ ':' ∧ c ≠ '.' ∧ c ≠ ',') ∧ c ≠ 'W' ∧ c.utf8Size = 1 := by
    decide
  simp only [List.all_eq_true, decide_eq_true_eq] at hall
  obtain ⟨hdigit, hoffset, hending, hmark, hweek, hsingle⟩ := hall c hc
  exact ⟨hdigit, hoffset, hending, hmark, hweek, hsingle⟩

theorem withOffset_eq_self {text : String} {c : Char} (hstrip : Text.strip text = text)
    (hlast : text.toList.getLast? = some c) (hupper : c ≠ 'Z') (hlower : c ≠ 'z') :
    withOffset text = text := by
  obtain ⟨front, hfront⟩ := List.getLast?_eq_some_iff.1 hlast
  rw [withOffset, hstrip]
  have hreverse : text.toList.reverse = c :: front.reverse := by
    rw [hfront]
    simp
  rw [hreverse]
  split
  next heq =>
    cases heq
    exact absurd rfl hupper
  next heq =>
    cases heq
    exact absurd rfl hlower
  next => rfl

theorem units_ofList_append (front back : List Char) (hback : ∀ c ∈ back, c.utf8Size = 1) :
    (front ++ back).flatMap (fun c => List.replicate c.utf8Size c) =
      front.flatMap (fun c => List.replicate c.utf8Size c) ++ back := by
  have hsingle : ∀ c ∈ back, List.replicate c.utf8Size c = [c] := by
    intro c hc
    rw [hback c hc]
    rfl
  rw [List.flatMap_append, List.flatMap_congr hsingle, List.flatMap_singleton']

end Iso

theorem Moment.ofFields_eq_ok_iff {c : Civil} {t : TimeOfDay} {offset : Option Int} {m : Moment} :
    ofFields c t offset = .ok m ↔ c.check = .ok () ∧ t.check = .ok () ∧
      m = ⟨c.toDate.day * Calendar.dayMicros + t.toMicros, offset⟩ := by
  rw [ofFields]
  cases c.check with
  | error fault => simp [bind, Except.bind]
  | ok _ =>
      cases t.check with
      | error fault => simp [bind, Except.bind]
      | ok _ => simp [bind, Except.bind, pure, Except.pure, eq_comm]

namespace Iso

/-- A moment that ends in the name of a zone is read as it is with the offset of universal time in
its place. -/
theorem read_of_zone {text zoned : String} {front zone : List Char} {wall : Moment}
    (htext : text.toList = front ++ zone) (hzoned : zoned.toList = front ++ zeroOffset)
    (hlength : zone.length = 4) (hzone : ∀ c ∈ zone, c ∈ Text.zoneChars)
    (hread : read text = .ok wall) : read zoned = .ok wall.assumeUniversal := by
  have hidle : ∀ c ∈ zone, IsIdle c := fun c hc => isIdle_of_mem_zoneChars (hzone c hc)
  have hunits : units text = front.flatMap (fun c => List.replicate c.utf8Size c) ++ zone := by
    rw [units, htext, units_ofList_append _ _ fun c hc => (hidle c hc).single]
  have hsingle : zeroOffset.all fun c => c.utf8Size = 1 := by decide
  simp only [List.all_eq_true, decide_eq_true_eq] at hsingle
  have hunits' : units zoned =
      front.flatMap (fun c => List.replicate c.utf8Size c) ++ zeroOffset := by
    rw [units, hzoned, units_ofList_append _ _ hsingle]
  unfold read at hread ⊢
  split at hread
  next => cases hread
  next date t offset hfields =>
    rw [hunits] at hfields
    rw [hunits', readFields?_of_idle hidle (by omega) hfields]
    dsimp only
    cases offset with
    | none =>
        obtain ⟨hcivil, htime, rfl⟩ :=
          Moment.ofFields_eq_ok_iff.1 (Except.mapError_eq_ok_iff.1 hread)
        rw [Option.getD_none, if_neg (by decide), Moment.ofFields_eq_ok_iff.2 ⟨hcivil, htime, rfl⟩]
        rfl
    | some micros =>
        dsimp only at hread
        split at hread
        next => cases hread
        next hshort =>
          obtain ⟨hcivil, htime, rfl⟩ :=
            Moment.ofFields_eq_ok_iff.1 (Except.mapError_eq_ok_iff.1 hread)
          rw [Option.getD_some, if_neg hshort, Moment.ofFields_eq_ok_iff.2 ⟨hcivil, htime, rfl⟩]
          rfl

/-- A text without blanks around it has none with the offset of universal time at its end either. -/
theorem strip_of_zone {text zoned : String} {front zone : List Char}
    (hstrip : Text.strip text = text) (htext : text.toList = front ++ zone)
    (hzoned : zoned.toList = front ++ zeroOffset) : Text.strip zoned = zoned := by
  have hstripped : Text.stripChars text.toList = text.toList := by
    have hchars := congrArg String.toList hstrip
    rwa [Text.strip, String.toList_ofList] at hchars
  have hfirst : ∀ d, zoned.toList.head? = some d → Text.isBlank d = false := by
    intro d hd
    rw [hzoned] at hd
    cases front with
    | nil =>
        cases hd
        rfl
    | cons e front =>
        cases hd
        have hhead : (Text.stripChars text.toList).head? = some d := by
          rw [hstripped, htext]
          rfl
        exact Text.head?_stripChars hhead
  have hlast : ∀ d, zoned.toList.getLast? = some d → Text.isBlank d = false := by
    intro d hd
    rw [hzoned, List.getLast?_append] at hd
    cases hd
    rfl
  rw [Text.strip, Text.stripChars_eq_self hfirst hlast, String.ofList_toList]

end Iso

/-- Where a text is read as it is, the name of a zone at its end changes nothing. -/
theorem Instant.exists_readLoose_withZone {text : String} {wall : Moment}
    (hstrip : Text.strip text = text) (hread : Iso.readLoose text = .ok wall) :
    ∃ wall', Iso.readLoose (withZone text) = .ok wall' ∧ wall'.instant = wall.instant := by
  rcases withZone_cases text with hsame | ⟨front, zone, htext, hlength, hzone, hwith⟩
  · exact ⟨wall, by rw [hsame, hread], rfl⟩
  have hzoned : (withZone text).toList = front ++ Iso.zeroOffset := by
    rw [hwith, String.toList_append, String.toList_ofList]
    rfl
  obtain ⟨before, c, rfl⟩ := (List.eq_nil_or_concat zone).resolve_left
    (List.ne_nil_of_length_pos (by omega))
  rw [List.concat_eq_append] at htext hlength hzone
  have hc := hzone c (by simp)
  have hnamed : Iso.withOffset text = text := by
    refine Iso.withOffset_eq_self (c := c) hstrip ?_ ?_ ?_
    · rw [htext, ← List.append_assoc, List.getLast?_concat]
    · rintro rfl
      revert hc
      decide
    · rintro rfl
      revert hc
      decide
  have hwritten : Iso.withOffset (withZone text) = withZone text := by
    refine Iso.withOffset_eq_self (c := '0') (Iso.strip_of_zone hstrip htext hzoned) ?_ (by decide)
      (by decide)
    rw [hzoned, List.getLast?_append]
    rfl
  refine ⟨wall.assumeUniversal, ?_, rfl⟩
  rw [Iso.readLoose, hnamed] at hread
  rw [Iso.readLoose, hwritten]
  exact Iso.read_of_zone htext hzoned hlength hzone hread

namespace Instant

theorem universal_eq_of_instant {a b : Moment} (hinstant : a.instant = b.instant) :
    universal a = universal b := by
  rw [universal, universal, Moment.toUniversal?, Moment.toUniversal?, hinstant]

/-- Where the international notation is accepted, no other is tried: the name of a zone at the end
of a text is either not there or not looked at. -/
theorem read_of_readIso {text : String} {m : Moment} (hread : readIso text = .ok m) :
    read text = .ok m := by
  unfold readIso at hread
  split at hread
  next wall hwall =>
    rw [← Iso.readLoose_strip] at hwall
    obtain ⟨wall', hwall', hinstant⟩ := exists_readLoose_withZone (Text.strip_strip text) hwall
    have hzone : readIso (withZone (Text.strip text)) = .ok m := by
      unfold readIso
      rw [hwall']
      exact (universal_eq_of_instant hinstant).trans hread
    unfold read
    dsimp only
    rw [hzone]
  next => cases hread

end Instant

end EventIntake
