/-
Where the reading of a moment ends.  A moment that is followed by characters for which the notation
has no use is read only up to a mark that ends it, and then whatever follows is not looked at.
-/
import EventIntake.Proofs.IsoReading

namespace EventIntake

namespace Iso

/-- Where a date ends, once it is known that something follows it. -/
def dateEnd (cs : List Char) : Nat :=
  if cs[4]? = some '-' then
    if cs[5]? = some 'W' then
      if cs[8]? = some '-' then
        if (cs[10]?.map Text.isAsciiDigit).getD false then 8 else 10
      else 8
    else 10
  else if cs[4]? = some 'W' then
    let past := 7 + ((cs.drop 7).takeWhile Text.isAsciiDigit).length
    if past < 9 then past else if past % 2 = 0 then 7 else 8
  else 8

/-- Characters that look like no part of a date. -/
structure IsApart (more : List Char) : Prop where
  long : 4 ≤ more.length
  first : ∀ c, more[0]? = some c → c ≠ '-' ∧ Text.isAsciiDigit c = false
  second : ∀ c, more[1]? = some c → c ≠ '-'

theorem isApart_zeroOffset : IsApart zeroOffset := by
  refine ⟨by decide, ?_, ?_⟩
  · rintro c hc
    cases hc
    decide
  · rintro c hc
    cases hc
    decide

namespace IsApart

variable {cs more : List Char} (hapart : IsApart more)

include hapart

/-- The digits behind a week end before what is apart. -/
theorem takeWhile_drop (hlong : 7 ≤ cs.length) :
    ((cs ++ more).drop 7).takeWhile Text.isAsciiDigit =
      (cs.drop 7).takeWhile Text.isAsciiDigit := by
  have hmore := hapart.long
  obtain ⟨c, later, rfl⟩ := List.exists_cons_of_length_pos (show 0 < more.length by omega)
  have hc := (hapart.first c rfl).2
  rw [List.drop_append_of_le_length hlong, List.takeWhile_append,
    List.takeWhile_cons_of_neg (by simp [hc]), List.append_nil]
  split
  next hwhole => exact (List.takeWhile_prefix _).eq_of_length hwhole |>.symm
  next => rfl

theorem dash_eighth_iff (hlong : 7 ≤ cs.length) :
    (cs ++ more)[8]? = some '-' ↔ cs[8]? = some '-' := by
  rcases Nat.lt_or_ge 8 cs.length with hlonger | hshort
  · rw [List.getElem?_append_left hlonger]
  · rw [List.getElem?_append_right hshort, List.getElem?_eq_none hshort]
    refine iff_of_false (fun hmark => ?_) (by simp)
    rcases (by omega : 8 - cs.length = 0 ∨ 8 - cs.length = 1) with hat | hat
    · rw [hat] at hmark
      exact (hapart.first _ hmark).1 rfl
    · rw [hat] at hmark
      exact hapart.second _ hmark rfl

/-- Whether a digit stands behind the dash of a week does not depend on what is apart, if its second
character is no digit where that is the one behind the dash. -/
theorem digit_tenth (hnine : 8 < cs.length)
    (hday : cs.length = 9 → ∀ c, more[1]? = some c → Text.isAsciiDigit c = false) :
    ((cs ++ more)[10]?.map Text.isAsciiDigit).getD false =
      (cs[10]?.map Text.isAsciiDigit).getD false := by
  rcases Nat.lt_or_ge 10 cs.length with hlonger | hshort
  · rw [List.getElem?_append_left hlonger]
  · have hnodigit : ∀ c, more[10 - cs.length]? = some c → Text.isAsciiDigit c = false := by
      rcases (by omega : cs.length = 9 ∨ cs.length = 10) with hlength | hlength
      · rw [hlength]
        exact hday hlength
      · rw [hlength]
        exact fun c hc => (hapart.first c hc).2
    rw [List.getElem?_append_right hshort, List.getElem?_eq_none hshort]
    cases hnext : more[10 - cs.length]? with
    | none => rfl
    | some c => simp [hnodigit c hnext]

/-- The end of a date does not depend on what follows it, as long as that looks like no part of the
date. -/
theorem dateLength?_append (hlong : 7 ≤ cs.length)
    (hday : cs.length = 9 → dateEnd cs = 10 →
      ∀ c, more[1]? = some c → Text.isAsciiDigit c = false) :
    dateLength? (cs ++ more) = some (dateEnd cs) := by
  have hmore := hapart.long
  have hten : cs[4]? = some '-' → cs[5]? = some 'W' → cs[8]? = some '-' →
      ((cs ++ more)[10]?.map Text.isAsciiDigit).getD false =
        (cs[10]?.map Text.isAsciiDigit).getD false := by
    intro hyear hweek hmark
    obtain ⟨hnine, _⟩ := List.getElem?_eq_some_iff.1 hmark
    refine hapart.digit_tenth hnine fun hlength => hday hlength ?_
    rw [dateEnd, if_pos hyear, if_pos hweek, if_pos hmark, List.getElem?_eq_none (by omega)]
    rfl
  unfold dateLength? dateEnd
  dsimp only
  rw [List.length_append, if_neg (by omega), if_neg (by omega),
    List.getElem?_append_left (show 4 < cs.length by omega),
    List.getElem?_append_left (show 5 < cs.length by omega), hapart.takeWhile_drop hlong]
  simp only [hapart.dash_eighth_iff hlong]
  rw [if_neg (show ¬ cs.length + more.length = 9 by omega)]
  split
  next hyear =>
    split
    next hweek =>
      split
      next hmark =>
        rw [hten hyear hweek hmark]
        split <;> rfl
      next => rfl
    next => rfl
  next =>
    split
    next => split <;> [rfl; (split <;> rfl)]
    next => rfl

end IsApart

theorem dateEnd_cases (cs : List Char) :
    (cs[4]? = some '-' ∧ cs[5]? = some 'W' ∧ (dateEnd cs = 8 ∨ dateEnd cs = 10)) ∨
      (cs[4]? = some '-' ∧ cs[5]? ≠ some 'W' ∧ dateEnd cs = 10) ∨
      (cs[4]? = some 'W' ∧ (dateEnd cs = 7 ∨ dateEnd cs = 8)) ∨
      (cs[4]? ≠ some '-' ∧ cs[4]? ≠ some 'W' ∧ dateEnd cs = 8) := by
  unfold dateEnd
  dsimp only
  generalize ((cs.drop 7).takeWhile Text.isAsciiDigit).length = count
  grind

/-- The end of a date lies within it, if a day follows the month, and the week too where the end
asks for one. -/
theorem dateEnd_le_length {cs : List Char} {dashed : Bool}
    (hdashed : dashed = true ↔ cs[4]? = some '-') (hshort : 7 + dashed.toNat ≤ cs.length)
    (hlong : (cs[4 + dashed.toNat]? = some 'W' → 7 + dashed.toNat < dateEnd cs) →
      8 + 2 * dashed.toNat ≤ cs.length) : dateEnd cs ≤ cs.length := by
  have hcases := dateEnd_cases cs
  cases dashed with
  | true =>
      rw [Bool.toNat_true] at hshort hlong
      have hmark := hdashed.1 rfl
      rcases hcases with ⟨_, _, hend | hend⟩ | ⟨_, hmonth, hend⟩ | ⟨hweek, _⟩ | ⟨hnodash, _⟩
      · omega
      · have hday := hlong fun _ => by omega
        omega
      · have hday := hlong fun hweek => absurd hweek hmonth
        omega
      · rw [hmark] at hweek
        cases hweek
      · exact absurd hmark hnodash
  | false =>
      rw [Bool.toNat_false] at hshort hlong
      have hnodash : cs[4]? ≠ some '-' := fun hmark => Bool.false_ne_true (hdashed.2 hmark)
      rcases hcases with ⟨hmark, _⟩ | ⟨hmark, _⟩ | ⟨_, hend | hend⟩ | ⟨_, hmonth, hend⟩
      · exact absurd hmark hnodash
      · exact absurd hmark hnodash
      · omega
      · have hday := hlong fun _ => by omega
        omega
      · have hday := hlong fun hweek => absurd hweek hmonth
        omega

/-- What follows the year of a date. -/
def readAfterYear? (year : Nat) (dashed : Bool) (length : Nat) : List Char → Option Civil
  | 'W' :: rest => readWeek? year dashed length rest
  | rest => do
    let (month, rest) ← digits? 2 rest
    let (day, _) ← digits? 2 (← dash? dashed rest)
    return ⟨year, month, day⟩

theorem readDate?_of_year {year length : Nat} {dashed : Bool} {cs rest : List Char}
    (hyear : digits? 4 cs = some (year, rest)) (hdashed : dashed = true ↔ rest.head? = some '-') :
    readDate? length cs = readAfterYear? year dashed length (rest.drop dashed.toNat) := by
  obtain rfl : dashed = (rest.head? == some '-') := by
    rw [Bool.eq_iff_iff, hdashed, beq_iff_eq]
  rw [readDate?, hyear]
  simp only [Option.bind_eq_bind, Option.bind_some]
  cases rest.head? == some '-' <;> rfl

theorem readAfterYear?_of_ne_week {year length : Nat} {dashed : Bool} {cs : List Char}
    (hweek : cs.head? ≠ some 'W') : readAfterYear? year dashed length cs = (do
      let (month, rest) ← digits? 2 cs
      let (day, _) ← digits? 2 (← dash? dashed rest)
      return ⟨year, month, day⟩) := by
  rw [readAfterYear?.eq_def]
  split
  next => exact absurd rfl hweek
  next => rfl

/-- What follows a date: one character, whatever it is, and a time of day, or nothing. -/
def readAfterDate? : List Char → Option (TimeOfDay × Option Int)
  | [] => some (⟨0, 0, 0, 0⟩, none)
  | separator :: rest => readTimeOfDay? (rest.drop (separator.utf8Size - 1))

theorem readFields?_eq (cs : List Char) : readFields? cs =
    (dateLength? cs).bind fun length => (readDate? length cs).bind fun date =>
      (readAfterDate? (cs.drop length)).map fun fields => (date, fields) := by
  rw [readFields?]
  rcases dateLength? cs with _ | length
  · rfl
  simp only [Option.bind_eq_bind, Option.bind_some]
  rcases readDate? length cs with _ | date
  · rfl
  rcases cs.drop length with _ | ⟨separator, rest⟩
  · rfl
  simp only [readAfterDate?, Option.bind_some]
  cases readTimeOfDay? (rest.drop (separator.utf8Size - 1)) <;> rfl

/-- A character that the notation has no use for, except between date and time. -/
structure IsIdle (c : Char) : Prop where
  digit : Text.isAsciiDigit c = false
  offset : startsOffset c = false
  ending : c ≠ endMark
  mark : c ≠ ':' ∧ c ≠ '.' ∧ c ≠ ','
  week : c ≠ 'W'
  single : c.utf8Size = 1

theorem IsIdle.ne_dash {c : Char} (hc : IsIdle c) : c ≠ '-' := by
  rintro rfl
  cases hc.offset

variable {tail : List Char}

/-- Digits are read before idle characters as they are before anything else. -/
theorem digits?_of_idle (hidle : ∀ c ∈ tail, IsIdle c) {count n : Nat} {front rest : List Char}
    (hread : digits? count (front ++ tail) = some (n, rest)) :
    ∃ taken left, front = taken ++ left ∧ taken.length = count ∧ rest = left ++ tail ∧
      ∀ more, digits? count (front ++ more) = some (n, left ++ more) := by
  induction count generalizing front n with
  | zero =>
      cases hread
      exact ⟨[], front, rfl, rfl, rfl, fun _ => rfl⟩
  | succ count ih =>
      cases front with
      | nil =>
          cases tail with
          | nil => cases hread
          | cons c tail =>
              have hdigit := (hidle c List.mem_cons_self).digit
              rw [List.nil_append, digits?, hdigit, if_neg Bool.false_ne_true] at hread
              cases hread
      | cons c front =>
          rw [List.cons_append, digits?] at hread
          split at hread
          next hdigit =>
            obtain ⟨⟨m, later⟩, hlater, hn⟩ := Option.bind_eq_some_iff.1 hread
            cases hn
            obtain ⟨taken, left, rfl, rfl, rfl, hmore⟩ := ih hlater
            refine ⟨c :: taken, left, rfl, rfl, rfl, fun more => ?_⟩
            rw [List.cons_append, digits?, if_pos hdigit, hmore]
            rfl
          next => cases hread

theorem head?_append_of_idle (hidle : ∀ c ∈ tail, IsIdle c) {d : Char} (hd : ¬ IsIdle d)
    (front : List Char) : (front ++ tail).head? = some d ↔ front.head? = some d := by
  cases front with
  | nil => exact iff_of_false (fun hhead => hd (hidle d (List.mem_of_head? hhead))) (by simp)
  | cons c front => rfl

theorem withFraction?_of_digits {cs later : List Char} {t : TimeOfDay} {next : Char} {n : Nat}
    (hdigits : digits? 6 cs = some (n, later)) (hlong : 6 ≤ cs.length) :
    withFraction? t cs next = some ({ t with micro := n * Nat.pow 10 0 },
      (later.dropWhile Text.isAsciiDigit).headD next != endMark) := by
  have hcount : min 6 cs.length = 6 := by omega
  rw [withFraction?, readFraction?, hcount, hdigits]
  rfl

/-- A reading of times that ends before some characters has found its end: it reads the same,
whatever follows. -/
def EndsBefore (tail : List Char) (read : List Char → Char → Option (TimeOfDay × Bool)) : Prop :=
  ∀ front next t, read (front ++ tail) next = some (t, false) →
    2 ≤ front.length ∧ ∀ more next', read (front ++ more) next' = some (t, false)

/-- What is read behind the digits of a field that makes `t`. -/
def readNext? (t : TimeOfDay) (branch : Char → List Char → Char → Option (TimeOfDay × Bool))
    (next : Char) : List Char → Option (TimeOfDay × Bool)
  | [] => some (t, next != endMark)
  | [c] => some (t, c != endMark)
  | c :: more => branch c more next

/-- What is read behind `c` ends before some characters.  If `c` may be idle, it is read again. -/
def BranchEnds (tail : List Char) (c : Char)
    (branch : List Char → Char → Option (TimeOfDay × Bool)) : Prop :=
  (¬ IsIdle c ∧ EndsBefore tail branch) ∨
    ∃ later, EndsBefore tail later ∧ ∀ more next, branch more next = later (c :: more) next

theorem readNext?_cons {t : TimeOfDay} {next c : Char} {more : List Char}
    {branch : Char → List Char → Char → Option (TimeOfDay × Bool)} (hmore : more ≠ []) :
    readNext? t branch next (c :: more) = branch c more next := by
  obtain ⟨d, others, rfl⟩ := List.exists_cons_of_ne_nil hmore
  rfl

section

variable (hidle : ∀ c ∈ tail, IsIdle c) (htail : tail ≠ [])

include hidle htail

theorem endsBefore_withFraction (t : TimeOfDay) : EndsBefore tail (withFraction? t) := by
  intro front next made hread
  have hlength := List.length_pos_iff.2 htail
  obtain ⟨⟨micro, left⟩, hfraction, _⟩ := Option.bind_eq_some_iff.1 hread
  obtain ⟨⟨n, rest⟩, hdigits, _⟩ := Option.bind_eq_some_iff.1 hfraction
  obtain ⟨taken, later, rfl, htaken, rfl, hmore⟩ := digits?_of_idle hidle hdigits
  simp only [List.length_append] at htaken hmore ⊢
  have hsix : min 6 (taken.length + later.length + tail.length) = 6 := by omega
  rw [hsix] at htaken hmore
  rw [withFraction?_of_digits (hmore tail) (by simp; omega)] at hread
  -- What ends the fraction stands before the idle characters, since none of them can.
  cases hend : later.dropWhile Text.isAsciiDigit with
  | nil =>
      obtain ⟨c, idle, rfl⟩ := List.exists_cons_of_ne_nil htail
      have hc := hidle c List.mem_cons_self
      rw [List.dropWhile_append, hend, List.isEmpty_nil, if_pos rfl,
        List.dropWhile_cons_of_neg (by simp [hc.digit])] at hread
      simp [hc.ending] at hread
  | cons c ending =>
      have hdrop : ∀ more, (later ++ more).dropWhile Text.isAsciiDigit = c :: (ending ++ more) := by
        intro more
        rw [List.dropWhile_append, hend]
        rfl
      refine ⟨by omega, fun more next' => ?_⟩
      rw [withFraction?_of_digits (hmore more) (by simp; omega), hdrop]
      rw [hdrop] at hread
      exact hread

omit hidle htail in
theorem endsBefore_none : EndsBefore tail fun _ _ => none := by
  intro front next made hread
  cases hread

/-- Idle characters begin no field. -/
theorem readNext?_ne_of_idle {t made : TimeOfDay} {next : Char}
    {branch : Char → List Char → Char → Option (TimeOfDay × Bool)}
    (hbranch : ∀ c, BranchEnds tail c (branch c)) :
    readNext? t branch next tail ≠ some (made, false) := by
  intro hmade
  obtain ⟨c, idle, rfl⟩ := List.exists_cons_of_ne_nil htail
  have hc := hidle c List.mem_cons_self
  cases idle with
  | nil => simp [readNext?, hc.ending] at hmade
  | cons d idle =>
      rcases hbranch c with ⟨hmark, _⟩ | ⟨later, hlater, hsame⟩
      · exact hmark hc
      · rw [readNext?_cons (List.cons_ne_nil d idle), hsame] at hmade
        have hshort := (hlater [] _ _ hmade).1
        cases hshort

omit hidle in
/-- What is read behind the digits ends before idle characters, if something stands before them. -/
theorem readNext?_append {t made : TimeOfDay} {next c : Char} {left : List Char}
    {branch : Char → List Char → Char → Option (TimeOfDay × Bool)}
    (hbranch : BranchEnds tail c (branch c))
    (hmade : readNext? t branch next (c :: left ++ tail) = some (made, false))
    (more : List Char) (next' : Char) :
    readNext? t branch next' (c :: left ++ more) = some (made, false) := by
  rw [List.cons_append, readNext?_cons (by simp [htail])] at hmade
  have hnonempty : 2 ≤ (c :: left).length → left ++ more ≠ [] := by
    intro hlength hnil
    rw [(List.append_eq_nil_iff.1 hnil).1] at hlength
    simp at hlength
  rw [List.cons_append]
  rcases hbranch with ⟨_, hends⟩ | ⟨later, hlater, hsame⟩
  · obtain ⟨hlength, hagain⟩ := hends _ _ _ hmade
    rw [readNext?_cons (hnonempty (by rw [List.length_cons]; omega)), hagain]
  · rw [hsame] at hmade
    obtain ⟨hlength, hagain⟩ := hlater (c :: left) _ _ hmade
    rw [readNext?_cons (hnonempty hlength), hsame]
    exact hagain more next'

/-- A field of two digits, with the next field behind it. -/
theorem endsBefore_field {read : List Char → Char → Option (TimeOfDay × Bool)}
    (field : Nat → TimeOfDay) (branch : Nat → Char → List Char → Char → Option (TimeOfDay × Bool))
    (hread : ∀ cs next, read cs next =
      (digits? 2 cs).bind fun (n, rest) => readNext? (field n) (branch n) next rest)
    (hbranch : ∀ n c, BranchEnds tail c (branch n c)) : EndsBefore tail read := by
  intro front next made hmade
  rw [hread] at hmade
  obtain ⟨⟨n, rest⟩, hdigits, hfields⟩ := Option.bind_eq_some_iff.1 hmade
  obtain ⟨taken, left, rfl, htaken, rfl, hmore⟩ := digits?_of_idle hidle hdigits
  refine ⟨by rw [List.length_append]; omega, fun more next' => ?_⟩
  cases left with
  | nil => exact absurd hfields (readNext?_ne_of_idle hidle htail (hbranch n))
  | cons c left =>
      rw [hread, hmore, Option.bind_some]
      exact readNext?_append htail (hbranch n c) hfields more next'

theorem endsBefore_readSecond (colons : Bool) (t : TimeOfDay) :
    EndsBefore tail (readSecond? colons t) := by
  have hfraction := endsBefore_withFraction hidle htail
  refine endsBefore_field hidle htail (fun n => { t with second := n }) (fun n c more next =>
    if (colons && c == ':') || c == '.' || c == ',' then
      withFraction? { t with second := n } more next
    else if colons then none
    else withFraction? { t with second := n } (c :: more) next) ?_ fun n c => ?_
  · intro cs next
    rw [readSecond?]
    rcases digits? 2 cs with _ | ⟨n, _ | ⟨c, _ | ⟨d, more⟩⟩⟩ <;> rfl
  by_cases hmark : ((colons && c == ':') || c == '.' || c == ',') = true
  · simp only [hmark, if_true]
    refine .inl ⟨fun hc => ?_, hfraction _⟩
    simp [hc.mark] at hmark
  · simp only [hmark]
    cases colons with
    | true => exact .inr ⟨_, endsBefore_none, fun _ _ => rfl⟩
    | false => exact .inr ⟨_, hfraction _, fun _ _ => rfl⟩

theorem endsBefore_readMinute (colons : Bool) (t : TimeOfDay) :
    EndsBefore tail (readMinute? colons t) := by
  have hfraction := endsBefore_withFraction hidle htail
  have hsecond := endsBefore_readSecond hidle htail colons
  refine endsBefore_field hidle htail (fun n => { t with minute := n }) (fun n c more next =>
    if colons && c == ':' then readSecond? colons { t with minute := n } more next
    else if c == '.' || c == ',' then withFraction? { t with minute := n } more next
    else if colons then none
    else readSecond? colons { t with minute := n } (c :: more) next) ?_ fun n c => ?_
  · intro cs next
    rw [readMinute?]
    rcases digits? 2 cs with _ | ⟨n, _ | ⟨c, _ | ⟨d, more⟩⟩⟩ <;> rfl
  by_cases hcolon : (colons && c == ':') = true
  · simp only [hcolon, if_true]
    exact .inl ⟨fun hc => by simp [hc.mark] at hcolon, hsecond _⟩
  simp only [hcolon]
  by_cases hmark : (c == '.' || c == ',') = true
  · simp only [hmark, if_true]
    exact .inl ⟨fun hc => by simp [hc.mark] at hmark, hfraction _⟩
  simp only [hmark]
  cases colons with
  | true => exact .inr ⟨_, endsBefore_none, fun _ _ => rfl⟩
  | false => exact .inr ⟨_, hsecond _, fun _ _ => rfl⟩

theorem endsBefore_readTime : EndsBefore tail readTime? := by
  have hfraction := endsBefore_withFraction hidle htail
  have hminute := endsBefore_readMinute hidle htail
  refine endsBefore_field hidle htail (fun n => ⟨n, 0, 0, 0⟩) (fun n c more next =>
    if c == ':' then readMinute? true ⟨n, 0, 0, 0⟩ more next
    else if c == '.' || c == ',' then withFraction? ⟨n, 0, 0, 0⟩ more next
    else readMinute? false ⟨n, 0, 0, 0⟩ (c :: more) next) ?_ fun n c => ?_
  · intro cs next
    rw [readTime?]
    rcases digits? 2 cs with _ | ⟨n, _ | ⟨c, _ | ⟨d, more⟩⟩⟩ <;> rfl
  by_cases hcolon : (c == ':') = true
  · simp only [hcolon, if_true]
    exact .inl ⟨fun hc => by simp [hc.mark] at hcolon, hminute _ _⟩
  simp only [hcolon]
  by_cases hmark : (c == '.' || c == ',') = true
  · simp only [hmark, if_true]
    exact .inl ⟨fun hc => by simp [hc.mark] at hmark, hfraction _⟩
  simp only [hmark]
  exact .inr ⟨_, hminute _ _, fun _ _ => rfl⟩

/-- An offset is read before idle characters only if something has ended it. -/
theorem readOffset?_of_idle {mark : Char} {front : List Char} {micros : Int}
    (hread : readOffset? (mark :: (front ++ tail)) = some micros) (more : List Char) :
    readOffset? (mark :: (front ++ more)) = some micros := by
  by_cases hmark : mark = 'Z'
  · subst hmark
    cases front with
    | nil =>
        obtain ⟨c, idle, rfl⟩ := List.exists_cons_of_ne_nil htail
        have hc := (hidle c List.mem_cons_self).ending
        simp [readOffset?, hc] at hread
    | cons c front => exact hread
  · have hsign : ∀ cs, readOffset? (mark :: cs) = (readTime? cs endMark).bind fun found =>
        if found.2 then none
        else if found.1.toMicros < 1000000 then some 0
        else some (if mark = '-' then -found.1.toMicros else found.1.toMicros) := by
      intro cs
      rw [readOffset?.eq_def]
      split
      next heq =>
        cases heq
        exact absurd rfl hmark
      next heq =>
        cases heq
        rfl
      next heq => cases heq
    rw [hsign] at hread ⊢
    obtain ⟨⟨t, left⟩, htime, hmicros⟩ := Option.bind_eq_some_iff.1 hread
    cases left with
    | true => cases hmicros
    | false =>
        obtain ⟨_, hagain⟩ := endsBefore_readTime hidle htail _ _ _ htime
        rw [hagain, Option.bind_some]
        exact hmicros

/-- Time of day and offset are read before idle characters as they are before the offset of
universal time, which is the offset if there is none. -/
theorem readTimeOfDay?_of_idle {front : List Char} {t : TimeOfDay} {offset : Option Int}
    (hread : readTimeOfDay? (front ++ tail) = some (t, offset)) :
    front ≠ [] ∧ readTimeOfDay? (front ++ zeroOffset) = some (t, some (offset.getD 0)) := by
  have htime := endsBefore_readTime hidle htail
  have hplain : ∀ c ∈ tail, (!startsOffset c) = true := by
    intro c hc
    rw [(hidle c hc).offset]
    rfl
  have hclock : ∀ c ∈ front.takeWhile (!startsOffset ·), (!startsOffset c) = true :=
    fun c hc => List.mem_takeWhile_imp (p := (!startsOffset ·)) hc
  have hsplit := List.takeWhile_append_dropWhile (p := (!startsOffset ·)) (l := front)
  have hstart := List.head?_dropWhile_not (!startsOffset ·) front
  generalize front.takeWhile (!startsOffset ·) = clock at hclock hsplit
  generalize front.dropWhile (!startsOffset ·) = ending at hsplit hstart
  subst hsplit
  cases ending with
  | nil =>
      -- Without an offset, the time must have found its end.
      rw [List.append_nil] at hread ⊢
      rw [readTimeOfDay?_naive (List.forall_mem_append.2 ⟨hclock, hplain⟩)] at hread
      obtain ⟨⟨made, left⟩, hmade, hoffset⟩ := Option.bind_eq_some_iff.1 hread
      cases left with
      | true => cases hoffset
      | false =>
          cases hoffset
          obtain ⟨hlength, hagain⟩ := htime _ _ _ hmade
          have hnil := hagain []
          rw [List.append_nil] at hnil
          refine ⟨List.ne_nil_of_length_pos (by omega), ?_⟩
          rw [zeroOffset, readTimeOfDay?_aware hclock rfl, hnil, ← zeroOffset,
            readOffset?_zeroOffset]
          rfl
  | cons mark after =>
      have hmark : startsOffset mark = true := by simpa using hstart
      refine ⟨by simp, ?_⟩
      rw [List.append_assoc, List.cons_append, readTimeOfDay?_aware hclock hmark] at hread ⊢
      obtain ⟨⟨made, left⟩, hmade, hoffset⟩ := Option.bind_eq_some_iff.1 hread
      obtain ⟨micros, hmicros, hresult⟩ := Option.bind_eq_some_iff.1 hoffset
      cases hresult
      rw [hmade, Option.bind_some, readOffset?_of_idle hidle htail hmicros]
      rfl

omit htail in
theorem isApart_of_idle (hlong : 4 ≤ tail.length) : IsApart tail := by
  have hat : ∀ {i c}, tail[i]? = some c → IsIdle c :=
    fun hc => hidle _ (List.mem_of_getElem? hc)
  exact ⟨hlong, fun c hc => ⟨(hat hc).ne_dash, (hat hc).digit⟩, fun c hc => (hat hc).ne_dash⟩

theorem dash?_of_idle {dashed : Bool} {front rest : List Char}
    (hdash : dash? dashed (front ++ tail) = some rest) :
    ∃ left, rest = left ++ tail ∧ front.length = dashed.toNat + left.length ∧
      ∀ more, dash? dashed (front ++ more) = some (left ++ more) := by
  cases dashed with
  | false =>
      cases hdash
      exact ⟨front, rfl, by simp, fun _ => rfl⟩
  | true =>
      unfold dash? at hdash
      rw [if_pos rfl] at hdash
      cases front with
      | nil =>
          obtain ⟨c, idle, rfl⟩ := List.exists_cons_of_ne_nil htail
          have hc := (hidle c List.mem_cons_self).offset
          split at hdash
          next heq =>
            cases heq
            cases hc
          next => cases hdash
      | cons c front =>
          split at hdash
          next heq =>
            cases heq
            cases hdash
            exact ⟨front, rfl, by rw [List.length_cons, Bool.toNat_true, Nat.add_comm],
              fun _ => rfl⟩
          next => cases hdash

/-- A week date has its week before idle characters, and its day if the length asks for it. -/
theorem readWeek?_of_idle {year length : Nat} {dashed : Bool} {front : List Char} {date : Civil}
    (hread : readWeek? year dashed length (front ++ tail) = some date) :
    2 ≤ front.length ∧ (7 + dashed.toNat < length → 3 + dashed.toNat ≤ front.length) ∧
      ∀ more, readWeek? year dashed length (front ++ more) = some date := by
  have hlength : (if dashed then 8 else 7) = 7 + dashed.toNat := by cases dashed <;> rfl
  simp only [readWeek?, hlength] at hread ⊢
  obtain ⟨⟨week, rest⟩, hweek, hday⟩ := Option.bind_eq_some_iff.1 hread
  obtain ⟨taken, left, rfl, htaken, rfl, hmore⟩ := digits?_of_idle hidle hweek
  rw [List.length_append]
  by_cases hshort : 7 + dashed.toNat < length
  · simp only [hshort, if_true] at hday ⊢
    obtain ⟨after, hdash, hday⟩ := Option.bind_eq_some_iff.1 hday
    obtain ⟨left', rfl, hleft, hmore'⟩ := dash?_of_idle hidle htail hdash
    obtain ⟨⟨day, rest⟩, hdigit, hdate⟩ := Option.bind_eq_some_iff.1 hday
    obtain ⟨taken', last, rfl, htaken', rfl, hmore''⟩ := digits?_of_idle hidle hdigit
    rw [List.length_append] at hleft
    refine ⟨by omega, fun _ => by omega, fun more => ?_⟩
    simp only [hmore, hmore', hmore'', Option.bind_eq_bind, Option.bind_some]
    exact hdate
  · simp only [hshort, if_false] at hday ⊢
    refine ⟨by omega, fun hlong => hlong.elim, fun more => ?_⟩
    simp only [hmore, Option.bind_eq_bind, Option.bind_some]
    exact hday

/-- What follows the year is read before idle characters as it is before anything else. -/
theorem readAfterYear?_of_idle {year length : Nat} {dashed : Bool} {front : List Char}
    {date : Civil} (hread : readAfterYear? year dashed length (front ++ tail) = some date) :
    3 ≤ front.length ∧
      ((front.head? = some 'W' → 7 + dashed.toNat < length) → 4 + dashed.toNat ≤ front.length) ∧
      ∀ more, readAfterYear? year dashed length (front ++ more) = some date := by
  by_cases hweek : front.head? = some 'W'
  · obtain ⟨front, rfl⟩ := List.head?_eq_some_iff.1 hweek
    obtain ⟨hshort, hlong, hmore⟩ := readWeek?_of_idle hidle htail hread
    rw [List.length_cons]
    refine ⟨by omega, fun hday => ?_, hmore⟩
    have hfront := hlong (hday rfl)
    omega
  · have hnoweek : (front ++ tail).head? ≠ some 'W' :=
      fun hhead => hweek ((head?_append_of_idle hidle (fun hc => hc.week rfl) front).1 hhead)
    rw [readAfterYear?_of_ne_week hnoweek] at hread
    obtain ⟨⟨month, rest⟩, hmonth, hday⟩ := Option.bind_eq_some_iff.1 hread
    obtain ⟨taken, left, rfl, htaken, rfl, hmore⟩ := digits?_of_idle hidle hmonth
    obtain ⟨after, hdash, hday⟩ := Option.bind_eq_some_iff.1 hday
    obtain ⟨left', rfl, hleft, hmore'⟩ := dash?_of_idle hidle htail hdash
    obtain ⟨⟨day, rest⟩, hdigits, hdate⟩ := Option.bind_eq_some_iff.1 hday
    obtain ⟨taken', last, rfl, htaken', rfl, hmore''⟩ := digits?_of_idle hidle hdigits
    rw [List.length_append] at hleft ⊢
    refine ⟨by omega, fun _ => by omega, fun more => ?_⟩
    have hagain : (taken ++ left ++ more).head? ≠ some 'W' := by
      obtain ⟨c, others, rfl⟩ :=
        List.exists_cons_of_length_pos (show 0 < taken.length by omega)
      exact hweek
    rw [readAfterYear?_of_ne_week hagain]
    simp only [hmore, hmore', hmore'', Option.bind_eq_bind, Option.bind_some]
    exact hdate

/-- A date is read before idle characters as it is before anything else, and none of them is a part
of it. -/
theorem readDate?_of_idle {length : Nat} {front : List Char} {date : Civil}
    (hread : readDate? length (front ++ tail) = some date) :
    7 ≤ front.length ∧ (length = dateEnd front → length ≤ front.length) ∧
      ∀ more, readDate? length (front ++ more) = some date := by
  obtain ⟨⟨year, rest⟩, hyear, _⟩ := Option.bind_eq_some_iff.1 hread
  obtain ⟨taken, left, rfl, htaken, rfl, hmore⟩ := digits?_of_idle hidle hyear
  obtain ⟨dashed, hdashed⟩ : ∃ dashed : Bool, dashed = true ↔ left.head? = some '-' :=
    ⟨_, decide_eq_true_iff⟩
  have hat : ∀ i, (taken ++ left)[4 + i]? = left[i]? := by
    intro i
    rw [List.getElem?_append_right (by omega), htaken, Nat.add_sub_cancel_left]
  have hskip : dashed.toNat ≤ left.length := by
    cases dashed with
    | false => exact Nat.zero_le _
    | true =>
        obtain ⟨later, rfl⟩ := List.head?_eq_some_iff.1 (hdashed.1 rfl)
        exact Nat.le_add_left 1 _
  have hdrop : ∀ more, (left ++ more).drop dashed.toNat = left.drop dashed.toNat ++ more :=
    fun more => List.drop_append_of_le_length hskip
  have hhead := head?_append_of_idle hidle (fun hc => hc.ne_dash rfl) left
  rw [readDate?_of_year hyear (hdashed.trans hhead.symm), hdrop] at hread
  obtain ⟨hshort, hlong, hdate⟩ := readAfterYear?_of_idle hidle htail hread
  rw [List.length_drop] at hshort hlong
  rw [List.head?_drop, ← hat] at hlong
  have hlength : (taken ++ left).length = taken.length + left.length := List.length_append
  refine ⟨by omega, ?_, fun more => ?_⟩
  · rintro rfl
    have hmark : dashed = true ↔ (taken ++ left)[4]? = some '-' := by
      rw [hdashed, hat 0, List.head?_eq_getElem?]
    refine dateEnd_le_length hmark (by omega) fun hweek => ?_
    have hday := hlong hweek
    omega
  · have hagain : dashed = true ↔ (left ++ more).head? = some '-' := by
      rw [hdashed, List.head?_append_of_ne_nil _ (List.ne_nil_of_length_pos (by omega))]
    rw [readDate?_of_year (hmore more) hagain, hdrop, hdate]

theorem readTimeOfDay?_eq_none : readTimeOfDay? tail = none := by
  cases hread : readTimeOfDay? tail with
  | none => rfl
  | some fields =>
      have hfront : readTimeOfDay? ([] ++ tail) = some (fields.1, fields.2) := hread
      exact absurd rfl (readTimeOfDay?_of_idle hidle htail hfront).1

omit htail in
/-- What follows a date is read before idle characters as it is before the offset of universal time,
which is the offset if there is none.  One character may be so wide that it takes some of them. -/
theorem readAfterDate?_of_idle (hlong : 4 ≤ tail.length) {rest : List Char} {t : TimeOfDay}
    {offset : Option Int} (hread : readAfterDate? (rest ++ tail) = some (t, offset)) :
    readAfterDate? (rest ++ zeroOffset) = some (t, some (offset.getD 0)) := by
  have hsilent : ∀ {skipped idle}, tail = skipped ++ idle → idle ≠ [] →
      readTimeOfDay? idle = none := by
    rintro skipped idle rfl hidleEnd
    exact readTimeOfDay?_eq_none (fun c hc => hidle c (List.mem_append_right _ hc)) hidleEnd
  cases rest with
  | nil =>
      obtain ⟨c, idle, rfl⟩ := List.exists_cons_of_length_pos (show 0 < tail.length by omega)
      have hsingle := (hidle c List.mem_cons_self).single
      rw [List.length_cons] at hlong
      have hnone := hsilent (show c :: idle = [c] ++ idle from rfl)
        (List.ne_nil_of_length_pos (by omega))
      rw [List.nil_append, readAfterDate?, hsingle, Nat.sub_self, List.drop_zero, hnone] at hread
      cases hread
  | cons separator rest =>
      rw [List.cons_append, readAfterDate?] at hread ⊢
      have hsize := separator.utf8Size_le_four
      by_cases hrest : separator.utf8Size - 1 ≤ rest.length
      · rw [List.drop_append_of_le_length hrest] at hread ⊢
        exact (readTimeOfDay?_of_idle hidle (List.ne_nil_of_length_pos (by omega)) hread).2
      · rw [List.drop_append, List.drop_eq_nil_of_le (by omega), List.nil_append] at hread
        have hnonempty : tail.drop (separator.utf8Size - 1 - rest.length) ≠ [] :=
          List.ne_nil_of_length_pos (by rw [List.length_drop]; omega)
        rw [hsilent (List.take_append_drop _ tail).symm hnonempty] at hread
        cases hread

omit htail in
/-- The fields of a text are read before idle characters as they are before the offset of universal
time, which is the offset if there is none. -/
theorem readFields?_of_idle (hlong : 4 ≤ tail.length) {front : List Char} {date : Civil}
    {t : TimeOfDay} {offset : Option Int}
    (hread : readFields? (front ++ tail) = some (date, t, offset)) :
    readFields? (front ++ zeroOffset) = some (date, t, some (offset.getD 0)) := by
  have htail : tail ≠ [] := List.ne_nil_of_length_pos (by omega)
  have hdigit : ∀ c, tail[1]? = some c → Text.isAsciiDigit c = false :=
    fun c hc => (hidle c (List.mem_of_getElem? hc)).digit
  rw [readFields?_eq] at hread ⊢
  obtain ⟨length, hlength, hread⟩ := Option.bind_eq_some_iff.1 hread
  obtain ⟨made, hdate, hread⟩ := Option.bind_eq_some_iff.1 hread
  obtain ⟨⟨t, offset⟩, hfields, hmade⟩ := Option.map_eq_some_iff.1 hread
  cases hmade
  obtain ⟨hseven, hinside, hagain⟩ := readDate?_of_idle hidle htail hdate
  rw [(isApart_of_idle hidle hlong).dateLength?_append hseven fun _ _ => hdigit] at hlength
  cases hlength
  have hend := hinside rfl
  rw [List.drop_append_of_le_length hend] at hfields
  rw [isApart_zeroOffset.dateLength?_append hseven (fun hnine hten => by omega), Option.bind_some,
    hagain, Option.bind_some, List.drop_append_of_le_length hend,
    readAfterDate?_of_idle hidle hlong hfields]
  rfl

end

end Iso

end EventIntake
