/-
The international notation, read back: the fields that are written are read as they are, with the
separators between them and the offset of universal time behind.
-/
import Mathlib.Data.List.TakeWhile
import EventIntake.Proofs.CountTimestamps
import EventIntake.Proofs.Magnitudes

namespace EventIntake

open Calendar

theorem Calendar.isDigit_of_mem_padded {width n : Nat} : ∀ c ∈ (padded width n).toList,
    c.isDigit = true := by
  intro c hc
  rw [padded, String.toList_ofList, List.mem_append] at hc
  rcases hc with hzero | hdigit
  · rw [List.eq_of_mem_replicate hzero]
    rfl
  · exact Number.isDigit_of_mem_toDigits c hdigit

/-- A number that fills its width is written without zeros in front. -/
theorem Calendar.padded_of_le {width n : Nat} (hwidth : 1 < width)
    (hlow : digitBound (width - 1) ≤ n) (hhigh : n < digitBound width) :
    padded width n = String.ofList (Nat.toDigits 10 n) := by
  have hlength : (Nat.toDigits 10 n).length = width := by
    have hshort := Number.length_toDigits_le (by omega) hhigh
    have hlong : ¬ (Nat.toDigits 10 n).length ≤ width - 1 := by
      intro hless
      have hsmall := (Nat.length_toDigits_le_iff (by decide) (by omega)).1 hless
      exact absurd hlow (Nat.not_le.2 hsmall)
    omega
  rw [padded, hlength, Nat.sub_self, List.replicate_zero, List.nil_append]

namespace Iso

/-- Digits are read as the number that they write. -/
theorem digits?_append {cs : List Char} (hdigits : ∀ c ∈ cs, c.isDigit = true) (rest : List Char) :
    digits? cs.length (cs ++ rest) = some (Number.ofDigits (cs.map (·.toNat - 48)), rest) := by
  induction cs with
  | nil => rfl
  | cons c cs ih =>
      obtain ⟨hc, hcs⟩ := List.forall_mem_cons.1 hdigits
      rw [List.length_cons, List.cons_append, digits?, if_pos (Text.isAsciiDigit_iff.2 hc),
        ih hcs, List.map_cons, Number.ofDigits_cons, List.length_map]
      rfl

theorem digits?_padded {width n : Nat} (hwidth : 0 < width) (hn : n < digitBound width)
    (rest : List Char) : digits? width ((padded width n).toList ++ rest) = some (n, rest) := by
  have hdigits : ∀ c ∈ (padded width n).toList, c.isDigit = true := isDigit_of_mem_padded
  have hread := digits?_append hdigits rest
  rwa [length_padded hwidth hn, ofDigits_padded] at hread

variable {cs more : List Char} {c next : Char} {n : Nat} {t : TimeOfDay} {colons : Bool}

/-- The seconds, where more than one character follows them. -/
theorem readSecond?_cons (hdigits : digits? 2 cs = some (n, c :: more)) (hmore : more ≠ []) :
    readSecond? colons t cs next =
      if (colons && c == ':') || c == '.' || c == ',' then
        withFraction? { t with second := n } more next
      else if colons then none
      else withFraction? { t with second := n } (c :: more) next := by
  obtain ⟨d, later, rfl⟩ := List.exists_cons_of_ne_nil hmore
  rw [readSecond?, hdigits]
  rfl

/-- The minutes, where more than one character follows them. -/
theorem readMinute?_cons (hdigits : digits? 2 cs = some (n, c :: more)) (hmore : more ≠ []) :
    readMinute? colons t cs next =
      if colons && c == ':' then readSecond? colons { t with minute := n } more next
      else if c == '.' || c == ',' then withFraction? { t with minute := n } more next
      else if colons then none
      else readSecond? colons { t with minute := n } (c :: more) next := by
  obtain ⟨d, later, rfl⟩ := List.exists_cons_of_ne_nil hmore
  rw [readMinute?, hdigits]
  rfl

/-- The hour, where more than one character follows it. -/
theorem readTime?_cons (hdigits : digits? 2 cs = some (n, c :: more)) (hmore : more ≠ []) :
    readTime? cs next =
      if c == ':' then readMinute? true ⟨n, 0, 0, 0⟩ more next
      else if c == '.' || c == ',' then withFraction? ⟨n, 0, 0, 0⟩ more next
      else readMinute? false ⟨n, 0, 0, 0⟩ (c :: more) next := by
  obtain ⟨d, later, rfl⟩ := List.exists_cons_of_ne_nil hmore
  rw [readTime?, hdigits]
  rfl

/-- The time of day to the millisecond, as it is written. -/
def clockChars (hour minute second milli : Nat) : List Char :=
  (padded 2 hour).toList ++ ':' :: ((padded 2 minute).toList ++ ':' :: ((padded 2 second).toList ++
    '.' :: (padded 3 milli).toList))

theorem withFraction?_padded {milli : Nat} (hmilli : milli < 1000) :
    withFraction? t (padded 3 milli).toList next =
      some ({ t with micro := milli * 1000 }, next != endMark) := by
  have hlength := length_padded (by decide) (show milli < digitBound 3 from hmilli)
  have hread := digits?_padded (by decide) (show milli < digitBound 3 from hmilli) []
  rw [List.append_nil] at hread
  have hcount : min 6 (padded 3 milli).toList.length = 3 := by
    rw [hlength]
    rfl
  rw [withFraction?, readFraction?, hcount, hread]
  rfl

/-- A written time of day is read as it is. -/
theorem readTime?_clockChars {hour minute second milli : Nat} (hhour : hour < 100)
    (hminute : minute < 100) (hsecond : second < 100) (hmilli : milli < 1000) :
    readTime? (clockChars hour minute second milli) next =
      some (⟨hour, minute, second, milli * 1000⟩, next != endMark) := by
  have hmillis : (padded 3 milli).toList ≠ [] := by
    intro hnil
    have hlength := length_padded (by decide) (show milli < digitBound 3 from hmilli)
    rw [hnil] at hlength
    cases hlength
  rw [clockChars, readTime?_cons (digits?_padded (by decide) hhour _) (by simp), if_pos (by decide),
    readMinute?_cons (digits?_padded (by decide) hminute _) (by simp), if_pos (by decide),
    readSecond?_cons (digits?_padded (by decide) hsecond _) hmillis, if_pos (by decide),
    withFraction?_padded hmilli]

/-- Year, month and day, as they are written. -/
def dateChars (year month day : Nat) : List Char :=
  (padded 4 year).toList ++ '-' :: ((padded 2 month).toList ++ '-' :: (padded 2 day).toList)

theorem length_dateChars {year month day : Nat} (hyear : year < 10000) (hmonth : month < 100)
    (hday : day < 100) : (dateChars year month day).length = 10 := by
  simp [dateChars, length_padded (show 0 < 4 by decide) (show year < digitBound 4 from hyear),
    length_padded (show 0 < 2 by decide) (show month < digitBound 2 from hmonth),
    length_padded (show 0 < 2 by decide) (show day < digitBound 2 from hday)]

/-- A padded number begins with a digit. -/
theorem exists_padded_cons {width n : Nat} (rest : List Char) (hwidth : 0 < width)
    (hn : n < digitBound width) : ∃ c later, (padded width n).toList ++ rest = c :: later ∧
      c.isDigit = true := by
  have hlength := length_padded hwidth hn
  obtain ⟨c, later, hchars⟩ := List.exists_cons_of_ne_nil (l := (padded width n).toList) (by
    intro hnil
    rw [hnil, List.length_nil] at hlength
    omega)
  exact ⟨c, later ++ rest, by rw [hchars, List.cons_append],
    isDigit_of_mem_padded c (hchars ▸ List.mem_cons_self)⟩

theorem dateLength?_dateChars {year month day : Nat} (hyear : year < 10000) (hmonth : month < 100)
    (hday : day < 100) (rest : List Char) :
    dateLength? (dateChars year month day ++ rest) = some 10 := by
  have hlength := length_dateChars hyear hmonth hday
  have hfour := length_padded (show 0 < 4 by decide) (show year < digitBound 4 from hyear)
  obtain ⟨c, later, hchars, hc⟩ := exists_padded_cons ('-' :: ((padded 2 day).toList ++ rest))
    (show 0 < 2 by decide) (show month < digitBound 2 from hmonth)
  have hsplit : dateChars year month day ++ rest =
      (padded 4 year).toList ++ '-' :: c :: later := by
    rw [dateChars, ← hchars]
    simp
  have hdash : (dateChars year month day ++ rest)[4]? = some '-' := by
    rw [hsplit, List.getElem?_append_right (by omega), hfour]
    rfl
  have hmonths : (dateChars year month day ++ rest)[5]? = some c := by
    rw [hsplit, List.getElem?_append_right (by omega), hfour]
    rfl
  have hweek : some c ≠ some 'W' := by
    rintro hweek
    cases hweek
    cases hc
  rw [dateLength?]
  dsimp only
  rw [List.length_append, hlength, if_neg (by omega), if_neg (by omega), if_pos hdash, hmonths,
    if_neg hweek]

theorem readDate?_dateChars {year month day : Nat} (hyear : year < 10000) (hmonth : month < 100)
    (hday : day < 100) (length : Nat) (rest : List Char) :
    readDate? length (dateChars year month day ++ rest) = some ⟨year, month, day⟩ := by
  have hsplit : dateChars year month day ++ rest = (padded 4 year).toList ++
      ('-' :: ((padded 2 month).toList ++ ('-' :: ((padded 2 day).toList ++ rest)))) := by
    simp [dateChars]
  have hread : digits? 2 ((padded 2 month).toList ++ ('-' :: ((padded 2 day).toList ++ rest))) =
      some (month, '-' :: ((padded 2 day).toList ++ rest)) :=
    digits?_padded (by decide) hmonth _
  have hreadDay : digits? 2 ((padded 2 day).toList ++ rest) = some (day, rest) :=
    digits?_padded (by decide) hday _
  obtain ⟨c, later, hchars, hc⟩ := exists_padded_cons ('-' :: ((padded 2 day).toList ++ rest))
    (show 0 < 2 by decide) (show month < digitBound 2 from hmonth)
  rw [hsplit, readDate?, digits?_padded (by decide) hyear]
  simp only [Option.bind_eq_bind, Option.bind_some, List.head?_cons, beq_self_eq_true, if_true,
    List.drop_succ_cons, List.drop_zero]
  rw [hchars] at hread ⊢
  split
  next hweek =>
    cases hweek
    cases hc
  next => simp [hread, dash?, hreadDay]

/-- A character of a written moment: in ASCII, and no blank. -/
def IsPlain (c : Char) : Prop := c.toNat < 128 ∧ Text.isBlank c = false

theorem isPlain_of_isDigit {c : Char} (hc : c.isDigit = true) : IsPlain c := by
  have hrange := Text.toNat_of_isDigit hc
  exact ⟨by omega, Text.isBlank_of_isDigit hc⟩

theorem isPlain_of_mem_padded {width n : Nat} : ∀ c ∈ (padded width n).toList, IsPlain c :=
  fun c hc => isPlain_of_isDigit (isDigit_of_mem_padded c hc)

theorem isPlain_of_mem_dateChars {year month day : Nat} :
    ∀ c ∈ dateChars year month day, IsPlain c := by
  have hdash : IsPlain '-' := by
    rw [IsPlain]
    decide
  simp only [dateChars, List.forall_mem_append, List.forall_mem_cons]
  exact ⟨isPlain_of_mem_padded, hdash, isPlain_of_mem_padded, hdash, isPlain_of_mem_padded⟩

theorem isPlain_of_mem_clockChars {hour minute second milli : Nat} :
    ∀ c ∈ clockChars hour minute second milli, IsPlain c := by
  have hcolon : IsPlain ':' := by
    rw [IsPlain]
    decide
  have hpoint : IsPlain '.' := by
    rw [IsPlain]
    decide
  simp only [clockChars, List.forall_mem_append, List.forall_mem_cons]
  exact ⟨isPlain_of_mem_padded, hcolon, isPlain_of_mem_padded, hcolon, isPlain_of_mem_padded,
    hpoint, isPlain_of_mem_padded⟩

theorem startsOffset_of_mem_clockChars {hour minute second milli : Nat} :
    ∀ c ∈ clockChars hour minute second milli, startsOffset c = false := by
  have hdigit : ∀ c : Char, c.isDigit = true → startsOffset c = false := by
    intro c hc
    have hrange := Text.toNat_of_isDigit hc
    simp only [startsOffset, Bool.or_eq_false_iff, beq_eq_false_iff_ne]
    refine ⟨⟨?_, ?_⟩, ?_⟩ <;> (rintro rfl; simp at hrange)
  have hnumber : ∀ width n, ∀ c ∈ (padded width n).toList, startsOffset c = false :=
    fun _ _ c hc => hdigit c (isDigit_of_mem_padded c hc)
  simp only [clockChars, List.forall_mem_append, List.forall_mem_cons]
  exact ⟨hnumber _ _, rfl, hnumber _ _, rfl, hnumber _ _, rfl, hnumber _ _⟩

/-- The offset of universal time. -/
def zeroOffset : List Char := ['+', '0', '0', ':', '0', '0']

theorem readOffset?_zeroOffset : readOffset? zeroOffset = some 0 := by decide

/-- A time of day without offset. -/
theorem readTimeOfDay?_naive {clock : List Char} (hclock : ∀ c ∈ clock, (!startsOffset c) = true) :
    readTimeOfDay? clock = (readTime? clock endMark).bind fun (t, left) =>
      if left then none else some (t, none) := by
  rw [readTimeOfDay?, List.takeWhile_eq_self_iff.2 hclock, List.dropWhile_eq_nil_iff.2 hclock]
  rfl

/-- A time of day with an offset. -/
theorem readTimeOfDay?_aware {clock rest : List Char} {mark : Char}
    (hclock : ∀ c ∈ clock, (!startsOffset c) = true) (hmark : startsOffset mark = true) :
    readTimeOfDay? (clock ++ mark :: rest) = (readTime? clock mark).bind fun (t, _) =>
      (readOffset? (mark :: rest)).bind fun offset => some (t, some offset) := by
  have htaken : (mark :: rest).takeWhile (!startsOffset ·) = [] := by simp [hmark]
  have hdropped : (mark :: rest).dropWhile (!startsOffset ·) = mark :: rest := by simp [hmark]
  rw [readTimeOfDay?, List.takeWhile_append_of_pos hclock, List.dropWhile_append_of_pos hclock,
    htaken, hdropped, List.append_nil]
  rfl

theorem readTimeOfDay?_clockChars {hour minute second milli : Nat} (hhour : hour < 100)
    (hminute : minute < 100) (hsecond : second < 100) (hmilli : milli < 1000) :
    readTimeOfDay? (clockChars hour minute second milli ++ zeroOffset) =
      some (⟨hour, minute, second, milli * 1000⟩, some 0) := by
  have hclock : ∀ c ∈ clockChars hour minute second milli, (!startsOffset c) = true := by
    intro c hc
    rw [startsOffset_of_mem_clockChars c hc]
    rfl
  rw [zeroOffset, readTimeOfDay?_aware hclock rfl, ← zeroOffset,
    readTime?_clockChars hhour hminute hsecond hmilli, readOffset?_zeroOffset]
  rfl

/-- Date, time of day and the offset of universal time are read as they are written. -/
theorem readFields?_chars {year month day hour minute second milli : Nat} (hyear : year < 10000)
    (hmonth : month < 100) (hday : day < 100) (hhour : hour < 100) (hminute : minute < 100)
    (hsecond : second < 100) (hmilli : milli < 1000) :
    readFields? (dateChars year month day ++
      'T' :: (clockChars hour minute second milli ++ zeroOffset)) =
      some (⟨year, month, day⟩, ⟨hour, minute, second, milli * 1000⟩, some 0) := by
  have hrest : (dateChars year month day ++
      'T' :: (clockChars hour minute second milli ++ zeroOffset)).drop 10 =
      'T' :: (clockChars hour minute second milli ++ zeroOffset) :=
    List.drop_left' (length_dateChars hyear hmonth hday)
  have hdrop : (clockChars hour minute second milli ++ zeroOffset).drop ('T'.utf8Size - 1) =
      clockChars hour minute second milli ++ zeroOffset := rfl
  rw [readFields?, dateLength?_dateChars hyear hmonth hday]
  simp only [Option.bind_eq_bind, Option.bind_some, hrest, hdrop,
    readDate?_dateChars hyear hmonth hday, readTimeOfDay?_clockChars hhour hminute hsecond hmilli]
  rfl

/-- Of characters in ASCII each is one byte. -/
theorem units_of_ascii {text : String} (hascii : ∀ c ∈ text.toList, c.toNat < 128) :
    units text = text.toList := by
  have hone : ∀ c ∈ text.toList, List.replicate c.utf8Size c = [c] := by
    intro c hc
    have hsize : c.utf8Size = 1 := by
      have hsmall := hascii c hc
      rw [Char.utf8Size_eq_one_iff, UInt32.le_iff_toNat_le]
      exact Nat.le_of_lt_succ hsmall
    rw [hsize]
    rfl
  rw [units, List.flatMap_congr hone, List.flatMap_singleton']

/-- A last `Z` is read as the offset of universal time. -/
theorem toList_withOffset {text : String} {front : List Char} (hstrip : Text.strip text = text)
    (htext : text.toList = front ++ ['Z']) : (withOffset text).toList = front ++ zeroOffset := by
  have hreverse : text.toList.reverse = 'Z' :: front.reverse := by rw [htext]; simp
  rw [withOffset, hstrip, hreverse]
  change (String.ofList front.reverse.reverse ++ "+00:00").toList = _
  rw [List.reverse_reverse, String.toList_append, String.toList_ofList]
  rfl

theorem readLoose_strip (text : String) : readLoose (Text.strip text) = readLoose text := by
  rw [readLoose, readLoose, withOffset, withOffset, Text.strip_strip]

end Iso

end EventIntake
