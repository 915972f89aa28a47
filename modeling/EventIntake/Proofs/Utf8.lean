/-
The bytes of a text in UTF-8 are read as the text, and no other bytes are read.
-/
import EventIntake.Text.Utf8

namespace EventIntake.Text.Utf8

theorem toNat_ofNat {n : Nat} (hn : n < 256) : (UInt8.ofNat n).toNat = n := by
  rw [UInt8.toNat_ofNat', Nat.mod_eq_of_lt hn]

/-- A byte that begins with the bits of a continuation is one. -/
theorem isContinuation_ofNat (n : Nat) :
    isContinuation (UInt8.ofNat (0x80 + n % 64)) = true := by
  rw [isContinuation, toNat_ofNat (by omega), Bool.and_eq_true, decide_eq_true_eq,
    decide_eq_true_eq]
  omega

theorem payload_ofNat (n : Nat) : payload (UInt8.ofNat (0x80 + n % 64)) = n % 64 := by
  rw [payload, toNat_ofNat (by omega)]
  omega

/-- A second byte may stand where the code point is neither written too long, nor a surrogate, nor
past the last one. -/
theorem isSecond_ofNat {first : UInt8} {n : Nat} (hlow : first.toNat = 0xe0 → 0x20 ≤ n % 64)
    (hsurrogate : first.toNat = 0xed → n % 64 < 0x20) (hlong : first.toNat = 0xf0 → 0x10 ≤ n % 64)
    (hlast : first.toNat = 0xf4 → n % 64 < 0x10) :
    isSecond first (UInt8.ofNat (0x80 + n % 64)) = true := by
  rw [isSecond, isContinuation_ofNat, toNat_ofNat (by omega)]
  simp only [Bool.true_and, Bool.and_eq_true, Bool.not_eq_true', Bool.and_eq_false_iff,
    beq_eq_false_iff_ne, decide_eq_false_iff_not]
  omega

/-- The bytes that spell a code point, the first one and those after it, one case for each length.
The bounds of the first two leave out surrogates and all spellings but the shortest. -/
inductive Spells (n : Nat) : UInt8 → List UInt8 → Prop where
  | one {a : UInt8} (ha : a.toNat < 0x80) (hn : n = a.toNat) : Spells n a []
  | two {a b : UInt8} (ha : 0xc2 ≤ a.toNat ∧ a.toNat < 0xe0) (hb : isContinuation b = true)
      (hn : n = (a.toNat - 0xc0) * 64 + payload b) : Spells n a [b]
  | three {a b c : UInt8} (ha : 0xe0 ≤ a.toNat ∧ a.toNat < 0xf0) (hb : isSecond a b = true)
      (hc : isContinuation c = true)
      (hn : n = (a.toNat - 0xe0) * 4096 + payload b * 64 + payload c) : Spells n a [b, c]
  | four {a b c d : UInt8} (ha : 0xf0 ≤ a.toNat ∧ a.toNat < 0xf5) (hb : isSecond a b = true)
      (hc : isContinuation c = true) (hd : isContinuation d = true)
      (hn : n = (a.toNat - 0xf0) * 262144 + payload b * 4096 + payload c * 64 + payload d) :
      Spells n a [b, c, d]

/-! ## Reading a spelling -/

/-- The bytes that spell a code point are read as it, whatever follows. -/
theorem Spells.readChar_eq {n : Nat} {first : UInt8} {others : List UInt8}
    (h : Spells n first others) (rest : List UInt8) :
    readChar first (others ++ rest) = .ok (Char.ofNat n, others.length) := by
  unfold readChar
  dsimp only
  cases h with
  | one ha hn =>
      rw [if_pos ha, hn]
      rfl
  | two ha hb hn =>
      rw [if_neg (by omega), if_neg (by omega), if_pos ha.2, hn]
      dsimp only [List.cons_append]
      rw [if_pos hb]
      rfl
  | three ha hb hc hn =>
      rw [if_neg (by omega), if_neg (by omega), if_neg (by omega), if_pos ha.2, hn]
      dsimp only [List.cons_append]
      rw [hb, hc]
      rfl
  | four ha hb hc hd hn =>
      rw [if_neg (by omega), if_neg (by omega), if_neg (by omega), if_neg (by omega), hn]
      dsimp only [List.cons_append]
      rw [hb, hc, hd]
      rfl

/-- Nothing but a spelling is read as a character. -/
theorem spells_of_readChar {first : UInt8} {rest : List UInt8} {c : Char} {taken : Nat}
    (hread : readChar first rest = .ok (c, taken)) :
    ∃ n, c = Char.ofNat n ∧ Spells n first (rest.take taken) := by
  unfold readChar at hread
  dsimp only at hread
  split at hread
  next hone =>
    cases hread
    exact ⟨_, rfl, .one hone rfl⟩
  next hone =>
  split at hread
  next => cases hread
  next hstart =>
  split at hread
  next htwo =>
    split at hread
    next => cases hread
    next b _ =>
      split at hread
      next hb =>
        cases hread
        exact ⟨_, rfl, .two ⟨by omega, htwo⟩ hb rfl⟩
      next => cases hread
  next htwo =>
  split at hread
  next hthree =>
    split at hread
    next => cases hread
    next => split at hread <;> cases hread
    next b c _ =>
      split at hread
      next => cases hread
      next hb =>
        split at hread
        next => cases hread
        next hc =>
          cases hread
          rw [Bool.not_eq_true', Bool.not_eq_false] at hb hc
          exact ⟨_, rfl, .three ⟨by omega, hthree⟩ hb hc rfl⟩
  next hthree =>
    split at hread
    next => cases hread
    next => split at hread <;> cases hread
    next =>
      split at hread
      next => cases hread
      next => split at hread <;> cases hread
    next b c d _ =>
      split at hread
      next => cases hread
      next hb =>
        split at hread
        next => cases hread
        next hc =>
          split at hread
          next => cases hread
          next hd =>
            cases hread
            rw [Bool.not_eq_true', Bool.not_eq_false] at hb hc hd
            exact ⟨_, rfl, .four (by omega) hb hc hd rfl⟩

/-! ## The bytes of a character are its spelling -/

theorem validNat (c : Char) : c.toNat < 0xd800 ∨ 0xdfff < c.toNat ∧ c.toNat < 0x110000 := c.valid

/-- A character has the bytes of a spelling of its code point. -/
theorem spells_encodeChar (c : Char) :
    ∃ first others, encodeChar c = first :: others ∧ Spells c.toNat first others := by
  have hvalid := validNat c
  rw [encodeChar]
  generalize c.toNat = n at hvalid
  split
  next hone =>
    refine ⟨_, [], rfl, .one ?_ ?_⟩ <;> rw [toNat_ofNat (by omega)]
    exact hone
  next hone =>
  split
  next htwo =>
    refine ⟨_, _, rfl, .two ?_ (isContinuation_ofNat n) ?_⟩ <;> rw [toNat_ofNat (by omega)]
    · omega
    · rw [payload_ofNat]
      omega
  next htwo =>
  split
  next hthree =>
    refine ⟨_, _, rfl, .three ?_ ?_ (isContinuation_ofNat n) ?_⟩
    · rw [toNat_ofNat (by omega)]
      omega
    · apply isSecond_ofNat <;> rw [toNat_ofNat (by omega)] <;> omega
    · rw [toNat_ofNat (by omega), payload_ofNat, payload_ofNat]
      omega
  next hthree =>
    refine ⟨_, _, rfl, .four ?_ ?_ (isContinuation_ofNat (n / 64)) (isContinuation_ofNat n) ?_⟩
    · rw [toNat_ofNat (by omega)]
      omega
    · apply isSecond_ofNat <;> rw [toNat_ofNat (by omega)] <;> omega
    · rw [toNat_ofNat (by omega), payload_ofNat, payload_ofNat, payload_ofNat]
      omega

theorem isContinuation_iff {b : UInt8} :
    isContinuation b = true ↔ 0x80 ≤ b.toNat ∧ b.toNat < 0xc0 := by
  simp [isContinuation]

theorem isSecond_iff {first second : UInt8} :
    isSecond first second = true ↔ (0x80 ≤ second.toNat ∧ second.toNat < 0xc0) ∧
      (first.toNat = 0xe0 → 0xa0 ≤ second.toNat) ∧ (first.toNat = 0xed → second.toNat < 0xa0) ∧
      (first.toNat = 0xf0 → 0x90 ≤ second.toNat) ∧ (first.toNat = 0xf4 → second.toNat < 0x90) := by
  simp only [isSecond, Bool.and_eq_true, isContinuation_iff, Bool.not_eq_true',
    Bool.and_eq_false_iff, beq_eq_false_iff_ne, decide_eq_false_iff_not]
  omega

theorem ofNat_eq_of_eq {b : UInt8} {n : Nat} (hn : n = b.toNat) : UInt8.ofNat n = b := by
  rw [hn, UInt8.ofNat_toNat]

theorem toNat_ofNat_of_valid {n : Nat} (hn : n < 0xd800 ∨ 0xdfff < n ∧ n < 0x110000) :
    (Char.ofNat n).toNat = n := by
  rw [Char.ofNat, dif_pos hn]
  rfl

/-- What spells a code point are the bytes of its character. -/
theorem Spells.encodeChar_eq {n : Nat} {first : UInt8} {others : List UInt8}
    (h : Spells n first others) : encodeChar (Char.ofNat n) = first :: others := by
  have hbyte := first.toNat_lt
  cases h with
  | one ha hn =>
      rw [encodeChar, toNat_ofNat_of_valid (by omega), if_pos (by omega), hn, UInt8.ofNat_toNat]
  | @two b ha hb hn =>
      rw [isContinuation_iff] at hb
      rw [payload] at hn
      rw [encodeChar, toNat_ofNat_of_valid (by omega), if_neg (by omega), if_pos (by omega),
        ofNat_eq_of_eq (b := first) (by omega), ofNat_eq_of_eq (b := b) (by omega)]
  | @three b c ha hb hc hn =>
      rw [isSecond_iff] at hb
      rw [isContinuation_iff] at hc
      rw [payload, payload] at hn
      rw [encodeChar, toNat_ofNat_of_valid (by omega), if_neg (by omega), if_neg (by omega),
        if_pos (by omega), ofNat_eq_of_eq (b := first) (by omega),
        ofNat_eq_of_eq (b := b) (by omega), ofNat_eq_of_eq (b := c) (by omega)]
  | @four b c d ha hb hc hd hn =>
      rw [isSecond_iff] at hb
      rw [isContinuation_iff] at hc hd
      rw [payload, payload, payload] at hn
      rw [encodeChar, toNat_ofNat_of_valid (by omega), if_neg (by omega), if_neg (by omega),
        if_neg (by omega), ofNat_eq_of_eq (b := first) (by omega),
        ofNat_eq_of_eq (b := b) (by omega), ofNat_eq_of_eq (b := c) (by omega),
        ofNat_eq_of_eq (b := d) (by omega)]

/-! ## Characters and rows of them -/

/-- The bytes of a character are read as the character, whatever follows. -/
theorem readChar_encodeChar (c : Char) (rest : List UInt8) :
    ∃ first others, encodeChar c = first :: others ∧
      readChar first (others ++ rest) = .ok (c, others.length) := by
  obtain ⟨first, others, hbytes, hspells⟩ := spells_encodeChar c
  have hread := hspells.readChar_eq rest
  rw [Char.ofNat_toNat] at hread
  exact ⟨first, others, hbytes, hread⟩

/-- A character is read of its own bytes only. -/
theorem encodeChar_of_readChar {first : UInt8} {rest : List UInt8} {c : Char} {taken : Nat}
    (hread : readChar first rest = .ok (c, taken)) : encodeChar c = first :: rest.take taken := by
  obtain ⟨n, rfl, hspells⟩ := spells_of_readChar hread
  exact hspells.encodeChar_eq

theorem decodeFrom_encode (cs : List Char) (position : Nat) :
    decodeFrom position (encode cs) = .ok cs := by
  induction cs generalizing position with
  | nil => rw [encode, List.flatMap_nil, decodeFrom]
  | cons c rest ih =>
      obtain ⟨first, others, hbytes, hread⟩ := readChar_encodeChar c (encode rest)
      rw [encode, List.flatMap_cons, hbytes, List.cons_append, ← encode, decodeFrom, hread]
      dsimp only
      rw [List.drop_left, ih]
      rfl

/-- What is read of the bytes of a text is the text. -/
theorem decode_encode (cs : List Char) : decode (encode cs) = .ok cs :=
  decodeFrom_encode cs 0

theorem encode_of_decodeFrom {bytes : List UInt8} {position : Nat} {cs : List Char}
    (hdecode : decodeFrom position bytes = .ok cs) : encode cs = bytes := by
  fun_induction decodeFrom position bytes generalizing cs with
  | case1 =>
      cases hdecode
      rfl
  | case2 => cases hdecode
  | case3 position first rest c taken hread ih =>
      cases hrest : decodeFrom (position + 1 + taken) (rest.drop taken) with
      | error fault =>
          rw [hrest] at hdecode
          cases hdecode
      | ok later =>
          rw [hrest] at hdecode
          cases hdecode
          rw [encode, List.flatMap_cons, ← encode, ih hrest, encodeChar_of_readChar hread,
            List.cons_append, List.take_append_drop]

/-- Bytes are read exactly as the text whose bytes they are. -/
theorem decode_eq_ok_iff {bytes : List UInt8} {cs : List Char} :
    decode bytes = .ok cs ↔ encode cs = bytes := by
  constructor
  · exact encode_of_decodeFrom
  · rintro rfl
    exact decode_encode cs

end EventIntake.Text.Utf8
