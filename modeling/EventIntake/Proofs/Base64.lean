/-
Base 64 is read as the bytes that it has been written from.  The letters of a group of three bytes
hold the bits of the group in order, so that reading finds each byte again where a letter completes
it, whatever has been written before.
-/
import EventIntake.Proofs.Utf8
import EventIntake.Transform.Builtin
import Mathlib.Data.String.Basic

namespace EventIntake

namespace Text

namespace Utf8

theorem length_encodeChar (c : Char) : (encodeChar c).length = c.utf8Size := by
  have hsize : c.utf8Size = if c.toNat < 0x80 then 1 else if c.toNat < 0x800 then 2
      else if c.toNat < 0x10000 then 3 else 4 := by
    simp only [Char.utf8Size, UInt32.le_iff_toNat_le, ← Nat.lt_succ_iff]
    rfl
  rw [encodeChar, hsize]
  by_cases hone : c.toNat < 0x80
  · rw [if_pos hone, if_pos hone]
    rfl
  by_cases htwo : c.toNat < 0x800
  · rw [if_neg hone, if_pos htwo, if_neg hone, if_pos htwo]
    rfl
  by_cases hthree : c.toNat < 0x10000
  · rw [if_neg hone, if_neg htwo, if_pos hthree, if_neg hone, if_neg htwo, if_pos hthree]
    rfl
  rw [if_neg hone, if_neg htwo, if_neg hthree, if_neg hone, if_neg htwo, if_neg hthree]
  rfl

/-- A text has as many bytes in UTF-8 as it takes. -/
theorem length_encode (text : String) : (encode text.toList).length = text.utf8ByteSize := by
  have hchars : ∀ cs : List Char, (encode cs).length = String.utf8Len cs := by
    intro cs
    induction cs with
    | nil => rfl
    | cons c rest ih =>
        rw [encode, List.flatMap_cons, List.length_append, length_encodeChar, ← encode, ih,
          String.utf8Len_cons, Nat.add_comm]
  rw [hchars, ← String.utf8ByteSize_ofList, String.ofList_toList]

end Utf8

namespace Base64

/-- Values below 64 have letters of their own, in ASCII, and none of them is the padding. -/
theorem letter_spec {n : Nat} (hn : n < 64) :
    value? (letter n) = some n ∧ letter n ≠ '=' ∧ (letter n).toNat < 128 := by
  have hall : ∀ m < 64,
      value? (letter m) = some m ∧ letter m ≠ '=' ∧ (letter m).toNat < 128 := by decide
  exact hall n hn

variable {group : Group} {n : Nat} {written : Nat} {rest : List Char}

/-- A letter that completes no byte. -/
theorem decodeFrom_letter (hn : n < 64) {next : Group} (hpush : group.push n = (none, next)) :
    decodeFrom group written (letter n :: rest) = decodeFrom next written rest := by
  obtain ⟨hvalue, hpad, _⟩ := letter_spec hn
  rw [decodeFrom, if_neg hpad, hvalue]
  dsimp only
  rw [hpush]

/-- A letter that completes a byte. -/
theorem decodeFrom_letter_byte (hn : n < 64) {byte : UInt8} {next : Group}
    (hpush : group.push n = (some byte, next)) {bytes : List UInt8}
    (hrest : decodeFrom next (written + 1) rest = .ok bytes) :
    decodeFrom group written (letter n :: rest) = .ok (byte :: bytes) := by
  obtain ⟨hvalue, hpad, _⟩ := letter_spec hn
  rw [decodeFrom, if_neg hpad, hvalue]
  dsimp only
  rw [hpush]
  dsimp only
  rw [hrest]
  rfl

theorem Group.push_first (v : Nat) : Group.start.push v = (none, ⟨1, v, 0⟩) := rfl

/-- The bits that are left of one letter and the first ones of the next are a byte. -/
theorem Group.push_second {bits v : Nat} {byte : UInt8} (hbyte : bits * 4 + v / 16 = byte.toNat) :
    (Group.mk 1 bits 0).push v = (some byte, ⟨2, v % 16, 0⟩) := by
  rw [← Utf8.ofNat_eq_of_eq hbyte]
  rfl

theorem Group.push_third {bits v : Nat} {byte : UInt8} (hbyte : bits * 16 + v / 4 = byte.toNat) :
    (Group.mk 2 bits 0).push v = (some byte, ⟨3, v % 4, 0⟩) := by
  rw [← Utf8.ofNat_eq_of_eq hbyte]
  rfl

theorem Group.push_fourth {bits v : Nat} {byte : UInt8} (hbyte : bits * 64 + v = byte.toNat) :
    (Group.mk 3 bits 0).push v = (some byte, Group.start) := by
  rw [← Utf8.ofNat_eq_of_eq hbyte]
  rfl

/-- The letters of bytes are read as the bytes, whatever has been written before. -/
theorem decodeFrom_encode (bytes : List UInt8) (written : Nat) :
    decodeFrom .start written (encode bytes) = .ok bytes := by
  induction bytes using encode.induct generalizing written with
  | case1 => rfl
  | case2 a =>
      have ha := a.toNat_lt
      rw [encode, decodeFrom_letter (by omega) (Group.push_first _)]
      apply decodeFrom_letter_byte (by omega) (Group.push_second (by omega))
      rfl
  | case3 a b =>
      have ha := a.toNat_lt
      have hb := b.toNat_lt
      rw [encode, decodeFrom_letter (by omega) (Group.push_first _)]
      apply decodeFrom_letter_byte (by omega) (Group.push_second (by omega))
      apply decodeFrom_letter_byte (by omega) (Group.push_third (by omega))
      rfl
  | case4 a b c rest ih =>
      have ha := a.toNat_lt
      have hb := b.toNat_lt
      have hc := c.toNat_lt
      rw [encode, decodeFrom_letter (by omega) (Group.push_first _)]
      apply decodeFrom_letter_byte (by omega) (Group.push_second (by omega))
      apply decodeFrom_letter_byte (by omega) (Group.push_third (by omega))
      apply decodeFrom_letter_byte (by omega) (Group.push_fourth (by omega))
      exact ih _

/-- All characters that are written are in ASCII. -/
theorem toNat_lt_of_mem_encode (bytes : List UInt8) : ∀ c ∈ encode bytes, c.toNat < 128 := by
  have hletter : ∀ n, n < 64 → (letter n).toNat < 128 := fun n hn => (letter_spec hn).2.2
  have hpad : '='.toNat < 128 := by decide
  induction bytes using encode.induct with
  | case1 => simp [encode]
  | case2 a =>
      have ha := a.toNat_lt
      simp only [encode, List.forall_mem_cons]
      exact ⟨hletter _ (by omega), hletter _ (by omega), hpad, hpad, by simp⟩
  | case3 a b =>
      have ha := a.toNat_lt
      have hb := b.toNat_lt
      simp only [encode, List.forall_mem_cons]
      exact ⟨hletter _ (by omega), hletter _ (by omega), hletter _ (by omega), hpad, by simp⟩
  | case4 a b c rest ih =>
      have ha := a.toNat_lt
      have hb := b.toNat_lt
      have hc := c.toNat_lt
      simp only [encode, List.forall_mem_cons]
      exact ⟨hletter _ (by omega), hletter _ (by omega), hletter _ (by omega),
        hletter _ (by omega), ih⟩

/-- Three bytes are four letters, and the last bytes are padded to as many. -/
theorem length_encode (bytes : List UInt8) :
    (encode bytes).length = 4 * ((bytes.length + 2) / 3) := by
  induction bytes using encode.induct with
  | case1 => rfl
  | case2 a => simp [encode]
  | case3 a b => simp [encode]
  | case4 a b c rest ih =>
      simp only [encode, List.length_cons, ih]
      omega

/-- Bytes are read from their letters. -/
theorem decode_encode (bytes : List UInt8) : decode (encode bytes) = .ok bytes := by
  have hascii : (encode bytes).any (fun c => 128 ≤ c.toNat) = false := by
    rw [List.any_eq_false]
    intro c hc
    have hsmall := toNat_lt_of_mem_encode bytes c hc
    simpa using hsmall
  rw [decode, hascii, if_neg Bool.false_ne_true]
  exact decodeFrom_encode bytes 0

end Base64

end Text

namespace Transform.Builtin

theorem decode_encode (text : String) : decode (encode text) = .ok text := by
  have hbytes : Text.Base64.decode (encode text).toList = .ok (Text.Utf8.encode text.toList) := by
    rw [encode, String.toList_ofList, Text.Base64.decode_encode]
  have hchars : Text.Utf8.decode (Text.Utf8.encode text.toList) = .ok text.toList :=
    Text.Utf8.decode_encode text.toList
  calc decode (encode text)
      = ((Text.Utf8.decode (Text.Utf8.encode text.toList)).mapError Fault.bytes).map
          String.ofList := by
        rw [decode, hbytes]
        rfl
    _ = .ok (String.ofList text.toList) := by
        rw [hchars]
        rfl
    _ = .ok text := by rw [String.ofList_toList]

end Transform.Builtin

open Transform in
/-- A text in base 64 is read as the text, whatever characters it has, and is written in ASCII, with
four characters for each three bytes that the text takes in UTF-8 or part of three. -/
theorem base64_restored [Limits] (text : String) (params others : Entries) :
    ∃ encoded : String, Builtin.run .base64Encode params (.string text) = .ok (.string encoded) ∧
      Builtin.run .base64Decode others (.string encoded) = .ok (.string text) ∧
      (∀ c ∈ encoded.toList, c.toNat < 128) ∧
      encoded.length = 4 * ((text.utf8ByteSize + 2) / 3) := by
  refine ⟨Builtin.encode text, rfl, ?_, ?_, ?_⟩
  · simp only [Builtin.run, Builtin.decode_encode]
    rfl
  · rw [Builtin.encode, String.toList_ofList]
    exact Text.Base64.toNat_lt_of_mem_encode _
  · rw [Builtin.encode, String.length_ofList, Text.Base64.length_encode, Text.Utf8.length_encode]

end EventIntake
