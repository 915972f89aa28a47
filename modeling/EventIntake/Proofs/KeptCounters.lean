/-
The file of the counters: what counters that hold a tally are written as is read as the same
counters, and laid over counters at zero it gives them back.
-/
import EventIntake.Proofs.JsonRoundTrip
import EventIntake.Proofs.Recalling
import EventIntake.Proofs.Utf8

namespace EventIntake

namespace Text

/-- Lines without a carriage return are as they are written. -/
theorem plainLines_of_not_mem {cs : List Char} (hplain : '\r' ∉ cs) : plainLines cs = cs := by
  induction cs with
  | nil => rfl
  | cons c rest ih =>
      rw [List.mem_cons, not_or] at hplain
      have hc : c ≠ '\r' := Ne.symm hplain.1
      rw [plainLines.eq_def]
      split
      next hnil => cases hnil
      next heq =>
        cases heq
        exact absurd rfl hc
      next heq =>
        cases heq
        rw [if_neg hc, ih hplain.2]

theorem hexDigit_ne_return {n : Nat} (hn : n < 16) : hexDigit n ≠ '\r' := by
  revert n
  decide

theorem return_not_mem_hexDigits (width n : Nat) : '\r' ∉ hexDigits width n := by
  induction width generalizing n with
  | zero => exact List.not_mem_nil
  | succ width ih =>
      rw [hexDigits, List.mem_append, List.mem_singleton, not_or]
      exact ⟨ih (n / 16), (hexDigit_ne_return (Nat.mod_lt n (by decide))).symm⟩

end Text

namespace Json

theorem return_not_mem_unitEscape (n : Nat) : '\r' ∉ unitEscape n := by
  rw [unitEscape]
  simp [Text.return_not_mem_hexDigits]

theorem return_not_mem_escapeChar (asciiOnly : Bool) (c : Char) :
    '\r' ∉ escapeChar asciiOnly c := by
  unfold escapeChar
  split
  next hmark => rcases hmark with rfl | rfl <;> simp
  next =>
    split
    next hplain =>
      rw [List.mem_singleton]
      rintro rfl
      exact absurd hplain.1 (by decide)
    next =>
      repeat' split
      all_goals simp [return_not_mem_unitEscape]

theorem return_not_mem_quote (asciiOnly : Bool) (s : String) :
    '\r' ∉ (quote asciiOnly s).toList := by
  rw [toList_quote]
  simp [return_not_mem_escapeChar]

theorem return_not_mem_toString (n : Int) : '\r' ∉ (toString n : String).toList := by
  rw [Number.toList_toString, List.mem_append, not_or]
  refine ⟨by split <;> simp, fun hmem => ?_⟩
  have hdigit := Number.isDigit_of_mem_toDigits '\r' hmem
  cases hdigit

namespace Layout

variable {layout : Layout} {level : Nat} {text : String}

/-- A layout that does not separate by carriage returns. -/
structure IsPlain (layout : Layout) : Prop where
  item : '\r' ∉ layout.itemSeparator.toList
  key : '\r' ∉ layout.keySeparator.toList

theorem return_not_mem_lineBreak (layout : Layout) (level : Nat) :
    '\r' ∉ (layout.lineBreak level).toList := by
  unfold lineBreak
  cases layout.indent with
  | none => simp
  | some width => simp [String.toList_ofList]

theorem return_not_mem_scalar {s : Scalar} (hexact : s.IsExact)
    (hwrite : layout.scalar s = .ok text) : '\r' ∉ text.toList := by
  cases s with
  | null =>
      cases hwrite
      decide
  | bool b =>
      cases hwrite
      cases b <;> decide
  | int n =>
      rw [layout.scalar_int (Scalar.isTooLong_int_eq_false.2 hexact)] at hwrite
      cases hwrite
      exact return_not_mem_toString n
  | string t =>
      cases hwrite
      exact return_not_mem_quote layout.asciiOnly t
  | _ => cases hexact

theorem return_not_mem_key {name : String} (hwrite : layout.key (.string name) = .ok text) :
    '\r' ∉ text.toList := by
  cases hwrite
  exact return_not_mem_quote layout.asciiOnly name

section

variable [Limits]

mutual

/-- No carriage return is in the text of a value. -/
theorem return_not_mem_writeAt (hplain : layout.IsPlain) : {v : Value} → {level : Nat} →
    {text : String} → v.MadeOf Scalar.IsExact → layout.writeAt level v = .ok text →
      '\r' ∉ text.toList
  | .scalar s, level, text, hmade, hwrite => by
      rw [writeAt] at hwrite
      exact return_not_mem_scalar (Value.madeOf_scalar_iff.1 hmade) hwrite
  | .list [], level, text, _, hwrite => by
      rw [writeAt] at hwrite
      cases hwrite
      decide
  | .dict [], level, text, _, hwrite => by
      rw [writeAt] at hwrite
      cases hwrite
      decide
  | .list (v :: rest), level, text, hmade, hwrite => by
      rw [Value.MadeOf, Value.AllMadeOf] at hmade
      obtain ⟨first, others, hfirst, hothers, rfl⟩ := exists_of_writeAt_list hwrite
      have hv := return_not_mem_writeAt hplain hmade.1 hfirst
      have hrest := return_not_mem_writeItems hplain hmade.2 hothers
      simp [return_not_mem_lineBreak, hv, hrest]
  | .dict ((key, v) :: rest), level, text, hmade, hwrite => by
      rw [Value.MadeOf, Entries.MadeOf] at hmade
      obtain ⟨hkey, _, hvmade, hrestmade⟩ := hmade
      obtain ⟨name, rfl⟩ := hkey.exists_string
      obtain ⟨given, first, others, hgiven, hfirst, hothers, rfl⟩ := exists_of_writeAt_dict hwrite
      have hv := return_not_mem_writeAt hplain hvmade hfirst
      have hrest := return_not_mem_writeEntries hplain hrestmade hothers
      simp [return_not_mem_lineBreak, return_not_mem_key hgiven, hplain.key, hv, hrest]

theorem return_not_mem_writeItems (hplain : layout.IsPlain) : {items : List Value} →
    {level : Nat} → {text : String} → Value.AllMadeOf Scalar.IsExact items →
      layout.writeItems level items = .ok text → '\r' ∉ text.toList
  | [], _, _, _, hwrite => by
      cases hwrite
      decide
  | v :: rest, level, text, hmade, hwrite => by
      rw [Value.AllMadeOf] at hmade
      obtain ⟨first, others, hfirst, hothers, rfl⟩ := exists_of_writeItems_cons hwrite
      have hv := return_not_mem_writeAt hplain hmade.1 hfirst
      have hrest := return_not_mem_writeItems hplain hmade.2 hothers
      simp [return_not_mem_lineBreak, hplain.item, hv, hrest]

theorem return_not_mem_writeEntries (hplain : layout.IsPlain) : {entries : Entries} →
    {level : Nat} → {text : String} → Entries.MadeOf Scalar.IsExact entries →
      layout.writeEntries level entries = .ok text → '\r' ∉ text.toList
  | [], _, _, _, hwrite => by
      cases hwrite
      decide
  | (key, v) :: rest, level, text, hmade, hwrite => by
      rw [Entries.MadeOf] at hmade
      obtain ⟨hkey, _, hvmade, hrestmade⟩ := hmade
      obtain ⟨name, rfl⟩ := hkey.exists_string
      obtain ⟨given, first, others, hgiven, hfirst, hothers, rfl⟩ :=
        exists_of_writeEntries_cons hwrite
      have hv := return_not_mem_writeAt hplain hvmade hfirst
      have hrest := return_not_mem_writeEntries hplain hrestmade hothers
      simp [return_not_mem_lineBreak, return_not_mem_key hgiven, hplain.item, hplain.key, hv, hrest]

end

end

end Layout

theorem isReadable_pretty : pretty.IsReadable :=
  ⟨⟨[], rfl, by simp⟩, ⟨[' '], rfl, List.forall_mem_singleton.2 rfl⟩⟩

theorem isPlain_pretty : pretty.IsPlain := ⟨by decide, by decide⟩

end Json

namespace Counts

/-- Counts by different names, none of them too long, are read as they are written. -/
theorem madeOf_entries {counts : Counts} (hdistinct : (counts.map Prod.fst).Nodup)
    (hshort : ∀ count ∈ counts, (Scalar.int count.2).isTooLong = false) :
    Entries.MadeOf Scalar.IsExact counts.entries := by
  induction counts with
  | nil => exact Entries.madeOf_nil
  | cons count rest ih =>
      obtain ⟨name, n⟩ := count
      rw [List.map_cons, List.nodup_cons] at hdistinct
      obtain ⟨hcount, hrest⟩ := List.forall_mem_cons.1 hshort
      rw [entries, List.map_cons, Entries.MadeOf]
      refine ⟨trivial, ?_, ?_, ih hdistinct.2 hrest⟩
      · rw [List.map_map, List.mem_map]
        rintro ⟨⟨other, m⟩, hmem, hname⟩
        cases hname
        exact hdistinct.1 (List.mem_map.2 ⟨_, hmem, rfl⟩)
      · exact Value.madeOf_scalar_iff.2 (Scalar.isTooLong_int_eq_false.1 hcount)

end Counts

namespace Tally

/-- A tally whose counts by name are by different names. -/
structure IsDistinct (tally : Tally) : Prop where
  byFormat : (tally.byFormat.map Prod.fst).Nodup
  byKind : (tally.byKind.map Prod.fst).Nodup

theorem isDistinct_zero : zero.IsDistinct := ⟨List.nodup_nil, List.nodup_nil⟩

theorem IsDistinct.record {tally : Tally} (hdistinct : tally.IsDistinct) (recording : Recording) :
    (tally.record recording).IsDistinct := by
  cases recording with
  | normalization event =>
      exact ⟨Counts.nodup_more hdistinct.byFormat _, Counts.nodup_more hdistinct.byKind _⟩
  | unsupportedFormat => exact ⟨hdistinct.byFormat, hdistinct.byKind⟩

variable {tally : Tally}

/-- Counters that hold a tally are read as they are written. -/
theorem madeOf_counters (hdistinct : tally.IsDistinct) (hshort : tally.counters.tooLong = false) :
    (Value.dict tally.counters.entries).MadeOf Scalar.IsExact := by
  have hcounts := isShort_of_tooLong hshort
  have hint : ∀ {n : Int}, (Scalar.int n).isTooLong = false → (Scalar.int n).IsExact :=
    Scalar.isTooLong_int_eq_false.1
  have hbyFormat := Counts.madeOf_entries hdistinct.byFormat hcounts.byFormat
  have hbyKind := Counts.madeOf_entries hdistinct.byKind hcounts.byKind
  simp [counters, Value.record, Value.entries, Value.entries?, Value.MadeOf, Entries.MadeOf,
    hint hcounts.normalized, hint hcounts.invalid, hint hcounts.unsupported,
    hint hcounts.warnings, hint hcounts.dropped, hbyFormat, hbyKind]

/-- The text of counters that hold a tally is without a carriage return, and holds them. -/
theorem read_countersText [Limits] (hdistinct : tally.IsDistinct)
    (hshort : tally.counters.tooLong = false) {text : String}
    (htext : Service.countersText tally.counters = .ok text) :
    '\r' ∉ text.toList ∧ Counters.ofText? text = .ok (some tally.counters.entries) := by
  have hwrite : Json.pretty.write (.dict tally.counters.entries) = .ok text := by
    rw [Service.countersText, hshort, if_neg Bool.false_ne_true, Counters.toText] at htext
    cases hwritten : (Json.pretty.write (.dict tally.counters.entries) :
      Except Json.WriteFault String) with
    | ok written =>
        rw [hwritten] at htext
        cases htext
        rfl
    | error fault =>
        rw [hwritten] at htext
        cases htext
  have hmade := madeOf_counters hdistinct hshort
  have hroom := Limits.le_reading
  have hdepth := Service.depth_counters_le tally
  refine ⟨Json.Layout.return_not_mem_writeAt Json.isPlain_pretty hmade hwrite, ?_⟩
  rw [Counters.ofText?, Json.read_write Json.isReadable_pretty hmade (by omega) hwrite]
  rfl

/-- Counters that hold a tally replace any others. -/
theorem merge_counters (below tally : Tally) :
    below.counters.merge tally.counters.entries = tally.counters := by
  simp [Counters.merge, counters, Value.record, Value.entries, Value.entries?, Entries.insert,
    Scalar.same_string]

end Tally

namespace Files

theorem Leads.textOf?_eq {files : Files} {path place : String} (hleads : files.Leads path place) :
    Service.textOf? files path = (files.files.lookup place).bind fun bytes =>
      (Text.Utf8.decode bytes).toOption.map fun cs => String.ofList (Text.plainLines cs) := by
  have hread : (files.read path).toOption = files.files.lookup place := by
    rw [hleads.read_eq]
    cases files.files.lookup place <;> rfl
  rw [Service.textOf?, hread]
  cases files.files.lookup place with
  | none => rfl
  | some bytes =>
      change (Text.Utf8.decode bytes).toOption.bind _ = (Text.Utf8.decode bytes).toOption.map _
      cases (Text.Utf8.decode bytes).toOption <;> rfl

end Files

end EventIntake
