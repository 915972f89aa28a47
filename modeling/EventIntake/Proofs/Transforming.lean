/-
Which transforms stop an event.  A pipeline never does, and a built-in transform whose fault is
told does not; what is left are a place that a list does not have and nesting past the limit.
-/
import EventIntake.Proofs.Nesting
import EventIntake.Proofs.Rows

namespace EventIntake

namespace Transform

/-- The result is a fault that is not told as a warning. -/
def Stops {α : Type} (result : Except Fault α) : Prop :=
  ∃ fault, result = .error fault ∧ fault.stops = true

section Stops

variable {α β : Type}

@[simp] theorem stops_ok (a : α) : Stops (.ok a : Except Fault α) ↔ False := by
  simp [Stops]

@[simp] theorem stops_error (fault : Fault) :
    Stops (.error fault : Except Fault α) ↔ fault.stops = true := by
  simp [Stops]

@[simp] theorem stops_map (f : α → β) (result : Except Fault α) :
    Stops (result.map f) ↔ Stops result := by
  cases result with
  | ok a => simp [Except.map]
  | error fault => simp [Except.map]

@[simp] theorem stops_bind (result : Except Fault α) (next : α → Except Fault β) :
    Stops (result >>= next) ↔ Stops result ∨ ∃ a, result = .ok a ∧ Stops (next a) := by
  cases result with
  | ok a => simp [bind, Except.bind]
  | error fault => simp [bind, Except.bind]

/-- A fault of another kind stops the event if what is made of it does. -/
theorem stops_mapError {ε : Type} (f : ε → Fault) (result : Except ε α) :
    Stops (result.mapError f) ↔ ∃ fault, result = .error fault ∧ (f fault).stops = true := by
  cases result with
  | ok a => simp
  | error fault => simp

/-- Of the faults of reading JSON only the nesting stops an event. -/
theorem Fault.stops_ofRead_iff {fault : Json.ReadFault} :
    (Fault.ofRead fault).stops = true ↔ fault = .tooDeep := by
  cases fault <;> simp [Fault.ofRead, Fault.stops]

end Stops

namespace Timestamp

/-- A count of seconds or milliseconds, which a unit tells apart. -/
def IsCount : Value → Prop
  | .float _ => True
  | .int n => ∀ negative, Binary64.ofInt n ≠ .infinite negative
  | .string text =>
    isNumeric (Text.strip text).toList = true ∧
      (Number.readDecimal? (Text.strip text).toList).isSome = true
  | _ => False

theorem stops_scale [Limits] {x : Binary64} {unit : Value} :
    Stops (scale x unit) ↔ unit.tooDeepToTell = true := by
  unfold scale
  split
  next => simp [Value.tooDeepToTell, Value.depth]
  next => simp [Value.tooDeepToTell, Value.depth]
  next => simp [Value.tooDeepToTell, Value.depth]
  next =>
    by_cases hdeep : unit.tooDeepToTell = true
    · simp [hdeep, Fault.stops]
    · by_cases hlong : unit.hasTooLong = true <;> simp [hdeep, hlong, Fault.stops]

theorem not_stops_whole (x : Binary64) : ¬ Stops (whole x) := by
  unfold whole
  split <;> simp [Fault.stops]

theorem not_stops_ofHalved (text : Halved) : ¬ Stops (ofHalved text) := by
  unfold ofHalved
  split <;> simp [Fault.stops]

section

variable [Limits]

theorem stops_ofFloat {x : Binary64} {unit : Value} :
    Stops (ofFloat x unit) ↔ unit.tooDeepToTell = true := by
  simp [ofFloat, stops_scale, not_stops_whole]

theorem stops_ofInteger {n : Int} {unit : Value} :
    Stops (ofInteger n unit) ↔ IsCount (.int n) ∧ unit.tooDeepToTell = true := by
  unfold ofInteger
  split
  next negative hinfinite => simp [Fault.stops, IsCount, hinfinite]
  next hfinite => simpa [stops_ofFloat, IsCount] using fun _ => hfinite

theorem stops_ofText {text : String} {unit : Value} :
    Stops (ofText text unit) ↔ IsCount (.string text) ∧ unit.tooDeepToTell = true := by
  simp only [ofText, IsCount]
  cases hnumeric : isNumeric (Text.strip text).toList with
  | false => cases Instant.read (Text.strip text) <;> simp [Fault.stops]
  | true =>
      cases hread : Number.readDecimal? (Text.strip text).toList with
      | none => cases Instant.read (Text.strip text) <;> simp [Fault.stops]
      | some x => simp [stops_ofFloat]

/-- Only a unit that cannot be displayed stops the reading of a timestamp, and only where the
unit counts. -/
theorem stops_read {v unit : Value} :
    Stops (read v unit) ↔ IsCount v ∧ unit.tooDeepToTell = true := by
  cases v with
  | list items => simp [Timestamp.read, IsCount, Fault.stops]
  | dict entries => simp [Timestamp.read, IsCount, Fault.stops]
  | scalar s =>
      cases s with
      | int n => rw [Timestamp.read, stops_ofInteger]
      | float x => simp [Timestamp.read, stops_ofFloat, IsCount]
      | string text => rw [Timestamp.read, stops_ofText]
      | halved text => simp [Timestamp.read, not_stops_ofHalved, IsCount]
      | _ => simp [Timestamp.read, IsCount, Fault.stops]

end

theorem not_stops_write (millis : Int) : ¬ Stops (write millis) := by
  rw [write, stops_bind, stops_mapError, not_or]
  refine ⟨by simp [Fault.stops], ?_⟩
  rintro ⟨_, _, hstops⟩
  split at hstops
  next => simp [pure, Except.pure] at hstops
  next => simp [throw, throwThe, MonadExceptOf.throw, Fault.stops] at hstops

end Timestamp

namespace Builtin

/-- The value is an index, but of no place that the list has or that a list can have. -/
def OutOfPlace (items : List Value) (v : Value) : Prop :=
  ∃ n, index? v = some n ∧
    (n < -(items.length : Int) ∨ (items.length : Int) ≤ n ∨
      n < -9223372036854775808 ∨ 9223372036854775807 < n)

theorem stops_place {items : List Value} {v : Value} :
    Stops (place items v) ↔ OutOfPlace items v := by
  unfold place OutOfPlace
  cases index? v with
  | none => simp [Fault.stops]
  | some n =>
      simp only [Option.some.injEq, exists_eq_left']
      split
      next hhuge => simp [Fault.stops, hhuge]
      next hsmall =>
        -- a negative index counts from the end
        by_cases hnegative : n < 0
        · simp only [hnegative, ↓reduceIte]
          by_cases hbefore : n + (items.length : Int) < 0
          · simp only [hbefore, ↓reduceIte, stops_error, Fault.stops, true_iff]
            omega
          · have hlt : (n + (items.length : Int)).toNat < items.length := by omega
            have hget := List.getElem?_eq_getElem hlt
            simp only [hbefore, ↓reduceIte, hget, stops_ok, false_iff]
            omega
        · simp only [hnegative, ↓reduceIte]
          by_cases hbehind : n.toNat < items.length
          · simp only [List.getElem?_eq_getElem hbehind, stops_ok, false_iff]
            omega
          · simp only [List.getElem?_eq_none (Nat.le_of_not_lt hbehind), stops_error, Fault.stops,
              true_iff]
            omega

/-- Looking a value up in a list stops the event: the value has to be compared with an item past
the limit, it is in the list and stands for none of its places, or it is not and has no text. -/
def EscapesList [Limits] (items : List Value) (v : Value) : Prop :=
  v.isAmong items = none ∨
    (v.isAmong items = some true ∧ OutOfPlace items v) ∨
    (v.isAmong items = some false ∧ v.tooDeepToTell = true)

/-- The table of an exchange of values. -/
def tableOf (params : Entries) : Value :=
  (Entries.get? (.string "mapping") params).getD .null

/-- The unit of a timestamp. -/
def unitOf (params : Entries) : Value :=
  (Entries.get? (.string "unit") params).getD .null

/-- A built-in transform stops the event: a value, a unit or a text is nested past the limit where
it has to be displayed, written, read or compared, or a list has no such place. -/
def Escapes [Limits] (params : Entries) (v : Value) : Builtin → Prop
  | .toString => v.tooDeepToTell = true
  | .toIsoDate => Timestamp.IsCount v ∧ (unitOf params).tooDeepToTell = true
  | .toUnixTimestamp => Timestamp.IsCount v ∧ (unitOf params).tooDeepToTell = true
  | .jsonParse =>
    (∃ text, v = .string text ∧ Json.read text = .error .tooDeep) ∨
      ∃ text, v = .halved text ∧ Json.readPoints text.points = .error .tooDeep
  | .jsonStringify =>
    (Json.compact.write v : Except Json.WriteFault (List Point)) = .error .tooDeep
  | .mapValue => ∃ items, tableOf params = .list items ∧ items ≠ [] ∧ EscapesList items v
  | _ => False

theorem stops_text [Limits] {v : Value} : Stops (text v) ↔ v.tooDeepToTell = true := by
  unfold text
  split
  next => simp [Value.tooDeepToTell, Value.depth]
  next =>
    split
    next hdeep => simp [Fault.stops, hdeep]
    next hshallow => by_cases hlong : v.hasTooLong = true <;> simp [hshallow, hlong, Fault.stops]

theorem isText_of_text [Limits] {v : Value} {key : Scalar} (htext : text v = .ok key) :
    key.isText = true := by
  unfold text at htext
  split at htext
  next =>
    cases htext
    rfl
  next =>
    split at htext
    next => cases htext
    next =>
      split at htext
      next => cases htext
      next =>
        cases htext
        rfl

theorem not_stops_decode (t : String) : ¬ Stops (decode t) := by
  simp [decode, stops_mapError, Fault.stops, pure, Except.pure]

theorem not_stops_number (v : Value) : ¬ Stops (number v) := by
  unfold number
  split
  next => simp
  next => simp
  next => simp
  next =>
    simp only
    split
    next => simp
    next => split <;> simp [Fault.stops]
  next => simp [Fault.stops]
  next => simp [Fault.stops]

variable [Limits]

/-- A value has no compact JSON for its nesting if points cannot be written for it. -/
theorem stops_stringify {v : Value} :
    Stops (stringify v) ↔
      (Json.compact.write v : Except Json.WriteFault (List Point)) = .error .tooDeep := by
  have hmatches := Json.matches_write Json.compact v
  unfold stringify
  cases hwrite : (Json.compact.write v : Except Json.WriteFault String) with
  | ok text =>
      rw [hwrite] at hmatches
      have hpoints : Json.compact.write v = .ok (Json.Medium.text text) := hmatches
      simp [hpoints]
  | error fault =>
      rw [hwrite] at hmatches
      cases fault with
      | halved =>
          simp only [stops_map, stops_mapError]
          constructor
          · rintro ⟨fault, hfault, hstops⟩
            cases fault <;> simp_all [Fault.ofWrite, Fault.stops]
          · exact fun hfault => ⟨.tooDeep, hfault, rfl⟩
      | _ =>
          have hpoints : (Json.compact.write v : Except Json.WriteFault (List Point)) =
            .error _ := hmatches
          simp [hpoints, Fault.ofWrite, Fault.stops]

theorem isAmong_scalar_ne_none (s : Scalar) (items : List Value) :
    (Value.scalar s).isAmong items ≠ none := by
  induction items with
  | nil => simp [Value.isAmong]
  | cons item rest ih =>
      cases item with
      | scalar t => cases hsame : t.same s <;> simp [Value.isAmong, Value.sameWithin, hsame, ih]
      | list items => simp [Value.isAmong, Value.sameWithin, ih]
      | dict entries => simp [Value.isAmong, Value.sameWithin, ih]

theorem stops_lookup {table v : Value} :
    Stops (lookup table v) ↔
      ∃ items, table = .list items ∧
        (v.isAmong items = none ∨ (v.isAmong items = some true ∧ OutOfPlace items v)) := by
  unfold lookup
  split
  next => split <;> simp [Fault.stops]
  next items =>
    cases hamong : v.isAmong items with
    | none => simp [hamong, Fault.stops]
    | some found => cases found <;> simp [hamong, stops_place]
  next =>
    split
    next => split <;> simp [Fault.stops]
    next => simp
    next => simp [Fault.stops]
  next =>
    split
    next => split <;> simp [Fault.stops]
    next => split <;> simp [Fault.stops]
    next => simp [Fault.stops]
  next hdict hlist hstring hhalved =>
    simp only [stops_error, Fault.stops, Bool.false_eq_true, false_iff, not_exists, not_and]
    intro items htable
    exact absurd htable (hlist items)

/-- A text that is looked up does not stop the event. -/
theorem not_stops_lookup_text (table : Value) {key : Scalar} (htext : key.isText = true) :
    ¬ Stops (lookup table (.scalar key)) := by
  rw [stops_lookup]
  rintro ⟨items, _, hnone | ⟨_, n, hindex, _⟩⟩
  · exact isAmong_scalar_ne_none _ items hnone
  · cases key <;> simp [index?] at hindex <;> cases htext

/-- A value without a text is missed only by a list. -/
theorem lookup_eq_none_iff_of_tooDeep {table v : Value} (hdeep : v.tooDeepToTell = true) :
    lookup table v = .ok none ↔
      ∃ items, table = .list items ∧ v.isAmong items = some false := by
  have hscalar : ∀ s, v ≠ .scalar s := by
    rintro s rfl
    simp at hdeep
  unfold lookup
  split
  next =>
    split
    next s => exact absurd rfl (hscalar s)
    next => simp
  next items =>
    cases hamong : v.isAmong items with
    | none => simp [hamong]
    | some found => cases found <;> simp [hamong, Except.map]; split <;> simp
  next =>
    split
    next part => exact absurd rfl (hscalar (.string part))
    next part => exact absurd rfl (hscalar (.halved part))
    next => simp
  next =>
    split
    next part => exact absurd rfl (hscalar (.string part))
    next part => exact absurd rfl (hscalar (.halved part))
    next => simp
  next hdict hlist hstring hhalved =>
    simp only [reduceCtorEq, false_iff, not_exists, not_and]
    intro items htable
    exact absurd htable (hlist items)

/-- An exchange stops the event where looking the value up does, or its text that is asked for
next. -/
theorem stops_exchange_iff_lookup {params : Entries} {v : Value} {table : Value}
    (htable : table = if (tableOf params).truthy then tableOf params else .dict []) :
    Stops (exchange v params) ↔
      Stops (lookup table v) ∨ (lookup table v = .ok none ∧ v.tooDeepToTell = true) := by
  subst htable
  simp only [exchange, tableOf, stops_bind]
  refine or_congr_right ?_
  constructor
  · rintro ⟨found, hlookup, hstops⟩
    cases found with
    | some w => simp [pure, Except.pure] at hstops
    | none =>
        refine ⟨hlookup, ?_⟩
        simp only [stops_bind, stops_text] at hstops
        rcases hstops with hdeep | ⟨key, htext, hstops | ⟨found, _, hstops⟩⟩
        · exact hdeep
        · exact absurd hstops (not_stops_lookup_text _ (isText_of_text htext))
        · cases found <;> simp [pure, Except.pure] at hstops
  · rintro ⟨hlookup, hdeep⟩
    exact ⟨none, hlookup, by simp [stops_text, hdeep]⟩

theorem stops_exchange {params : Entries} {v : Value} :
    Stops (exchange v params) ↔
      ∃ items, tableOf params = .list items ∧ items ≠ [] ∧ EscapesList items v := by
  rw [stops_exchange_iff_lookup rfl, stops_lookup]
  by_cases htruthy : (tableOf params).truthy = true
  · rw [if_pos htruthy]
    constructor
    · rintro (⟨items, htable, hamong⟩ | ⟨hlookup, hdeep⟩)
      · refine ⟨items, htable, ?_, hamong.imp_right Or.inl⟩
        rintro rfl
        simp [htable, Value.truthy] at htruthy
      · obtain ⟨items, htable, hmissed⟩ := (lookup_eq_none_iff_of_tooDeep hdeep).1 hlookup
        refine ⟨items, htable, ?_, Or.inr (Or.inr ⟨hmissed, hdeep⟩)⟩
        rintro rfl
        simp [htable, Value.truthy] at htruthy
    · rintro ⟨items, htable, _, hnone | hplace | ⟨hmissed, hdeep⟩⟩
      · exact Or.inl ⟨items, htable, Or.inl hnone⟩
      · exact Or.inl ⟨items, htable, Or.inr hplace⟩
      · exact Or.inr ⟨(lookup_eq_none_iff_of_tooDeep hdeep).2 ⟨items, htable, hmissed⟩, hdeep⟩
  · rw [if_neg htruthy]
    constructor
    · rintro (⟨items, htable, _⟩ | ⟨hlookup, hdeep⟩)
      · cases htable
      · obtain ⟨items, htable, _⟩ := (lookup_eq_none_iff_of_tooDeep hdeep).1 hlookup
        cases htable
    · rintro ⟨items, htable, hitems, _⟩
      simp [htable, Value.truthy, hitems] at htruthy

/-- Exactly in these cases a built-in transform stops the event. -/
theorem stops_run {b : Builtin} {params : Entries} {v : Value} :
    Stops (b.run params v) ↔ b.Escapes params v := by
  cases b with
  | toString => simp only [run, stops_map, stops_text, Escapes]
  | toNumber => simp only [run, not_stops_number, Escapes]
  | toIsoDate =>
      simp [run, Timestamp.stops_read, Escapes, unitOf, Timestamp.not_stops_write, pure,
        Except.pure]
  | toUnixTimestamp => simp only [run, stops_map, Timestamp.stops_read, Escapes, unitOf]
  | jsonParse =>
      simp only [run, Escapes]
      split
      next text => simp [stops_mapError, Fault.stops_ofRead_iff]
      next text => simp [stops_mapError, Fault.stops_ofRead_iff]
      next hstring hhalved =>
        simp only [stops_ok, false_iff, not_or, not_exists, not_and]
        exact ⟨fun text htext => absurd htext (hstring text),
          fun text htext => absurd htext (hhalved text)⟩
  | jsonStringify => exact stops_stringify
  | base64Encode =>
      simp only [run, Escapes]
      split <;> simp [Fault.stops]
  | base64Decode =>
      simp only [run, Escapes]
      split <;> simp [not_stops_decode, Fault.stops]
  | mapValue => exact stops_exchange
  | _ => simp only [run, stops_ok, Escapes]

end Builtin

end Transform

end EventIntake
