/-
Mapping JSON payloads.  Transforms make JSON values of JSON values, registered functions if they
are made to; so the data of a mapped JSON payload are JSON.  A table of gentle rows, which have no
parameters and only look up what any value lets them, comes to an end on every JSON payload.
-/
import EventIntake.Proofs.Stopping

namespace EventIntake

namespace Transform

namespace Builtin

theorem madeOf_number {v w : Value} (hv : v.MadeOf Scalar.IsJson) (hnumber : number v = .ok w) :
    w.MadeOf Scalar.IsJson := by
  unfold number at hnumber
  split at hnumber
  next b =>
    cases hnumber
    refine Value.madeOf_scalar_iff.2 ?_
    cases b with
    | false => exact digitBound_pos digitLimit
    | true => exact one_lt_digitBound
  next =>
    cases hnumber
    exact hv
  next =>
    cases hnumber
    exact hv
  next =>
    simp only at hnumber
    split at hnumber
    next hread =>
      cases hnumber
      exact Value.madeOf_scalar_iff.2 (Number.natAbs_lt_of_readInteger hread)
    next =>
      split at hnumber
      next hread =>
        cases hnumber
        exact Value.madeOf_scalar_iff.2 (Number.isStored_of_readDecimal? hread)
      next => cases hnumber
  next => cases hnumber
  next => cases hnumber

theorem madeOf_onText {f : String → String} {onHalved : Halved → List Point} {v : Value}
    (hv : v.MadeOf Scalar.IsJson) : (onText f onHalved v).MadeOf Scalar.IsJson := by
  unfold onText
  split
  next => exact Value.madeOf_scalar_iff.2 trivial
  next => exact Value.madeOf_scalar_iff.2 (Scalar.isJson_ofPoints _)
  next => exact hv

theorem isJson_of_stringify [Limits] {v w : Value} (hstringify : stringify v = .ok w) :
    w.MadeOf Scalar.IsJson := by
  unfold stringify at hstringify
  split at hstringify
  next =>
    cases hstringify
    exact Value.madeOf_scalar_iff.2 trivial
  next =>
    obtain ⟨points, _, rfl⟩ := Except.map_eq_ok_iff.1 hstringify
    exact Value.madeOf_scalar_iff.2 (Scalar.isJson_ofPoints points)
  next => cases hstringify

variable [Limits]

theorem lookup_nil_eq_none {v : Value} {found : Option Value}
    (hlookup : lookup (.dict []) v = .ok found) : found = none := by
  cases v with
  | scalar s => exact (Except.ok.inj hlookup).symm
  | list items => cases hlookup
  | dict entries => cases hlookup

/-- Without parameters there is no table, and an exchange leaves the value as it is. -/
theorem eq_of_exchange_nil {v w : Value} (hexchange : exchange v [] = .ok w) : v = w := by
  rw [exchange, Except.bind_eq_ok_iff] at hexchange
  obtain ⟨found, hlookup, hexchange⟩ := hexchange
  obtain rfl := lookup_nil_eq_none hlookup
  obtain ⟨key, _, hexchange⟩ := Except.bind_eq_ok_iff.1 hexchange
  obtain ⟨found, hlookup, hexchange⟩ := Except.bind_eq_ok_iff.1 hexchange
  obtain rfl := lookup_nil_eq_none hlookup
  exact Except.ok.inj hexchange

/-- Without parameters a built-in transform makes JSON values of JSON values. -/
theorem madeOf_run {b : Builtin} {v w : Value} (hv : v.MadeOf Scalar.IsJson)
    (hrun : b.run [] v = .ok w) : w.MadeOf Scalar.IsJson := by
  cases b with
  | toString =>
      obtain ⟨s, htext, rfl⟩ := Except.map_eq_ok_iff.1 hrun
      exact Value.madeOf_scalar_iff.2 (Scalar.isJson_of_isText (isText_of_text htext))
  | toNumber => exact madeOf_number hv hrun
  | toBoolean =>
      cases hrun
      exact Value.madeOf_scalar_iff.2 trivial
  | toLowercase =>
      cases hrun
      exact madeOf_onText hv
  | toUppercase =>
      cases hrun
      exact madeOf_onText hv
  | trim =>
      cases hrun
      exact madeOf_onText hv
  | toIsoDate =>
      obtain ⟨millis, _, hrun⟩ := Except.bind_eq_ok_iff.1 hrun
      obtain ⟨text, _, hrun⟩ := Except.bind_eq_ok_iff.1 hrun
      cases hrun
      exact Value.madeOf_scalar_iff.2 trivial
  | toUnixTimestamp =>
      obtain ⟨millis, hread, rfl⟩ := Except.map_eq_ok_iff.1 hrun
      refine Value.madeOf_scalar_iff.2 (Timestamp.natAbs_lt_of_read (fun x hfloat => ?_) hread)
      rw [hfloat] at hv
      exact Value.madeOf_scalar_iff.1 hv
  | jsonParse =>
      simp only [run] at hrun
      split at hrun
      next => exact (Json.fitsAt_of_read (Except.mapError_eq_ok_iff.1 hrun)).1
      next => exact (Json.fitsAt_of_readPoints (Except.mapError_eq_ok_iff.1 hrun)).1
      next =>
        cases hrun
        exact hv
  | jsonStringify => exact isJson_of_stringify hrun
  | base64Encode =>
      simp only [run] at hrun
      split at hrun
      next =>
        cases hrun
        exact Value.madeOf_scalar_iff.2 trivial
      next => cases hrun
      next =>
        cases hrun
        exact hv
  | base64Decode =>
      simp only [run] at hrun
      split at hrun
      next =>
        obtain ⟨text, _, rfl⟩ := Except.map_eq_ok_iff.1 hrun
        exact Value.madeOf_scalar_iff.2 trivial
      next => cases hrun
      next =>
        cases hrun
        exact hv
  | mapValue => exact eq_of_exchange_nil hrun ▸ hv

/-- Without parameters most built-in transforms never stop an event. -/
theorem not_escapes_nil {b : Builtin} (hb : b ∉ [.toString, .jsonParse, .jsonStringify])
    (v : Value) : ¬ b.Escapes [] v := by
  cases b with
  | toString => simp at hb
  | jsonParse => simp at hb
  | jsonStringify => simp at hb
  | mapValue =>
      rintro ⟨items, htable, _⟩
      cases htable
  | _ => simp [Escapes, unitOf, Entries.get?]

end Builtin

/-- All registered functions make JSON values of JSON values. -/
def Registry.KeepsJson (registry : Registry) : Prop :=
  ∀ name f, registry.get? name = some f → ∀ context v w,
    v.MadeOf Scalar.IsJson → f context v = some w → w.MadeOf Scalar.IsJson

section

variable {registry : Registry} {context : Context} {v w : Value}

variable [Limits]

/-- One step of a pipeline keeps JSON values JSON. -/
theorem madeOf_runStep (hregistry : registry.KeepsJson) {step : String}
    (hv : v.MadeOf Scalar.IsJson) (hstep : runStep registry context step v = some w) :
    w.MadeOf Scalar.IsJson := by
  unfold runStep at hstep
  split at hstep
  next f hf => exact hregistry step f hf context v w hv hstep
  next =>
    split at hstep
    next b _ =>
      split at hstep
      next u hrun =>
        cases hstep
        exact Builtin.madeOf_run hv hrun
      next => cases hstep
    next => cases hstep

theorem madeOf_runSteps (hregistry : registry.KeepsJson) {steps : List String}
    (hv : v.MadeOf Scalar.IsJson) (hsteps : runSteps registry context steps v = some w) :
    w.MadeOf Scalar.IsJson := by
  induction steps generalizing v with
  | nil =>
      cases hsteps
      exact hv
  | cons step rest ih =>
      rw [runSteps] at hsteps
      split at hsteps
      next u hstep => exact ih (madeOf_runStep hregistry hv hstep) hsteps
      next => cases hsteps

theorem madeOf_result? (hregistry : registry.KeepsJson) {pipelines : Pipelines} {name : String}
    (hv : v.MadeOf Scalar.IsJson)
    (hresult : result? registry pipelines context name [] v = some w) :
    w.MadeOf Scalar.IsJson := by
  unfold result? at hresult
  split at hresult
  next expression _ =>
    simp only [runExpression] at hresult
    split at hresult
    next => cases hresult
    next => exact madeOf_runSteps hregistry hv hresult
  next =>
    obtain ⟨b, _, hrun⟩ := Option.bind_eq_some_iff.1 hresult
    cases hb : b.run [] v with
    | error fault => simp [hb, Except.toOption] at hrun
    | ok u =>
        simp only [hb, Except.toOption, Option.some.injEq] at hrun
        exact hrun ▸ Builtin.madeOf_run hv hb

end

end Transform

namespace Path

/-- A segment that is no row of digits, or one that can be read as a number. -/
def isSure (segment : String) : Bool :=
  !segment.toList.all Text.isDigit || (Number.readInteger segment.toList).toBool

theorem exists_child {segment : String} (hsure : isSure segment = true) (v : Value) :
    ∃ found, child v segment = .ok found := by
  cases v with
  | scalar s => exact ⟨_, rfl⟩
  | dict entries => exact ⟨_, rfl⟩
  | list items =>
      rw [child, item]
      split
      next hdigits =>
        rw [Bool.and_eq_true] at hdigits
        rw [isSure, hdigits.1, Bool.not_true, Bool.false_or] at hsure
        cases hread : Number.readInteger segment.toList with
        | error fault => simp [hread, Except.toBool] at hsure
        | ok n => exact ⟨_, rfl⟩
      next => exact ⟨_, rfl⟩

/-- A path of sure segments can be followed in any value. -/
theorem exists_follow {names : List String} (hsure : names.all isSure = true) (v : Value) :
    ∃ found, follow v names = .ok found := by
  induction names generalizing v with
  | nil => exact ⟨_, rfl⟩
  | cons name rest ih =>
      rw [List.all_cons, Bool.and_eq_true] at hsure
      obtain ⟨found, hchild⟩ := exists_child hsure.1 v
      rw [follow, hchild]
      cases found with
      | none => exact ⟨_, rfl⟩
      | some w => exact ih hsure.2 w

end Path

namespace Row

/-- The transforms that never stop an event without parameters, and names of none. -/
def steadyNames : List (Option String) :=
  [none, some "to_iso_date", some "to_lowercase", some "to_number"]

/-- The row has no parameters, its source can be looked up in any value, and its transform never
stops an event. -/
structure IsGentle (row : Row) : Prop where
  params : row.params = none
  source : (Path.segments row.source).all Path.isSure = true
  transformation : row.transformation ∈ steadyNames

namespace IsGentle

variable {scope : TransformScope} {row : Row}

variable [Limits]

theorem not_escapes (hgentle : row.IsGentle) (v : Value) : ¬ row.Escapes scope v := by
  rintro ⟨name, htransform, _, b, hb, hescapes⟩
  rw [hgentle.params, Option.getD_none] at hescapes
  refine Transform.Builtin.not_escapes_nil ?_ v hescapes
  have hname := hgentle.transformation
  rw [(Option.filter_eq_some_iff.1 htransform).1,
    Transform.Builtin.ofName?_eq_some_iff.1 hb] at hname
  revert hname
  cases b <;> decide

/-- A gentle row has an outcome for every payload. -/
theorem exists_outcome (hgentle : row.IsGentle) (payload : Value) :
    ∃ result, Mapping.outcome scope payload row = .ok result := by
  rw [Mapping.exists_outcome_iff]
  obtain ⟨found, hfind⟩ := Path.exists_follow hgentle.source payload
  exact ⟨found, hfind, fun v _ => hgentle.not_escapes v⟩

/-- A gentle row makes a JSON value of a JSON value. -/
theorem madeOf_valueOf (hgentle : row.IsGentle) (hregistry : scope.registry.KeepsJson) {v : Value}
    (hv : v.MadeOf Scalar.IsJson) : (row.valueOf scope v).MadeOf Scalar.IsJson := by
  rw [valueOf, hgentle.params, Option.getD_none]
  cases hresult : row.transformName?.bind fun name =>
      Transform.result? scope.registry scope.pipelines scope.context name [] v with
  | none => exact hv
  | some w =>
      obtain ⟨name, _, hresult⟩ := Option.bind_eq_some_iff.1 hresult
      exact Transform.madeOf_result? hregistry hv hresult

end IsGentle

end Row

theorem Value.MadeOf.entries {kind : Scalar → Prop} {v : Value} (hmade : v.MadeOf kind) :
    Entries.MadeOf kind v.entries := by
  cases v with
  | dict entries => rwa [Value.MadeOf] at hmade
  | scalar s => exact Entries.madeOf_nil
  | list items => exact Entries.madeOf_nil

namespace Mapping

variable {scope : TransformScope} {table : List Row} {source : Value}

/-- The writes keep data JSON. -/
theorem madeOf_replay {writes : List Write} {data : Entries}
    (hdata : Entries.MadeOf Scalar.IsJson data)
    (hwrites : ∀ write ∈ writes, write.value.MadeOf Scalar.IsJson) :
    Entries.MadeOf Scalar.IsJson (replay writes data) := by
  induction writes generalizing data with
  | nil => exact hdata
  | cons write rest ih =>
      obtain ⟨hfirst, hrest⟩ := List.forall_mem_cons.1 hwrites
      exact ih (hdata.putAt hfirst) hrest

/-- A table of gentle rows can be applied to any JSON payload, and its data are JSON. -/
theorem exists_apply_of_isGentle [Limits] (hregistry : scope.registry.KeepsJson)
    (hgentle : ∀ row ∈ table, row.IsGentle) (hsource : source.MadeOf Scalar.IsJson) :
    ∃ mapped, apply scope table source = .ok mapped ∧
      Entries.MadeOf Scalar.IsJson mapped.data := by
  have hpayload : (Value.dict source.entries).MadeOf Scalar.IsJson :=
    Value.madeOf_dict_iff.2 hsource.entries
  obtain ⟨mapped, happly⟩ := apply_ok fun row hrow => (hgentle row hrow).exists_outcome _
  refine ⟨mapped, happly, ?_⟩
  rw [apply_eq happly]
  refine madeOf_replay Entries.madeOf_nil ?_
  intro write hwrite
  obtain ⟨row, hrow, hwritten⟩ := List.mem_filterMap.1 hwrite
  obtain ⟨v, hfind, _, rfl⟩ := Row.write?_eq_some_iff.1 hwritten
  exact (hgentle row hrow).madeOf_valueOf hregistry (hpayload.follow hfind)

end Mapping

end EventIntake
