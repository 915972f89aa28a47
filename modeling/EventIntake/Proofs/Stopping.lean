/-
Which rows stop an event.  A row stops one through its source path or through its transform, and
its transform only if there is no pipeline in its place.  Within the limit of nesting one case is
left: a value that is in a list of exchanges and stands for no place in it.
-/
import EventIntake.Proofs.JsonReading
import EventIntake.Proofs.Transforming

namespace EventIntake

namespace Transform

variable [Limits]

/-- The value, the unit and the texts that a transform is given stay within the limits of
nesting. -/
structure Shallow (params : Entries) (v : Value) : Prop where
  told : v.tooDeepToTell = false
  unit : (Builtin.unitOf params).tooDeepToTell = false
  compared : v.depth ≤ Limits.comparing
  written : v.depth ≤ Limits.writing
  text : ∀ text, v = .string text → Json.openings text ≤ Limits.reading
  halved : ∀ text, v = .halved text → Json.openings text.filled ≤ Limits.reading

/-- Within the limit of nesting only an exchange stops the event: by a list that has the value, but
no such place. -/
theorem Builtin.escapes_iff_of_shallow {b : Builtin} {params : Entries} {v : Value}
    (hshallow : Shallow params v) :
    b.Escapes params v ↔ b = .mapValue ∧ ∃ items, tableOf params = .list items ∧
      v.isAmong items = some true ∧ OutOfPlace items v := by
  cases b with
  | jsonParse =>
      simp only [Escapes, reduceCtorEq, false_and, iff_false]
      rintro (⟨text, htext, hread⟩ | ⟨text, htext, hread⟩)
      · have hlt := Json.lt_openings_of_read_tooDeep hread
        have hle := hshallow.text text htext
        omega
      · have hlt := Json.lt_openings_of_readPoints_tooDeep hread
        have hle := hshallow.halved text htext
        omega
  | jsonStringify =>
      simp only [Escapes, reduceCtorEq, false_and, iff_false]
      intro hwrite
      have hlt := Json.compact.lt_depth_of_writeAt hwrite
      have hle := hshallow.written
      omega
  | mapValue =>
      simp only [Escapes, EscapesList, true_and]
      refine exists_congr fun items => and_congr_right fun _ => ?_
      constructor
      · rintro ⟨_, hnone | hplace | ⟨_, hdeep⟩⟩
        · have hlt := Value.lt_depth_of_isAmong hnone
          have hle := hshallow.compared
          omega
        · exact hplace
        · simp [hshallow.told] at hdeep
      · rintro hplace
        refine ⟨?_, Or.inr (Or.inl hplace)⟩
        rintro rfl
        simp [Value.isAmong] at hplace
  | _ => simp [Escapes, hshallow.told, hshallow.unit]

/-- The transform of a name stops the event: there is no pipeline in its place, and the built-in
transform of that name does. -/
def Escapes (pipelines : Pipelines) (name : String) (params : Entries) (v : Value) : Prop :=
  pipeline? pipelines name = none ∧
    ∃ b, Builtin.ofName? name = some b ∧ b.Escapes params v

section

variable {registry : Registry} {pipelines : Pipelines} {context : Context} {name : String}
  {params : Entries} {v : Value}

theorem stops_of_builtinFault? {fault : Fault}
    (hfault : builtinFault? pipelines name params v = some fault) :
    fault.stops = true ↔ Escapes pipelines name params v := by
  rw [builtinFault?] at hfault
  rw [Escapes]
  split at hfault
  next => cases hfault
  next hpipeline =>
    obtain ⟨b, hname, hrun⟩ := Option.bind_eq_some_iff.1 hfault
    have hstops : Stops (b.run params v) ↔ fault.stops = true := by
      split at hrun
      next => cases hrun
      next other hother =>
        cases hrun
        rw [hother, stops_error]
    simp [hpipeline, hname, ← hstops, Builtin.stops_run]

theorem not_escapes_of_builtinFault?_eq_none
    (hfault : builtinFault? pipelines name params v = none) :
    ¬ Escapes pipelines name params v := by
  rintro ⟨hpipeline, b, hname, hescapes⟩
  obtain ⟨fault, hrun, _⟩ := Builtin.stops_run.2 hescapes
  simp [builtinFault?, hpipeline, hname, hrun] at hfault

/-- A named transform gives a value or a fault that is told, except where it escapes. -/
theorem stops_apply :
    Stops (apply registry pipelines context name params v) ↔
      Escapes pipelines name params v := by
  rw [apply_eq]
  cases hfault : builtinFault? pipelines name params v with
  | none => simpa using not_escapes_of_builtinFault?_eq_none hfault
  | some fault => simpa using stops_of_builtinFault? hfault

/-- A pipeline gives its result, or leaves the value as it was. -/
theorem apply_of_pipeline? {expression : String}
    (hpipeline : pipeline? pipelines name = some expression) :
    apply registry pipelines context name params v =
      .ok ((runExpression registry context expression v).getD v) := by
  simp [apply_eq, builtinFault?, result?, hpipeline]

/-- Within the limit of nesting a transform stops the event only in one way. -/
theorem escapes_iff_of_shallow (hshallow : Shallow params v) :
    Escapes pipelines name params v ↔
      pipeline? pipelines name = none ∧ name = "map_value" ∧
        ∃ items, Builtin.tableOf params = .list items ∧ v.isAmong items = some true ∧
          Builtin.OutOfPlace items v := by
  simp only [Escapes, Builtin.escapes_iff_of_shallow hshallow, Builtin.ofName?_eq_some_iff]
  constructor
  · rintro ⟨hpipeline, _, hname, rfl, hplace⟩
    exact ⟨hpipeline, hname, hplace⟩
  · rintro ⟨hpipeline, hname, hplace⟩
    exact ⟨hpipeline, .mapValue, hname, rfl, hplace⟩

end

end Transform

/-- The transform of a row stops the event at a value. -/
def Row.Escapes [Limits] (scope : TransformScope) (row : Row) (v : Value) : Prop :=
  ∃ name, row.transformName? = some name ∧
    Transform.Escapes scope.pipelines name (row.params.getD []) v

namespace Mapping

variable {scope : TransformScope} {payload : Value} {row : Row} {v : Value}

variable [Limits]

/-- A row's transform comes to an end exactly if it does not stop the event. -/
theorem exists_transformed_iff :
    (∃ result, transformed scope row v = .ok result) ↔ ¬ row.Escapes scope v := by
  simp only [transformed, Transform.apply_eq, Row.Escapes, Row.transformName?,
    Text.filter_nonempty_eq]
  generalize row.transformation.getD "" = name
  by_cases hempty : name.isEmpty = true
  · simp [hempty]
  · simp only [hempty, Bool.false_eq_true, ↓reduceIte, Option.some.injEq, exists_eq_left']
    cases hfault : Transform.builtinFault? scope.pipelines name (row.params.getD []) v with
    | none => simpa using Transform.not_escapes_of_builtinFault?_eq_none hfault
    | some fault =>
        rw [← Transform.stops_of_builtinFault? hfault]
        cases hstops : fault.stops <;> simp [hstops]

/-- A row has an outcome exactly if its source path can be followed and its transform does not
stop the event. -/
theorem exists_outcome_iff :
    (∃ result, outcome scope payload row = .ok result) ↔
      ∃ found, Path.find payload row.source = .ok found ∧
        ∀ v, found = some v → ¬ row.Escapes scope v := by
  rw [outcome]
  cases hfind : Path.find payload row.source with
  | error fault => simp
  | ok found =>
      cases found with
      | none => simp
      | some v =>
          have htransformed : (∃ result, transformed scope row v = .ok result) ↔
              ¬ row.Escapes scope v := exists_transformed_iff
          simp only [Except.ok.injEq, exists_eq_left', Option.some.injEq, forall_eq',
            ← htransformed]
          cases transformed scope row v with
          | error fault => simp
          | ok result =>
              obtain ⟨w, warnings⟩ := result
              by_cases hdeep : w.tooDeepToCopy = true <;> simp [hdeep]

/-- A transform that fails is told, and its row takes the value as it was. -/
theorem outcome_of_failure? {warning : Warning}
    (hfind : Path.find payload row.source = .ok (some v))
    (hfailure : row.failure? scope v = some warning) (hends : ¬ row.Escapes scope v) :
    outcome scope payload row =
      .ok (if v.tooDeepToCopy then .refused [warning, .tooDeep row.source]
        else .taken v [warning]) := by
  have hvalue : row.valueOf scope v = v := by
    obtain ⟨name, hname, hfault⟩ := Option.bind_eq_some_iff.1 hfailure
    obtain ⟨fault, hfault, _⟩ := Option.map_eq_some_iff.1 hfault
    rw [Row.valueOf, hname, Option.bind_some, Transform.result?_eq_none hfault, Option.getD_none]
  obtain ⟨⟨w, warnings⟩, htransformed⟩ := exists_transformed_iff.2 hends
  obtain ⟨rfl, rfl⟩ := transformed_spec htransformed
  rw [outcome, hfind]
  simp only [htransformed, hvalue, hfailure, Option.toList_some]
  split <;> rfl

end Mapping

/-- Where transforms stop an event.  A named transform gives a value or a fault that is told, and a
pipeline always a value, but for a built-in transform that escapes; within the limit of nesting
that is an exchange by a list that has the value and no such place.  So a table comes to an end
unless a source path or such a transform stops it, and every other failed transform is told, and
leaves the value as it was. -/
theorem table_stops_iff [Limits] (scope : TransformScope) :
    (∀ name params v,
      (Transform.Stops (Transform.apply scope.registry scope.pipelines scope.context name params v)
        ↔ Transform.Escapes scope.pipelines name params v) ∧
      (∀ expression, Transform.pipeline? scope.pipelines name = some expression →
        Transform.apply scope.registry scope.pipelines scope.context name params v =
          .ok ((Transform.runExpression scope.registry scope.context expression v).getD v)) ∧
      (Transform.Shallow params v →
        (Transform.Escapes scope.pipelines name params v ↔
          Transform.pipeline? scope.pipelines name = none ∧ name = "map_value" ∧
            ∃ items, Transform.Builtin.tableOf params = .list items ∧
              v.isAmong items = some true ∧ Transform.Builtin.OutOfPlace items v))) ∧
    (∀ table source,
      (∃ mapped, Mapping.apply scope table source = .ok mapped) ↔
        ∀ row ∈ table, ∃ found, Path.find (.dict source.entries) row.source = .ok found ∧
          ∀ v, found = some v → ¬ row.Escapes scope v) ∧
    (∀ payload row v warning, Path.find payload row.source = .ok (some v) →
      row.failure? scope v = some warning → ¬ row.Escapes scope v →
        Mapping.outcome scope payload row =
          .ok (if v.tooDeepToCopy then .refused [warning, .tooDeep row.source]
            else .taken v [warning])) := by
  refine ⟨fun name params v => ⟨?_, ?_, ?_⟩, fun table source => ?_, ?_⟩
  · exact Transform.stops_apply
  · exact fun expression hpipeline => Transform.apply_of_pipeline? hpipeline
  · exact fun hshallow => Transform.escapes_iff_of_shallow hshallow
  · rw [Mapping.apply_ok_iff]
    exact forall₂_congr fun row _ => Mapping.exists_outcome_iff
  · intro payload row v warning hfind hfailure hends
    exact Mapping.outcome_of_failure? hfind hfailure hends

namespace StoppingWitness

local instance : Limits := .standard

/-- The value one is in the list, but the list has no place of that number. -/
def params : Entries := [(.string "mapping", .list [.int 1])]

def row : Row := ⟨"code", "code", some "map_value", false, some params⟩

def source : Value := .dict [(.string "code", .int 1)]

theorem table_stops_at_list_exchange :
    Transform.Shallow params (.int 1) ∧
      Transform.Escapes [] "map_value" params (.int 1) ∧
      ¬ ∃ mapped, Mapping.apply (.bare "custom") [row] source = .ok mapped := by
  have hshallow : Transform.Shallow params (.int 1) :=
    ⟨Value.tooDeepToTell_scalar _, Value.tooDeepToTell_scalar _, by simp, by simp,
      nofun, nofun⟩
  obtain ⟨htransforms, htables, _⟩ := table_stops_iff (.bare "custom")
  have hescapes : Transform.Escapes [] "map_value" params (.int 1) :=
    ((htransforms "map_value" params (.int 1)).2.2 hshallow).2
      ⟨rfl, rfl, [.int 1], rfl, rfl, 1, rfl, by decide⟩
  refine ⟨hshallow, hescapes, ?_⟩
  rw [htables]
  intro hrows
  obtain ⟨found, hfind, hends⟩ := hrows row List.mem_cons_self
  have hvalue : Path.find (.dict source.entries) row.source = .ok (some (.int 1)) := rfl
  rw [hvalue, Except.ok.injEq] at hfind
  exact hends (.int 1) hfind.symm ⟨"map_value", rfl, hescapes⟩

end StoppingWitness

end EventIntake
