/-
Pipelines one after the other.  The pipeline of two expressions with the sign between steps in the
middle does what the first one does and then the second one; and a pipeline gives what all its steps
make of a value, or leaves the value as it was.
-/
import EventIntake.Proofs.Registering
import EventIntake.Proofs.Stopping

namespace EventIntake

namespace Transform

/-- The steps lead from one value to another, each from where the step before has led. -/
inductive Runs [Limits] (registry : Registry) (context : Context) :
    List String → Value → Value → Prop
  | done (v : Value) : Runs registry context [] v v
  | step {name : String} {rest : List String} {v u w : Value}
      (hstep : runStep registry context name v = some u)
      (hrest : Runs registry context rest u w) : Runs registry context (name :: rest) v w

section Runs

variable {registry : Registry} {context : Context} {v w : Value}

variable [Limits]

theorem runs_nil_iff : Runs registry context [] v w ↔ v = w := by
  constructor
  · intro hruns
    cases hruns
    rfl
  · rintro rfl
    exact .done v

theorem runs_cons_iff {name : String} {rest : List String} :
    Runs registry context (name :: rest) v w ↔
      ∃ u, runStep registry context name v = some u ∧ Runs registry context rest u w := by
  constructor
  · intro hruns
    cases hruns with
    | step hstep hrest => exact ⟨_, hstep, hrest⟩
  · rintro ⟨u, hstep, hrest⟩
    exact .step hstep hrest

theorem runs_append_iff {before later : List String} :
    Runs registry context (before ++ later) v w ↔
      ∃ u, Runs registry context before v u ∧ Runs registry context later u w := by
  induction before generalizing v with
  | nil => simp [runs_nil_iff]
  | cons name rest ih =>
      simp only [List.cons_append, runs_cons_iff, ih]
      constructor
      · rintro ⟨s, hstep, u, hrest, hlater⟩
        exact ⟨u, ⟨s, hstep, hrest⟩, hlater⟩
      · rintro ⟨u, ⟨s, hstep, hrest⟩, hlater⟩
        exact ⟨s, hstep, u, hrest, hlater⟩

theorem runSteps_eq_some_iff {names : List String} :
    runSteps registry context names v = some w ↔ Runs registry context names v w := by
  induction names generalizing v with
  | nil => rw [runSteps, Option.some.injEq, runs_nil_iff]
  | cons name rest ih =>
      rw [runSteps, runs_cons_iff]
      cases runStep registry context name v with
      | none => simp
      | some u => simp [ih]

/-- Where steps do not lead to a value, one of them fails at what the steps before it have made. -/
theorem runSteps_eq_none {names : List String} (hnone : runSteps registry context names v = none) :
    ∃ before name later u, names = before ++ name :: later ∧
      Runs registry context before v u ∧ runStep registry context name u = none := by
  induction names generalizing v with
  | nil => cases hnone
  | cons name rest ih =>
      rw [runSteps] at hnone
      cases hstep : runStep registry context name v with
      | none => exact ⟨[], name, rest, v, rfl, .done v, hstep⟩
      | some u =>
          rw [hstep] at hnone
          obtain ⟨before, failed, later, t, rfl, hbefore, hfailed⟩ := ih hnone
          exact ⟨name :: before, failed, later, t, rfl, .step hstep hbefore, hfailed⟩

theorem runExpression_eq_some_iff (hempty : registry.get? "" = none) {expression : String} :
    runExpression registry context expression v = some w ↔
      Runs registry context (steps expression) v w := by
  rw [runExpression_eq_runSteps hempty, runSteps_eq_some_iff]

end Runs

/-- The sign between steps divides the steps of what stands before it and behind it. -/
theorem steps_append (first second : String) :
    steps (first ++ "|" ++ second) = steps first ++ steps second := by
  have hlist : (first ++ "|" ++ second).toList = first.toList ++ '|' :: second.toList := by simp
  simp only [steps, Text.splitAt, hlist, Text.splitChars_append, List.map_append]

end Transform

open Transform in
/-- Whatever has been registered, two expressions with the sign between steps in the middle are the
pipeline that runs the first one and then the second one on its result: it fails where either does,
blank expressions included.  And under a name that has an expression a value becomes what all the
steps make of it, or else, where a step fails at what the ones before have made, stays itself. -/
theorem pipelines_compose [Limits] (history : List Change) (context : Context) :
    (∀ first second v w,
      runExpression (Registry.after history) context (first ++ "|" ++ second) v = some w ↔
        ∃ u, runExpression (Registry.after history) context first v = some u ∧
          runExpression (Registry.after history) context second u = some w) ∧
    (∀ pipelines name expression params v,
      List.lookup name pipelines = some expression → expression ≠ "" →
      (∃ w, Runs (Registry.after history) context (steps expression) v w ∧
        apply (Registry.after history) pipelines context name params v = .ok w) ∨
      (∃ before failed later u, steps expression = before ++ failed :: later ∧
        Runs (Registry.after history) context before v u ∧
        runStep (Registry.after history) context failed u = none ∧
        apply (Registry.after history) pipelines context name params v = .ok v)) := by
  have hempty : (Registry.after history).get? "" = none := Registry.get?_after_empty
  constructor
  · intro first second v w
    simp only [runExpression_eq_some_iff hempty, steps_append, runs_append_iff]
  · intro pipelines name expression params v hlookup hsome
    have hpipeline : pipeline? pipelines name = some expression := by
      simp [pipeline?, hlookup, hsome]
    rw [apply_of_pipeline? hpipeline, runExpression_eq_runSteps hempty]
    cases hruns : runSteps (Registry.after history) context (steps expression) v with
    | some w => exact Or.inl ⟨w, runSteps_eq_some_iff.1 hruns, rfl⟩
    | none =>
        obtain ⟨before, failed, later, u, hsteps, hbefore, hfailed⟩ := runSteps_eq_none hruns
        exact Or.inr ⟨before, failed, later, u, hsteps, hbefore, hfailed, rfl⟩

namespace ComposingWitness

local instance : Limits := .standard

open Transform

/-- A function of the service stands in the place of a built-in transform. -/
def history : List Change := [
  .register "trim" fun _ _ => some (.string "Kept"), .register "boom" fun _ _ => none]

def pipelines : Pipelines := [("mask", " trim | to_uppercase|boom")]

theorem pipelines_compose_or_keep :
    runExpression (Registry.after history) ⟨"custom"⟩ " trim | to_uppercase" .null =
        some (.string "KEPT") ∧
      runExpression (Registry.after history) ⟨"custom"⟩
        (" trim | to_uppercase" ++ "|" ++ "to_lowercase ") .null = some (.string "kept") ∧
      List.lookup "mask" pipelines = some " trim | to_uppercase|boom" ∧
      apply (Registry.after history) pipelines ⟨"custom"⟩ "mask" [] .null = .ok .null := by
  obtain ⟨hcompose, hnamed⟩ := pipelines_compose history ⟨"custom"⟩
  have hfirst : runExpression (Registry.after history) ⟨"custom"⟩ " trim | to_uppercase" .null =
      some (.string "KEPT") := by
    rfl
  have hsecond : runExpression (Registry.after history) ⟨"custom"⟩ "to_lowercase "
      (.string "KEPT") = some (.string "kept") := by
    rfl
  have hlookup : List.lookup "mask" pipelines = some " trim | to_uppercase|boom" := rfl
  refine ⟨hfirst, (hcompose _ _ _ _).2 ⟨_, hfirst, hsecond⟩, hlookup, ?_⟩
  rcases hnamed _ _ _ [] .null hlookup (by decide) with ⟨w, hruns, _⟩ | ⟨_, _, _, _, _, _, _, hkept⟩
  · have hfails : runSteps (Registry.after history) ⟨"custom"⟩ (steps " trim | to_uppercase|boom")
        .null = none := by
      rfl
    rw [runSteps_eq_some_iff.2 hruns] at hfails
    cases hfails
  · exact hkept

end ComposingWitness

end EventIntake
