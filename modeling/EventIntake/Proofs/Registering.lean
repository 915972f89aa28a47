/-
Histories of the registry of functions.  Under a name stands the function that was registered for it
last, unless the name has been given up since.  A pipeline of that name alone runs the function as
long as no blanks stand around the name, for they are cut off a step and not off a name.
-/
import EventIntake.Proofs.LastItem
import EventIntake.Transform.Pipeline

namespace EventIntake

namespace Transform

/-- What a service does to its registry.  A decorator does it once it is given its function. -/
inductive Change where
  | register (name : String) (f : Custom)
  | unregister (name : String)

namespace Change

def name : Change → String
  | register name _ => name
  | unregister name => name

/-- The function that a change puts under its name. -/
def function? : Change → Option Custom
  | register _ f => some f
  | unregister _ => none

end Change

namespace Registry

/-- A name that is not empty and does not hold the sign between steps. -/
def Admits (name : String) : Prop := name ≠ "" ∧ '|' ∉ name.toList

/-- The registry after a change; a registration that is rejected leaves it as it was. -/
def serve (registry : Registry) : Change → Registry
  | .register name f =>
    match register name f registry with
    | .ok next => next
    | .error _ => registry
  | .unregister name => unregister name registry

def after (history : List Change) : Registry := history.foldl serve []

/-- The last change about the name is to register the function, and the name is not rejected. -/
def Latest (history : List Change) (name : String) (f : Custom) : Prop :=
  Admits name ∧ IsLast (fun change : Change => change.name = name) history (.register name f)

variable {registry : Registry} {history : List Change} {change : Change} {name : String}
  {f : Custom}

theorem register_of_admits (hadmits : Admits name) :
    register name f registry = .ok (insert name f registry) := by
  obtain ⟨hne, hfree⟩ := hadmits
  rw [register, if_neg]
  simp [hne, hfree]

theorem register_of_not_admits (hrejected : ¬ Admits name) :
    register name f registry = .error (.invalidName name) := by
  have hname : name = "" ∨ '|' ∈ name.toList := by
    simpa [Admits, or_iff_not_imp_left] using hrejected
  rw [register, if_pos]
  simpa using hname

/-- A change decides what stands under its own name, and under no other. -/
theorem get?_serve (hadmits : Admits name) :
    get? name (serve registry change) =
      if change.name = name then change.function? else get? name registry := by
  cases change with
  | register other f =>
      by_cases hname : other = name
      · subst hname
        simp [serve, register_of_admits hadmits, get?_insert, Change.name, Change.function?]
      · by_cases hother : Admits other
        · simp [serve, register_of_admits hother, get?_insert, Change.name, hname, Ne.symm hname]
        · simp [serve, register_of_not_admits hother, Change.name, hname]
  | unregister other =>
      by_cases hname : other = name
      · simp [serve, get?_unregister, Change.name, Change.function?, hname]
      · simp [serve, get?_unregister, Change.name, hname, Ne.symm hname]

/-- Nothing comes under a name that is rejected. -/
theorem get?_serve_of_not_admits (hrejected : ¬ Admits name) (hfree : get? name registry = none) :
    get? name (serve registry change) = none := by
  cases change with
  | register other f =>
      by_cases hother : Admits other
      · have hne : name ≠ other := fun hname => hrejected (hname ▸ hother)
        simp [serve, register_of_admits hother, get?_insert, hne, hfree]
      · simpa [serve, register_of_not_admits hother] using hfree
  | unregister other => simp [serve, get?_unregister, hfree]

theorem after_append (history : List Change) (change : Change) :
    after (history ++ [change]) = serve (after history) change := by
  rw [after, List.foldl_append, List.foldl_cons, List.foldl_nil, after]

theorem get?_after_of_not_admits (hrejected : ¬ Admits name) :
    get? name (after history) = none := by
  induction history using List.reverseRecOn with
  | nil => rfl
  | append_singleton history change ih =>
      rw [after_append]
      exact get?_serve_of_not_admits hrejected ih

/-- One more change decides about its own name. -/
theorem latest_append_iff (hadmits : Admits name) :
    Latest (history ++ [change]) name f ↔
      if change.name = name then change.function? = some f else Latest history name f := by
  simp only [Latest, hadmits, true_and, isLast_append_iff]
  by_cases hname : change.name = name
  · cases change with
    | register other g =>
        cases hname
        simp [Change.name, Change.function?, eq_comm]
    | unregister other => simp [Change.function?, hname]
  · simp [hname]

/-- Under a name stands the function that was registered last. -/
theorem get?_after_eq_some_iff : get? name (after history) = some f ↔ Latest history name f := by
  -- A name that is rejected never has an entry; for any other, each change decides as it says.
  by_cases hadmits : Admits name
  · induction history using List.reverseRecOn with
    | nil => simp [after, get?, Latest, not_isLast_nil]
    | append_singleton history change ih =>
        rw [after_append, get?_serve hadmits, latest_append_iff hadmits]
        split
        next => rfl
        next => exact ih
  · rw [get?_after_of_not_admits hadmits]
    exact iff_of_false (by simp) fun hlatest => hadmits hlatest.1

theorem get?_after_eq_none_iff :
    get? name (after history) = none ↔ ¬ ∃ f, Latest history name f := by
  simp only [← get?_after_eq_some_iff, ← Option.ne_none_iff_exists', ne_eq, not_not]

/-- The empty text, as which blank steps are looked up, is never registered. -/
theorem get?_after_empty : get? "" (after history) = none :=
  get?_after_of_not_admits fun hadmits => hadmits.1 rfl

theorem mem_names_iff : name ∈ names registry ↔ ∃ f, get? name registry = some f := by
  induction registry with
  | nil => simp [names, get?]
  | cons entry rest ih =>
      obtain ⟨other, g⟩ := entry
      have hrest : name ∈ rest.map (·.1) ↔ ∃ f, rest.lookup name = some f := ih
      by_cases hname : name = other
      · simp [names, get?, hname]
      · have hbeq : (name == other) = false := by simpa using hname
        simp only [names, get?, List.map_cons, List.mem_cons, hname, false_or, List.lookup_cons,
          hbeq]
        exact hrest

end Registry

section Steps

variable {registry : Registry} {context : Context} {v : Value}

theorem runStep_of_get?_eq_none [Limits] {step : String} (hnone : registry.get? step = none) :
    runStep registry context step v =
      (Builtin.ofName? step).bind fun b => (b.run [] v).toOption := by
  rw [runStep, hnone]
  cases Builtin.ofName? step with
  | none => rfl
  | some b => cases hrun : b.run [] v <;> simp [hrun, Except.toOption]

theorem steps_ne_nil (expression : String) : steps expression ≠ [] := by
  simp [steps, Text.splitAt, Text.splitChars_ne_nil]

variable [Limits]

/-- A pipeline without steps fails like one that begins with a blank step, for nothing is registered
as the empty text. -/
theorem runExpression_eq_runSteps (hempty : registry.get? "" = none) (expression : String) :
    runExpression registry context expression v =
      runSteps registry context (steps expression) v := by
  rw [runExpression]
  split
  next hblank =>
    cases hsteps : steps expression with
    | nil => exact absurd hsteps (steps_ne_nil expression)
    | cons step rest =>
        rw [hsteps, List.all_cons, Bool.and_eq_true, String.isEmpty_iff] at hblank
        have hstep : runStep registry context "" v = none := by
          rw [runStep_of_get?_eq_none hempty]
          rfl
        rw [hblank.1, runSteps, hstep]
  next => rfl

/-- A name without the sign between steps is one step. -/
theorem runExpression_of_free {name : String} (hempty : registry.get? "" = none)
    (hfree : '|' ∉ name.toList) :
    runExpression registry context name v = runStep registry context (Text.strip name) v := by
  have hsteps : steps name = [Text.strip name] := by
    rw [steps, Text.splitAt, Text.splitChars_of_not_mem hfree, List.map_singleton,
      String.ofList_toList, List.map_singleton]
  rw [runExpression_eq_runSteps hempty, hsteps, runSteps]
  cases runStep registry context (Text.strip name) v with
  | none => rfl
  | some w => rfl

end Steps

section Names

variable [Limits]

variable {history : List Change} {name : String} {context : Context} {v : Value}

theorem runStep_of_latest {f : Custom} (hlatest : Registry.Latest history name f) :
    runStep (Registry.after history) context name v = f context v := by
  rw [runStep, Registry.get?_after_eq_some_iff.2 hlatest]

/-- The pipeline of a name alone runs what the name without blanks around it stands for. -/
theorem runExpression_after (hadmits : Registry.Admits name) :
    runExpression (Registry.after history) context name v =
      runStep (Registry.after history) context (Text.strip name) v :=
  runExpression_of_free Registry.get?_after_empty hadmits.2

/-- A name with blanks around it is not called where it is the only one: what runs instead is the
same for every function. -/
theorem runExpression_of_padded (hadmits : Registry.Admits name) (hpadded : Text.strip name ≠ name)
    (f : Custom) :
    runExpression (Registry.after [.register name f]) context name v =
      (Builtin.ofName? (Text.strip name)).bind fun b => (b.run [] v).toOption := by
  have hnone : (Registry.after [.register name f]).get? (Text.strip name) = none := by
    have hafter : Registry.after [.register name f] = Registry.insert name f [] := by
      simp [Registry.after, Registry.serve, Registry.register_of_admits hadmits]
    rw [hafter, Registry.get?_insert, if_neg hpadded]
    rfl
  rw [runExpression_after hadmits, runStep_of_get?_eq_none hnone]

/-- A name is called in every history exactly if no blanks stand around it. -/
theorem called_iff (hadmits : Registry.Admits name) :
    (∀ history f, Registry.Latest history name f → ∀ context v,
      runExpression (Registry.after history) context name v = f context v) ↔
      Text.strip name = name := by
  constructor
  · intro hcalled
    by_contra hpadded
    -- What runs instead does not depend on the function, so it cannot both fail and not fail.
    have hsingle : ∀ f : Custom, (Builtin.ofName? (Text.strip name)).bind (fun b =>
        (b.run [] .null).toOption) = f ⟨""⟩ .null := by
      intro f
      rw [← runExpression_of_padded hadmits hpadded f]
      exact hcalled _ f ⟨hadmits, rfl, [], [], rfl, by simp⟩ ⟨""⟩ .null
    have hfailed := hsingle fun _ _ => none
    rw [hsingle fun _ v => some v] at hfailed
    cases hfailed
  · intro hbare history f hlatest context v
    rw [runExpression_after hadmits, hbare, runStep_of_latest hlatest]

end Names

end Transform

open Transform in
/-- Which registered names can be called.  A name is listed if a function was registered for it
last.  The pipeline of the name alone runs what the name without blanks around it stands for: the
function that was registered for that last, or else a built-in transform, or nothing.  So the name
runs its own function after every history exactly if no blanks stand around it.  A registration that
is rejected leaves the registry as it was. -/
theorem registered_name_called_iff [Limits] (name : String) :
    (∀ history, name ∈ Registry.names (Registry.after history) ↔
      ∃ f, Registry.Latest history name f) ∧
    (∀ history f, Registry.Latest history name f → ∀ context v,
      (∀ g, Registry.Latest history (Text.strip name) g →
        runExpression (Registry.after history) context name v = g context v) ∧
      ((¬ ∃ g, Registry.Latest history (Text.strip name) g) →
        runExpression (Registry.after history) context name v =
          (Builtin.ofName? (Text.strip name)).bind fun b => (b.run [] v).toOption)) ∧
    (Registry.Admits name →
      ((∀ history f, Registry.Latest history name f → ∀ context v,
        runExpression (Registry.after history) context name v = f context v) ↔
        Text.strip name = name)) ∧
    (¬ Registry.Admits name → ∀ history f,
      Registry.register name f (Registry.after history) = .error (.invalidName name) ∧
        Registry.after (history ++ [.register name f]) = Registry.after history) := by
  refine ⟨?_, ?_, called_iff, ?_⟩
  · intro history
    simp only [Registry.mem_names_iff, Registry.get?_after_eq_some_iff]
  · intro history f hlatest context v
    rw [runExpression_after hlatest.1]
    refine ⟨fun g hstripped => runStep_of_latest hstripped, fun hnone => ?_⟩
    exact runStep_of_get?_eq_none (Registry.get?_after_eq_none_iff.2 hnone)
  · intro hrejected history f
    have hregister : Registry.register name f (Registry.after history) =
        .error (.invalidName name) :=
      Registry.register_of_not_admits hrejected
    refine ⟨hregister, ?_⟩
    rw [Registry.after_append, Registry.serve, hregister]

namespace RegisteringWitness

local instance : Limits := .standard

open Transform

def taken : Custom := fun _ _ => some (.string "taken")

def refused : Custom := fun _ _ => none

/-- Registered are a name with blanks around it and then that name itself; the last change is
rejected. -/
def history : List Change := [
  .register "mask" refused, .register " mask " taken, .unregister "mask", .register "mask" refused,
  .register "a|b" taken]

theorem registered_name_not_called :
    Registry.names (Registry.after history) = [" mask ", "mask"] ∧
      Registry.Latest history " mask " taken ∧
      runExpression (Registry.after history) ⟨"custom"⟩ " mask " .null = none ∧
      taken ⟨"custom"⟩ .null = some (.string "taken") := by
  have hlatest : Registry.Latest history " mask " taken :=
    ⟨⟨by decide, by decide⟩, rfl, [.register "mask" refused],
      [.unregister "mask", .register "mask" refused, .register "a|b" taken], rfl, by decide⟩
  have hbare : Registry.Latest history (Text.strip " mask ") refused :=
    ⟨⟨by decide, by decide⟩, rfl,
      [.register "mask" refused, .register " mask " taken, .unregister "mask"],
      [.register "a|b" taken], rfl, by decide⟩
  obtain ⟨_, hruns, _⟩ := registered_name_called_iff " mask "
  exact ⟨rfl, hlatest, (hruns history taken hlatest ⟨"custom"⟩ .null).1 refused hbare, rfl⟩

end RegisteringWitness

end EventIntake
