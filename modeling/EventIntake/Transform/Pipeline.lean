/-
Named transforms of a service: the functions that it registers, pipelines of steps that a
configuration gives a name, and the choice between a pipeline and a built-in transform.
-/
import EventIntake.Text.Split
import EventIntake.Transform.Builtin

namespace EventIntake.Transform

/-- What a registered function may look at besides its value. -/
structure Context where
  format : String
deriving DecidableEq, Repr

/-- A registered function, which may fail. -/
abbrev Custom := Context → Value → Option Value

/-- The registered functions by name, in the order of their first registration. -/
abbrev Registry := List (String × Custom)

inductive RegisterFault where
  | invalidName (name : String)
deriving DecidableEq, Repr

def RegisterFault.message : RegisterFault → String
  | .invalidName name => s!"Invalid custom transform name: {Text.quoted name}"

namespace Registry

def get? (name : String) (registry : Registry) : Option Custom := registry.lookup name

/-- The registry with a function under a name, in the place of the one before. -/
def insert (name : String) (f : Custom) : Registry → Registry
  | [] => [(name, f)]
  | (n, g) :: rest => if n = name then (n, f) :: rest else (n, g) :: insert name f rest

/-- A name must not be empty, nor hold the sign between steps. -/
def register (name : String) (f : Custom) (registry : Registry) :
    Except RegisterFault Registry :=
  if name.isEmpty || name.toList.contains '|' then .error (.invalidName name)
  else .ok (insert name f registry)

def unregister (name : String) (registry : Registry) : Registry :=
  registry.filter fun (n, _) => n != name

def names (registry : Registry) : List String := registry.map (·.1)

theorem get?_insert (name other : String) (f : Custom) (registry : Registry) :
    get? other (insert name f registry) = if other = name then some f else get? other registry := by
  induction registry with
  | nil => grind [insert, get?]
  | cons entry rest ih => grind [insert, get?]

theorem get?_unregister (name other : String) (registry : Registry) :
    get? other (unregister name registry) =
      if other = name then none else get? other registry := by
  induction registry with
  | nil => simp [unregister, get?]
  | cons entry rest ih => grind [unregister, get?]

end Registry

def steps (expression : String) : List String :=
  (Text.splitAt '|' expression).map Text.strip

variable [Limits]

/-- One step: a registered function, or else a built-in transform without parameters. -/
def runStep (registry : Registry) (context : Context) (step : String) (v : Value) :
    Option Value :=
  match Registry.get? step registry with
  | some f => f context v
  | none =>
    match Builtin.ofName? step with
    | some b =>
      match b.run [] v with
      | .ok w => some w
      | .error _ => none
    | none => none

def runSteps (registry : Registry) (context : Context) : List String → Value → Option Value
  | [], v => some v
  | step :: rest, v =>
    match runStep registry context step v with
    | some w => runSteps registry context rest w
    | none => none

/-- A pipeline, which needs a step. -/
def runExpression (registry : Registry) (context : Context) (expression : String) (v : Value) :
    Option Value :=
  let steps := steps expression
  if steps.all (·.isEmpty) then none else runSteps registry context steps v

/-- The pipelines of a configuration by name. -/
abbrev Pipelines := List (String × String)

/-- The value of a named transform.  A pipeline goes before a built-in transform, and one that
fails leaves the value as it was; an empty pipeline is none, and an unknown name changes
nothing. -/
def apply (registry : Registry) (pipelines : Pipelines) (context : Context) (name : String)
    (params : Entries) (v : Value) : Except Fault Value :=
  let expression := (pipelines.lookup name).getD ""
  if !expression.isEmpty then .ok ((runExpression registry context expression v).getD v)
  else
    match Builtin.ofName? name with
    | some b => b.run params v
    | none => .ok v

end EventIntake.Transform
