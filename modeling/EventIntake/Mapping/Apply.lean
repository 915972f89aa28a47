/-
Applying a mapping table: values move from the payload into a fresh dictionary, in the order of
the table, so that later rows overwrite earlier ones.  What could not be done is told in
warnings, and leaves of the payload that no row took are listed.
-/
import EventIntake.Event.Config
import EventIntake.Mapping.Row
import EventIntake.Path
import EventIntake.Transform.Pipeline

namespace EventIntake

variable [Limits]

/-- A row that took a value. -/
structure AppliedRow where
  source : String
  target : String
  transformation : Option String
deriving DecidableEq, Repr

/-- Something that a row could not do. -/
inductive Warning where
  /-- There is nothing at the source of a required row. -/
  | missing (path : String)
  /-- The transform failed, and the value was taken as it was. -/
  | failed (transformation path : String) (cause : Transform.Fault)
  /-- The value is nested too deeply to be taken. -/
  | tooDeep (path : String)
deriving DecidableEq, Repr

def Warning.message : Warning → String
  | .missing path => s!"Required field missing: {path}"
  | .failed transformation path cause =>
    s!"Transformation failed: {transformation} on {path}: {cause.message}"
  | .tooDeep path => s!"Value too deeply nested to map: {path}"

/-- What applying a table gives. -/
structure Mapped where
  data : Entries
  dropped : List String
  applied : List AppliedRow
  warnings : List Warning

inductive MappingFault where
  | index (fault : Path.IndexFault)
  | transform (fault : Transform.Fault)
deriving DecidableEq, Repr

def MappingFault.message : MappingFault → String
  | .index fault => fault.message
  | .transform fault => fault.message

/-- What transforms may use. -/
structure TransformScope where
  registry : Transform.Registry
  pipelines : Transform.Pipelines
  context : Transform.Context

namespace Mapping

/-- What a row does to a payload. -/
inductive Outcome where
  /-- There is nothing at the source. -/
  | absent
  /-- The value cannot be taken. -/
  | refused (warnings : List Warning)
  /-- The value is taken. -/
  | taken (v : Value) (warnings : List Warning)

/-- The value of a row's transform.  A failure is told, and leaves the value as it was. -/
def transformed (scope : TransformScope) (row : Row) (v : Value) :
    Except MappingFault (Value × List Warning) :=
  let name := row.transformation.getD ""
  if name.isEmpty then .ok (v, [])
  else
    match Transform.apply scope.registry scope.pipelines scope.context name
        (row.params.getD []) v with
    | .ok w => .ok (w, [])
    | .error fault =>
      if fault.stops then .error (.transform fault)
      else .ok (v, [.failed name row.source fault])

def outcome (scope : TransformScope) (payload : Value) (row : Row) :
    Except MappingFault Outcome :=
  match Path.find payload row.source with
  | .error fault => .error (.index fault)
  | .ok none => .ok .absent
  | .ok (some v) =>
    match transformed scope row v with
    | .error fault => .error fault
    | .ok (w, warnings) =>
      if w.tooDeepToCopy then .ok (.refused (warnings ++ [.tooDeep row.source]))
      else .ok (.taken w warnings)

/-- What the rows so far have given. -/
structure Progress where
  data : Entries := []
  applied : List AppliedRow := []
  warnings : List Warning := []

def Progress.record (p : Progress) (row : Row) : Outcome → Progress
  | .absent =>
    if row.required then { p with warnings := p.warnings ++ [.missing row.source] } else p
  | .refused warnings => { p with warnings := p.warnings ++ warnings }
  | .taken v warnings =>
    { data := Path.put p.data row.target v
      applied := p.applied ++ [⟨row.source, row.target, row.transformation⟩]
      warnings := p.warnings ++ warnings }

/-- The progress after all rows of a table. -/
def run (scope : TransformScope) (payload : Value) : List Row → Progress →
    Except MappingFault Progress
  | [], p => .ok p
  | row :: rest, p =>
    match outcome scope payload row with
    | .error fault => .error fault
    | .ok result => run scope payload rest (p.record row result)

/-- What a table gives for a source.  Only a dictionary has fields. -/
def apply (scope : TransformScope) (table : List Row) (source : Value) :
    Except MappingFault Mapped :=
  let payload := source.entries
  match run scope (.dict payload) table {} with
  | .error fault => .error fault
  | .ok p =>
    let taken := p.applied.map (·.source)
    .ok
      { data := p.data
        dropped := (Path.leaves payload "").filter fun path => !taken.contains path
        applied := p.applied
        warnings := p.warnings }

end Mapping

end EventIntake
