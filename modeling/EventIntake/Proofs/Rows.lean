/-
What the rows of a table do to a payload, row by row: what a row finds, what it writes, and what
it warns of.  Applying a table replays the writes of its rows, in their order.
-/
import EventIntake.Mapping.Apply
import EventIntake.Proofs.Writing

namespace EventIntake

@[simp] theorem Value.entries_dict (entries : Entries) :
    (Value.dict entries).entries = entries := rfl

/-- No text counts the same as the empty one. -/
theorem Text.filter_nonempty_eq (text? : Option String) :
    text?.filter (!·.isEmpty) =
      if (text?.getD "").isEmpty then none else some (text?.getD "") := by
  cases text? with
  | none => rfl
  | some text => by_cases hempty : text.isEmpty <;> simp [Option.filter, hempty]

namespace Transform

/-- The pipeline that a configuration has for a name; an empty one is none. -/
def pipeline? (pipelines : Pipelines) (name : String) : Option String :=
  (pipelines.lookup name).filter (!·.isEmpty)

variable [Limits]

/-- What the transform of a name makes of a value: all steps of a pipeline, or else a built-in
transform.  There is nothing if it fails, or if the name stands for neither. -/
def result? (registry : Registry) (pipelines : Pipelines) (context : Context) (name : String)
    (params : Entries) (v : Value) : Option Value :=
  match pipeline? pipelines name with
  | some expression => runExpression registry context expression v
  | none => (Builtin.ofName? name).bind fun builtin => (builtin.run params v).toOption

/-- The fault of the built-in transform of a name, unless there is a pipeline in its place. -/
def builtinFault? (pipelines : Pipelines) (name : String) (params : Entries) (v : Value) :
    Option Fault :=
  match pipeline? pipelines name with
  | some _ => none
  | none =>
    (Builtin.ofName? name).bind fun builtin =>
      match builtin.run params v with
      | .ok _ => none
      | .error fault => some fault

/-- A transform fails only with the fault of a built-in one, and else gives its result, or the
value as it was. -/
theorem apply_eq (registry : Registry) (pipelines : Pipelines) (context : Context)
    (name : String) (params : Entries) (v : Value) :
    apply registry pipelines context name params v =
      match builtinFault? pipelines name params v with
      | some fault => .error fault
      | none => .ok ((result? registry pipelines context name params v).getD v) := by
  simp only [apply, builtinFault?, result?, pipeline?, Text.filter_nonempty_eq]
  by_cases hempty : ((pipelines.lookup name).getD "").isEmpty = true
  · simp only [hempty, ↓reduceIte, Bool.not_true, Bool.false_eq_true]
    cases Builtin.ofName? name with
    | none => rfl
    | some builtin => cases hrun : builtin.run params v <;> simp [hrun, Except.toOption]
  · simp [hempty]

theorem result?_eq_none {registry : Registry} {pipelines : Pipelines} {context : Context}
    {name : String} {params : Entries} {v : Value} {fault : Fault}
    (hfault : builtinFault? pipelines name params v = some fault) :
    result? registry pipelines context name params v = none := by
  rw [builtinFault?] at hfault
  rw [result?]
  split at hfault
  next => cases hfault
  next =>
    obtain ⟨builtin, hname, hrun⟩ := Option.bind_eq_some_iff.1 hfault
    rw [hname]
    cases hresult : builtin.run params v with
    | ok w => simp [hresult] at hrun
    | error other => simp [hresult, Except.toOption]

end Transform

/-- What transforms may use where nothing is registered and there are no pipelines. -/
def TransformScope.bare (format : String) : TransformScope := ⟨[], [], ⟨format⟩⟩

namespace Row

def found? (payload : Value) (row : Row) : Option Value :=
  match Path.find payload row.source with
  | .ok found => found
  | .error _ => none

theorem found?_eq_some_iff {payload : Value} {row : Row} {v : Value} :
    row.found? payload = some v ↔ Path.find payload row.source = .ok (some v) := by
  rw [found?]
  cases Path.find payload row.source with
  | error fault => simp
  | ok found => simp

variable [Limits] (scope : TransformScope) (payload : Value) (row : Row)

/-- The transform that a row asks for, if it asks for one. -/
def transformName? : Option String := row.transformation.filter (!·.isEmpty)

/-- The value that a row makes of the one that it finds: the result of its transform, or the value
as it was if the row asks for none or it fails. -/
def valueOf (v : Value) : Value :=
  (row.transformName?.bind fun name =>
    Transform.result? scope.registry scope.pipelines scope.context name
      (row.params.getD []) v).getD v

/-- The warning that the built-in transform of a row failed. -/
def failure? (v : Value) : Option Warning :=
  row.transformName?.bind fun name =>
    (Transform.builtinFault? scope.pipelines name (row.params.getD []) v).map
      (Warning.failed name row.source)

def applied : AppliedRow := ⟨row.source, row.target, row.transformation⟩

end Row

/-- A row with the value that it writes at its target. -/
structure Write where
  row : Row
  value : Value

namespace Write

def keys (write : Write) : List Scalar := Path.keys write.row.target

def applied (write : Write) : AppliedRow := write.row.applied

end Write

namespace Row

variable [Limits] (scope : TransformScope) (payload : Value) (row : Row)

/-- What a row writes: a value that can be copied. -/
def write? : Option Write :=
  (row.found? payload).bind fun v =>
    if (row.valueOf scope v).tooDeepToCopy then none else some ⟨row, row.valueOf scope v⟩

def warnings : List Warning :=
  match row.found? payload with
  | none => if row.required then [.missing row.source] else []
  | some v =>
    (row.failure? scope v).toList ++
      if (row.valueOf scope v).tooDeepToCopy then [.tooDeep row.source] else []

variable {scope payload row}

/-- A row writes the value that it makes of what it finds, unless that is nested too deeply. -/
theorem write?_eq_some_iff {write : Write} :
    row.write? scope payload = some write ↔
      ∃ v, Path.find payload row.source = .ok (some v) ∧
        (row.valueOf scope v).tooDeepToCopy = false ∧ write = ⟨row, row.valueOf scope v⟩ := by
  simp only [write?, Option.bind_eq_some_iff, found?_eq_some_iff]
  refine exists_congr fun v => and_congr_right fun _ => ?_
  by_cases hdeep : (row.valueOf scope v).tooDeepToCopy = true <;> simp [hdeep, eq_comm]

end Row

namespace Mapping

def replay (writes : List Write) (data : Entries) : Entries :=
  writes.foldl (fun data write => Path.put data write.row.target write.value) data

theorem replay_append (first second : List Write) (data : Entries) :
    replay (first ++ second) data = replay second (replay first data) := by
  simp only [replay, List.foldl_append]

/-- What stands beside all writes stays. -/
theorem reaches_replay {writes : List Write} {data : Entries} {keys : List Scalar} {w : Value}
    (hreach : Value.Reaches (.dict data) keys w)
    (hfree : ∀ write ∈ writes, ¬ Path.Related write.keys keys) :
    Value.Reaches (.dict (replay writes data)) keys w := by
  induction writes generalizing data with
  | nil => exact hreach
  | cons write rest ih =>
      obtain ⟨hbeside, hrest⟩ := List.forall_mem_cons.1 hfree
      exact ih ((Path.reaches_putAt_iff_of_not_related hbeside).2 hreach) hrest

/-- A leaf after some writes is a part of what the last write at or above it wrote, or no write
is there and the leaf was there before. -/
theorem leafAt_replay {writes : List Write} {data : Entries} {keys : List Scalar} {leaf : Value}
    (htargets : ∀ write ∈ writes, Path.segments write.row.target ≠ [])
    (hleaf : Entries.LeafAt (replay writes data) keys leaf) :
    (∃ before write after rest, writes = before ++ write :: after ∧
        keys = write.keys ++ rest ∧ Value.Reaches write.value rest leaf ∧
        ∀ later ∈ after, ¬ later.keys <+: keys) ∨
      ((∀ write ∈ writes, ¬ write.keys <+: keys) ∧ Entries.LeafAt data keys leaf) := by
  induction writes generalizing data with
  | nil => exact Or.inr ⟨by simp, hleaf⟩
  | cons write others ih =>
      obtain ⟨htarget, hothers⟩ := List.forall_mem_cons.1 htargets
      rcases ih hothers hleaf with ⟨before, last, after, rest, rfl, hlast⟩ | ⟨hfree, hput⟩
      · exact Or.inl ⟨write :: before, last, after, rest, rfl, hlast⟩
      · rcases Path.leafAt_of_putAt htarget hput with
          ⟨rest, hkeys, hreach⟩ | ⟨hbeside, hdata⟩
        · exact Or.inl ⟨[], write, others, rest, rfl, hkeys, hreach, hfree⟩
        · exact Or.inr ⟨List.forall_mem_cons.2 ⟨hbeside, hfree⟩, hdata⟩

variable [Limits] {scope : TransformScope} {payload : Value}

/-- The writes of a table, in its order. -/
def writes (scope : TransformScope) (payload : Value) (table : List Row) : List Write :=
  table.filterMap (Row.write? scope payload)

theorem transformed_spec {row : Row} {v w : Value} {warnings : List Warning}
    (htransformed : transformed scope row v = .ok (w, warnings)) :
    w = row.valueOf scope v ∧ warnings = (row.failure? scope v).toList := by
  simp only [transformed, Transform.apply_eq] at htransformed
  rw [Row.valueOf, Row.failure?, Row.transformName?, Text.filter_nonempty_eq]
  generalize row.transformation.getD "" = name at htransformed
  split at htransformed
  next hempty =>
    cases htransformed
    simp [hempty]
  next hnonempty =>
    simp only [hnonempty, Bool.false_eq_true, ↓reduceIte, Option.bind_some]
    cases hfault : Transform.builtinFault? scope.pipelines name (row.params.getD []) v with
    | none =>
        rw [hfault] at htransformed
        cases htransformed
        exact ⟨rfl, rfl⟩
    | some fault =>
        rw [Transform.result?_eq_none hfault]
        simp only [hfault] at htransformed
        split at htransformed
        next => cases htransformed
        next =>
          cases htransformed
          exact ⟨rfl, rfl⟩

/-- One row: its write is replayed and told, and its warnings follow. -/
theorem record_outcome {row : Row} {result : Outcome}
    (houtcome : outcome scope payload row = .ok result) (p : Progress) :
    p.record row result =
      { data := replay (row.write? scope payload).toList p.data
        applied := p.applied ++ (row.write? scope payload).toList.map Write.applied
        warnings := p.warnings ++ row.warnings scope payload } := by
  have hfound : row.found? payload = match Path.find payload row.source with
      | .ok found => found
      | .error _ => none := rfl
  rw [outcome] at houtcome
  cases hfind : Path.find payload row.source with
  | error fault => simp [hfind] at houtcome
  | ok found =>
      cases found with
      | none =>
          simp only [hfind, Except.ok.injEq] at houtcome hfound
          subst houtcome
          cases hrequired : row.required <;>
            simp [Progress.record, Row.write?, Row.warnings, hfound, hrequired, replay]
      | some v =>
          simp only [hfind] at houtcome hfound
          cases htransformed : transformed scope row v with
          | error fault => simp [htransformed] at houtcome
          | ok result =>
              obtain ⟨w, warnings⟩ := result
              obtain ⟨rfl, rfl⟩ := transformed_spec htransformed
              simp only [htransformed] at houtcome
              split at houtcome
              next hdeep =>
                cases houtcome
                simp [Progress.record, Row.write?, Row.warnings, hfound, hdeep, replay]
              next hshallow =>
                cases houtcome
                simp [Progress.record, Row.write?, Row.warnings, hfound, hshallow, replay,
                  Write.applied, Row.applied]

theorem writes_cons (row : Row) (rest : List Row) :
    writes scope payload (row :: rest) =
      (row.write? scope payload).toList ++ writes scope payload rest := by
  rw [writes, List.filterMap_cons]
  cases row.write? scope payload <;> rfl

theorem writes_append (base own : List Row) :
    writes scope payload (base ++ own) =
      writes scope payload base ++ writes scope payload own :=
  List.filterMap_append

/-- A run replays the writes of its rows and tells of them, in the order of the table. -/
theorem run_eq {table : List Row} {p q : Progress} (hrun : run scope payload table p = .ok q) :
    q =
      { data := replay (writes scope payload table) p.data
        applied := p.applied ++ (writes scope payload table).map Write.applied
        warnings := p.warnings ++ table.flatMap (Row.warnings scope payload) } := by
  induction table generalizing p with
  | nil =>
      cases hrun
      simp [writes, replay]
  | cons row rest ih =>
      rw [run] at hrun
      cases houtcome : outcome scope payload row with
      | error fault => simp [houtcome] at hrun
      | ok result =>
          simp only [houtcome] at hrun
          rw [ih hrun, record_outcome houtcome p, writes_cons, replay_append]
          simp

/-- What applying a table gives when it comes to an end. -/
theorem apply_eq {table : List Row} {source : Value} {mapped : Mapped}
    (happly : apply scope table source = .ok mapped) :
    mapped =
      { data := replay (writes scope (.dict source.entries) table) []
        dropped := (Path.leaves source.entries "").filter fun path =>
          !((writes scope (.dict source.entries) table).map fun write => write.row.source).contains
            path
        applied := (writes scope (.dict source.entries) table).map Write.applied
        warnings := table.flatMap (Row.warnings scope (.dict source.entries)) } := by
  rw [apply] at happly
  cases hrun : run scope (.dict source.entries) table {} with
  | error fault => simp [hrun] at happly
  | ok p =>
      simp only [hrun, Except.ok.injEq] at happly
      rw [← happly, run_eq hrun]
      simp [Write.applied, Row.applied, Function.comp_def]

/-- Every row of a run that comes to an end has an outcome, whatever was before it. -/
theorem exists_outcome_of_run {table : List Row} {p q : Progress}
    (hrun : run scope payload table p = .ok q) :
    ∀ row ∈ table, ∃ result, outcome scope payload row = .ok result := by
  induction table generalizing p with
  | nil => simp
  | cons row rest ih =>
      rw [run] at hrun
      cases houtcome : outcome scope payload row with
      | error fault => simp [houtcome] at hrun
      | ok result =>
          rw [houtcome] at hrun
          exact List.forall_mem_cons.2 ⟨⟨result, houtcome⟩, ih hrun⟩

/-- A table whose rows all come to an end can be applied. -/
theorem apply_ok {table : List Row} {source : Value}
    (hrows : ∀ row ∈ table, ∃ result, outcome scope (.dict source.entries) row = .ok result) :
    ∃ mapped, apply scope table source = .ok mapped := by
  have hrun : ∀ p : Progress, ∃ q, run scope (.dict source.entries) table p = .ok q := by
    induction table with
    | nil => exact fun p => ⟨p, rfl⟩
    | cons row rest ih =>
        intro p
        obtain ⟨⟨result, houtcome⟩, hrest⟩ := List.forall_mem_cons.1 hrows
        rw [run, houtcome]
        exact ih hrest _
  obtain ⟨q, hq⟩ := hrun {}
  rw [apply, hq]
  exact ⟨_, rfl⟩

/-- A table can be applied exactly if each of its rows has an outcome. -/
theorem apply_ok_iff {table : List Row} {source : Value} :
    (∃ mapped, apply scope table source = .ok mapped) ↔
      ∀ row ∈ table, ∃ result, outcome scope (.dict source.entries) row = .ok result := by
  constructor
  · rintro ⟨mapped, happly⟩
    rw [apply] at happly
    cases hrun : run scope (.dict source.entries) table {} with
    | error fault => simp [hrun] at happly
    | ok p => exact exists_outcome_of_run hrun
  · exact apply_ok

end Mapping

end EventIntake
