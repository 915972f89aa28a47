/-
Where rows land.  If every row of a table copies to a target or writes beside it, what stands there
in the end is what the last of the copying rows found that found something.
-/
import EventIntake.Proofs.Checking
import EventIntake.Proofs.Rows

namespace EventIntake

namespace Path

/-- The path names keys only: none of its segments is a row of digits, and there is one. -/
def NamesKeys (path : String) : Prop :=
  segments path ≠ [] ∧ ∀ segment ∈ segments path, segment.toList.all Text.isDigit = false

instance (path : String) : Decidable (NamesKeys path) :=
  inferInstanceAs (Decidable (_ ∧ _))

/-- What is no row of digits leads to a member. -/
theorem child_eq_member? {segment : String} (hkey : segment.toList.all Text.isDigit = false)
    (v : Value) : child v segment = .ok (v.member? segment) := by
  cases v with
  | scalar s => rfl
  | dict entries => rfl
  | list items =>
      rw [child, item, hkey]
      rfl

/-- Names of keys lead a lookup through dictionaries only. -/
theorem follow_eq_ok_iff {names : List String} {v w : Value}
    (hkeys : ∀ name ∈ names, name.toList.all Text.isDigit = false) :
    follow v names = .ok (some w) ↔ Value.Reaches v (names.map Scalar.string) w := by
  refine ⟨fun hfollow => ?_, Value.Reaches.follow_eq⟩
  induction names generalizing v with
  | nil =>
      cases hfollow
      exact .here _
  | cons name rest ih =>
      obtain ⟨hkey, hrest⟩ := List.forall_mem_cons.1 hkeys
      rw [follow, child_eq_member? hkey] at hfollow
      cases v with
      | dict entries =>
          rw [Value.member?] at hfollow
          cases hget : Entries.get? (.string name) entries with
          | none => simp [hget] at hfollow
          | some u =>
              rw [hget] at hfollow
              exact .under (Entries.holds_string_iff.2 hget) (ih hrest hfollow)
      | list items => cases hfollow
      | scalar s => cases hfollow

/-- Names of keys lead from member to member. -/
theorem follow_eq_foldlM {names : List String}
    (hkeys : ∀ name ∈ names, name.toList.all Text.isDigit = false) (v : Value) :
    follow v names = .ok (names.foldlM (fun u name => u.member? name) v) := by
  induction names generalizing v with
  | nil => rfl
  | cons name rest ih =>
      obtain ⟨hkey, hrest⟩ := List.forall_mem_cons.1 hkeys
      rw [follow, child_eq_member? hkey, List.foldlM_cons]
      cases v.member? name with
      | none => rfl
      | some u => exact ih hrest u

/-- What a path leads to below the top is nested less deeply. -/
theorem depth_lt_of_find {path : String} {v w : Value} (hne : segments path ≠ [])
    (hfind : find v path = .ok (some w)) : w.depth < v.depth := by
  obtain ⟨name, rest, hsegments⟩ := List.exists_cons_of_ne_nil hne
  rw [find, hsegments, follow] at hfind
  split at hfind
  next u hchild => exact Nat.lt_of_le_of_lt (depth_le_of_follow hfind) (depth_lt_of_child hchild)
  next => cases hfind
  next => cases hfind

end Path

namespace DataCheck

variable {path : String}

theorem at?_eq_some_iff (hpath : Path.NamesKeys path) {data v : Value} :
    at? data path = some v ↔ Value.Reaches data (Path.keys path) v := by
  rw [Path.keys, ← Path.follow_eq_ok_iff hpath.2]
  refine ⟨find_of_at?, fun hfollow => ?_⟩
  rw [at?, Path.find, hfollow]

theorem at?_eq_foldlM (hpath : Path.NamesKeys path) (v : Value) :
    at? v path = (Path.segments path).foldlM (fun u name => u.member? name) v := by
  rw [at?, Path.find, Path.follow_eq_foldlM hpath.2]

/-- Only the entries of a value count for names of keys. -/
theorem at?_entries (hpath : Path.NamesKeys path) (v : Value) :
    at? (.dict v.entries) path = at? v path := by
  obtain ⟨name, rest, hsegments⟩ := List.exists_cons_of_ne_nil hpath.1
  have hmember : (Value.dict v.entries).member? name = v.member? name := by
    cases v <;> rfl
  rw [at?_eq_foldlM hpath, at?_eq_foldlM hpath, hsegments, List.foldlM_cons, List.foldlM_cons,
    hmember]

/-- There is nothing in no entries. -/
theorem at?_nil (hne : Path.segments path ≠ []) : at? (.dict []) path = none := by
  obtain ⟨name, rest, hsegments⟩ := List.exists_cons_of_ne_nil hne
  rw [at?, Path.find, hsegments, Path.follow]
  rfl

theorem at?_eq_member? (hkey : path.toList.all Text.isDigit = false)
    (hsegments : Path.segments path = [path]) (v : Value) : at? v path = v.member? path := by
  rw [at?, Path.find, hsegments, Path.follow, Path.child_eq_member? hkey]
  cases v.member? path <;> rfl

/-- What is put at a path stands there. -/
theorem at?_put_self (hne : Path.segments path ≠ []) (v : Value) (data : Entries) :
    at? (.dict (Path.put data path v)) path = some v := by
  rw [at?, Path.find, Path.put, Path.follow_putAt_self hne data]

/-- What is put beside a path changes nothing there. -/
theorem at?_put_of_not_related {other : String} (hpath : Path.NamesKeys path)
    (hfree : ¬ Path.Related (Path.keys other) (Path.keys path)) (v : Value) (data : Entries) :
    at? (.dict (Path.put data other v)) path = at? (.dict data) path := by
  refine Option.ext fun w => ?_
  rw [at?_eq_some_iff hpath, at?_eq_some_iff hpath]
  exact Path.reaches_putAt_iff_of_not_related hfree

end DataCheck

/-- What the last of some fields holds that a payload has. -/
def Value.supplied? (payload : Value) (fields : List String) : Option Value :=
  fields.reverse.findSome? (DataCheck.at? payload)

namespace Value

theorem supplied?_cons (payload : Value) (field : String) (rest : List String) :
    payload.supplied? (field :: rest) =
      (payload.supplied? rest).or (DataCheck.at? payload field) := by
  rw [supplied?, List.reverse_cons, List.findSome?_append, supplied?]
  cases hat : DataCheck.at? payload field <;> simp [hat]

theorem supplied?_singleton (payload : Value) (field : String) :
    payload.supplied? [field] = DataCheck.at? payload field := by
  rw [supplied?_cons]
  rfl

theorem depth_lt_of_supplied? {payload v : Value} {fields : List String}
    (hfields : ∀ field ∈ fields, Path.NamesKeys field)
    (hsupplied : payload.supplied? fields = some v) : v.depth < payload.depth := by
  obtain ⟨field, hfield, hat⟩ := List.exists_of_findSome?_eq_some hsupplied
  have hne := (hfields field (List.mem_reverse.1 hfield)).1
  exact Path.depth_lt_of_find hne (DataCheck.find_of_at? hat)

end Value

namespace Row

/-- The rows bring some fields of a payload to a target, the last of them before the others: these
are the sources of the rows that copy to the target, and all other rows write beside it. -/
inductive Feed (target : String) : List Row → List String → Prop
  | done (htarget : Path.NamesKeys target) : Feed target [] []
  | copy {row : Row} {rest : List Row} {fields : List String} (htarget : row.target = target)
      (hname : row.transformName? = none) (hsource : Path.NamesKeys row.source)
      (hrest : Feed target rest fields) : Feed target (row :: rest) (row.source :: fields)
  | beside {row : Row} {rest : List Row} {fields : List String}
      (hfree : ¬ Path.Related (Path.keys row.target) (Path.keys target))
      (hrest : Feed target rest fields) : Feed target (row :: rest) fields

section

variable {target : String} {table : List Row} {fields : List String}

theorem Feed.target_namesKeys (hfeed : Feed target table fields) : Path.NamesKeys target := by
  induction hfeed with
  | done htarget => exact htarget
  | copy _ _ _ _ ih => exact ih
  | beside _ _ ih => exact ih

theorem Feed.fields_namesKeys (hfeed : Feed target table fields) :
    ∀ field ∈ fields, Path.NamesKeys field := by
  induction hfeed with
  | done => simp
  | copy _ _ hsource _ ih => exact List.forall_mem_cons.2 ⟨hsource, ih⟩
  | beside _ _ ih => exact ih

end

variable {scope : TransformScope} {payload : Value} {row : Row}

variable [Limits]

/-- A row that copies writes what it finds, if the payload can be copied. -/
theorem write?_of_copies (hname : row.transformName? = none) (hsource : Path.NamesKeys row.source)
    (hcopied : payload.depth ≤ Limits.copying + 1) :
    row.write? scope (.dict payload.entries) =
      (DataCheck.at? payload row.source).map (⟨row, ·⟩) := by
  have hvalue : ∀ v, row.valueOf scope v = v := by
    intro v
    rw [valueOf, hname]
    rfl
  have hfound : row.found? (.dict payload.entries) = DataCheck.at? payload row.source :=
    DataCheck.at?_entries hsource payload
  rw [write?, hfound]
  cases hat : DataCheck.at? payload row.source with
  | none => rfl
  | some v =>
      have hlt := Path.depth_lt_of_find hsource.1 (DataCheck.find_of_at? hat)
      have hshallow : ¬ v.tooDeepToCopy = true := by
        rw [Value.tooDeepToCopy_iff]
        omega
      rw [Option.bind_some, hvalue, if_neg hshallow, Option.map_some]

/-- What rows bring to a target stands there after their writes, and else what stood there
before. -/
theorem Feed.at?_replay {target : String} {table : List Row} {fields : List String}
    (hfeed : Feed target table fields) (hcopied : payload.depth ≤ Limits.copying + 1)
    (data : Entries) :
    DataCheck.at? (.dict (Mapping.replay
        (Mapping.writes scope (.dict payload.entries) table) data)) target =
      (payload.supplied? fields).or (DataCheck.at? (.dict data) target) := by
  have htarget := hfeed.target_namesKeys
  induction hfeed generalizing data with
  | done => rfl
  | @copy row rest fields hsame hname hsource _ ih =>
      rw [Mapping.writes_cons, Mapping.replay_append, ih, write?_of_copies hname hsource hcopied,
        Value.supplied?_cons, Option.or_assoc]
      congr 1
      -- What the row finds is put at the target; if it finds nothing, the data stay as they are.
      cases DataCheck.at? payload row.source with
      | none => rfl
      | some v =>
          rw [← hsame] at htarget ⊢
          exact DataCheck.at?_put_self htarget.1 v data
  | @beside row rest fields hfree _ ih =>
      rw [Mapping.writes_cons, Mapping.replay_append, ih]
      congr 1
      cases hwrite : row.write? scope (.dict payload.entries) with
      | none => rfl
      | some write =>
          obtain ⟨v, _, _, rfl⟩ := write?_eq_some_iff.1 hwrite
          exact DataCheck.at?_put_of_not_related htarget hfree _ data

/-- The data of a mapped payload have at a target what the payload supplies in the fields that the
table brings there. -/
theorem Feed.at?_data {target : String} {table : List Row} {fields : List String}
    {mapped : Mapped} (hfeed : Feed target table fields)
    (hcopied : payload.depth ≤ Limits.copying + 1)
    (happly : Mapping.apply scope table payload = .ok mapped) :
    DataCheck.at? (.dict mapped.data) target = payload.supplied? fields := by
  rw [Mapping.apply_eq happly, hfeed.at?_replay hcopied,
    DataCheck.at?_nil hfeed.target_namesKeys.1, Option.or_none]

end Row

end EventIntake
