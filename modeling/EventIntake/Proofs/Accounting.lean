/-
The account of a payload's fields: which leaves are listed as dropped, which rows are told of as
applied, and what is warned of.
-/
import EventIntake.Proofs.Rows

namespace EventIntake

namespace Row

/-- What a row warns of when its value can be copied: a required source that is missing, or a
built-in transform that failed. -/
def warning? [Limits] (scope : TransformScope) (payload : Value) (row : Row) : Option Warning :=
  match row.found? payload with
  | none => if row.required then some (.missing row.source) else none
  | some v => row.failure? scope v

end Row

/-- The row's lookup ended at a position, at one of its ancestors, or inside what stands there. -/
def AppliedRow.Reads (row : AppliedRow) (keys : List Scalar) : Prop :=
  Path.Related (Path.keys row.source) keys

instance (row : AppliedRow) (keys : List Scalar) : Decidable (row.Reads keys) :=
  inferInstanceAs (Decidable (Path.Related (Path.keys row.source) keys))

/-- A row reads the position that its source is the dotted path of, as long as the keys are
names. -/
theorem AppliedRow.reads_of_source_eq_dotted {row : AppliedRow} {keys : List Scalar}
    (hnames : ∀ key ∈ keys, key.IsName) (hsource : row.source = Path.dotted keys) :
    row.Reads keys := by
  rw [AppliedRow.Reads, hsource, Path.keys, Path.segments_dotted hnames,
    Scalar.map_string_plain hnames]
  exact Path.Related.refl keys

namespace Mapping

variable [Limits]

/-- The values that a table makes of what its rows find can all be copied. -/
def Shallow (scope : TransformScope) (payload : Value) (table : List Row) : Prop :=
  ∀ row ∈ table, ∀ v, Path.find payload row.source = .ok (some v) →
    (row.valueOf scope v).tooDeepToCopy = false

variable {scope : TransformScope} {payload : Value} {table : List Row}

theorem map_row_writes_of_shallow (hshallow : Shallow scope payload table) :
    (writes scope payload table).map Write.row =
      table.filter fun row => (row.found? payload).isSome := by
  induction table with
  | nil => rfl
  | cons row rest ih =>
      obtain ⟨hrow, hrest⟩ := List.forall_mem_cons.1 hshallow
      rw [writes_cons, List.map_append, ih hrest, List.filter_cons]
      cases hfound : row.found? payload with
      | none => simp [Row.write?, hfound]
      | some v =>
          have hfind := Row.found?_eq_some_iff.1 hfound
          have hwrite := Row.write?_eq_some_iff.2 ⟨v, hfind, hrow v hfind, rfl⟩
          simp [hwrite]

theorem warnings_of_shallow (hshallow : Shallow scope payload table) :
    table.flatMap (Row.warnings scope payload) =
      table.filterMap (Row.warning? scope payload) := by
  rw [List.filterMap_eq_flatMap_toList]
  apply List.flatMap_congr
  intro row hrow
  rw [Row.warnings, Row.warning?]
  cases hfound : row.found? payload with
  | none => cases row.required <;> rfl
  | some v =>
      have hcopied := hshallow row hrow v (Row.found?_eq_some_iff.1 hfound)
      simp [hcopied]

/-- A leaf path that some row has for its source is the source of a row that writes. -/
theorem mem_sources_iff_of_shallow {entries : Entries} (hnamed : Entries.Named entries)
    (hshallow : Shallow scope (.dict entries) table) {path : String}
    (hpath : path ∈ Path.leaves entries "") :
    path ∈ ((writes scope (.dict entries) table).map fun write => write.row.source) ↔
      path ∈ table.map Row.source := by
  have hsources : (writes scope (.dict entries) table).map (fun write => write.row.source) =
      ((writes scope (.dict entries) table).map Write.row).map Row.source := by
    rw [List.map_map]
    rfl
  rw [hsources, map_row_writes_of_shallow hshallow]
  constructor
  · intro hmem
    exact (List.filter_sublist.map Row.source).subset hmem
  · intro hmem
    obtain ⟨row, hrow, rfl⟩ := List.mem_map.1 hmem
    rw [Path.leaves_eq_map_dotted] at hpath
    obtain ⟨⟨keys, leaf⟩, hplace, hdotted⟩ := List.mem_map.1 hpath
    have hfind : Path.find (.dict entries) row.source = .ok (some leaf) := by
      rw [← hdotted]
      exact hnamed.find_dotted hplace
    have hfound : row.found? (.dict entries) = some leaf := Row.found?_eq_some_iff.2 hfind
    exact List.mem_map_of_mem (List.mem_filter.2 ⟨hrow, by simp [hfound]⟩)

end Mapping

/-- The account of an applied table.  Each leaf of the payload is dropped exactly if its path is
the source of no row; the rows that find something are told of as applied, in their order; and the
warnings are those of the rows, in the same order, one for each required source that is missing
and for each built-in transform that failed. -/
theorem field_accounting [Limits] {scope : TransformScope} {table : List Row} {payload : Entries}
    {mapped : Mapped} (hnamed : Entries.Named payload)
    (hshallow : Mapping.Shallow scope (.dict payload) table)
    (happly : Mapping.apply scope table (.dict payload) = .ok mapped) :
    mapped.dropped.Nodup ∧
      mapped.dropped = ((Entries.positions payload).map (Path.dotted ·.1)).filter
        (fun path => path ∉ table.map Row.source) ∧
      mapped.applied = (table.filter fun row => (row.found? (.dict payload)).isSome).map
        Row.applied ∧
      mapped.warnings = table.filterMap (Row.warning? scope (.dict payload)) := by
  have hdropped : mapped.dropped = (Path.leaves payload "").filter
      (fun path => path ∉ table.map Row.source) := by
    rw [Mapping.apply_eq happly]
    apply List.filter_congr
    intro path hpath
    have hsources := Mapping.mem_sources_iff_of_shallow hnamed hshallow hpath
    simp only [Value.entries_dict, List.contains_eq_mem, hsources, decide_not]
  refine ⟨?_, ?_, ?_, ?_⟩
  · rw [hdropped]
    exact hnamed.leaves_nodup.filter _
  · rw [hdropped, Path.leaves_eq_map_dotted]
  · rw [Mapping.apply_eq happly, ← Mapping.map_row_writes_of_shallow hshallow, List.map_map]
    rfl
  · rw [Mapping.apply_eq happly, ← Mapping.warnings_of_shallow hshallow]
    rfl

namespace AccountingWitness

local instance : Limits := .standard

def payload : Entries :=
  [(.string "a", .dict [(.string "b", .int 1), (.string "l", .list [.null])]),
    (.string "d", .bool true), (.string "e", .dict [])]

def table : List Row :=
  [⟨"d", "t", some "to_unix_timestamp", false, none⟩, ⟨"z", "u", none, true, none⟩,
    ⟨"a.l.0", "v", none, true, none⟩]

def mapped : Mapped where
  data := [(.string "t", .bool true), (.string "v", .null)]
  dropped := ["a.b", "a.l"]
  applied := [⟨"d", "t", some "to_unix_timestamp"⟩, ⟨"a.l.0", "v", none⟩]
  warnings := [.failed "to_unix_timestamp" "d" .truthTimestamp, .missing "z"]

theorem apply_eq_mapped : Mapping.apply (.bare "custom") table (.dict payload) = .ok mapped := by
  simp only [Mapping.apply, Path.leaves_eq_leavesBelow]
  rfl

theorem payload_named : Entries.Named payload := by
  simp [payload, Entries.Named, Value.Named, Scalar.IsName]

theorem table_shallow : Mapping.Shallow (.bare "custom") (.dict payload) table := by
  intro row hrow v hfind
  simp only [table, List.mem_cons, List.not_mem_nil, or_false] at hrow
  rcases hrow with rfl | rfl | rfl
  · cases hfind
    rfl
  · cases hfind
  · cases hfind
    rfl

theorem field_accounting_of_three_rows :
    Entries.Named payload ∧ Mapping.Shallow (.bare "custom") (.dict payload) table ∧
      Mapping.apply (.bare "custom") table (.dict payload) = .ok mapped ∧ mapped.dropped.Nodup ∧
      mapped.dropped = ["a.b", "a.l", "d"].filter (fun path => path ∉ ["d", "z", "a.l.0"]) := by
  obtain ⟨hnodup, hdropped, _, _⟩ :=
    field_accounting payload_named table_shallow apply_eq_mapped
  exact ⟨payload_named, table_shallow, apply_eq_mapped, hnodup, hdropped⟩

end AccountingWitness

namespace HiddenLeafWitness

local instance : Limits := .standard

/-- Two leaves share the dotted path `a.b`, and the row for it reads only one of them. -/
def payload : Entries :=
  [(.string "a.b", .int 1), (.string "a", .dict [(.string "b", .int 2)]),
    (.string "c", .dict [(.string "", .int 3)])]

def table : List Row := [⟨"a.b", "t", none, false, none⟩]

def mapped : Mapped where
  data := [(.string "t", .int 2)]
  dropped := ["c."]
  applied := [⟨"a.b", "t", none⟩]
  warnings := []

theorem apply_eq_mapped :
    Mapping.apply (.bare "custom") table (.dict payload) = .ok mapped := by
  simp only [Mapping.apply, Path.leaves_eq_leavesBelow]
  rfl

end HiddenLeafWitness

end EventIntake
