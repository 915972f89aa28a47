/-
The last write wins: what the data of an applied table holds, row by row and leaf by leaf.
-/
import EventIntake.Proofs.Rows

namespace EventIntake

namespace Mapping

variable {scope : TransformScope} {payload : Value}

/-- The rows that write are rows of the table, in its order. -/
theorem map_row_writes_sublist [Limits] (table : List Row) :
    ((writes scope payload table).map Write.row).Sublist table := by
  induction table with
  | nil => exact List.Sublist.refl []
  | cons row rest ih =>
      rw [writes_cons, List.map_append]
      cases hwrite : row.write? scope payload with
      | none => exact ih.cons row
      | some write =>
          obtain ⟨v, _, _, rfl⟩ := Row.write?_eq_some_iff.1 hwrite
          exact ih.cons_cons row

/-- A write stays as long as none is above, at or below it. -/
theorem find_replay {before after : List Write} {write : Write} {data : Entries}
    (htarget : Path.segments write.row.target ≠ [])
    (hfree : ∀ later ∈ after, ¬ Path.Related later.keys write.keys) :
    Path.find (.dict (replay (before ++ write :: after) data)) write.row.target =
      .ok (some write.value) := by
  apply Value.Reaches.follow_eq
  rw [replay_append]
  have hput := Path.reaches_putAt_append htarget (.here write.value) (replay before data)
  rw [List.append_nil] at hput
  have hkept := reaches_replay hput hfree
  exact hkept

end Mapping

/-- What an applied table leaves.  The applied rows are those that write, in the order of the
table, each the value that it makes of what it found.  A row that no later one writes at, above or
below has its value at its target; and every leaf is a part of the value of the last row that
writes at or above it. -/
theorem last_write_wins [Limits] {scope : TransformScope} {table : List Row} {source : Value}
    {mapped : Mapped} {written : List Write}
    (htargets : ∀ row ∈ table, Path.segments row.target ≠ [])
    (happly : Mapping.apply scope table source = .ok mapped)
    (hwritten : written = Mapping.writes scope (.dict source.entries) table) :
    mapped.applied = written.map Write.applied ∧
      (written.map Write.row).Sublist table ∧
      (∀ write ∈ written, ∃ v,
        Path.find (.dict source.entries) write.row.source = .ok (some v) ∧
          write.value = write.row.valueOf scope v) ∧
      (∀ before write after, written = before ++ write :: after →
        (∀ later ∈ after, ¬ Path.Related later.keys write.keys) →
        Path.find (.dict mapped.data) write.row.target = .ok (some write.value)) ∧
      (∀ keys leaf, Entries.LeafAt mapped.data keys leaf →
        ∃ before write after rest, written = before ++ write :: after ∧
          keys = write.keys ++ rest ∧ Value.Reaches write.value rest leaf ∧
          ∀ later ∈ after, ¬ later.keys <+: keys) := by
  have hrows : (written.map Write.row).Sublist table := by
    rw [hwritten]
    exact Mapping.map_row_writes_sublist table
  have hnonempty : ∀ write ∈ written, Path.segments write.row.target ≠ [] := by
    intro write hwrite
    exact htargets _ (hrows.subset (List.mem_map_of_mem hwrite))
  rw [Mapping.apply_eq happly, ← hwritten]
  refine ⟨rfl, hrows, ?_, ?_, ?_⟩
  · intro write hwrite
    rw [hwritten] at hwrite
    obtain ⟨row, _, hsome⟩ := List.mem_filterMap.1 hwrite
    obtain ⟨v, hfind, _, rfl⟩ := Row.write?_eq_some_iff.1 hsome
    exact ⟨v, hfind, rfl⟩
  · intro before write after hsplit hfree
    rw [hsplit] at hnonempty ⊢
    exact Mapping.find_replay (hnonempty write (by simp)) hfree
  · intro keys leaf hleaf
    rcases Mapping.leafAt_replay hnonempty hleaf with hlast | ⟨_, hempty⟩
    · exact hlast
    · exact absurd hempty Entries.not_leafAt_nil

namespace LastWriteWitness

local instance : Limits := .standard

def source : Value :=
  .dict [(.string "a", .dict [(.string "b", .int 1), (.string "c", .null)]),
    (.string "d", .bool true)]

/-- The later rows write inside what the first one copied; the transform of the second fails. -/
def table : List Row :=
  [⟨"a", "t", none, false, none⟩, ⟨"d", "t.b", some "to_unix_timestamp", false, none⟩,
    ⟨"d", "t.c.e", none, false, none⟩]

def written : List Write :=
  [⟨⟨"a", "t", none, false, none⟩, .dict [(.string "b", .int 1), (.string "c", .null)]⟩,
    ⟨⟨"d", "t.b", some "to_unix_timestamp", false, none⟩, .bool true⟩,
    ⟨⟨"d", "t.c.e", none, false, none⟩, .bool true⟩]

def mapped : Mapped where
  data := [(.string "t", .dict
    [(.string "b", .bool true), (.string "c", .dict [(.string "e", .bool true)])])]
  dropped := ["a.b", "a.c"]
  applied := [⟨"a", "t", none⟩, ⟨"d", "t.b", some "to_unix_timestamp"⟩, ⟨"d", "t.c.e", none⟩]
  warnings := [.failed "to_unix_timestamp" "d" .truthTimestamp]

theorem apply_eq_mapped : Mapping.apply (.bare "custom") table source = .ok mapped := by
  simp only [Mapping.apply, Path.leaves_eq_leavesBelow]
  rfl

theorem last_write_wins_inside_copied :
    (∀ row ∈ table, Path.segments row.target ≠ []) ∧
      Mapping.apply (.bare "custom") table source = .ok mapped ∧
      written = Mapping.writes (.bare "custom") (.dict source.entries) table ∧
      Path.find (.dict mapped.data) "t.b" = .ok (some (.bool true)) ∧
      ∃ before write after rest, written = before ++ write :: after ∧
        [.string "t", .string "c", .string "e"] = write.keys ++ rest ∧
        Value.Reaches write.value rest (.bool true) := by
  have htargets : ∀ row ∈ table, Path.segments row.target ≠ [] := by decide
  have hwritten : written = Mapping.writes (.bare "custom") (.dict source.entries) table := rfl
  have hleaf : Entries.LeafAt mapped.data [.string "t", .string "c", .string "e"] (.bool true) :=
    ⟨.under (.here _) (.under (.there rfl (.here _)) (.under (.here _) (.here _))), rfl⟩
  obtain ⟨_, _, _, hfind, hlast⟩ := last_write_wins htargets apply_eq_mapped hwritten
  obtain ⟨before, write, after, rest, hsplit, hkeys, hreach, _⟩ := hlast _ _ hleaf
  exact ⟨htargets, apply_eq_mapped, hwritten,
    hfind [_] ⟨⟨"d", "t.b", some "to_unix_timestamp", false, none⟩, .bool true⟩ [_] rfl
      (by decide),
    before, write, after, rest, hsplit, hkeys, hreach⟩

end LastWriteWitness

end EventIntake
