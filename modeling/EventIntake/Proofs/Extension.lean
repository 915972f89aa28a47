/-
Tables with rows of their own behind those of a base.  What the base gives stays as it is, but
for the leaves that the further rows take and for what they write at, above or below.
-/
import EventIntake.Proofs.LastWrite

namespace EventIntake

namespace Mapping

variable {scope : TransformScope} {payload : Value}

/-- The rows behind a base can be applied without it. -/
theorem apply_ok_of_append [Limits] {base own : List Row} {source : Value} {mapped : Mapped}
    (happly : apply scope (base ++ own) source = .ok mapped) :
    ∃ alone, apply scope own source = .ok alone := by
  rw [apply_ok_iff]
  intro row hrow
  exact apply_ok_iff.1 ⟨mapped, happly⟩ row (List.mem_append_right base hrow)

end Mapping

/-- A table that extends a base.  What is told of the base's rows comes first, and then what is
told of the rows behind them, as if they stood alone.  Of the base's dropped leaves those that no
applied further row takes stay.  A leaf of the base's data stays where no further row writes at,
above or below it, and there are no other leaves but at or below what the further rows write. -/
theorem extension_conservative [Limits] {scope : TransformScope} {base own : List Row}
    {source : Value}
    {before after : Mapped}
    (htargets : ∀ row ∈ base ++ own, Path.segments row.target ≠ [])
    (hbefore : Mapping.apply scope base source = .ok before)
    (hafter : Mapping.apply scope (base ++ own) source = .ok after) :
    ∃ alone, Mapping.apply scope own source = .ok alone ∧
      after.applied = before.applied ++ alone.applied ∧
      after.warnings = before.warnings ++ alone.warnings ∧
      after.dropped =
        before.dropped.filter (fun path => path ∉ alone.applied.map AppliedRow.source) ∧
      (∀ keys leaf, Entries.LeafAt before.data keys leaf →
        (∀ row ∈ alone.applied, ¬ Path.Related (Path.keys row.target) keys) →
        Entries.LeafAt after.data keys leaf) ∧
      (∀ keys leaf, Entries.LeafAt after.data keys leaf →
        (∀ row ∈ alone.applied, ¬ Path.keys row.target <+: keys) →
        Entries.LeafAt before.data keys leaf) := by
  obtain ⟨alone, halone⟩ := Mapping.apply_ok_of_append hafter
  have hown : ∀ write ∈ Mapping.writes scope (.dict source.entries) own,
      Path.segments write.row.target ≠ [] := by
    intro write hwrite
    have hrow := (Mapping.map_row_writes_sublist own).subset (List.mem_map_of_mem hwrite)
    exact htargets _ (List.mem_append_right base hrow)
  refine ⟨alone, halone, ?_⟩
  rw [Mapping.apply_eq hbefore, Mapping.apply_eq hafter, Mapping.apply_eq halone]
  simp only [Mapping.writes_append, Mapping.replay_append, List.map_append, List.flatMap_append,
    List.forall_mem_map, true_and]
  refine ⟨?_, ?_, ?_⟩
  · rw [List.filter_filter]
    apply List.filter_congr
    intro path _
    have hsources :
        ((Mapping.writes scope (.dict source.entries) own).map Write.applied).map
            AppliedRow.source =
          (Mapping.writes scope (.dict source.entries) own).map fun write => write.row.source :=
      List.map_map
    rw [hsources, List.contains_append, Bool.not_or, Bool.and_comm]
    simp only [List.contains_eq_mem, decide_not]
  · intro keys leaf hleaf hfree
    exact ⟨Mapping.reaches_replay hleaf.1 hfree, hleaf.2⟩
  · intro keys leaf hleaf hfree
    rcases Mapping.leafAt_replay hown hleaf with
      ⟨earlier, write, later, rest, hsplit, hkeys, _, _⟩ | ⟨_, hbase⟩
    · have hwrite : write ∈ Mapping.writes scope (.dict source.entries) own := by simp [hsplit]
      exact absurd ⟨rest, hkeys.symm⟩ (hfree write hwrite)
    · exact hbase

namespace ExtensionWitness

local instance : Limits := .standard

def source : Value :=
  .dict [(.string "code", .int 1), (.string "sqlstate", .string "42P01"),
    (.string "error", .dict [(.string "code", .null), (.string "hint", .string "h")]),
    (.string "user", .string "u")]

def base : List Row :=
  [⟨"error", "error", none, false, none⟩, ⟨"user", "connection.user", none, false, none⟩]

/-- The first further row writes inside what a base row copied; the second finds nothing. -/
def own : List Row :=
  [⟨"sqlstate", "error.code.state", none, false, none⟩, ⟨"host", "connection", none, true, none⟩]

def before : Mapped where
  data := [(.string "error", .dict [(.string "code", .null), (.string "hint", .string "h")]),
    (.string "connection", .dict [(.string "user", .string "u")])]
  dropped := ["code", "sqlstate", "error.code", "error.hint"]
  applied := [⟨"error", "error", none⟩, ⟨"user", "connection.user", none⟩]
  warnings := []

def after : Mapped where
  data := [(.string "error", .dict [
      (.string "code", .dict [(.string "state", .string "42P01")]),
      (.string "hint", .string "h")]),
    (.string "connection", .dict [(.string "user", .string "u")])]
  dropped := ["code", "error.code", "error.hint"]
  applied := [⟨"error", "error", none⟩, ⟨"user", "connection.user", none⟩,
    ⟨"sqlstate", "error.code.state", none⟩]
  warnings := [.missing "host"]

theorem apply_base : Mapping.apply (.bare "custom") base source = .ok before := by
  simp only [Mapping.apply, Path.leaves_eq_leavesBelow]
  rfl

theorem apply_extended : Mapping.apply (.bare "custom") (base ++ own) source = .ok after := by
  simp only [Mapping.apply, Path.leaves_eq_leavesBelow]
  rfl

theorem apply_own : Mapping.apply (.bare "custom") own source = .ok
    { data := [(.string "error", .dict
          [(.string "code", .dict [(.string "state", .string "42P01")])])]
      dropped := ["code", "error.code", "error.hint", "user"]
      applied := [⟨"sqlstate", "error.code.state", none⟩]
      warnings := [.missing "host"] } := by
  simp only [Mapping.apply, Path.leaves_eq_leavesBelow]
  rfl

theorem extension_conservative_of_overwritten_leaf :
    (∀ row ∈ base ++ own, Path.segments row.target ≠ []) ∧
      Mapping.apply (.bare "custom") base source = .ok before ∧
      Mapping.apply (.bare "custom") (base ++ own) source = .ok after ∧
      after.warnings = before.warnings ++ [.missing "host"] ∧
      Entries.LeafAt after.data [.string "error", .string "hint"] (.string "h") := by
  have htargets : ∀ row ∈ base ++ own, Path.segments row.target ≠ [] := by decide
  have hleaf : Entries.LeafAt before.data [.string "error", .string "hint"] (.string "h") :=
    ⟨.under (.here _) (.under (.there rfl (.here _)) (.here _)), rfl⟩
  obtain ⟨alone, halone, _, hwarnings, _, hkept, _⟩ :=
    extension_conservative htargets apply_base apply_extended
  rw [apply_own, Except.ok.injEq] at halone
  subst halone
  exact ⟨htargets, apply_base, apply_extended, hwarnings, hkept _ _ hleaf (by decide)⟩

end ExtensionWitness

end EventIntake
