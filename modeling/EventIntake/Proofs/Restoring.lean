/-
Leaves put back: the identity table over all leaf paths of a payload gives the payload again,
without the parts that hold no leaf.
-/
import EventIntake.Proofs.Accounting

namespace EventIntake

mutual

/-- Whether there is a leaf in a value; only dictionaries may hold none. -/
def Value.bearsLeaf : Value → Bool
  | .dict entries => Entries.bearsLeaf entries
  | .list _ => true
  | .scalar _ => true

/-- Whether there is a leaf in some entries. -/
def Entries.bearsLeaf : Entries → Bool
  | [] => false
  | (_, v) :: rest => v.bearsLeaf || Entries.bearsLeaf rest

end

mutual

/-- The value without the dictionaries in it that hold no leaf. -/
def Value.pruned : Value → Value
  | .dict entries => .dict (Entries.pruned entries)
  | .list items => .list items
  | .scalar s => .scalar s

/-- The entries without those that hold no leaf, at every level. -/
def Entries.pruned : Entries → Entries
  | [] => []
  | (key, v) :: rest =>
    if v.bearsLeaf then (key, v.pruned) :: Entries.pruned rest else Entries.pruned rest

end

mutual

theorem Value.bearsLeaf_eq : (v : Value) → v.bearsLeaf = !v.positions.isEmpty
  | .dict entries => by
      rw [Value.bearsLeaf, Value.positions, Entries.bearsLeaf_eq entries]
  | .list items => by simp [Value.bearsLeaf, Value.positions]
  | .scalar s => by simp [Value.bearsLeaf, Value.positions]

/-- A leaf is there as soon as a position is. -/
theorem Entries.bearsLeaf_eq : (entries : Entries) →
    Entries.bearsLeaf entries = !(Entries.positions entries).isEmpty
  | [] => by simp [Entries.bearsLeaf, Entries.positions]
  | (key, v) :: rest => by
      rw [Entries.bearsLeaf, Entries.positions, Value.bearsLeaf_eq v,
        Entries.bearsLeaf_eq rest]
      cases v.positions <;> simp

end

namespace Entries

/-- The entries with values put at positions, one after the other. -/
def restore (places : List (List Scalar × Value)) (entries : Entries) : Entries :=
  places.foldl (fun entries place => Path.putAt place.2 (place.1.map Scalar.plain) entries) entries

theorem restore_append (first second : List (List Scalar × Value)) (entries : Entries) :
    restore (first ++ second) entries = restore second (restore first entries) := by
  simp only [restore, List.foldl_append]

theorem restore_cons (place : List Scalar × Value) (rest : List (List Scalar × Value))
    (entries : Entries) :
    restore (place :: rest) entries =
      restore rest (Path.putAt place.2 (place.1.map Scalar.plain) entries) := rfl

/-- Putting back below one key puts back in what is below it. -/
theorem restore_map_cons {name : String} {places : List (List Scalar × Value)}
    (hne : places ≠ []) (hbelow : ∀ place ∈ places, place.1 ≠ []) (entries : Entries) :
    restore (places.map fun (keys, leaf) => (.string name :: keys, leaf)) entries =
      insert (.string name) (.dict (restore places (Path.below name entries))) entries := by
  induction places generalizing entries with
  | nil => exact absurd rfl hne
  | cons place rest ih =>
      have hnames : place.1.map Scalar.plain ≠ [] := by
        simpa using hbelow place List.mem_cons_self
      have hfirst : Path.putAt place.2 (name :: place.1.map Scalar.plain) entries =
          insert (.string name) (.dict (Path.putAt place.2 (place.1.map Scalar.plain)
            (Path.below name entries))) entries := Path.putAt_cons hnames entries
      rw [List.map_cons, restore_cons, restore_cons, List.map_cons, Scalar.plain, hfirst]
      cases rest with
      | nil => rfl
      | cons other others =>
          rw [ih (by simp) (fun later hlater => hbelow later (List.mem_cons_of_mem place hlater)),
            Path.below_insert, insert_insert]

end Entries

mutual

/-- Putting back the leaves of a value under a new key adds the value without the parts that
hold no leaf, if it has one. -/
theorem Value.restore_positions : {v : Value} → v.Named → {key : Scalar} → key.IsName →
    ∀ {before : Entries}, key ∉ before.map Prod.fst →
      Entries.restore (v.positions.map fun (keys, leaf) => (key :: keys, leaf)) before =
        before ++ if v.bearsLeaf then [(key, v.pruned)] else []
  | .dict entries, hnamed, _, ⟨name, rfl, _, _⟩, before, hfresh => by
      rw [Value.Named] at hnamed
      have hinner : Entries.restore (Entries.positions entries) [] = [] ++ Entries.pruned entries :=
        Entries.restore_positions hnamed (by simp)
      rw [Value.positions, Value.bearsLeaf, Value.pruned, Entries.bearsLeaf_eq]
      by_cases hempty : Entries.positions entries = []
      · simp [hempty, Entries.restore]
      · have hbelow : ∀ place ∈ Entries.positions entries, place.1 ≠ [] :=
          fun _ hplace => Entries.ne_nil_of_mem_positions hplace
        rw [Entries.restore_map_cons hempty hbelow, Path.below_of_not_mem hfresh, hinner,
          Entries.insert_of_not_mem rfl hfresh]
        simp [hempty]
  | .list items, _, _, ⟨name, rfl, _, _⟩, before, hfresh => by
      rw [Value.positions, Value.bearsLeaf, Value.pruned]
      exact Entries.insert_of_not_mem rfl hfresh
  | .scalar s, _, _, ⟨name, rfl, _, _⟩, before, hfresh => by
      rw [Value.positions, Value.bearsLeaf, Value.pruned]
      exact Entries.insert_of_not_mem rfl hfresh

/-- Putting back the leaves of entries after others with other keys adds the entries without the
parts that hold no leaf. -/
theorem Entries.restore_positions : {entries : Entries} → Entries.Named entries →
    ∀ {before : Entries}, (∀ key ∈ entries.map Prod.fst, key ∉ before.map Prod.fst) →
      Entries.restore (Entries.positions entries) before = before ++ Entries.pruned entries
  | [], _, before, _ => by simp [Entries.positions, Entries.restore, Entries.pruned]
  | (key, v) :: rest, hnamed, before, hfresh => by
      rw [Entries.Named] at hnamed
      obtain ⟨hname, hnew, hv, hrest⟩ := hnamed
      have hkey : key ∉ before.map Prod.fst := hfresh key (by simp)
      rw [Entries.positions, Entries.restore_append, Value.restore_positions hv hname hkey,
        Entries.restore_positions hrest, Entries.pruned]
      · split <;> simp
      · intro other hother
        have hold : other ∉ before.map Prod.fst := hfresh other (List.mem_cons_of_mem key hother)
        have hne : other ≠ key := by
          rintro rfl
          exact hnew hother
        rw [List.map_append, List.mem_append, not_or]
        refine ⟨hold, ?_⟩
        split
        next => simpa using hne
        next => simp

end

namespace Row

/-- The row takes a value as it is to where it was. -/
def IsIdentity (row : Row) : Prop := row.target = row.source ∧ row.transformName? = none

theorem IsIdentity.valueOf_eq [Limits] {row : Row} (hidentity : row.IsIdentity)
    (scope : TransformScope)
    (v : Value) : row.valueOf scope v = v := by
  rw [valueOf, hidentity.2]
  rfl

theorem IsIdentity.failure?_eq_none [Limits] {row : Row} (hidentity : row.IsIdentity)
    (scope : TransformScope) (v : Value) : row.failure? scope v = none := by
  rw [failure?, hidentity.2]
  rfl

theorem IsIdentity.outcome_eq [Limits] {row : Row} (hidentity : row.IsIdentity)
    {scope : TransformScope}
    {payload v : Value} (hfind : Path.find payload row.source = .ok (some v))
    (hshallow : v.tooDeepToCopy = false) : Mapping.outcome scope payload row = .ok
    (.taken v []) := by
  have hname := hidentity.2
  rw [transformName?, Text.filter_nonempty_eq] at hname
  have hempty : (row.transformation.getD "").isEmpty = true := by
    by_contra hsome
    simp [hsome] at hname
  simp [Mapping.outcome, Mapping.transformed, hfind, hempty, hshallow]

end Row

namespace Mapping

variable [Limits]

variable {scope : TransformScope} {payload : Entries} {table : List Row}

/-- A row for a leaf path finds the leaf. -/
theorem find_leaf (hnamed : Entries.Named payload)
    (hshallow : ∀ place ∈ Entries.positions payload, place.2.tooDeepToCopy = false)
    (hsources : table.map Row.source = Path.leaves payload "") :
    ∀ row ∈ table, ∃ leaf,
      Path.find (.dict payload) row.source = .ok (some leaf) ∧ leaf.tooDeepToCopy = false := by
  intro row hrow
  have hleaf : row.source ∈ table.map Row.source := List.mem_map_of_mem hrow
  rw [hsources, Path.leaves_eq_map_dotted] at hleaf
  obtain ⟨place, hplace, hdotted⟩ := List.mem_map.1 hleaf
  exact ⟨place.2, hdotted ▸ hnamed.find_dotted hplace, hshallow place hplace⟩

theorem shallow_of_identity (hidentity : ∀ row ∈ table, row.IsIdentity)
    (hfind : ∀ row ∈ table, ∃ leaf,
      Path.find (.dict payload) row.source = .ok (some leaf) ∧ leaf.tooDeepToCopy = false) :
    Shallow scope (.dict payload) table := by
  intro row hrow v hv
  obtain ⟨leaf, hleaf, hcopied⟩ := hfind row hrow
  rw [hv, Except.ok.injEq, Option.some.injEq] at hleaf
  rw [(hidentity row hrow).valueOf_eq, hleaf, hcopied]

/-- Rows that take leaves to where they were put them back. -/
theorem replay_identity (hnamed : Entries.Named payload)
    {places : List (List Scalar × Value)}
    (hsources : table.map Row.source = places.map (Path.dotted ·.1))
    (hidentity : ∀ row ∈ table, row.IsIdentity)
    (hplaces : ∀ place ∈ places, place ∈ Entries.positions payload ∧ place.2.tooDeepToCopy = false)
    (data : Entries) :
    replay (writes scope (.dict payload) table) data = Entries.restore places data := by
  induction table generalizing places data with
  | nil =>
      cases places with
      | nil => rfl
      | cons place others => cases hsources
  | cons row rest ih =>
      cases places with
      | nil => cases hsources
      | cons place others =>
          rw [List.map_cons, List.map_cons, List.cons.injEq] at hsources
          obtain ⟨hsource, hothers⟩ := hsources
          obtain ⟨hrow, hrest⟩ := List.forall_mem_cons.1 hidentity
          obtain ⟨⟨hmem, hcopied⟩, hleft⟩ := List.forall_mem_cons.1 hplaces
          have hfind : Path.find (.dict payload) row.source = .ok (some place.2) := by
            rw [hsource]
            exact hnamed.find_dotted hmem
          have hwrite : row.write? scope (.dict payload) = some ⟨row, place.2⟩ :=
            Row.write?_eq_some_iff.2 ⟨place.2, hfind, by rw [hrow.valueOf_eq, hcopied],
              by rw [hrow.valueOf_eq]⟩
          have hput : Path.put data row.target place.2 =
              Path.putAt place.2 (place.1.map Scalar.plain) data := by
            rw [Path.put, hrow.1, hsource,
              Path.segments_dotted (hnamed.of_mem_positions hmem).1]
          rw [writes_cons, hwrite, replay_append, Entries.restore_cons, ← hput]
          exact ih hothers hrest hleft _

end Mapping

/-- The identity table over the leaf paths of a payload loses nothing: it gives the payload again,
keys in their order, without the parts that hold no leaf; it drops nothing, warns of nothing, and
tells of one row for each leaf. -/
theorem identity_table_lossless [Limits] {scope : TransformScope} {table : List Row}
    {payload : Entries}
    (hnamed : Entries.Named payload)
    (hshallow : ∀ place ∈ Entries.positions payload, place.2.tooDeepToCopy = false)
    (hsources : table.map Row.source = Path.leaves payload "")
    (hidentity : ∀ row ∈ table, row.IsIdentity) :
    Mapping.apply scope table (.dict payload) =
      .ok { data := Entries.pruned payload, dropped := [], applied := table.map Row.applied,
            warnings := [] } := by
  have hfind := Mapping.find_leaf hnamed hshallow hsources
  have hfound : ∀ row ∈ table, ∃ leaf, row.found? (.dict payload) = some leaf := by
    intro row hrow
    obtain ⟨leaf, hleaf, _⟩ := hfind row hrow
    exact ⟨leaf, Row.found?_eq_some_iff.2 hleaf⟩
  have hcopied : Mapping.Shallow scope (.dict payload) table :=
    Mapping.shallow_of_identity hidentity hfind
  obtain ⟨mapped, happly⟩ : ∃ mapped, Mapping.apply scope table (.dict payload) = .ok mapped := by
    apply Mapping.apply_ok
    intro row hrow
    obtain ⟨leaf, hleaf, hleafCopied⟩ := hfind row hrow
    exact ⟨_, (hidentity row hrow).outcome_eq hleaf hleafCopied⟩
  have hrows : (Mapping.writes scope (.dict payload) table).map Write.row = table := by
    rw [Mapping.map_row_writes_of_shallow hcopied, List.filter_eq_self]
    intro row hrow
    obtain ⟨leaf, hleaf⟩ := hfound row hrow
    rw [hleaf, Option.isSome_some]
  have hdata : Mapping.replay (Mapping.writes scope (.dict payload) table) [] =
      Entries.pruned payload := by
    rw [Mapping.replay_identity hnamed (hsources.trans (Path.leaves_eq_map_dotted payload))
      hidentity (fun place hplace => ⟨hplace, hshallow place hplace⟩),
      Entries.restore_positions hnamed (by simp), List.nil_append]
  have happlied : (Mapping.writes scope (.dict payload) table).map Write.applied =
      table.map Row.applied := by
    conv_rhs => rw [← hrows, List.map_map]
    rfl
  have hwarnings : table.flatMap (Row.warnings scope (.dict payload)) = [] := by
    rw [Mapping.warnings_of_shallow hcopied, List.filterMap_eq_nil_iff]
    intro row hrow
    obtain ⟨leaf, hleaf⟩ := hfound row hrow
    rw [Row.warning?, hleaf]
    exact (hidentity row hrow).failure?_eq_none scope leaf
  rw [happly, Mapping.apply_eq happly]
  simp only [Value.entries_dict, hdata, happlied, hwarnings, Except.ok.injEq, Mapped.mk.injEq,
    and_true, true_and, List.filter_eq_nil_iff]
  intro path hpath
  have hsource := (Mapping.mem_sources_iff_of_shallow hnamed hcopied hpath).2 (hsources ▸ hpath)
  simpa using hsource

namespace RestoringWitness

local instance : Limits := .standard

def payload : Entries :=
  [(.string "a", .dict [(.string "x", .dict []), (.string "b", .list [.int 1, .dict []])]),
    (.string "e", .dict [(.string "f", .dict [])]), (.string "c", .null)]

def table : List Row := [⟨"a.b", "a.b", none, false, none⟩, ⟨"c", "c", some "", true, none⟩]

theorem identity_table_lossless_with_empty_parts :
    Entries.Named payload ∧ (∀ place ∈ Entries.positions payload, place.2.tooDeepToCopy = false) ∧
      table.map Row.source = Path.leaves payload "" ∧ (∀ row ∈ table, row.IsIdentity) ∧
      Mapping.apply (.bare "custom") table (.dict payload) =
        .ok { data := [(.string "a", .dict [(.string "b", .list [.int 1, .dict []])]),
                (.string "c", .null)],
              dropped := [], applied := [⟨"a.b", "a.b", none⟩, ⟨"c", "c", some ""⟩],
              warnings := [] } := by
  have hnamed : Entries.Named payload := by
    simp [payload, Entries.Named, Value.Named, Scalar.IsName]
  have hshallow : ∀ place ∈ Entries.positions payload, place.2.tooDeepToCopy = false := by decide
  have hsources : table.map Row.source = Path.leaves payload "" := by
    rw [Path.leaves_eq_map_dotted]
    rfl
  have hidentity : ∀ row ∈ table, row.IsIdentity := by
    simp [table, Row.IsIdentity, Row.transformName?, Option.filter]
  exact ⟨hnamed, hshallow, hsources, hidentity,
    identity_table_lossless hnamed hshallow hsources hidentity⟩

end RestoringWitness

end EventIntake
