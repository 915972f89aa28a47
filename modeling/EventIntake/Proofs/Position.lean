/-
Positions in values: the keys of the dictionaries on the way down.  A leaf position ends in
something other than a dictionary, and the leaf positions of a dictionary are enumerated in the
order of its keys.
-/
import EventIntake.Path

namespace EventIntake

/-- The entries hold a value under a key.  Of several entries with one key only the first
counts. -/
inductive Entries.Holds (key : Scalar) (v : Value) : Entries → Prop
  | here (rest : Entries) : Holds key v ((key, v) :: rest)
  | there {other : Scalar} {w : Value} {rest : Entries}
      (hother : other.same key = false) (hrest : Holds key v rest) :
      Holds key v ((other, w) :: rest)

namespace Entries

theorem not_holds_nil {key : Scalar} {v : Value} : ¬ Holds key v [] := by
  intro hholds
  cases hholds

theorem holds_cons_iff {key other : Scalar} {v w : Value} {rest : Entries} :
    Holds key v ((other, w) :: rest) ↔
      (other = key ∧ w = v) ∨ (other.same key = false ∧ Holds key v rest) := by
  constructor
  · intro hholds
    cases hholds with
    | here => exact Or.inl ⟨rfl, rfl⟩
    | there hother hrest => exact Or.inr ⟨hother, hrest⟩
  · rintro (⟨rfl, rfl⟩ | ⟨hother, hrest⟩)
    · exact .here rest
    · exact .there hother hrest

/-- Under a text the entries hold what looking it up gives. -/
theorem holds_string_iff {name : String} {v : Value} {entries : Entries} :
    Holds (.string name) v entries ↔ get? (.string name) entries = some v := by
  induction entries with
  | nil => simp [not_holds_nil, get?]
  | cons entry rest ih =>
      obtain ⟨key, w⟩ := entry
      rw [holds_cons_iff, ih, get?, Scalar.same_string]
      by_cases hkey : key = .string name <;> simp [hkey]

/-- Inserting under a text changes what is held under that text and nothing else. -/
theorem holds_insert_iff {key : Scalar} {name : String} {v w : Value} {entries : Entries} :
    Holds key w (insert (.string name) v entries) ↔
      if key = .string name then w = v else Holds key w entries := by
  split
  next hkey =>
    rw [hkey, holds_string_iff, get?_insert_self, Option.some.injEq, eq_comm]
  next hkey =>
    have hne : ¬ Scalar.string name = key := Ne.symm hkey
    induction entries with
    | nil => simp [insert, holds_cons_iff, hne, not_holds_nil]
    | cons entry rest ih =>
        obtain ⟨other, u⟩ := entry
        rw [insert, Scalar.same_string]
        by_cases hother : other = .string name
        · simp [hother, holds_cons_iff, hne]
        · simp [hother, holds_cons_iff, ih]

end Entries

theorem Entries.Holds.mem_keys {key : Scalar} {v : Value} {entries : Entries}
    (hholds : Entries.Holds key v entries) : key ∈ entries.map Prod.fst := by
  induction hholds with
  | here => exact List.mem_cons_self
  | there _ _ ih => exact List.mem_cons_of_mem _ ih

/-- The keys lead from a value down to another one, through dictionaries only. -/
inductive Value.Reaches : Value → List Scalar → Value → Prop
  | here (v : Value) : Reaches v [] v
  | under {entries : Entries} {key : Scalar} {v leaf : Value} {keys : List Scalar}
      (hholds : Entries.Holds key v entries) (hreach : Reaches v keys leaf) :
      Reaches (.dict entries) (key :: keys) leaf

namespace Value

theorem reaches_nil_iff {v w : Value} : Reaches v [] w ↔ v = w := by
  constructor
  · intro hreach
    cases hreach
    rfl
  · rintro rfl
    exact .here v

theorem reaches_cons_iff {entries : Entries} {key : Scalar} {keys : List Scalar} {w : Value} :
    Reaches (.dict entries) (key :: keys) w ↔
      ∃ v, Entries.Holds key v entries ∧ Reaches v keys w := by
  constructor
  · intro hreach
    cases hreach with
    | under hholds hreach => exact ⟨_, hholds, hreach⟩
  · rintro ⟨v, hholds, hreach⟩
    exact .under hholds hreach

/-- Keys that begin with an inserted one lead into the inserted value, and others where they led
before. -/
theorem reaches_insert_iff {name : String} {key : Scalar} {v w : Value} {keys : List Scalar}
    {entries : Entries} :
    Reaches (.dict (Entries.insert (.string name) v entries)) (key :: keys) w ↔
      if key = .string name then Reaches v keys w else Reaches (.dict entries) (key :: keys) w := by
  simp only [reaches_cons_iff, Entries.holds_insert_iff]
  by_cases hkey : key = .string name <;> simp [hkey]

/-- Only a dictionary leads further. -/
theorem Reaches.exists_entries {v w : Value} {key : Scalar} {keys : List Scalar}
    (hreach : Reaches v (key :: keys) w) : ∃ entries, v = .dict entries := by
  cases hreach
  exact ⟨_, rfl⟩

/-- Texts that lead to a value lead a lookup there. -/
theorem Reaches.follow_eq {v w : Value} {names : List String}
    (hreach : Reaches v (names.map Scalar.string) w) : Path.follow v names = .ok (some w) := by
  induction names generalizing v with
  | nil =>
      rw [List.map_nil, reaches_nil_iff] at hreach
      rw [hreach, Path.follow]
  | cons name rest ih =>
      obtain ⟨entries, rfl⟩ := hreach.exists_entries
      obtain ⟨u, hholds, hreach⟩ := reaches_cons_iff.1 hreach
      rw [Entries.holds_string_iff] at hholds
      simp only [Path.follow, Path.child, hholds]
      exact ih hreach

end Value

/-- The keys are a position of the entries that ends in something other than a dictionary. -/
def Entries.LeafAt (entries : Entries) (keys : List Scalar) (leaf : Value) : Prop :=
  Value.Reaches (.dict entries) keys leaf ∧ leaf.isDict = false

theorem Entries.LeafAt.exists_cons {entries : Entries} {keys : List Scalar} {leaf : Value}
    (hleaf : Entries.LeafAt entries keys leaf) : ∃ key rest, keys = key :: rest := by
  obtain ⟨hreach, hnodict⟩ := hleaf
  cases hreach with
  | here => cases hnodict
  | under => exact ⟨_, _, rfl⟩

/-- Entries are no leaf themselves. -/
theorem Entries.not_leafAt_here {entries : Entries} {leaf : Value} :
    ¬ Entries.LeafAt entries [] leaf := by
  intro hleaf
  obtain ⟨key, rest, hcons⟩ := hleaf.exists_cons
  cases hcons

theorem Entries.leafAt_cons_iff {key first : Scalar} {keys : List Scalar} {v leaf : Value}
    {rest : Entries} :
    Entries.LeafAt ((key, v) :: rest) (first :: keys) leaf ↔
      (key = first ∧ Value.Reaches v keys leaf ∧ leaf.isDict = false) ∨
        (key.same first = false ∧ Entries.LeafAt rest (first :: keys) leaf) := by
  simp only [Entries.LeafAt, Value.reaches_cons_iff, Entries.holds_cons_iff]
  constructor
  · rintro ⟨⟨u, ⟨rfl, rfl⟩ | ⟨hother, hholds⟩, hreach⟩, hnodict⟩
    · exact Or.inl ⟨rfl, hreach, hnodict⟩
    · exact Or.inr ⟨hother, ⟨u, hholds, hreach⟩, hnodict⟩
  · rintro (⟨rfl, hreach, hnodict⟩ | ⟨hother, ⟨u, hholds, hreach⟩, hnodict⟩)
    · exact ⟨⟨v, Or.inl ⟨rfl, rfl⟩, hreach⟩, hnodict⟩
    · exact ⟨⟨u, Or.inr ⟨hother, hholds⟩, hreach⟩, hnodict⟩

theorem Entries.not_leafAt_nil {keys : List Scalar} {leaf : Value} :
    ¬ Entries.LeafAt [] keys leaf := by
  intro hleaf
  obtain ⟨key, rest, rfl⟩ := hleaf.exists_cons
  obtain ⟨_, hholds, _⟩ := Value.reaches_cons_iff.1 hleaf.1
  exact Entries.not_holds_nil hholds

mutual

/-- The leaf positions of a value with what stands there, depth first and in order. -/
def Value.positions : Value → List (List Scalar × Value)
  | .dict entries => Entries.positions entries
  | .list items => [([], .list items)]
  | .scalar s => [([], .scalar s)]

/-- The leaf positions of entries with what stands there, depth first and in order. -/
def Entries.positions : Entries → List (List Scalar × Value)
  | [] => []
  | (key, v) :: rest =>
    v.positions.map (fun (keys, leaf) => (key :: keys, leaf)) ++ Entries.positions rest

end

theorem Value.positions_of_isDict_false {v : Value} (hleaf : v.isDict = false) :
    v.positions = [([], v)] := by
  cases v with
  | dict entries => simp [Value.isDict] at hleaf
  | list items => rw [Value.positions]
  | scalar s => rw [Value.positions]

/-- An enumerated position of entries has a key. -/
theorem Entries.ne_nil_of_mem_positions {entries : Entries} {keys : List Scalar} {leaf : Value}
    (hmem : (keys, leaf) ∈ Entries.positions entries) : keys ≠ [] := by
  induction entries with
  | nil => simp [Entries.positions] at hmem
  | cons entry rest ih =>
      obtain ⟨key, v⟩ := entry
      rw [Entries.positions, List.mem_append] at hmem
      rcases hmem with hmem | hmem
      · obtain ⟨place, _, heq⟩ := List.mem_map.1 hmem
        cases heq
        exact List.cons_ne_nil key place.1
      · exact ih hmem

/-- A value under a key brings all its leaf positions, with the key in front. -/
theorem Entries.Holds.mem_positions {key : Scalar} {v leaf : Value} {keys : List Scalar}
    {entries : Entries} (hholds : Entries.Holds key v entries)
    (hmem : (keys, leaf) ∈ v.positions) :
    (key :: keys, leaf) ∈ Entries.positions entries := by
  induction hholds with
  | here rest =>
      rw [Entries.positions, List.mem_append]
      exact Or.inl (List.mem_map.2 ⟨(keys, leaf), hmem, rfl⟩)
  | there _ _ ih =>
      rw [Entries.positions, List.mem_append]
      exact Or.inr ih

/-- Every leaf that keys lead to is enumerated. -/
theorem Value.Reaches.mem_positions {v leaf : Value} {keys : List Scalar}
    (hreach : Value.Reaches v keys leaf) (hleaf : leaf.isDict = false) :
    (keys, leaf) ∈ v.positions := by
  induction hreach with
  | here v =>
      rw [Value.positions_of_isDict_false hleaf]
      exact List.mem_singleton.2 rfl
  | under hholds _ ih =>
      rw [Value.positions]
      exact hholds.mem_positions (ih hleaf)

theorem Entries.LeafAt.mem_positions {entries : Entries} {keys : List Scalar} {leaf : Value}
    (hleaf : Entries.LeafAt entries keys leaf) : (keys, leaf) ∈ Entries.positions entries := by
  have hmem := hleaf.1.mem_positions hleaf.2
  rwa [Value.positions] at hmem

end EventIntake
