/-
Values put at positions of a dictionary.  A put value stands where it was put, and what stands
beside it stays where it was; every leaf of the outcome is one of these two kinds.
-/
import EventIntake.Proofs.Dotted

namespace EventIntake

namespace Entries

theorem insert_insert (name : String) (v w : Value) (entries : Entries) :
    insert (.string name) v (insert (.string name) w entries) =
      insert (.string name) v entries := by
  induction entries with
  | nil => simp [insert, Scalar.same_string]
  | cons entry rest ih =>
      obtain ⟨key, u⟩ := entry
      by_cases hkey : key = .string name
      · simp [insert, Scalar.same_string, hkey]
      · simp [insert, Scalar.same_string, hkey, ih]

/-- A new key comes last. -/
theorem insert_of_not_mem {name : Scalar} {v : Value} {entries : Entries}
    (hname : name.isText = true) (hfresh : name ∉ entries.map Prod.fst) :
    insert name v entries = entries ++ [(name, v)] := by
  induction entries with
  | nil => rfl
  | cons entry rest ih =>
      obtain ⟨key, u⟩ := entry
      simp only [List.map_cons, List.mem_cons, not_or] at hfresh
      have hkey : ¬ key = name := Ne.symm hfresh.1
      simp [insert, key.same_text hname, hkey, ih hfresh.2]

end Entries

namespace Path

/-- One of two rows of keys begins with the other. -/
def Related (left right : List Scalar) : Prop := left <+: right ∨ right <+: left

instance (left right : List Scalar) : Decidable (Related left right) :=
  inferInstanceAs (Decidable (left <+: right ∨ right <+: left))

/-- The keys that the segments of a path stand for. -/
def keys (path : String) : List Scalar := (segments path).map Scalar.string

theorem Related.refl (keys : List Scalar) : Related keys keys := Or.inl List.prefix_rfl

theorem related_nil (keys : List Scalar) : Related keys [] := Or.inr List.nil_prefix

theorem related_cons_iff {left right : List Scalar} {key : Scalar} :
    Related (key :: left) (key :: right) ↔ Related left right := by
  simp only [Related, List.cons_prefix_cons, true_and]

theorem below_eq_of_holds {key : String} {inner entries : Entries}
    (hholds : Entries.Holds (.string key) (.dict inner) entries) :
    below key entries = inner := by
  rw [Entries.holds_string_iff] at hholds
  rw [below, hholds]

theorem below_of_not_mem {key : String} {entries : Entries}
    (hfresh : Scalar.string key ∉ entries.map Prod.fst) : below key entries = [] := by
  cases hget : Entries.get? (.string key) entries with
  | none => rw [below, hget]
  | some v => exact absurd (Entries.holds_string_iff.2 hget).mem_keys hfresh

theorem below_insert (key : String) (inner entries : Entries) :
    below key (Entries.insert (.string key) (.dict inner) entries) = inner :=
  below_eq_of_holds (Entries.holds_insert_iff.2 (by simp))

/-- Putting below a key puts in what is below it. -/
theorem putAt_cons {v : Value} {key : String} {names : List String} (hne : names ≠ [])
    (entries : Entries) :
    putAt v (key :: names) entries =
      Entries.insert (.string key) (.dict (putAt v names (below key entries))) entries := by
  cases names with
  | nil => exact absurd rfl hne
  | cons next rest => rw [putAt]

/-- A put along a key changes what is under this key alone, and goes by what is below it. -/
theorem exists_putAt_eq_insert (v : Value) (key : String) (names : List String) :
    ∃ value : Entries → Value, ∀ entries, putAt v (key :: names) entries =
      Entries.insert (.string key) (value (below key entries)) entries := by
  cases names with
  | nil => exact ⟨fun _ => v, fun _ => rfl⟩
  | cons next rest => exact ⟨fun inner => .dict (putAt v (next :: rest) inner), fun _ => rfl⟩

/-- A put value brings what is below it. -/
theorem reaches_putAt_append {v w : Value} {names : List String} {rest : List Scalar}
    (hne : names ≠ []) (hreach : Value.Reaches v rest w) (entries : Entries) :
    Value.Reaches (.dict (putAt v names entries)) (names.map Scalar.string ++ rest) w := by
  fun_induction putAt v names entries with
  | case1 entries => exact absurd rfl hne
  | case2 name entries =>
      rw [List.map_cons, List.cons_append, Value.reaches_insert_iff, if_pos rfl]
      exact hreach
  | case3 name next tail entries ih =>
      rw [List.map_cons, List.cons_append, Value.reaches_insert_iff, if_pos rfl]
      exact ih (List.cons_ne_nil next tail)

/-- What is put is found where it was put. -/
theorem follow_putAt_self {v : Value} {names : List String} (hne : names ≠ [])
    (entries : Entries) : follow (.dict (putAt v names entries)) names = .ok (some v) := by
  have hput := reaches_putAt_append hne (.here v) entries
  rw [List.append_nil] at hput
  exact hput.follow_eq

/-- Keys that go on below a key lead from what is below it; where there is no dictionary, both lead
nowhere. -/
theorem reaches_below_iff {key : String} {entries : Entries} {keys : List Scalar} {w : Value}
    (hne : keys ≠ []) :
    Value.Reaches (.dict (below key entries)) keys w ↔
      Value.Reaches (.dict entries) (.string key :: keys) w := by
  obtain ⟨inner, rest, rfl⟩ := List.exists_cons_of_ne_nil hne
  simp only [@Value.reaches_cons_iff entries, Entries.holds_string_iff]
  unfold below
  split
  next below hget => simp [hget]
  next hnodict =>
    constructor
    · intro hreach
      obtain ⟨_, hholds, _⟩ := Value.reaches_cons_iff.1 hreach
      exact absurd hholds Entries.not_holds_nil
    · rintro ⟨v, hget, hreach⟩
      obtain ⟨entries', rfl⟩ := hreach.exists_entries
      exact absurd hget (hnodict entries')

/-- A put value changes nothing beside it. -/
theorem reaches_putAt_iff_of_not_related {v w : Value} {names : List String} {keys : List Scalar}
    {entries : Entries} (hfree : ¬ Related (names.map Scalar.string) keys) :
    Value.Reaches (.dict (putAt v names entries)) keys w ↔
      Value.Reaches (.dict entries) keys w := by
  obtain ⟨key, keys, rfl⟩ := List.exists_cons_of_ne_nil fun hnil : keys = [] =>
    hfree (hnil ▸ related_nil _)
  fun_induction putAt v names entries generalizing key keys with
  | case1 entries => exact Iff.rfl
  | case2 name entries =>
      have hkey : key ≠ .string name := by
        rintro rfl
        exact hfree (Or.inl (List.prefix_append [_] keys))
      rw [Value.reaches_insert_iff, if_neg hkey]
  | case3 name next tail entries ih =>
      rw [Value.reaches_insert_iff]
      split
      next hkey =>
        subst hkey
        rw [List.map_cons, related_cons_iff] at hfree
        have hne : keys ≠ [] := fun hnil => hfree (hnil ▸ related_nil _)
        obtain ⟨inner, rest, rfl⟩ := List.exists_cons_of_ne_nil hne
        rw [ih inner rest hfree, reaches_below_iff hne]
      next => exact Iff.rfl

/-- A leaf after a put stands below the put value, or it was there before and not below. -/
theorem leafAt_of_putAt {v leaf : Value} {names : List String} {keys : List Scalar}
    {entries : Entries} (hne : names ≠ [])
    (hleaf : Entries.LeafAt (putAt v names entries) keys leaf) :
    (∃ rest, keys = names.map Scalar.string ++ rest ∧ Value.Reaches v rest leaf) ∨
      (¬ names.map Scalar.string <+: keys ∧ Entries.LeafAt entries keys leaf) := by
  fun_induction putAt v names entries generalizing keys with
  | case1 entries => exact absurd rfl hne
  | case2 name entries =>
      obtain ⟨key, keys, rfl⟩ := hleaf.exists_cons
      obtain ⟨hreach, hnodict⟩ := hleaf
      rw [Value.reaches_insert_iff] at hreach
      split at hreach
      next hkey =>
        subst hkey
        exact Or.inl ⟨keys, rfl, hreach⟩
      next hkey =>
        refine Or.inr ⟨?_, hreach, hnodict⟩
        rw [List.map_cons, List.cons_prefix_cons]
        exact fun hprefix => hkey hprefix.1.symm
  | case3 name next tail entries ih =>
      obtain ⟨key, keys, rfl⟩ := hleaf.exists_cons
      obtain ⟨hreach, hnodict⟩ := hleaf
      rw [Value.reaches_insert_iff] at hreach
      rw [List.map_cons, List.cons_prefix_cons]
      split at hreach
      next hkey =>
        subst hkey
        rcases ih (List.cons_ne_nil next tail) ⟨hreach, hnodict⟩ with
          ⟨rest, rfl, hput⟩ | ⟨hfree, hbelow⟩
        · exact Or.inl ⟨rest, rfl, hput⟩
        · obtain ⟨inner, rest, rfl⟩ := hbelow.exists_cons
          exact Or.inr ⟨fun hprefix => hfree hprefix.2,
            (reaches_below_iff (List.cons_ne_nil inner rest)).1 hbelow.1, hnodict⟩
      next hkey =>
        exact Or.inr ⟨fun hprefix => hkey hprefix.1.symm, hreach, hnodict⟩

end Path

end EventIntake
