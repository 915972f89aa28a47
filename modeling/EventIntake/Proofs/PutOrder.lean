/-
The order of puts.  A put at the path of an earlier one or above it leaves nothing of it, not even
the place of a key.  Puts whose paths part give the same entries in either order, up to the order of
keys, and so do neighbouring rows of a table whose targets part.
-/
import EventIntake.Proofs.Rows

namespace EventIntake

/-- What is not the same key as a text is another key than the text. -/
theorem Scalar.ne_string_of_same_eq_false {key other : Scalar} {name : String}
    (hother : other.same key = false) (hkey : key = .string name) : other ≠ .string name := by
  rwa [hkey, Scalar.same_string, decide_eq_false_iff_not] at hother

namespace Entries

/-- The same entries, with keys in another order in dictionaries at any level. -/
inductive Reordered : Entries → Entries → Prop
  | refl (entries : Entries) : Reordered entries entries
  | swap {key other : Scalar} (hkey : key.same other = false) (hother : other.same key = false)
      (v w : Value) (rest : Entries) :
      Reordered ((key, v) :: (other, w) :: rest) ((other, w) :: (key, v) :: rest)
  | cons (entry : Scalar × Value) {before after : Entries} (hrest : Reordered before after) :
      Reordered (entry :: before) (entry :: after)
  | inside (key : Scalar) {before after : Entries} (hinner : Reordered before after)
      (rest : Entries) : Reordered ((key, .dict before) :: rest) ((key, .dict after) :: rest)
  | trans {first second third : Entries} (hfirst : Reordered first second)
      (hsecond : Reordered second third) : Reordered first third

/-- The order of keys does not matter for where leaves stand. -/
theorem Reordered.leafAt_iff {before after : Entries} (hsame : Reordered before after)
    {keys : List Scalar} {leaf : Value} : LeafAt before keys leaf ↔ LeafAt after keys leaf := by
  induction hsame generalizing keys with
  | refl => exact Iff.rfl
  | trans _ _ ihfirst ihsecond => exact ihfirst.trans ihsecond
  | swap hkey hother v w rest =>
      cases keys with
      | nil => exact iff_of_false not_leafAt_here not_leafAt_here
      | cons first keys =>
          simp only [leafAt_cons_iff]
          grind
  | cons entry _ ih =>
      cases keys with
      | nil => exact iff_of_false not_leafAt_here not_leafAt_here
      | cons first keys => rw [leafAt_cons_iff, leafAt_cons_iff, ih]
  | @inside key before after _ rest ih =>
      cases keys with
      | nil => exact iff_of_false not_leafAt_here not_leafAt_here
      | cons first keys =>
          have hinner : (Value.Reaches (.dict before) keys leaf ∧ leaf.isDict = false) ↔
              (Value.Reaches (.dict after) keys leaf ∧ leaf.isDict = false) := ih
          rw [leafAt_cons_iff, leafAt_cons_iff, hinner]

theorem insert_cons (name : String) (v u : Value) (key : Scalar) (rest : Entries) :
    insert (.string name) v ((key, u) :: rest) =
      if key = .string name then (key, v) :: rest
      else (key, u) :: insert (.string name) v rest := by
  simp only [insert, Scalar.same_string, decide_eq_true_eq]

/-- Inserts under different keys can be exchanged.  Only if both keys are new, the order of keys
shows which was first. -/
theorem insert_comm {name other : String} (hne : name ≠ other) (v w : Value) (entries : Entries) :
    Reordered (insert (.string other) w (insert (.string name) v entries))
      (insert (.string name) v (insert (.string other) w entries)) := by
  have hfirst : Scalar.string name ≠ .string other := by simpa using hne
  have hsecond : Scalar.string other ≠ .string name := Ne.symm hfirst
  induction entries with
  | nil =>
      have hkey : (Scalar.string name).same (.string other) = false := by
        rw [Scalar.same_string, decide_eq_false hfirst]
      have hother : (Scalar.string other).same (.string name) = false := by
        rw [Scalar.same_string, decide_eq_false hsecond]
      simp only [insert, hkey, hother]
      exact .swap hkey hother v w []
  | cons entry rest ih =>
      obtain ⟨key, u⟩ := entry
      by_cases hkey : key = .string name
      · simp only [insert_cons, hkey, hfirst, ↓reduceIte]
        exact .refl _
      · by_cases hother : key = .string other
        · simp only [insert_cons, hother, hsecond, ↓reduceIte]
          exact .refl _
        · simp only [insert_cons, hkey, hother, ↓reduceIte]
          exact .cons _ ih

end Entries

theorem Path.below_insert_of_ne {name other : String} (hne : other ≠ name) (v : Value)
    (entries : Entries) :
    Path.below other (Entries.insert (.string name) v entries) = Path.below other entries := by
  rw [Path.below, Entries.get?_insert_of_ne hne, Path.below]

theorem Path.below_cons (name : String) (key : Scalar) (u : Value) (rest : Entries) :
    Path.below name ((key, u) :: rest) =
      if key = .string name then u.entries else Path.below name rest := by
  simp only [Path.below, Entries.get?, Scalar.same_string, decide_eq_true_eq]
  split_ifs with hkey
  · cases u <;> rfl
  · rfl

section Congruence

open Entries (Reordered)

variable {before after : Entries}

theorem Entries.Reordered.insert (hsame : Reordered before after) (name : String) (v : Value) :
    Reordered (Entries.insert (.string name) v before)
      (Entries.insert (.string name) v after) := by
  induction hsame with
  | refl => exact .refl _
  | trans _ _ ihfirst ihsecond => exact ihfirst.trans ihsecond
  | @swap key other hkey hother u w rest =>
      simp only [Entries.insert_cons]
      by_cases hfirst : key = .string name
      · have hsecond := Scalar.ne_string_of_same_eq_false hother hfirst
        rw [if_pos hfirst, if_neg hsecond, if_pos hfirst]
        exact .swap hkey hother v w rest
      · rw [if_neg hfirst, if_neg hfirst]
        split
        next => exact .swap hkey hother u v rest
        next => exact .swap hkey hother u w _
  | cons entry hrest ih =>
      obtain ⟨key, u⟩ := entry
      rw [Entries.insert_cons, Entries.insert_cons]
      split
      next => exact .cons (key, v) hrest
      next => exact .cons (key, u) ih
  | inside key hinner rest ih =>
      rw [Entries.insert_cons, Entries.insert_cons]
      split
      next => exact .refl _
      next => exact .inside key hinner _

/-- What is inserted may be reordered itself. -/
theorem Entries.Reordered.insert_dict (hinner : Reordered before after) (name : String)
    (entries : Entries) :
    Reordered (Entries.insert (.string name) (.dict before) entries)
      (Entries.insert (.string name) (.dict after) entries) := by
  induction entries with
  | nil => exact .inside _ hinner []
  | cons entry rest ih =>
      obtain ⟨key, u⟩ := entry
      rw [Entries.insert_cons, Entries.insert_cons]
      split
      next => exact .inside key hinner rest
      next => exact .cons (key, u) ih

/-- What is below a key is reordered with the entries. -/
theorem Path.reordered_below (hsame : Reordered before after) (name : String) :
    Reordered (Path.below name before) (Path.below name after) := by
  induction hsame with
  | refl => exact .refl _
  | trans _ _ ihfirst ihsecond => exact ihfirst.trans ihsecond
  | @swap key other hkey hother u w rest =>
      simp only [Path.below_cons]
      by_cases hfirst : key = .string name
      · have hsecond := Scalar.ne_string_of_same_eq_false hother hfirst
        rw [if_pos hfirst, if_neg hsecond, if_pos hfirst]
        exact .refl _
      · rw [if_neg hfirst, if_neg hfirst]
        exact .refl _
  | cons entry hrest ih =>
      rw [Path.below_cons, Path.below_cons]
      split
      next => exact .refl _
      next => exact ih
  | inside key hinner rest ih =>
      rw [Path.below_cons, Path.below_cons]
      split
      next => exact hinner
      next => exact .refl _

/-- A put keeps the order of keys as the only difference. -/
theorem Path.reordered_putAt (hsame : Reordered before after) (v : Value) (names : List String) :
    Reordered (Path.putAt v names before) (Path.putAt v names after) := by
  induction names generalizing before after with
  | nil => exact hsame
  | cons name rest ih =>
      by_cases hlast : rest = []
      · subst hlast
        exact hsame.insert name v
      · rw [Path.putAt_cons hlast, Path.putAt_cons hlast]
        have hbelow := ih (Path.reordered_below hsame name)
        exact (hbelow.insert_dict name before).trans (hsame.insert name _)

end Congruence

namespace Path

open Entries (Reordered)

/-- Of two rows of names that part, each goes on in its own way from some name on. -/
theorem exists_parting {left right : List String} (hleft : ¬ left <+: right)
    (hright : ¬ right <+: left) :
    ∃ shared name next rest tail,
      left = shared ++ name :: rest ∧ right = shared ++ next :: tail ∧ name ≠ next := by
  induction left generalizing right with
  | nil => exact absurd List.nil_prefix hleft
  | cons name rest ih =>
      cases right with
      | nil => exact absurd List.nil_prefix hright
      | cons next tail =>
          rw [List.cons_prefix_cons, not_and] at hleft hright
          by_cases hsame : name = next
          · subst hsame
            obtain ⟨shared, first, second, others, more, rfl, rfl, hne⟩ :=
              ih (hleft rfl) (hright rfl)
            exact ⟨name :: shared, first, second, others, more, rfl, rfl, hne⟩
          · exact ⟨[], name, next, rest, tail, rfl, rfl, hsame⟩

variable {v w : Value}

/-- Puts at paths that part can be exchanged. -/
theorem putAt_comm {left right : List String} (hleft : ¬ left <+: right)
    (hright : ¬ right <+: left) (entries : Entries) :
    Reordered (putAt w right (putAt v left entries)) (putAt v left (putAt w right entries)) := by
  obtain ⟨shared, name, next, rest, tail, rfl, rfl, hne⟩ := exists_parting hleft hright
  clear hleft hright
  induction shared generalizing entries with
  | nil =>
      obtain ⟨first, hfirst⟩ := exists_putAt_eq_insert v name rest
      obtain ⟨second, hsecond⟩ := exists_putAt_eq_insert w next tail
      simp only [List.nil_append, hfirst, hsecond, below_insert_of_ne hne,
        below_insert_of_ne (Ne.symm hne)]
      exact Entries.insert_comm hne _ _ entries
  | cons key others ih =>
      -- Both puts replace what is under the key; what they put there differs by the hypothesis.
      have hfirst : others ++ name :: rest ≠ [] := by simp
      have hsecond : others ++ next :: tail ≠ [] := by simp
      simp only [List.cons_append, putAt_cons hfirst, putAt_cons hsecond, below_insert,
        Entries.insert_insert]
      exact (ih (below key entries)).insert_dict key entries

/-- A put at the path of an earlier one or above it leaves nothing of the earlier one. -/
theorem putAt_absorb {above names : List String} (hne : above ≠ []) (habove : above <+: names)
    (entries : Entries) :
    putAt w above (putAt v names entries) = putAt w above entries := by
  obtain ⟨rest, rfl⟩ := habove
  induction above generalizing entries with
  | nil => exact absurd rfl hne
  | cons name others ih =>
      by_cases hlast : others = []
      · subst hlast
        obtain ⟨value, hvalue⟩ := exists_putAt_eq_insert v name rest
        rw [List.singleton_append, hvalue, putAt, putAt, Entries.insert_insert]
      · have hmore : others ++ rest ≠ [] := by simp [hlast]
        rw [List.cons_append, putAt_cons hlast, putAt_cons hmore, putAt_cons hlast, below_insert,
          ih hlast, Entries.insert_insert]

end Path

namespace Mapping

open Entries (Reordered)

variable {scope : TransformScope} {row next : Row}

theorem reordered_replay {before after : Entries} (hsame : Reordered before after)
    (writes : List Write) : Reordered (replay writes before) (replay writes after) := by
  induction writes generalizing before after with
  | nil => exact hsame
  | cons write rest ih =>
      exact ih (Path.reordered_putAt hsame write.value (Path.segments write.row.target))

variable [Limits]

/-- What two rows write at targets that part can be written in either order. -/
theorem replay_comm {payload : Value}
    (hrow : ¬ Path.segments row.target <+: Path.segments next.target)
    (hnext : ¬ Path.segments next.target <+: Path.segments row.target) (data : Entries) :
    Reordered
      (replay (next.write? scope payload).toList (replay (row.write? scope payload).toList data))
      (replay (row.write? scope payload).toList
        (replay (next.write? scope payload).toList data)) := by
  cases hfirst : row.write? scope payload with
  | none => exact .refl _
  | some first =>
      cases hsecond : next.write? scope payload with
      | none => exact .refl _
      | some second =>
          obtain ⟨v, _, _, rfl⟩ := Row.write?_eq_some_iff.1 hfirst
          obtain ⟨w, _, _, rfl⟩ := Row.write?_eq_some_iff.1 hsecond
          exact Path.putAt_comm hrow hnext data

/-- Neighbouring rows whose targets part can be exchanged. -/
theorem apply_exchanged {source : Value} {before after : List Row} {mapped : Mapped}
    (hrow : ¬ Path.segments row.target <+: Path.segments next.target)
    (hnext : ¬ Path.segments next.target <+: Path.segments row.target)
    (happly : apply scope (before ++ row :: next :: after) source = .ok mapped) :
    ∃ exchanged, apply scope (before ++ next :: row :: after) source = .ok exchanged ∧
      Reordered mapped.data exchanged.data := by
  have hperm : (before ++ next :: row :: after).Perm (before ++ row :: next :: after) :=
    (List.Perm.swap row next after).append_left before
  obtain ⟨exchanged, hexchanged⟩ : ∃ exchanged,
      apply scope (before ++ next :: row :: after) source = .ok exchanged := by
    rw [apply_ok_iff]
    intro other hother
    exact apply_ok_iff.1 ⟨mapped, happly⟩ other (hperm.mem_iff.1 hother)
  refine ⟨exchanged, hexchanged, ?_⟩
  rw [apply_eq happly, apply_eq hexchanged]
  simp only [writes_append, writes_cons, replay_append]
  exact reordered_replay (replay_comm hrow hnext _) _

end Mapping

/-- Two puts.  One at the path of the other or above it gives what it gives alone, keys in the same
order.  If the paths part, both give the same in either order, but for the order of keys.  So
neighbouring rows of a table whose targets part can be exchanged: the table can still be applied,
the data are the same but for the order of keys, and the same leaves stand in the same places. -/
theorem puts_absorb_and_commute [Limits] :
    (∀ (entries : Entries) (path other : String) (v w : Value), Path.segments other ≠ [] →
      Path.segments other <+: Path.segments path →
      Path.put (Path.put entries path v) other w = Path.put entries other w) ∧
    (∀ (entries : Entries) (path other : String) (v w : Value),
      ¬ Path.segments path <+: Path.segments other →
      ¬ Path.segments other <+: Path.segments path →
      Entries.Reordered (Path.put (Path.put entries path v) other w)
        (Path.put (Path.put entries other w) path v)) ∧
    (∀ (scope : TransformScope) (source : Value) (before after : List Row) (row next : Row)
        (mapped : Mapped),
      ¬ Path.segments row.target <+: Path.segments next.target →
      ¬ Path.segments next.target <+: Path.segments row.target →
      Mapping.apply scope (before ++ row :: next :: after) source = .ok mapped →
      ∃ exchanged, Mapping.apply scope (before ++ next :: row :: after) source = .ok exchanged ∧
        Entries.Reordered mapped.data exchanged.data ∧
        ∀ keys leaf, Entries.LeafAt mapped.data keys leaf ↔
          Entries.LeafAt exchanged.data keys leaf) := by
  refine ⟨?_, ?_, ?_⟩
  · intro entries path other v w hne habove
    exact Path.putAt_absorb hne habove entries
  · intro entries path other v w hpath hother
    exact Path.putAt_comm hpath hother entries
  · intro scope source before after row next mapped hrow hnext happly
    obtain ⟨exchanged, hexchanged, hsame⟩ := Mapping.apply_exchanged hrow hnext happly
    exact ⟨exchanged, hexchanged, hsame, fun keys leaf => hsame.leafAt_iff⟩

namespace PutOrderWitness

local instance : Limits := .standard

/-- What is under `t` is no dictionary, so that puts below it make one in its place. -/
def entries : Entries := [(.string "t", .int 5), (.string "z", .null)]

def source : Value := .dict [(.string "a", .int 1), (.string "b", .int 2)]

def base : List Row := [⟨"b", "t", none, false, none⟩]

def row : Row := ⟨"a", "t.x.y", none, false, none⟩

def next : Row := ⟨"b", "t.z", none, false, none⟩

def mapped : Mapped where
  data := [(.string "t",
    .dict [(.string "x", .dict [(.string "y", .int 1)]), (.string "z", .int 2)])]
  dropped := []
  applied := [⟨"b", "t", none⟩, ⟨"a", "t.x.y", none⟩, ⟨"b", "t.z", none⟩]
  warnings := []

theorem apply_eq_mapped :
    Mapping.apply (.bare "custom") (base ++ row :: next :: []) source = .ok mapped := by
  simp only [Mapping.apply, Path.leaves_eq_leavesBelow]
  rfl

theorem puts_absorb_and_commute_over_scalar :
    Path.segments "t.x" ≠ [] ∧ Path.segments "t.x" <+: Path.segments "t.x.y" ∧
      Path.put (Path.put entries "t.x.y" .null) "t.x" (.int 2) = Path.put entries "t.x" (.int 2) ∧
      ¬ Path.segments "t.x.y" <+: Path.segments "t.z" ∧
      ¬ Path.segments "t.z" <+: Path.segments "t.x.y" ∧
      Entries.Reordered (Path.put (Path.put entries "t.x.y" .null) "t.z" (.int 2))
        (Path.put (Path.put entries "t.z" (.int 2)) "t.x.y" .null) ∧
      Mapping.apply (.bare "custom") (base ++ row :: next :: []) source = .ok mapped ∧
      ∃ exchanged,
        Mapping.apply (.bare "custom") (base ++ next :: row :: []) source = .ok exchanged ∧
          Entries.LeafAt exchanged.data [.string "t", .string "x", .string "y"] (.int 1) := by
  have hsome : Path.segments "t.x" ≠ [] := by decide
  have habove : Path.segments "t.x" <+: Path.segments "t.x.y" := by decide
  have hrow : ¬ Path.segments "t.x.y" <+: Path.segments "t.z" := by decide
  have hnext : ¬ Path.segments "t.z" <+: Path.segments "t.x.y" := by decide
  have hleaf : Entries.LeafAt mapped.data [.string "t", .string "x", .string "y"] (.int 1) :=
    ⟨.under (.here _) (.under (.here _) (.under (.here _) (.here _))), rfl⟩
  obtain ⟨habsorb, hcommute, hexchange⟩ := puts_absorb_and_commute
  obtain ⟨exchanged, hexchanged, _, hleaves⟩ :=
    hexchange (.bare "custom") source base [] row next mapped hrow hnext apply_eq_mapped
  exact ⟨hsome, habove, habsorb _ _ _ _ _ hsome habove, hrow, hnext,
    hcommute _ _ _ _ _ hrow hnext, apply_eq_mapped, exchanged, hexchanged,
    (hleaves _ _).1 hleaf⟩

end PutOrderWitness

end EventIntake
