/-
What lookups find after a put.  From its path on they find what there is in the put value, above it
a dictionary, and beside it what they found before.  Only what stood in the way of the put is gone,
with all that there was below it.
-/
import EventIntake.Proofs.Writing

namespace EventIntake

namespace Path

/-- Some of the segments, from the front, lead to something other than a dictionary.  What is put
along the segments takes its place. -/
def Obstructed (entries : Entries) (names : List String) : Prop :=
  ∃ before leaf, before <+: names ∧ Entries.LeafAt entries (before.map Scalar.string) leaf

section Lookups

variable {v w : Value} {name : String} {entries : Entries}

/-- A lookup goes on from what its first segments lead to. -/
theorem follow_append {before : List String} (hbefore : follow v before = .ok (some w))
    (later : List String) : follow v (before ++ later) = follow w later := by
  induction before generalizing v with
  | nil =>
      cases hbefore
      rfl
  | cons first rest ih =>
      rw [follow] at hbefore
      rw [List.cons_append, follow]
      split at hbefore
      next u hchild => exact ih hbefore
      next => cases hbefore
      next => cases hbefore

theorem follow_insert_self (rest : List String) :
    follow (.dict (Entries.insert (.string name) w entries)) (name :: rest) = follow w rest := by
  rw [follow, child, Entries.get?_insert_self]

theorem follow_insert_of_ne {other : String} (hne : other ≠ name) (rest : List String) :
    follow (.dict (Entries.insert (.string name) w entries)) (other :: rest) =
      follow (.dict entries) (other :: rest) := by
  rw [follow, child, Entries.get?_insert_of_ne hne, follow, child]

/-- There is nothing in no entries. -/
theorem follow_nil {names : List String} (hne : names ≠ []) :
    follow (.dict []) names = .ok none := by
  obtain ⟨name, rest, rfl⟩ := List.exists_cons_of_ne_nil hne
  rfl

/-- Where there is a dictionary or nothing under a key, a lookup goes on in what is below it. -/
theorem follow_below {rest : List String} (hne : rest ≠ [])
    (hfree : ∀ w, Entries.get? (.string name) entries = some w → w.isDict = true) :
    follow (.dict (below name entries)) rest = follow (.dict entries) (name :: rest) := by
  rw [follow, child, below]
  cases hget : Entries.get? (.string name) entries with
  | none => exact follow_nil hne
  | some w =>
      cases w with
      | dict inner => rfl
      | list items => cases hfree _ hget
      | scalar s => cases hfree _ hget

end Lookups

section Obstructions

variable {name : String} {names : List String} {entries : Entries}

theorem not_obstructed_nil : ¬ Obstructed entries [] := by
  rintro ⟨before, leaf, hprefix, hleaf⟩
  rw [List.prefix_nil.1 hprefix] at hleaf
  exact Entries.not_leafAt_here hleaf

/-- Nothing stands in the way where there are no entries. -/
theorem not_obstructed_of_nil : ¬ Obstructed [] names := by
  rintro ⟨before, leaf, _, hleaf⟩
  exact Entries.not_leafAt_nil hleaf

/-- What stands in the way is under the first key, or in the way below it. -/
theorem obstructed_cons_iff :
    Obstructed entries (name :: names) ↔
      (∃ w, Entries.get? (.string name) entries = some w ∧ w.isDict = false) ∨
        Obstructed (below name entries) names := by
  constructor
  · rintro ⟨before, leaf, hprefix, hleaf⟩
    cases before with
    | nil => exact absurd hleaf Entries.not_leafAt_here
    | cons first rest =>
        obtain ⟨rfl, hrest⟩ := List.cons_prefix_cons.1 hprefix
        obtain ⟨hreach, hnodict⟩ := hleaf
        cases rest with
        | nil =>
            obtain ⟨w, hholds, hhere⟩ := Value.reaches_cons_iff.1 hreach
            rw [Value.reaches_nil_iff.1 hhere] at hholds
            exact Or.inl ⟨leaf, Entries.holds_string_iff.1 hholds, hnodict⟩
        | cons next tail =>
            have hbelow := (reaches_below_iff (by simp)).2 hreach
            exact Or.inr ⟨next :: tail, leaf, hrest, hbelow, hnodict⟩
  · rintro (⟨w, hget, hnodict⟩ | ⟨before, leaf, hprefix, hleaf⟩)
    · exact ⟨[name], w, by simp, .under (Entries.holds_string_iff.2 hget) (.here w), hnodict⟩
    · have hne : before.map Scalar.string ≠ [] := by
        intro hnil
        rw [hnil] at hleaf
        exact Entries.not_leafAt_here hleaf
      exact ⟨name :: before, leaf, List.cons_prefix_cons.2 ⟨rfl, hprefix⟩,
        (reaches_below_iff hne).1 hleaf.1, hleaf.2⟩

end Obstructions

section Puts

variable {v : Value}

/-- At a put value and below it a lookup goes on in the value. -/
theorem follow_putAt_append {names : List String} (hne : names ≠ []) (rest : List String)
    (entries : Entries) :
    follow (.dict (putAt v names entries)) (names ++ rest) = follow v rest :=
  follow_append (follow_putAt_self hne entries) rest

/-- Above a put value there are dictionaries. -/
theorem exists_follow_putAt {above : List String} {name : String} {rest : List String}
    (entries : Entries) :
    ∃ inner, follow (.dict (putAt v (above ++ name :: rest) entries)) above =
      .ok (some (.dict inner)) := by
  induction above generalizing entries with
  | nil => exact ⟨_, rfl⟩
  | cons first others ih =>
      obtain ⟨inner, hinner⟩ := ih (below first entries)
      refine ⟨inner, ?_⟩
      rw [List.cons_append, putAt_cons (by simp), follow_insert_self, hinner]

/-- Beside a put value a lookup finds what it found before, unless something stood in the way of
the put: then it finds nothing any more. -/
theorem follow_putAt_beside {shared : List String} {name next : String} {rest tail : List String}
    (hne : name ≠ next) (entries : Entries) :
    (Obstructed entries shared →
      follow (.dict (putAt v (shared ++ name :: rest) entries)) (shared ++ next :: tail) =
        .ok none) ∧
    (¬ Obstructed entries shared →
      follow (.dict (putAt v (shared ++ name :: rest) entries)) (shared ++ next :: tail) =
        follow (.dict entries) (shared ++ next :: tail)) := by
  induction shared generalizing entries with
  | nil =>
      refine ⟨fun hobstructed => absurd hobstructed not_obstructed_nil, fun _ => ?_⟩
      obtain ⟨value, hvalue⟩ := exists_putAt_eq_insert v name rest
      rw [List.nil_append, List.nil_append, hvalue, follow_insert_of_ne (Ne.symm hne)]
  | cons first others ih =>
      have hmore : others ++ next :: tail ≠ [] := by simp
      rw [List.cons_append, List.cons_append, putAt_cons (by simp), follow_insert_self,
        obstructed_cons_iff]
      constructor
      · rintro (⟨w, hget, hnodict⟩ | hbelow)
        · -- The put starts anew in the place of what is no dictionary.
          have hnew : below first entries = [] := by
            cases w with
            | dict inner => cases hnodict
            | list items => rw [below, hget]
            | scalar s => rw [below, hget]
          rw [hnew, (ih []).2 not_obstructed_of_nil, follow_nil hmore]
        · exact (ih _).1 hbelow
      · intro hclear
        obtain ⟨hfree, hbelow⟩ := not_or.1 hclear
        rw [(ih _).2 hbelow, follow_below hmore]
        intro w hget
        by_contra hnodict
        exact hfree ⟨w, hget, by simpa using hnodict⟩

end Puts

end Path

/-- What a lookup finds after a put.  If its path goes on from that of the put, it finds what the
segments left over lead to in the put value; if its path ends before, it finds a dictionary; and if
the two paths part, it finds what it found before, unless something other than a dictionary stood
where they still go together: then it finds nothing. -/
theorem found_after_put {path : String} (hpath : Path.segments path ≠ []) (entries : Entries)
    (v : Value) (other : String) :
    (∀ rest, Path.segments other = Path.segments path ++ rest →
      Path.find (.dict (Path.put entries path v)) other = Path.follow v rest) ∧
    (∀ name rest, Path.segments path = Path.segments other ++ name :: rest →
      ∃ inner, Path.find (.dict (Path.put entries path v)) other = .ok (some (.dict inner))) ∧
    (∀ shared name next rest tail, Path.segments path = shared ++ name :: rest →
      Path.segments other = shared ++ next :: tail → name ≠ next →
      (Path.Obstructed entries shared →
        Path.find (.dict (Path.put entries path v)) other = .ok none) ∧
      (¬ Path.Obstructed entries shared →
        Path.find (.dict (Path.put entries path v)) other =
          Path.find (.dict entries) other)) := by
  refine ⟨?_, ?_, ?_⟩
  · intro rest hother
    rw [Path.find, hother]
    exact Path.follow_putAt_append hpath rest entries
  · intro name rest hsegments
    rw [Path.find, Path.put, hsegments]
    exact Path.exists_follow_putAt entries
  · intro shared name next rest tail hsegments hother hne
    rw [Path.find, Path.find, Path.put, hsegments, hother]
    exact Path.follow_putAt_beside hne entries

namespace PutLookupsWitness

/-- The list under `l` stands in the way of a put at `a.l.k`. -/
def entries : Entries :=
  [(.string "a", .dict [(.string "l", .list [.int 10]), (.string "x", .int 1)])]

def put : Value := .dict [(.string "d", .list [.null, .int 7])]

theorem found_after_put_through_list :
    Path.segments "a.l.k" ≠ [] ∧ Path.Obstructed entries ["a", "l"] ∧
      ¬ Path.Obstructed entries ["a"] ∧
      Path.find (.dict (Path.put entries "a.l.k" put)) "a.l.k.d.1" = .ok (some (.int 7)) ∧
      (∃ inner, Path.find (.dict (Path.put entries "a.l.k" put)) "a.l" =
        .ok (some (.dict inner))) ∧
      Path.find (.dict entries) "a.l.0" = .ok (some (.int 10)) ∧
      Path.find (.dict (Path.put entries "a.l.k" put)) "a.l.0" = .ok none ∧
      Path.find (.dict (Path.put entries "a.l.k" put)) "a.x" = .ok (some (.int 1)) := by
  have hpath : Path.segments "a.l.k" ≠ [] := by decide
  have hlist : Path.Obstructed entries ["a", "l"] :=
    ⟨["a", "l"], .list [.int 10], List.prefix_rfl, .under (.here _) (.under (.here _) (.here _)),
      rfl⟩
  have hclear : ¬ Path.Obstructed entries ["a"] := by
    rw [Path.obstructed_cons_iff, not_or]
    refine ⟨?_, Path.not_obstructed_nil⟩
    rintro ⟨w, hget, hnodict⟩
    cases hget
    cases hnodict
  exact ⟨hpath, hlist, hclear, (found_after_put hpath entries put _).1 ["d", "1"] rfl,
    (found_after_put hpath entries put _).2.1 "k" [] rfl, rfl,
    ((found_after_put hpath entries put _).2.2 ["a", "l"] "k" "0" [] [] rfl rfl
      (by decide)).1 hlist,
    ((found_after_put hpath entries put "a.x").2.2 ["a"] "l" "x" ["k"] [] rfl rfl
      (by decide)).2 hclear⟩

end PutLookupsWitness

end EventIntake
