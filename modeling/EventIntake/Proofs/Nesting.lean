/-
How deeply values are nested: parts are nested less deeply than what they are part of, and what
follows the nesting gives up only past its limit.
-/
import EventIntake.Json.Reader
import EventIntake.Json.Writer
import EventIntake.Path

namespace EventIntake

namespace Except

variable {ε α β : Type}

/-- Steps fail where the first one does, or the ones after it. -/
theorem bind_eq_error_iff {first : Except ε α} {next : α → Except ε β} {fault : ε} :
    first >>= next = .error fault ↔
      first = .error fault ∨ ∃ a, first = .ok a ∧ next a = .error fault := by
  cases first with
  | ok a => simp [bind, Except.bind]
  | error other => simp [bind, Except.bind]

theorem bind_eq_ok_iff {first : Except ε α} {next : α → Except ε β} {b : β} :
    first >>= next = .ok b ↔ ∃ a, first = .ok a ∧ next a = .ok b := by
  cases first with
  | ok a => simp [bind, Except.bind]
  | error other => simp [bind, Except.bind]

/-- Steps come to a result where the first one does and those after it do. -/
theorem exists_bind_eq_ok_iff {first : Except ε α} {next : α → Except ε β} {p : Prop}
    (hnext : ∀ a, (∃ b, next a = .ok b) ↔ p) :
    (∃ b, first >>= next = .ok b) ↔ (∃ a, first = .ok a) ∧ p := by
  cases first with
  | ok a => simpa [bind, Except.bind] using hnext a
  | error other => simp [bind, Except.bind]

theorem exists_bind_pure_eq_ok_iff {first : Except ε α} {f : α → β} :
    (∃ b, (do let a ← first; return f a) = .ok b) ↔ ∃ a, first = .ok a := by
  cases first with
  | ok a => simp [bind, Except.bind, pure, Except.pure]
  | error other => simp [bind, Except.bind]

theorem map_eq_ok_iff {result : Except ε α} {f : α → β} {b : β} :
    result.map f = .ok b ↔ ∃ a, result = .ok a ∧ f a = b := by
  cases result with
  | ok a => simp [Except.map]
  | error other => simp [Except.map]

@[simp] theorem mapError_ok {δ : Type} (f : ε → δ) (a : α) :
    (.ok a : Except ε α).mapError f = .ok a := rfl

@[simp] theorem mapError_error {δ : Type} (f : ε → δ) (fault : ε) :
    (.error fault : Except ε α).mapError f = .error (f fault) := rfl

theorem mapError_eq_ok_iff {δ : Type} {result : Except ε α} {f : ε → δ} {a : α} :
    result.mapError f = .ok a ↔ result = .ok a := by
  cases result with
  | ok a => simp
  | error other => simp

end Except

namespace Value

@[simp] theorem depth_scalar (s : Scalar) : (Value.scalar s).depth = 0 := by
  rw [depth]

section

variable [Limits]

@[simp] theorem tooDeepToCopy_scalar (s : Scalar) : (Value.scalar s).tooDeepToCopy = false := by
  simp [tooDeepToCopy]

@[simp] theorem tooDeepToTell_scalar (s : Scalar) : (Value.scalar s).tooDeepToTell = false := by
  simp [tooDeepToTell]

theorem tooDeepToCopy_iff {v : Value} : v.tooDeepToCopy = true ↔ Limits.copying < v.depth := by
  rw [tooDeepToCopy, decide_eq_true_iff]

theorem tooDeepToTell_eq_false {v : Value} (htold : v.depth ≤ Limits.telling) :
    v.tooDeepToTell = false :=
  decide_eq_false (Nat.not_lt.2 htold)

end

theorem depth_le_of_mem {v : Value} {items : List Value} (hmem : v ∈ items) :
    v.depth ≤ depthOfItems items := by
  induction items with
  | nil => cases hmem
  | cons item rest ih =>
      rw [depthOfItems]
      rcases List.mem_cons.1 hmem with rfl | hrest
      · exact Nat.le_max_left _ _
      · exact Nat.le_trans (ih hrest) (Nat.le_max_right _ _)

theorem depthOfItems_le_iff {items : List Value} {n : Nat} :
    depthOfItems items ≤ n ↔ ∀ v ∈ items, v.depth ≤ n := by
  induction items with
  | nil => simp [depthOfItems]
  | cons v rest ih => rw [depthOfItems, Nat.max_le, ih, List.forall_mem_cons]

theorem depthOfEntries_le_iff {entries : Entries} {n : Nat} :
    depthOfEntries entries ≤ n ↔ ∀ entry ∈ entries, entry.2.depth ≤ n := by
  induction entries with
  | nil => simp [depthOfEntries]
  | cons entry rest ih =>
      obtain ⟨key, v⟩ := entry
      rw [depthOfEntries, Nat.max_le, ih, List.forall_mem_cons]

theorem depth_list_le_iff {items : List Value} {n : Nat} :
    (Value.list items).depth ≤ n + 1 ↔ ∀ v ∈ items, v.depth ≤ n := by
  rw [depth, Nat.add_comm, Nat.add_le_add_iff_right, depthOfItems_le_iff]

theorem depthOfEntries_insert_le (key : Scalar) (v : Value) (entries : Entries) :
    depthOfEntries (Entries.insert key v entries) ≤ max v.depth (depthOfEntries entries) := by
  induction entries with
  | nil => simp [Entries.insert, depthOfEntries]
  | cons entry rest ih =>
      obtain ⟨other, w⟩ := entry
      rw [Entries.insert]
      split
      next =>
        rw [depthOfEntries, depthOfEntries]
        omega
      next =>
        rw [depthOfEntries, depthOfEntries]
        omega

/-- What is under a key is nested less deeply than the dictionary. -/
theorem depth_le_of_get? {key : Scalar} {v : Value} {entries : Entries}
    (hget : Entries.get? key entries = some v) : v.depth ≤ depthOfEntries entries := by
  induction entries with
  | nil => simp [Entries.get?] at hget
  | cons entry rest ih =>
      obtain ⟨other, w⟩ := entry
      rw [Entries.get?] at hget
      rw [depthOfEntries]
      split at hget
      next =>
        cases hget
        exact Nat.le_max_left _ _
      next => exact Nat.le_trans (ih hget) (Nat.le_max_right _ _)

theorem depth_lt_of_member? {key : String} {v w : Value} (hmember : v.member? key = some w) :
    w.depth < v.depth := by
  cases v with
  | dict entries =>
      have hle := depth_le_of_get? hmember
      rw [depth]
      omega
  | _ => simp [member?] at hmember

end Value

namespace Path

/-- What a segment leads to is nested less deeply. -/
theorem depth_lt_of_child {v w : Value} {segment : String}
    (hchild : child v segment = .ok (some w)) : w.depth < v.depth := by
  cases v with
  | scalar s => simp [child] at hchild
  | dict entries =>
      rw [child, Except.ok.injEq] at hchild
      have hle := Value.depth_le_of_get? hchild
      rw [Value.depth]
      omega
  | list items =>
      rw [child, item] at hchild
      split at hchild
      next =>
        split at hchild
        next n _ =>
          rw [Except.ok.injEq] at hchild
          have hle := Value.depth_le_of_mem (List.mem_of_getElem? hchild)
          rw [Value.depth]
          omega
        next => cases hchild
        next => cases hchild
      next => cases hchild

theorem depth_le_of_follow {v w : Value} {names : List String}
    (hfollow : follow v names = .ok (some w)) : w.depth ≤ v.depth := by
  induction names generalizing v with
  | nil =>
      cases hfollow
      exact Nat.le_refl _
  | cons name rest ih =>
      rw [follow] at hfollow
      split at hfollow
      next u hchild =>
        have hlt := depth_lt_of_child hchild
        have hle := ih hfollow
        omega
      next => cases hfollow
      next => cases hfollow

end Path

namespace Value

mutual

/-- Comparing gives up only on values that are both nested past the levels. -/
theorem lt_depth_of_sameWithin : {v w : Value} → {levels : Nat} →
    v.sameWithin levels w = none → levels < v.depth ∧ levels < w.depth
  | .scalar _, .scalar _, _, hnone => by simp [sameWithin] at hnone
  | .scalar _, .list _, _, hnone => by simp [sameWithin] at hnone
  | .scalar _, .dict _, _, hnone => by simp [sameWithin] at hnone
  | .list _, .scalar _, _, hnone => by simp [sameWithin] at hnone
  | .list _, .dict _, _, hnone => by simp [sameWithin] at hnone
  | .dict _, .scalar _, _, hnone => by simp [sameWithin] at hnone
  | .dict _, .list _, _, hnone => by simp [sameWithin] at hnone
  | .list xs, .list ys, levels, hnone => by
      rw [sameWithin] at hnone
      rw [depth, depth]
      split at hnone
      next => cases hnone
      next =>
        split at hnone
        next => omega
        next =>
          have hlt := lt_depth_of_sameItemsWithin hnone
          omega
  | .dict es, .dict fs, levels, hnone => by
      rw [sameWithin] at hnone
      rw [depth, depth]
      split at hnone
      next => cases hnone
      next =>
        split at hnone
        next => omega
        next =>
          have hlt := lt_depth_of_sameEntriesWithin hnone
          omega

theorem lt_depth_of_sameItemsWithin : {xs ys : List Value} → {levels : Nat} →
    sameItemsWithin levels xs ys = none → levels < depthOfItems xs ∧ levels < depthOfItems ys
  | [], [], _, hnone => by simp [sameItemsWithin] at hnone
  | [], _ :: _, _, hnone => by simp [sameItemsWithin] at hnone
  | _ :: _, [], _, hnone => by simp [sameItemsWithin] at hnone
  | x :: xs, y :: ys, levels, hnone => by
      rw [sameItemsWithin] at hnone
      rw [depthOfItems, depthOfItems]
      cases hfirst : x.sameWithin levels y with
      | none =>
          have hlt := lt_depth_of_sameWithin hfirst
          omega
      | some equal =>
          cases equal with
          | false => simp [hfirst] at hnone
          | true =>
              have hrest : sameItemsWithin levels xs ys = none := by simpa [hfirst] using hnone
              have hlt := lt_depth_of_sameItemsWithin hrest
              omega

theorem lt_depth_of_sameEntriesWithin : {es fs : Entries} → {levels : Nat} →
    sameEntriesWithin levels es fs = none →
      levels < depthOfEntries es ∧ levels < depthOfEntries fs
  | [], _, _, hnone => by simp [sameEntriesWithin] at hnone
  | (key, v) :: rest, fs, levels, hnone => by
      rw [sameEntriesWithin] at hnone
      rw [depthOfEntries]
      cases hget : Entries.get? key fs with
      | none => simp [hget] at hnone
      | some w =>
          have hle := depth_le_of_get? hget
          cases hfirst : v.sameWithin levels w with
          | none =>
              have hlt := lt_depth_of_sameWithin hfirst
              omega
          | some equal =>
              cases equal with
              | false => simp [hget, hfirst] at hnone
              | true =>
                  have hrest : sameEntriesWithin levels rest fs = none := by
                    simpa [hget, hfirst] using hnone
                  have hlt := lt_depth_of_sameEntriesWithin hrest
                  omega

end

theorem lt_depth_of_isAmong [Limits] {v : Value} {items : List Value}
    (hnone : v.isAmong items = none) :
    Limits.comparing < v.depth := by
  induction items with
  | nil => simp [isAmong] at hnone
  | cons item rest ih =>
      rw [isAmong] at hnone
      cases hfirst : item.sameWithin Limits.comparing v with
      | none => exact (lt_depth_of_sameWithin hfirst).2
      | some equal =>
          cases equal with
          | true => simp [hfirst] at hnone
          | false => exact ih (by simpa [hfirst] using hnone)

end Value

namespace Json.Layout

variable (layout : Layout) {τ : Type} [Medium τ]

theorem halved_ne_tooDeep (t : Halved) :
    (layout.halved t : Except WriteFault τ) ≠ .error .tooDeep := by
  unfold halved
  dsimp only
  repeat' split
  all_goals simp

theorem scalar_ne_tooDeep (s : Scalar) :
    (layout.scalar s : Except WriteFault τ) ≠ .error .tooDeep := by
  cases s with
  | halved t => exact layout.halved_ne_tooDeep t
  | int n => simp only [scalar]; split <;> simp
  | moment m => simp only [scalar]; split <;> simp
  | date d => simp only [scalar]; split <;> simp
  | _ => simp [scalar]

theorem key_ne_tooDeep (s : Scalar) :
    (layout.key s : Except WriteFault τ) ≠ .error .tooDeep := by
  cases s with
  | halved t => exact layout.halved_ne_tooDeep t
  | int n => simp only [key]; split <;> simp
  | _ => simp [key]

variable [Limits]

mutual

/-- Writing gives up only on a value that is nested past the limit, with what it stands in. -/
theorem lt_depth_of_writeAt : {v : Value} → {level : Nat} →
    (layout.writeAt level v : Except WriteFault τ) = .error .tooDeep →
      Limits.writing < level + v.depth
  | .scalar s, _, hfault => by
      rw [writeAt] at hfault
      exact absurd hfault (layout.scalar_ne_tooDeep s)
  | .list [], _, hfault => by simp [writeAt] at hfault
  | .dict [], _, hfault => by simp [writeAt] at hfault
  | .list (v :: rest), level, hfault => by
      rw [writeAt] at hfault
      rw [Value.depth, Value.depthOfItems]
      split at hfault
      next => omega
      next =>
        rw [Except.bind_eq_error_iff] at hfault
        rcases hfault with hfirst | ⟨first, _, hfault⟩
        · have hlt := lt_depth_of_writeAt hfirst
          omega
        rw [Except.bind_eq_error_iff] at hfault
        rcases hfault with hothers | ⟨others, _, hpure⟩
        · have hlt := lt_depth_of_writeItems hothers
          omega
        · cases hpure
  | .dict ((k, v) :: rest), level, hfault => by
      rw [writeAt] at hfault
      rw [Value.depth, Value.depthOfEntries]
      split at hfault
      next => omega
      next =>
        rw [Except.bind_eq_error_iff] at hfault
        rcases hfault with hname | ⟨name, _, hfault⟩
        · exact absurd hname (layout.key_ne_tooDeep k)
        rw [Except.bind_eq_error_iff] at hfault
        rcases hfault with hfirst | ⟨first, _, hfault⟩
        · have hlt := lt_depth_of_writeAt hfirst
          omega
        rw [Except.bind_eq_error_iff] at hfault
        rcases hfault with hothers | ⟨others, _, hpure⟩
        · have hlt := lt_depth_of_writeEntries hothers
          omega
        · cases hpure

theorem lt_depth_of_writeItems : {items : List Value} → {level : Nat} →
    (layout.writeItems level items : Except WriteFault τ) = .error .tooDeep →
      Limits.writing < level + Value.depthOfItems items
  | [], _, hfault => by simp [writeItems] at hfault
  | v :: rest, level, hfault => by
      rw [writeItems, Except.bind_eq_error_iff] at hfault
      rw [Value.depthOfItems]
      rcases hfault with hfirst | ⟨first, _, hfault⟩
      · have hlt := lt_depth_of_writeAt hfirst
        omega
      rw [Except.bind_eq_error_iff] at hfault
      rcases hfault with hothers | ⟨others, _, hpure⟩
      · have hlt := lt_depth_of_writeItems hothers
        omega
      · cases hpure

theorem lt_depth_of_writeEntries : {entries : Entries} → {level : Nat} →
    (layout.writeEntries level entries : Except WriteFault τ) = .error .tooDeep →
      Limits.writing < level + Value.depthOfEntries entries
  | [], _, hfault => by simp [writeEntries] at hfault
  | (k, v) :: rest, level, hfault => by
      rw [writeEntries, Except.bind_eq_error_iff] at hfault
      rw [Value.depthOfEntries]
      rcases hfault with hname | ⟨name, _, hfault⟩
      · exact absurd hname (layout.key_ne_tooDeep k)
      rw [Except.bind_eq_error_iff] at hfault
      rcases hfault with hfirst | ⟨first, _, hfault⟩
      · have hlt := lt_depth_of_writeAt hfirst
        omega
      rw [Except.bind_eq_error_iff] at hfault
      rcases hfault with hothers | ⟨others, _, hpure⟩
      · have hlt := lt_depth_of_writeEntries hothers
        omega
      · cases hpure

end

end Json.Layout

namespace Json

/-- A value that is written in points is so as in characters, but that a half keeps it from being
written in characters alone. -/
def Matches (inChars : Except WriteFault String) (inPoints : Except WriteFault (List Point)) :
    Prop :=
  match inChars with
  | .ok text => inPoints = .ok (Medium.text text)
  | .error .halved => True
  | .error fault => inPoints = .error fault

namespace Matches

theorem bind {inChars : Except WriteFault String} {inPoints : Except WriteFault (List Point)}
    {charsNext : String → Except WriteFault String}
    {pointsNext : List Point → Except WriteFault (List Point)} (hfirst : Matches inChars inPoints)
    (hnext : ∀ text, Matches (charsNext text) (pointsNext (Medium.text text))) :
    Matches (inChars >>= charsNext) (inPoints >>= pointsNext) := by
  cases inChars with
  | ok text =>
      have hpoints : inPoints = .ok (Medium.text text) := hfirst
      rw [hpoints]
      exact hnext text
  | error fault =>
      cases fault with
      | halved => trivial
      | _ => rw [show inPoints = .error _ from hfirst]; rfl

/-- Joined texts are joined in points. -/
theorem text_append (s t : String) :
    (Medium.text (s ++ t) : List Point) = Medium.text s ++ Medium.text t := by
  simp [Medium.text]

theorem ok {text : String} {points : List Point} (hpoints : points = Medium.text text) :
    Matches (.ok text) (.ok points) := congrArg Except.ok hpoints

end Matches

variable (layout : Layout)

theorem matches_scalar (s : Scalar) : Matches (layout.scalar s) (layout.scalar s) := by
  cases s with
  | halved t =>
      rw [Layout.scalar, Layout.scalar, Layout.halved, Layout.halved]
      cases layout.asciiOnly with
      | true => rfl
      | false => trivial
  | int n =>
      simp only [Layout.scalar]
      cases (Scalar.int n).isTooLong <;> rfl
  | moment m =>
      simp only [Layout.scalar]
      cases layout.foreign (.moment m) <;> rfl
  | date d =>
      simp only [Layout.scalar]
      cases layout.foreign (.date d) <;> rfl
  | _ => rfl

theorem matches_key (key : Scalar) : Matches (layout.key key) (layout.key key) := by
  cases key with
  | halved t => exact matches_scalar layout (.halved t)
  | int n =>
      simp only [Layout.key]
      cases (Scalar.int n).isTooLong <;> rfl
  | _ => rfl

variable [Limits]

mutual

theorem matches_writeAt (level : Nat) :
    (v : Value) → Matches (layout.writeAt level v) (layout.writeAt level v)
  | .scalar s => by
      rw [Layout.writeAt, Layout.writeAt]
      exact matches_scalar layout s
  | .list [] => by
      rw [Layout.writeAt, Layout.writeAt]
      exact .ok rfl
  | .dict [] => by
      rw [Layout.writeAt, Layout.writeAt]
      exact .ok rfl
  | .list (v :: rest) => by
      rw [Layout.writeAt, Layout.writeAt]
      split
      next => rfl
      next =>
        refine (matches_writeAt (level + 1) v).bind fun first =>
          (matches_writeItems (level + 1) rest).bind fun others => .ok ?_
        simp only [Matches.text_append, Medium.text_string]
  | .dict ((key, v) :: rest) => by
      rw [Layout.writeAt, Layout.writeAt]
      split
      next => rfl
      next =>
        refine (matches_key layout key).bind fun name =>
          (matches_writeAt (level + 1) v).bind fun first =>
            (matches_writeEntries (level + 1) rest).bind fun others => .ok ?_
        simp only [Matches.text_append, Medium.text_string]

theorem matches_writeItems (level : Nat) :
    (items : List Value) → Matches (layout.writeItems level items) (layout.writeItems level items)
  | [] => by
      rw [Layout.writeItems, Layout.writeItems]
      exact .ok rfl
  | v :: rest => by
      rw [Layout.writeItems, Layout.writeItems]
      refine (matches_writeAt level v).bind fun first =>
        (matches_writeItems level rest).bind fun others => .ok ?_
      simp only [Matches.text_append, Medium.text_string]

theorem matches_writeEntries (level : Nat) : (entries : Entries) →
    Matches (layout.writeEntries level entries) (layout.writeEntries level entries)
  | [] => by
      rw [Layout.writeEntries, Layout.writeEntries]
      exact .ok rfl
  | (key, v) :: rest => by
      rw [Layout.writeEntries, Layout.writeEntries]
      refine (matches_key layout key).bind fun name =>
        (matches_writeAt level v).bind fun first =>
          (matches_writeEntries level rest).bind fun others => .ok ?_
      simp only [Matches.text_append, Medium.text_string]

end

/-- What is written in points matches what is written in characters. -/
theorem matches_write (v : Value) : Matches (layout.write v) (layout.write v) :=
  matches_writeAt layout 0 v

end Json

end EventIntake
