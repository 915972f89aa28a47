/-
The last item of a list that has a property: nothing that comes later has it.  One more item at the
end takes the place if it has the property, and leaves it to the one before if not.
-/
import Mathlib.Data.List.Induction

namespace EventIntake

variable {α : Type} {p : α → Prop} {items : List α} {a b : α}

/-- The item has the property, and is followed by items that do not have it. -/
def IsLast (p : α → Prop) (items : List α) (a : α) : Prop :=
  p a ∧ ∃ before later, items = before ++ a :: later ∧ ∀ other ∈ later, ¬ p other

theorem IsLast.mem (hlast : IsLast p items a) : a ∈ items := by
  obtain ⟨_, before, later, rfl, _⟩ := hlast
  simp

theorem not_isLast_nil : ¬ IsLast p [] a := fun hlast => by simpa using hlast.mem

theorem isLast_append_iff :
    IsLast p (items ++ [b]) a ↔ (p b ∧ a = b) ∨ (¬ p b ∧ IsLast p items a) := by
  constructor
  · rintro ⟨ha, before, later, hitems, hlater⟩
    -- The new item is the last one of all if nothing follows, and else one of those that follow.
    rcases List.eq_nil_or_concat later with rfl | ⟨others, last, rfl⟩
    · obtain ⟨_, hlast⟩ := List.append_inj' hitems rfl
      cases hlast
      exact Or.inl ⟨ha, rfl⟩
    · rw [List.concat_eq_append] at hitems hlater
      rw [← List.cons_append, ← List.append_assoc] at hitems
      obtain ⟨rfl, hlast⟩ := List.append_inj' hitems rfl
      cases hlast
      have hothers : ∀ other ∈ others, ¬ p other :=
        fun other hother => hlater other (by simp [hother])
      exact Or.inr ⟨hlater b (by simp), ha, before, others, rfl, hothers⟩
  · rintro (⟨hb, rfl⟩ | ⟨hb, ha, before, later, rfl, hlater⟩)
    · exact ⟨hb, items, [], rfl, by simp⟩
    · refine ⟨ha, before, later ++ [b], by simp, ?_⟩
      intro other hother
      rcases List.mem_append.1 hother with hother | hother
      · exact hlater other hother
      · rwa [List.mem_singleton.1 hother]

/-- Where an item has the property, one is the last that does. -/
theorem exists_isLast (hmem : b ∈ items) (hb : p b) : ∃ a, IsLast p items a := by
  induction items using List.reverseRecOn with
  | nil => simp at hmem
  | append_singleton items other ih =>
      by_cases hother : p other
      · exact ⟨other, isLast_append_iff.2 (Or.inl ⟨hother, rfl⟩)⟩
      · have hfront : b ∈ items := by
          rcases List.mem_append.1 hmem with hmem | hmem
          · exact hmem
          · exact absurd (List.mem_singleton.1 hmem ▸ hb) hother
        obtain ⟨a, hlast⟩ := ih hfront
        exact ⟨a, isLast_append_iff.2 (Or.inr ⟨hother, hlast⟩)⟩

/-- No more than one item is the last. -/
theorem IsLast.unique (ha : IsLast p items a) (hb : IsLast p items b) : a = b := by
  induction items using List.reverseRecOn with
  | nil => exact absurd ha not_isLast_nil
  | append_singleton items other ih =>
      rcases isLast_append_iff.1 ha with ⟨hother, rfl⟩ | ⟨hother, ha⟩
      · rcases isLast_append_iff.1 hb with ⟨_, rfl⟩ | ⟨hnot, _⟩
        · rfl
        · exact absurd hother hnot
      · rcases isLast_append_iff.1 hb with ⟨hnot, _⟩ | ⟨_, hb⟩
        · exact absurd hnot hother
        · exact ih ha hb

end EventIntake
