/-
Tallies: counters that hold what they should, integers and integers by name.  Counting on them never
fails, changes every counter that it has to, and ends in a tally again.
-/
import EventIntake.Counters
import EventIntake.Proofs.Stateful

namespace EventIntake

/-- Counts by name, in the order in which the names came. -/
abbrev Counts := List (String × Int)

namespace Counts

/-- The counts as a counter holds them. -/
def entries (counts : Counts) : Entries :=
  counts.map fun (name, n) => (.string name, .int n)

def total : Counts → Int
  | [] => 0
  | (_, n) :: rest => n + total rest

/-- The counts with one more under a name. -/
def more (name : String) : Counts → Counts
  | [] => [(name, 1)]
  | (other, n) :: rest =>
    if other = name then (other, n + 1) :: rest else (other, n) :: more name rest

theorem lookup_cons (name other : String) (n : Int) (rest : Counts) :
    List.lookup name ((other, n) :: rest) = if name = other then some n else rest.lookup name := by
  by_cases hname : name = other
  · simp [hname]
  · have hother : (name == other) = false := by simpa using hname
    rw [List.lookup_cons, hother, if_neg hname]

theorem get?_entries (name : String) (counts : Counts) :
    Entries.get? (.string name) counts.entries = (counts.lookup name).map Value.int := by
  induction counts with
  | nil => rfl
  | cons count rest ih =>
      obtain ⟨other, n⟩ := count
      rw [lookup_cons]
      by_cases hname : name = other
      · simp [entries, Entries.get?, Scalar.same_string, hname]
      · simpa [entries, Entries.get?, Scalar.same_string, Ne.symm hname, hname] using ih

theorem entries_more (name : String) (counts : Counts) :
    (counts.more name).entries =
      Entries.insert (.string name) (.int ((counts.lookup name).getD 0 + 1)) counts.entries := by
  induction counts with
  | nil => rfl
  | cons count rest ih =>
      obtain ⟨other, n⟩ := count
      rw [lookup_cons]
      by_cases hname : other = name
      · simp [entries, more, Entries.insert, Scalar.same_string, hname]
      · simpa [entries, more, Entries.insert, Scalar.same_string, hname, Ne.symm hname] using ih

theorem lookup_more (name other : String) (counts : Counts) :
    (counts.more name).lookup other =
      if other = name then some ((counts.lookup name).getD 0 + 1) else counts.lookup other := by
  induction counts with
  | nil => rw [more, lookup_cons]; rfl
  | cons count rest ih =>
      obtain ⟨first, n⟩ := count
      by_cases hname : first = name
      · simp only [more, hname, ↓reduceIte, lookup_cons]
        by_cases hother : other = name <;> simp [hother]
      · by_cases hother : other = first
        · simp [more, hname, hother]
        · simp only [more, hname, ↓reduceIte, lookup_cons, hother, ih, Ne.symm hname]

theorem keys_more (name : String) (counts : Counts) :
    (counts.more name).map Prod.fst =
      counts.map Prod.fst ++ if name ∈ counts.map Prod.fst then [] else [name] := by
  induction counts with
  | nil => rfl
  | cons count rest ih =>
      obtain ⟨other, n⟩ := count
      by_cases hname : other = name
      · simp [more, hname]
      · rw [more, if_neg hname, List.map_cons, List.map_cons, ih]
        simp only [List.mem_cons, Ne.symm hname, false_or, List.cons_append]

theorem nodup_more {counts : Counts} (hdistinct : (counts.map Prod.fst).Nodup) (name : String) :
    ((counts.more name).map Prod.fst).Nodup := by
  rw [keys_more]
  split
  next => simpa using hdistinct
  next hfresh =>
    rw [List.nodup_append]
    refine ⟨hdistinct, by simp, ?_⟩
    rintro other hother _ hname rfl
    exact hfresh (List.mem_singleton.1 hname ▸ hother)

theorem total_more (name : String) (counts : Counts) :
    (counts.more name).total = counts.total + 1 := by
  induction counts with
  | nil => rfl
  | cons count rest ih =>
      obtain ⟨other, n⟩ := count
      by_cases hname : other = name
      · simp only [more, hname, ↓reduceIte, total]
        omega
      · simp only [more, hname, ↓reduceIte, total, ih]
        omega

/-- The counts tell how often each of some names has come. -/
structure Tell (names : List String) (counts : Counts) : Prop where
  nodup : (counts.map Prod.fst).Nodup
  lookup : ∀ name, counts.lookup name =
    if name ∈ names then some (names.count name : Int) else none
  total : counts.total = names.length

theorem tell_nil : Tell [] [] := ⟨by simp, by simp, rfl⟩

theorem Tell.more {names : List String} {counts : Counts} (htell : Tell names counts)
    (name : String) : Tell (names ++ [name]) (counts.more name) := by
  refine ⟨nodup_more htell.nodup name, ?_, ?_⟩
  · intro other
    rw [lookup_more, htell.lookup, htell.lookup, List.count_append]
    by_cases hother : other = name
    · subst hother
      by_cases hmem : other ∈ names
      · simp [hmem]
      · simp [hmem, List.count_eq_zero.2 hmem]
    · simp [hother, Ne.symm hother]
  · rw [total_more, htell.total]
    simp

end Counts

/-- What counters should hold. -/
structure Tally where
  normalized : Int
  invalid : Int
  unsupported : Int
  warnings : Int
  dropped : Int
  byFormat : Counts
  byKind : Counts

namespace Tally

/-- Nothing has been counted. -/
def zero : Tally := ⟨0, 0, 0, 0, 0, [], []⟩

/-- The counters that hold a tally. -/
def counters (tally : Tally) : Counters :=
  ⟨(Value.record [
    ("normalizations_total", .int tally.normalized),
    ("validation_failed_total", .int tally.invalid),
    ("unsupported_format_total", .int tally.unsupported),
    ("warnings_total", .int tally.warnings),
    ("dropped_fields_total", .int tally.dropped),
    ("events_by_format", .dict tally.byFormat.entries),
    ("events_by_type", .dict tally.byKind.entries)]).entries⟩

def countEvent (event : Envelope) (tally : Tally) : Tally where
  normalized := tally.normalized + 1
  invalid := if event.validation.validated then tally.invalid else tally.invalid + 1
  unsupported := tally.unsupported
  warnings := tally.warnings + (event.normalization.warnings.getD []).length
  dropped := tally.dropped + (event.normalization.dropped.getD []).length
  byFormat := tally.byFormat.more event.source.format
  byKind := tally.byKind.more event.kind.name

def countUnsupported (tally : Tally) : Tally :=
  { tally with unsupported := tally.unsupported + 1 }

theorem complete_counters (tally : Tally) : tally.counters.complete = tally.counters := rfl

end Tally

namespace Counters

open Stateful

theorem run_add {name : String} {counters : Counters} {m : Int}
    (hvalue : counters.valueOf name = .int m) (n : Nat) :
    (add name n).run counters =
      (.ok (), ⟨Entries.insert (.string name) (.int (m + n)) counters.entries⟩) := by
  have hget : (get : Counting Counters).run counters = (.ok counters, counters) := rfl
  rw [add, run_bind_ok hget, hvalue]
  rfl

theorem run_addUnder {name key : String} {counters : Counters} {counts : Counts}
    (hvalue : counters.valueOf name = .dict counts.entries) :
    (addUnder name key).run counters =
      (.ok (), ⟨Entries.insert (.string name) (.dict (counts.more key).entries)
        counters.entries⟩) := by
  have hget : (get : Counting Counters).run counters = (.ok counters, counters) := rfl
  have hplus : plus ((Entries.get? (.string key) counts.entries).getD (.int 0)) 1 true =
      .ok (.int ((counts.lookup key).getD 0 + 1)) := by
    rw [Counts.get?_entries]
    cases counts.lookup key <;> rfl
  rw [addUnder, run_bind_ok hget, hvalue]
  dsimp only
  rw [hplus, run_bind_ok (run_lift _ _), Counts.entries_more]
  rfl

/-- Counting an event of an unsupported format on a tally succeeds. -/
theorem run_countUnsupported (tally : Tally) :
    countUnsupported.run tally.counters = (.ok (), tally.countUnsupported.counters) := by
  have hcomplete : (modify complete : Counting PUnit).run tally.counters =
      (.ok (), tally.counters) := rfl
  rw [countUnsupported, run_bind_ok hcomplete, run_add rfl]
  rfl

/-- Counting an event on a tally succeeds and counts it everywhere. -/
theorem run_countEvent (tally : Tally) (event : Envelope) :
    (countEvent event).run tally.counters = (.ok (), (tally.countEvent event).counters) := by
  have hcomplete : (modify complete : Counting PUnit).run tally.counters =
      (.ok (), tally.counters) := rfl
  rw [countEvent, run_bind_ok hcomplete, run_bind_ok (run_add rfl 1), Tally.countEvent]
  cases event.validation.validated with
  | true =>
      simp only [Bool.not_true, Bool.false_eq_true, ↓reduceIte]
      rw [run_bind_ok (run_add rfl _), run_bind_ok (run_add rfl _),
        run_bind_ok (run_addUnder rfl), run_addUnder rfl]
      rfl
  | false =>
      simp only [Bool.not_false, Bool.false_eq_true, ↓reduceIte]
      rw [run_bind_ok (run_add rfl _), run_bind_ok (run_add rfl _), run_bind_ok (run_add rfl _),
        run_bind_ok (run_addUnder rfl), run_addUnder rfl]
      rfl

end Counters

end EventIntake
