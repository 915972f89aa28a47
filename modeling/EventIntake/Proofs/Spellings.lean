/-
Spellings of headers.  Headers whose names differ in case alone are one header, and it is the last
of them that is looked at.  So a name with an empty last spelling is passed over, whatever the
others carry; and where no name hides a text like that, the first name that carries one decides.
-/
import EventIntake.Event.Trace
import EventIntake.Format.Catalog
import EventIntake.Proofs.LastItem
import Mathlib.Data.List.Nodup

namespace EventIntake

namespace Headers

section Lowered

variable {α : Type} {headers : List (String × α)} {name : String} {v w : α}

/-- The header has the name, whatever the case. -/
def Spells (name : String) (header : String × α) : Prop := Text.lower header.1 = Text.lower name

instance (name : String) (header : String × α) : Decidable (Spells name header) :=
  inferInstanceAs (Decidable (Text.lower header.1 = Text.lower name))

/-- The last header of a name has this value. -/
def Last (headers : List (String × α)) (name : String) (v : α) : Prop :=
  ∃ key, IsLast (Spells name) headers (key, v)

theorem Last.unique (hv : Last headers name v) (hw : Last headers name w) : v = w := by
  obtain ⟨key, hkey⟩ := hv
  obtain ⟨other, hother⟩ := hw
  exact (Prod.mk.inj (hkey.unique hother)).2

theorem not_last_nil : ¬ Last [] name v := fun ⟨_, hlast⟩ => not_isLast_nil hlast

/-- A header at the end decides about its own name. -/
theorem last_append_iff {key : String} :
    Last (headers ++ [(key, w)]) name v ↔
      if Text.lower key = Text.lower name then w = v else Last headers name v := by
  by_cases hkey : Text.lower key = Text.lower name
  · simp [Last, Spells, isLast_append_iff, hkey, eq_comm]
  · simp [Last, Spells, isLast_append_iff, hkey]

theorem lookup_insert (key other : String) (v : α) (table : List (String × α)) :
    (insert key v table).lookup other = if key = other then some v else table.lookup other := by
  induction table with
  | nil => by_cases hkey : key = other <;> grind [insert]
  | cons header rest ih => grind [insert]

theorem lowered_append (headers : List (String × α)) (key : String) (v : α) :
    lowered (headers ++ [(key, v)]) = insert (Text.lower key) v (lowered headers) := by
  rw [lowered, List.foldl_append, List.foldl_cons, List.foldl_nil, lowered]

/-- Under a name in lower case stands the value of its last header. -/
theorem lookup_lowered_eq_some_iff :
    (lowered headers).lookup (Text.lower name) = some v ↔ Last headers name v := by
  induction headers using List.reverseRecOn with
  | nil => simp [lowered, not_last_nil]
  | append_singleton headers header ih =>
      obtain ⟨key, w⟩ := header
      rw [lowered_append, lookup_insert, last_append_iff]
      split
      next => rw [Option.some.injEq]
      next => exact ih

end Lowered

section Carried

variable {headers : List (String × String)} {names : List String} {name v : String}

/-- Some header of the name has this text, which is not empty. -/
def Carries (headers : List (String × String)) (name v : String) : Prop :=
  v ≠ "" ∧ ∃ key, (key, v) ∈ headers ∧ Spells name (key, v)

/-- The last header of the name is empty, but another one of them carries a text. -/
def Hides (headers : List (String × String)) (name : String) : Prop :=
  Last headers name "" ∧ ∃ v, Carries headers name v

/-- What is found is a text of the first name that carries one, and nothing only if none of the
names does. -/
def FindsFirst (headers : List (String × String)) (names : List String) : Option String → Prop
  | none => ∀ name ∈ names, ∀ v, ¬ Carries headers name v
  | some v => ∃ before name later, names = before ++ name :: later ∧ Carries headers name v ∧
      ∀ earlier ∈ before, ∀ w, ¬ Carries headers earlier w

theorem Last.carries (hlast : Last headers name v) (hsome : v ≠ "") : Carries headers name v := by
  obtain ⟨key, hlast⟩ := hlast
  exact ⟨hsome, key, hlast.mem, hlast.1⟩

theorem Carries.exists_last (hcarries : Carries headers name v) : ∃ w, Last headers name w := by
  obtain ⟨_, key, hmem, hkey⟩ := hcarries
  obtain ⟨⟨other, w⟩, hlast⟩ := exists_isLast hmem hkey
  exact ⟨w, other, hlast⟩

/-- A name that carries a text without hiding it carries one in its last header. -/
theorem Carries.exists_last_ne (hcarries : Carries headers name v) (hshown : ¬ Hides headers name) :
    ∃ w, Last headers name w ∧ w ≠ "" := by
  obtain ⟨w, hlast⟩ := hcarries.exists_last
  refine ⟨w, hlast, ?_⟩
  rintro rfl
  exact hshown ⟨hlast, v, hcarries⟩

/-- The text in the last header of a name, unless it is empty. -/
def shown? (headers : List (String × String)) (name : String) : Option String :=
  ((lowered headers).lookup (Text.lower name)).filter (!·.isEmpty)

theorem shown?_eq_some_iff : shown? headers name = some v ↔ Last headers name v ∧ v ≠ "" := by
  rw [shown?, Option.filter_eq_some_iff, lookup_lowered_eq_some_iff]
  simp

theorem shown?_eq_none_iff : shown? headers name = none ↔ ∀ w, Last headers name w → w = "" := by
  rw [Option.eq_none_iff_forall_ne_some]
  exact forall_congr' fun w => by rw [ne_eq, shown?_eq_some_iff, not_and_not_right]

theorem text?_eq_findSome? : text? headers names = names.findSome? (shown? headers) := by
  rw [text?, find?]
  refine congrArg (List.findSome? · names) (funext fun name => ?_)
  rw [shown?]
  cases (lowered headers).lookup (Text.lower name) <;> rfl

/-- What is found is in the last header of the first name whose last header is not empty. -/
theorem text?_eq_some_iff :
    text? headers names = some v ↔
      ∃ before name later, names = before ++ name :: later ∧ (Last headers name v ∧ v ≠ "") ∧
        ∀ earlier ∈ before, ∀ w, Last headers earlier w → w = "" := by
  simp only [text?_eq_findSome?, List.findSome?_eq_some_iff, shown?_eq_some_iff,
    shown?_eq_none_iff]

theorem text?_eq_none_iff :
    text? headers names = none ↔ ∀ name ∈ names, ∀ w, Last headers name w → w = "" := by
  simp only [text?_eq_findSome?, List.findSome?_eq_none_iff, shown?_eq_none_iff]

/-- Where no name hides a text, the first name that carries one is found. -/
theorem findsFirst_text? (hshown : ∀ name ∈ names, ¬ Hides headers name) :
    FindsFirst headers names (text? headers names) := by
  cases hfound : text? headers names with
  | none =>
      intro name hname v hcarries
      obtain ⟨w, hlast, hsome⟩ := hcarries.exists_last_ne (hshown name hname)
      exact hsome (text?_eq_none_iff.1 hfound name hname w hlast)
  | some v =>
      obtain ⟨before, name, later, rfl, ⟨hlast, hsome⟩, hbefore⟩ := text?_eq_some_iff.1 hfound
      refine ⟨before, name, later, rfl, hlast.carries hsome, ?_⟩
      intro earlier hearlier w hcarries
      obtain ⟨u, hlast, hsome⟩ := hcarries.exists_last_ne (hshown earlier (by simp [hearlier]))
      exact hsome (hbefore earlier hearlier u hlast)

/-- A text that a name hides is not found under that name. -/
theorem not_findsFirst_of_hides (hhides : Hides headers name) :
    ¬ FindsFirst headers [name] (text? headers [name]) := by
  obtain ⟨hempty, v, hcarries⟩ := hhides
  have hnone : text? headers [name] = none := by
    rw [text?_eq_none_iff]
    intro other hother w hlast
    cases List.mem_singleton.1 hother
    exact hlast.unique hempty
  rw [hnone]
  exact fun hfinds => hfinds name (List.mem_singleton.2 rfl) v hcarries

/-- Headers that do not differ in case alone hide nothing. -/
theorem not_hides_of_nodup (hnodup : (headers.map fun header => Text.lower header.1).Nodup)
    (name : String) : ¬ Hides headers name := by
  rintro ⟨⟨key, hlast⟩, v, hsome, other, hmem, hother⟩
  have hsame := List.inj_on_of_nodup_map hnodup hlast.mem hmem (hlast.1.trans hother.symm)
  exact hsome (Prod.mk.inj hsame).2.symm

/-- Where some name carries a text and none hides one, a text of the first name that does is
found. -/
theorem exists_text?_of_carries (hshown : ∀ name ∈ names, ¬ Hides headers name)
    (hname : name ∈ names) (hcarries : Carries headers name v) :
    ∃ w, text? headers names = some w ∧ FindsFirst headers names (some w) := by
  have hfinds := findsFirst_text? hshown
  cases hfound : text? headers names with
  | none =>
      rw [hfound] at hfinds
      exact absurd hcarries (hfinds name hname v)
  | some w => exact ⟨w, rfl, hfound ▸ hfinds⟩

end Carried

end Headers

open Headers in
/-- What a lookup of headers finds: the text in the last header of the first name whose last header
is not empty.  It finds a text of the first name that carries one, whatever the names that are asked
for, exactly if no name hides a text behind an empty header; headers that do not differ in case
alone hide none.  So the identifier, the region and the system of an event are found if no header
among those that are asked for hides one. -/
theorem header_found_iff [Limits] (headers : List (String × String)) :
    (∀ names v, text? headers names = some v ↔
      ∃ before name later, names = before ++ name :: later ∧ (Last headers name v ∧ v ≠ "") ∧
        ∀ earlier ∈ before, ∀ w, Last headers earlier w → w = "") ∧
    ((∀ names, FindsFirst headers names (text? headers names)) ↔ ∀ name, ¬ Hides headers name) ∧
    (∀ names, (∀ name ∈ names, ¬ Hides headers name) →
      FindsFirst headers names (text? headers names)) ∧
    ((headers.map fun header => Text.lower header.1).Nodup → ∀ name, ¬ Hides headers name) ∧
    (∀ event : ExternalEvent, event.headers.getD [] = headers → ∀ name v, Carries headers name v →
      (name ∈ ExternalEvent.correlationHeaders →
        (∀ other ∈ ExternalEvent.correlationHeaders, ¬ Hides headers other) →
        ∃ w, event.correlationId? = some w ∧
          FindsFirst headers ExternalEvent.correlationHeaders (some w)) ∧
      (name ∈ ExternalEvent.regionHeaders →
        (∀ other ∈ ExternalEvent.regionHeaders, ¬ Hides headers other) →
        ∃ w, event.region? = some w ∧ FindsFirst headers ExternalEvent.regionHeaders (some w)) ∧
      (name = "x-github-event" → ¬ Hides headers name →
        ∃ w, Format.github.system event = .ok ("github-" ++ w) ∧ Carries headers name w)) := by
  refine ⟨fun names v => text?_eq_some_iff, ⟨?_, ?_⟩, fun names => findsFirst_text?,
    not_hides_of_nodup, ?_⟩
  · exact fun hfinds name hhides => not_findsFirst_of_hides hhides (hfinds [name])
  · exact fun hshown names => findsFirst_text? fun name _ => hshown name
  · rintro event rfl name v hcarries
    refine ⟨fun hname hshown => ?_,
      fun hname hshown => exists_text?_of_carries hshown hname hcarries, ?_⟩
    · obtain ⟨w, hfound, hfinds⟩ := exists_text?_of_carries hshown hname hcarries
      exact ⟨w, by rw [ExternalEvent.correlationId?, hfound], hfinds⟩
    · rintro rfl hshown
      obtain ⟨w, hlast, hsome⟩ := hcarries.exists_last_ne hshown
      have hfound : text? (event.headers.getD []) ["x-github-event"] = some w :=
        text?_eq_some_iff.2 ⟨[], _, [], rfl, ⟨hlast, hsome⟩, by simp⟩
      exact ⟨w, by rw [Format.system, hfound, Option.getD_some], hlast.carries hsome⟩

namespace SpellingsWitness

local instance : Limits := .standard

open Headers

/-- The request identifier stands behind an empty header, and the trace identifier before one that
is not empty. -/
def headers : List (String × String) := [
  ("X-Request-ID", "r-1"), ("X-Trace-ID", ""), ("x-request-id", ""), ("x-trace-id", "t-1")]

theorem header_found_iff_not_hidden :
    Hides headers "x-request-id" ∧
      text? headers ["x-request-id", "x-trace-id"] = some "t-1" ∧
      ¬ (∀ names, FindsFirst headers names (text? headers names)) ∧
      ¬ Hides headers "x-trace-id" ∧
      FindsFirst headers ["trace-id", "x-trace-id"] (text? headers ["trace-id", "x-trace-id"]) := by
  have hrequest : Last headers "x-request-id" "" :=
    ⟨"x-request-id", rfl, [("X-Request-ID", "r-1"), ("X-Trace-ID", "")],
      [("x-trace-id", "t-1")], rfl, by decide⟩
  have htrace : Last headers "x-trace-id" "t-1" :=
    ⟨"x-trace-id", rfl, [("X-Request-ID", "r-1"), ("X-Trace-ID", ""), ("x-request-id", "")], [],
      rfl, by simp⟩
  have hhides : Hides headers "x-request-id" :=
    ⟨hrequest, "r-1", by decide, "X-Request-ID", List.mem_cons_self, by decide⟩
  have hshown : ∀ name ∈ ["trace-id", "x-trace-id"], ¬ Hides headers name := by
    intro name hname
    rcases List.mem_pair.1 hname with rfl | rfl
    · rintro ⟨⟨key, hlast⟩, _⟩
      have hnone : ∀ header ∈ headers, Text.lower header.1 ≠ Text.lower "trace-id" := by decide
      exact hnone _ hlast.mem hlast.1
    · exact fun ⟨hempty, _⟩ => absurd (htrace.unique hempty) (by decide)
  have hfound := (header_found_iff headers).1
  have hall := (header_found_iff headers).2.1
  have hfinds := (header_found_iff headers).2.2.1
  refine ⟨hhides, (hfound _ _).2 ⟨["x-request-id"], _, [], rfl, ⟨htrace, by decide⟩, ?_⟩,
    fun hpromise => hall.1 hpromise _ hhides, hshown _ (by simp), hfinds _ hshown⟩
  intro earlier hearlier w hlast
  cases List.mem_singleton.1 hearlier
  exact hlast.unique hrequest

end SpellingsWitness

end EventIntake
