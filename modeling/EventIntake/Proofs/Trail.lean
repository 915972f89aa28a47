/-
Ways through profiles.  A way leads from a value, from base to base, over the profiles that are
named on it.  Every way comes to an end or comes back to a name that it has passed, and the end is
the same whatever way is taken.  A descent is a way to where nothing is extended.
-/
import EventIntake.Mapping.Profile
import EventIntake.Proofs.Nesting
import Mathlib.Data.List.Nodup
import Mathlib.Data.List.Perm.Subperm

namespace EventIntake

namespace Scalar

/-- Only itself is the same as a text. -/
theorem text_same {text : Scalar} (htext : text.isText = true) (key : Scalar) :
    text.same key = decide (text = key) := by
  cases text with
  | string s =>
      cases key with
      | string t => by_cases h : s = t <;> simp [same, quantity?, h]
      | _ => simp [same, quantity?]
  | halved s =>
      cases key with
      | halved t => by_cases h : s = t <;> simp [same, quantity?, h]
      | _ => simp [same, quantity?]
  | _ => cases htext

/-- A text is found among texts exactly if it is one of them, and nothing else is found. -/
theorem any_same_iff {names : List Scalar} (hnames : ∀ name ∈ names, name.isText = true)
    {key : Scalar} : names.any (·.same key) = true ↔ key ∈ names := by
  rw [List.any_eq_true]
  constructor
  · rintro ⟨name, hname, hsame⟩
    rw [text_same (hnames name hname), decide_eq_true_iff] at hsame
    rwa [← hsame]
  · intro hmem
    exact ⟨key, hmem, by simp [text_same (hnames key hmem)]⟩

end Scalar

/-- Whether a value is a text or null. -/
def Value.isTextOrNull : Value → Bool
  | .null => true
  | .scalar key => key.isText
  | _ => false

theorem Value.isTextOrNull_iff {v : Value} :
    v.isTextOrNull = true ↔ v = .null ∨ ∃ text : Scalar, text.isText = true ∧ v = .scalar text := by
  rcases v with s | _ | _
  · cases s <;> simp [isTextOrNull, Scalar.isText]
  · simp [isTextOrNull]
  · simp [isTextOrNull]

namespace Entries

theorem exists_mem_of_get? {key : Scalar} {v : Value} {entries : Entries}
    (hget : get? key entries = some v) :
    ∃ other, other.same key = true ∧ (other, v) ∈ entries := by
  induction entries with
  | nil => simp [get?] at hget
  | cons entry rest ih =>
      obtain ⟨other, w⟩ := entry
      rw [get?] at hget
      split at hget
      next hsame =>
        cases hget
        exact ⟨other, hsame, List.mem_cons_self⟩
      next =>
        obtain ⟨found, hsame, hmem⟩ := ih hget
        exact ⟨found, hsame, List.mem_cons_of_mem _ hmem⟩

theorem mem_of_get?_text {name : Scalar} {v : Value} {entries : Entries}
    (hname : name.isText = true) (hget : get? name entries = some v) : (name, v) ∈ entries := by
  obtain ⟨other, hsame, hmem⟩ := exists_mem_of_get? hget
  rw [Scalar.same_text other hname, decide_eq_true_iff] at hsame
  rwa [hsame] at hmem

/-- No text is the key of two entries. -/
def Distinct (entries : Entries) : Prop :=
  ((entries.map Prod.fst).filter Scalar.isText).Nodup

theorem distinct_of_nodup {entries : Entries} (hnodup : (entries.map Prod.fst).Nodup) :
    entries.Distinct :=
  hnodup.filter _

theorem get?_text_of_mem {name : Scalar} {v : Value} {entries : Entries}
    (hname : name.isText = true) (hdistinct : entries.Distinct) (hmem : (name, v) ∈ entries) :
    get? name entries = some v := by
  induction entries with
  | nil => cases hmem
  | cons entry rest ih =>
      obtain ⟨other, w⟩ := entry
      rw [Distinct, List.map_cons] at hdistinct
      rw [get?, Scalar.same_text other hname]
      rcases List.mem_cons.1 hmem with hhead | hrest
      · cases hhead
        simp
      · have hne : other ≠ name := by
          rintro rfl
          rw [List.filter_cons_of_pos hname, List.nodup_cons] at hdistinct
          exact hdistinct.1 (List.mem_filter.2 ⟨List.mem_map.2 ⟨_, hrest, rfl⟩, hname⟩)
        have hlater : Distinct rest :=
          hdistinct.sublist ((List.sublist_cons_self _ _).filter _)
        simp [hne, ih hlater hrest]

theorem has_text_iff {name : Scalar} (hname : name.isText = true) {entries : Entries} :
    has name entries = true ↔ name ∈ entries.map Prod.fst := by
  induction entries with
  | nil => simp [has, get?]
  | cons entry rest ih =>
      obtain ⟨other, w⟩ := entry
      by_cases hother : other = name
      · simp [has, get?, Scalar.same_text name hname, hother]
      · have hne : ¬ name = other := Ne.symm hother
        simpa [has, get?, Scalar.same_text other hname, hother, hne] using ih

/-- Writing under a key gives no text a second entry. -/
theorem Distinct.insert {entries : Entries} (hdistinct : entries.Distinct) (key : Scalar)
    (v : Value) : (Entries.insert key v entries).Distinct := by
  rw [Distinct, keys_insert, List.filter_append]
  cases hhas : has key entries with
  | true => simpa [Distinct] using hdistinct
  | false =>
      cases htext : key.isText with
      | false => simpa [Distinct, htext] using hdistinct
      | true =>
          have hfresh : key ∉ entries.map Prod.fst := by
            rw [← has_text_iff htext, hhas]
            exact Bool.false_ne_true
          rw [if_neg Bool.false_ne_true, List.nodup_append]
          refine ⟨hdistinct, (List.nodup_singleton _).filter _, fun other hother last hlast => ?_⟩
          rw [List.mem_singleton.1 (List.mem_filter.1 hlast).1]
          rintro rfl
          exact hfresh (List.mem_filter.1 hother).1

theorem distinct_ofPairs (pairs : List (Scalar × Value)) : (ofPairs pairs).Distinct :=
  List.foldlRecOn pairs _ List.nodup_nil fun _ hdistinct _ _ => hdistinct.insert _ _

/-- What stands under texts only is found by texts only. -/
theorem isText_of_get? {key : Scalar} {v : Value} {entries : Entries}
    (hnames : ∀ other, (other, v) ∈ entries → other.isText = true)
    (hget : get? key entries = some v) : key.isText = true := by
  obtain ⟨other, hsame, hmem⟩ := exists_mem_of_get? hget
  rw [Scalar.text_same (hnames other hmem), decide_eq_true_iff] at hsame
  rw [← hsame]
  exact hnames other hmem

end Entries

namespace Profiles

variable {profiles : Profiles}

/-- The links on the way from a profile, from base to base, to one that extends nothing: names with
their profiles. -/
inductive Descent (profiles : Profiles) : Scalar → List (Scalar × Entries) → Prop
  | root {name : Scalar} {profile : Entries} (hname : name.isText = true)
      (hprofile : Entries.get? name profiles = some (.dict profile))
      (hbase : Profile.base profile = .null) : Descent profiles name [(name, profile)]
  | under {name base : Scalar} {profile : Entries} {links : List (Scalar × Entries)}
      (hname : name.isText = true)
      (hprofile : Entries.get? name profiles = some (.dict profile))
      (hbase : Profile.base profile = .scalar base) (hrest : Descent profiles base links) :
      Descent profiles name ((name, profile) :: links)

/-- A profile is grounded if a descent from it passes no name twice. -/
def Grounded (profiles : Profiles) (name : Scalar) : Prop :=
  ∃ links, Descent profiles name links ∧ (links.map Prod.fst).Nodup

variable {name : Scalar} {links : List (Scalar × Entries)}

theorem Descent.isText (hdescent : Descent profiles name links) : name.isText = true := by
  cases hdescent with
  | root hname _ _ => exact hname
  | under hname _ _ _ => exact hname

theorem Descent.exists_profile (hdescent : Descent profiles name links) :
    ∃ profile, Entries.get? name profiles = some (.dict profile) := by
  cases hdescent with
  | root _ hprofile _ => exact ⟨_, hprofile⟩
  | under _ hprofile _ _ => exact ⟨_, hprofile⟩

theorem Descent.has (hdescent : Descent profiles name links) :
    Entries.has name profiles = true := by
  obtain ⟨profile, hprofile⟩ := hdescent.exists_profile
  rw [Entries.has, hprofile, Option.isSome_some]

theorem Descent.has_base {profile : Entries} {key : Scalar} (hdescent : Descent profiles name links)
    (hprofile : Entries.get? name profiles = some (.dict profile))
    (hbase : Profile.base profile = .scalar key) (hnull : key ≠ .null) :
    Entries.has key profiles = true := by
  cases hdescent with
  | root _ hsame hnone =>
      rw [hprofile] at hsame
      cases hsame
      rw [hbase] at hnone
      cases hnone
      exact absurd rfl hnull
  | under _ hsame hscalar hrest =>
      rw [hprofile] at hsame
      cases hsame
      rw [hbase] at hscalar
      cases hscalar
      exact hrest.has

/-- The links on a way through profiles from one value to another: a text leads to the profile that
it names, and the profile to what it extends. -/
inductive Trail (profiles : Profiles) : Value → List (Scalar × Entries) → Value → Prop
  | stay (v : Value) : Trail profiles v [] v
  | pass {name : Scalar} {profile : Entries} {links : List (Scalar × Entries)} {v : Value}
      (hname : name.isText = true)
      (hprofile : Entries.get? name profiles = some (.dict profile))
      (hrest : Trail profiles (Profile.base profile) links v) :
      Trail profiles (.scalar name) ((name, profile) :: links) v

/-- A value that leads by text to no profile, or only to one whose name has been passed. -/
def Halts (profiles : Profiles) (passed : List Scalar) (v : Value) : Prop :=
  ∀ name profile, v = .scalar name → name.isText = true →
    Entries.get? name profiles = some (.dict profile) → name ∈ passed

theorem halts_null {passed : List Scalar} : profiles.Halts passed .null := by
  rintro _ _ ⟨⟩ htext
  cases htext

theorem descent_iff_trail (hname : name.isText = true) :
    Descent profiles name links ↔ Trail profiles (.scalar name) links .null := by
  constructor
  · intro hdescent
    clear hname
    induction hdescent with
    | root hname hprofile hbase => exact .pass hname hprofile (hbase ▸ .stay _)
    | under hname hprofile hbase _ ih => exact .pass hname hprofile (hbase ▸ ih)
  · intro htrail
    generalize hstart : Value.scalar name = start at htrail
    generalize hend : Value.null = last at htrail
    induction htrail generalizing name with
    | stay v =>
        rw [← hend] at hstart
        cases hstart
        cases hname
    | @pass other profile links v hother hprofile hrest ih =>
        cases hstart
        generalize hbase : Profile.base profile = base at hrest ih
        cases hrest with
        | stay => exact .root hname hprofile (hbase.trans hend.symm)
        | pass hnext _ _ => exact .under hname hprofile hbase (ih hnext rfl hend)

/-- Only texts lead on from a value to a profile; null leads nowhere. -/
def LeadsByText (profiles : Profiles) (v : Value) : Prop :=
  ∀ key profile, v = .scalar key → key ≠ .null →
    Entries.get? key profiles = some (.dict profile) → key.isText = true

theorem leadsByText_of_isText (hname : name.isText = true) :
    profiles.LeadsByText (.scalar name) := by
  rintro _ _ ⟨⟩ _ _
  exact hname

/-- Profiles lead on to those that they extend by texts only. -/
def Linked (profiles : Profiles) : Prop :=
  ∀ key profile, (key, .dict profile) ∈ profiles → profiles.LeadsByText (Profile.base profile)

theorem leadsByText_of_isTextOrNull {v : Value} (hv : v.isTextOrNull = true) :
    profiles.LeadsByText v := by
  rintro key _ rfl hnull _
  rcases Value.isTextOrNull_iff.1 hv with heq | ⟨text, htext, heq⟩
  · cases heq
    exact absurd rfl hnull
  · cases heq
    exact htext

theorem leadsByText_of_named
    (hnamed : ∀ key profile, (key, .dict profile) ∈ profiles → key.isText = true) (v : Value) :
    profiles.LeadsByText v :=
  fun _ profile _ _ hget => Entries.isText_of_get? (fun other => hnamed other profile) hget

theorem linked_of_named
    (hnamed : ∀ key profile, (key, .dict profile) ∈ profiles → key.isText = true) :
    profiles.Linked :=
  fun _ _ _ => leadsByText_of_named hnamed _

namespace Trail

variable {v w : Value}

theorem isText_of_mem (htrail : Trail profiles v links w) :
    ∀ name ∈ links.map Prod.fst, name.isText = true := by
  induction htrail with
  | stay => simp
  | pass hname _ _ ih => exact List.forall_mem_cons.2 ⟨hname, ih⟩

theorem get?_of_mem (htrail : Trail profiles v links w) :
    ∀ link ∈ links, Entries.get? link.1 profiles = some (.dict link.2) := by
  induction htrail with
  | stay => simp
  | pass _ hprofile _ ih => exact List.forall_mem_cons.2 ⟨hprofile, ih⟩

theorem mem_profiles (htrail : Trail profiles v links w) :
    ∀ link ∈ links, (link.1, .dict link.2) ∈ profiles := fun link hlink =>
  Entries.mem_of_get?_text (htrail.isText_of_mem _ (List.mem_map_of_mem hlink))
    (htrail.get?_of_mem link hlink)

/-- The way goes on from where a part of its links ends. -/
theorem exists_of_append {first second : List (Scalar × Entries)}
    (htrail : Trail profiles v (first ++ second) w) :
    ∃ u, Trail profiles v first u ∧ Trail profiles u second w := by
  induction first generalizing v with
  | nil => exact ⟨v, .stay v, htrail⟩
  | cons link rest ih =>
      cases htrail with
      | pass hname hprofile hrest =>
          obtain ⟨u, hfirst, hsecond⟩ := ih hrest
          exact ⟨u, .pass hname hprofile hfirst, hsecond⟩

/-- Two ways from one value to where nothing follows are the same. -/
theorem unique {others : List (Scalar × Entries)} {u : Value} (htrail : Trail profiles v links w)
    (hother : Trail profiles v others u) (hend : profiles.Halts [] w)
    (hotherEnd : profiles.Halts [] u) : links = others ∧ w = u := by
  induction htrail generalizing others with
  | stay =>
      cases hother with
      | stay => exact ⟨rfl, rfl⟩
      | pass hname hprofile => exact absurd (hend _ _ rfl hname hprofile) List.not_mem_nil
  | pass hname hprofile _ ih =>
      cases hother with
      | stay => exact absurd (hotherEnd _ _ rfl hname hprofile) List.not_mem_nil
      | pass _ hsame hrest =>
          rw [hprofile, Option.some.injEq, Value.dict.injEq] at hsame
          obtain ⟨rfl, rfl⟩ := ih (hsame ▸ hrest) hend
          rw [hsame]
          exact ⟨rfl, rfl⟩

/-- A way to where nothing follows passes no name twice. -/
theorem nodup (htrail : Trail profiles v links w) (hend : profiles.Halts [] w) :
    (links.map Prod.fst).Nodup := by
  induction htrail with
  | stay => simp
  | @pass name profile links w hname hprofile hrest ih =>
      rw [List.map_cons, List.nodup_cons]
      refine ⟨fun hmem => ?_, ih hend⟩
      -- From where the name comes again, the way would be as long as from its first place.
      obtain ⟨⟨_, other⟩, hlink, rfl⟩ := List.mem_map.1 hmem
      obtain ⟨before, after, rfl⟩ := List.append_of_mem hlink
      obtain ⟨_, _, hagain⟩ := hrest.exists_of_append
      cases hagain with
      | pass _ hsame hlater =>
      have hlength := congrArg List.length
        ((Trail.pass hname hprofile hrest).unique (.pass hname hsame hlater) hend hend).1
      simp at hlength
      omega

/-- A way ends where it starts or at a base. -/
theorem eq_or_base (htrail : Trail profiles v links w) :
    (links = [] ∧ w = v) ∨ ∃ before last, links = before ++ [last] ∧ w = Profile.base last.2 := by
  induction htrail with
  | stay => exact Or.inl ⟨rfl, rfl⟩
  | @pass name profile links _ _ _ _ ih =>
      rcases ih with ⟨rfl, rfl⟩ | ⟨before, last, rfl, rfl⟩
      · exact Or.inr ⟨[], (name, profile), rfl, rfl⟩
      · exact Or.inr ⟨(name, profile) :: before, last, rfl, rfl⟩

theorem leadsByText (htrail : Trail profiles v links w) (hlinked : profiles.Linked)
    (hstart : profiles.LeadsByText v) : profiles.LeadsByText w := by
  induction htrail with
  | stay => exact hstart
  | pass hname hprofile _ ih =>
      exact ih (hlinked _ _ (Entries.mem_of_get?_text hname hprofile))

end Trail

/-- A descent passes no name twice. -/
theorem Descent.nodup (hdescent : Descent profiles name links) : (links.map Prod.fst).Nodup :=
  ((descent_iff_trail hdescent.isText).1 hdescent).nodup halts_null

theorem length_le_of_mem_profiles (hmem : ∀ link ∈ links, (link.1, .dict link.2) ∈ profiles)
    (hdistinct : (links.map Prod.fst).Nodup) : links.length ≤ profiles.length := by
  have hsubset : links.map Prod.fst ⊆ profiles.map Prod.fst := by
    intro key hkey
    obtain ⟨link, hlink, rfl⟩ := List.mem_map.1 hkey
    exact List.mem_map.2 ⟨_, hmem link hlink, rfl⟩
  have hle := (List.subperm_of_subset hdistinct hsubset).length_le
  simpa using hle

/-- Every way comes to a value where it halts: the names that it passes are distinct names of
profiles, and of these there are finitely many. -/
theorem exists_trail {passed : List (Scalar × Entries)}
    (hmem : ∀ link ∈ passed, (link.1, .dict link.2) ∈ profiles)
    (hdistinct : (passed.map Prod.fst).Nodup) (v : Value) :
    ∃ links w, Trail profiles v links w ∧ ((passed ++ links).map Prod.fst).Nodup ∧
      profiles.Halts ((passed ++ links).map Prod.fst) w := by
  induction hleft : profiles.length - passed.length using Nat.strongRecOn
    generalizing passed v with
  | ind left ih =>
      by_cases hhalts : profiles.Halts (passed.map Prod.fst) v
      · exact ⟨[], v, .stay v, by simpa using hdistinct, by simpa using hhalts⟩
      · simp only [Halts, not_forall] at hhalts
        obtain ⟨name, profile, rfl, hname, hprofile, hnew⟩ := hhalts
        have hmore : ∀ link ∈ passed ++ [(name, profile)],
            (link.1, .dict link.2) ∈ profiles := by
          rw [List.forall_mem_append, List.forall_mem_singleton]
          exact ⟨hmem, Entries.mem_of_get?_text hname hprofile⟩
        have hfresh : ((passed ++ [(name, profile)]).map Prod.fst).Nodup := by
          rw [List.map_append, List.map_singleton, List.nodup_append]
          refine ⟨hdistinct, List.nodup_singleton _, fun other hother last hlast => ?_⟩
          rw [List.mem_singleton.1 hlast]
          rintro rfl
          exact hnew hother
        have hle := length_le_of_mem_profiles hmore hfresh
        rw [List.length_append, List.length_singleton] at hle
        obtain ⟨links, w, htrail, hlinks⟩ :=
          ih (profiles.length - (passed ++ [(name, profile)]).length)
            (by rw [List.length_append, List.length_singleton]; omega)
            hmore hfresh (Profile.base profile) rfl
        rw [List.append_assoc, List.singleton_append] at hlinks
        exact ⟨_, w, .pass hname hprofile htrail, hlinks⟩

end Profiles

end EventIntake
