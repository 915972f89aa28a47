/-
Resolving tables.  Where bases are texts and rows are lists, the table of a profile is the table of
its base and then its own rows.  Following bases comes to a profile that extends nothing, to a name
that is no profile, or back to a profile that has been passed, and what is resolved tells which.
-/
import EventIntake.Mapping.Bundled
import EventIntake.Proofs.Chain
import Mathlib.Logic.Relation

namespace EventIntake

open Relation

namespace Profiles

/-- A profile stands under a name. -/
def Knows (profiles : Profiles) (name : Scalar) : Prop :=
  ∃ profile, Entries.get? name profiles = some (.dict profile)

/-- The profile of one text extends another text. -/
def Extends (profiles : Profiles) (name base : Scalar) : Prop :=
  name.isText = true ∧ base.isText = true ∧
    ∃ profile, Entries.get? name profiles = some (.dict profile) ∧
      Profile.base profile = .scalar base

/-- Profiles extend texts or nothing, and their rows are lists, if there are any. -/
structure Plain (profiles : Profiles) : Prop where
  base : ∀ key profile, (key, .dict profile) ∈ profiles →
    (Profile.base profile).isTextOrNull = true
  rows : ∀ key profile, (key, .dict profile) ∈ profiles → Profile.ListsRows profile

variable {profiles : Profiles} {name other : Scalar} {links : List (Scalar × Entries)}

theorem Plain.linked (hplain : profiles.Plain) : profiles.Linked :=
  fun key profile hmem => leadsByText_of_isTextOrNull (hplain.base key profile hmem)

/-- A name that is no profile leads nowhere. -/
theorem halts_of_not_knows (hnone : ¬ profiles.Knows name) (passed : List Scalar) :
    profiles.Halts passed (.scalar name) := by
  rintro _ profile ⟨⟩ _ hprofile
  exact absurd ⟨profile, hprofile⟩ hnone

namespace Trail

theorem append {u v w : Value} {first second : List (Scalar × Entries)}
    (hfirst : Trail profiles u first v) (hsecond : Trail profiles v second w) :
    Trail profiles u (first ++ second) w := by
  induction hfirst with
  | stay => exact hsecond
  | pass hname hprofile _ ih => exact .pass hname hprofile (ih hsecond)

/-- What comes to a text starts at a text. -/
theorem exists_text {v : Value} (htrail : Trail profiles v links (.scalar other))
    (hother : other.isText = true) : ∃ name : Scalar, name.isText = true ∧ v = .scalar name := by
  cases htrail with
  | stay => exact ⟨other, hother, rfl⟩
  | pass hname _ _ => exact ⟨_, hname, rfl⟩

/-- A way from one name to another follows what extends what. -/
theorem reflTransGen {v : Value} (htrail : Trail profiles v links (.scalar other))
    (hother : other.isText = true) (hstart : v = .scalar name) :
    ReflTransGen profiles.Extends name other := by
  generalize hend : Value.scalar other = last at htrail
  induction htrail generalizing name with
  | stay =>
      cases hend.trans hstart
      exact .refl
  | pass hname hprofile hrest ih =>
      cases hstart
      obtain ⟨base, hbase, heq⟩ := (hend ▸ hrest).exists_text hother
      exact .head ⟨hname, hbase, _, hprofile, heq⟩ (ih heq hend)

theorem transGen (htrail : Trail profiles (.scalar name) links (.scalar other))
    (hother : other.isText = true) (hlinks : links ≠ []) :
    TransGen profiles.Extends name other := by
  cases htrail with
  | stay => exact absurd rfl hlinks
  | pass hname hprofile hrest =>
      obtain ⟨base, hbase, heq⟩ := hrest.exists_text hother
      exact .head' ⟨hname, hbase, _, hprofile, heq⟩ (hrest.reflTransGen hother heq)

/-- A way is part of the way from its start to where nothing follows. -/
theorem exists_rest {u v w : Value} {first all : List (Scalar × Entries)}
    (hfirst : Trail profiles u first v) (hall : Trail profiles u all w)
    (hend : profiles.Halts [] w) : ∃ rest, Trail profiles v rest w := by
  induction hfirst generalizing all with
  | stay => exact ⟨all, hall⟩
  | pass hname hprofile _ ih =>
      cases hall with
      | stay => exact absurd (hend _ _ rfl hname hprofile) List.not_mem_nil
      | pass _ hsame hlater =>
          rw [hprofile, Option.some.injEq, Value.dict.injEq] at hsame
          exact ih (hsame ▸ hlater)

end Trail

theorem exists_trail_of_reflTransGen (hreach : ReflTransGen profiles.Extends name other) :
    ∃ links, Trail profiles (.scalar name) links (.scalar other) := by
  induction hreach using ReflTransGen.head_induction_on with
  | refl => exact ⟨[], .stay _⟩
  | head hextends _ ih =>
      obtain ⟨hname, _, profile, hprofile, hbase⟩ := hextends
      obtain ⟨links, htrail⟩ := ih
      exact ⟨_, .pass hname hprofile (hbase ▸ htrail)⟩

/-- What leads to where nothing follows does not go around. -/
theorem Trail.not_transGen {w : Value} (htrail : Trail profiles (.scalar name) links w)
    (hend : profiles.Halts [] w) (hreach : ReflTransGen profiles.Extends name other) :
    ¬ TransGen profiles.Extends other other := by
  intro haround
  obtain ⟨base, ⟨hother, _, profile, hprofile, hbase⟩, hback⟩ := TransGen.head'_iff.1 haround
  obtain ⟨first, hfirst⟩ := exists_trail_of_reflTransGen hreach
  obtain ⟨later, hlater⟩ := exists_trail_of_reflTransGen hback
  obtain ⟨rest, hrest⟩ := hfirst.exists_rest htrail hend
  have hround : Trail profiles (.scalar other) ((other, profile) :: later) (.scalar other) :=
    .pass hother hprofile (hbase ▸ hlater)
  have hlength := congrArg List.length ((hround.append hrest).unique hrest hend hend).1
  simp at hlength
  omega

end Profiles

namespace Profile

variable {profiles : Profiles} {name : Scalar}

/-- What a chain comes to: the profiles of a descent, nothing for a name that is no profile, a name
that is no profile after some links, or a name that has been passed. -/
theorem chain_cases (hplain : profiles.Plain) (hname : name.isText = true) :
    (∃ links, profiles.Descent name links ∧
      chain profiles name = .ok (links.map Prod.snd).reverse) ∨
    (¬ profiles.Knows name ∧ chain profiles name = .ok []) ∨
    (∃ before last profile base,
      profiles.Trail (.scalar name) (before ++ [(last, profile)]) (.scalar base) ∧
      base.isText = true ∧ ¬ profiles.Knows base ∧
      chain profiles name = .error (.unknownBase last base)) ∨
    ∃ links again, profiles.Trail (.scalar name) links (.scalar again) ∧
      again ∈ links.map Prod.fst ∧
      chain profiles name = .error (.cycle (links.map Prod.fst ++ [again])) := by
  obtain ⟨links, v, htrail, _, hhalts, _, hending⟩ := exists_chain hplain.linked hname
  have hchain : chain profiles name = ending links v := hending _ (Nat.le_refl _)
  have hv : v.isTextOrNull = true := by
    rcases htrail.eq_or_base with ⟨_, rfl⟩ | ⟨before, last, rfl, rfl⟩
    · exact Value.isTextOrNull_iff.2 (Or.inr ⟨name, hname, rfl⟩)
    · exact hplain.base _ _ (htrail.mem_profiles last (by simp))
  rcases Value.isTextOrNull_iff.1 hv with rfl | ⟨key, hkey, rfl⟩
  · exact Or.inl ⟨links, (Profiles.descent_iff_trail hname).2 htrail, hchain⟩
  have hnull : key ≠ .null := by
    rintro rfl
    cases hkey
  refine Or.inr ?_
  by_cases hpassed : key ∈ links.map Prod.fst
  · refine Or.inr (Or.inr ⟨links, key, htrail, hpassed, hchain.trans ?_⟩)
    rw [ending, if_pos hpassed]
    exact hnull
  · have hnone : ¬ profiles.Knows key := by
      rintro ⟨profile, hprofile⟩
      exact hpassed (hhalts key profile rfl hkey hprofile)
    rw [ending, if_neg hpassed] at hchain
    rotate_left
    · exact hnull
    rcases htrail.eq_or_base with ⟨rfl, heq⟩ | ⟨before, last, rfl, _⟩
    · cases heq
      exact Or.inl ⟨hnone, hchain⟩
    · have hlast := htrail.isText_of_mem last.1 (by simp)
      rw [List.getLast?_concat] at hchain
      refine Or.inr (Or.inl ⟨before, last.1, last.2, key, htrail, hkey, hnone, hchain.trans ?_⟩)
      exact congrArg Except.error (unknownBaseFault_of_isText hlast hkey)

/-- The table of a name is made of the rows that the profiles of its chain write. -/
theorem resolve_eq_map (hplain : profiles.Plain) (hname : name.isText = true) :
    resolve profiles name =
      (chain profiles name).map fun found => found.flatMap writtenRows := by
  rw [resolve]
  cases hchain : chain profiles name with
  | error fault => rfl
  | ok found =>
      refine rowsOf_of_listsRows fun profile hprofile => ?_
      obtain ⟨other, hmem⟩ := mem_profiles_of_chain hplain.linked hname hchain profile hprofile
      exact hplain.rows _ profile hmem

theorem resolve_eq_error_iff (hplain : profiles.Plain) (hname : name.isText = true)
    {fault : ProfileFault} :
    resolve profiles name = .error fault ↔ chain profiles name = .error fault := by
  rw [resolve_eq_map hplain hname]
  cases chain profiles name <;> simp [Except.map]

theorem resolve_eq_ok_iff (hplain : profiles.Plain) (hname : name.isText = true)
    {rows : List Value} (hknown : profiles.Knows name) :
    resolve profiles name = .ok rows ↔ ∃ links, profiles.Descent name links ∧
      rows = (links.map Prod.snd).reverse.flatMap writtenRows := by
  obtain ⟨profile, hprofile⟩ := hknown
  rw [resolve_eq_map hplain hname, Except.map_eq_ok_iff]
  simp only [chain_eq_ok_iff hplain.linked hname hprofile]
  constructor
  · rintro ⟨_, ⟨links, hdescent, rfl⟩, rfl⟩
    exact ⟨links, hdescent, rfl⟩
  · rintro ⟨links, hdescent, rfl⟩
    exact ⟨_, ⟨links, hdescent, rfl⟩, rfl⟩

theorem resolve_of_not_knows (hname : name.isText = true) (hnone : ¬ profiles.Knows name) :
    resolve profiles name = .ok [] := by
  rw [resolve, chain_of_not_profile hname fun profile hprofile => hnone ⟨profile, hprofile⟩]
  rfl

theorem isReported_of_resolve (hplain : profiles.Plain) (hname : name.isText = true)
    {fault : ProfileFault} (hresolve : resolve profiles name = .error fault) :
    fault.isReported = true := by
  have hchain := (resolve_eq_error_iff hplain hname).1 hresolve
  rcases chain_cases hplain hname with
    ⟨_, _, hends⟩ | ⟨_, hends⟩ | ⟨_, _, _, _, _, _, _, hends⟩ | ⟨_, _, _, _, hends⟩
  all_goals
    rw [hends] at hchain
    cases hchain
    try rfl

theorem resolve_of_root (hplain : profiles.Plain) (hname : name.isText = true) {profile : Entries}
    (hprofile : Entries.get? name profiles = some (.dict profile))
    (hbase : base profile = .null) : resolve profiles name = .ok (writtenRows profile) :=
  (resolve_eq_ok_iff hplain hname ⟨profile, hprofile⟩).2
    ⟨[(name, profile)], .root hname hprofile hbase, by simp⟩

/-- A profile over another one has the table of that one and then its own rows. -/
theorem resolve_of_under (hplain : profiles.Plain) (hname : name.isText = true)
    {profile : Entries} {other : Scalar} (htext : other.isText = true) {rows : List Value}
    (hprofile : Entries.get? name profiles = some (.dict profile))
    (hbase : base profile = .scalar other) (hother : profiles.Knows other) :
    resolve profiles name = .ok rows ↔
      ∃ under, resolve profiles other = .ok under ∧ rows = under ++ writtenRows profile := by
  simp only [resolve_eq_ok_iff hplain hname ⟨profile, hprofile⟩,
    resolve_eq_ok_iff hplain htext hother]
  constructor
  · rintro ⟨_, hdescent, rfl⟩
    cases hdescent with
    | root _ hsame hnull =>
        rw [hprofile, Option.some.injEq, Value.dict.injEq] at hsame
        rw [← hsame, hbase] at hnull
        cases hnull
        cases htext
    | under _ hsame hover hrest =>
        rw [hprofile, Option.some.injEq, Value.dict.injEq] at hsame
        rw [← hsame, hbase] at hover
        cases hover
        exact ⟨_, ⟨_, hrest, rfl⟩, by simp [hsame]⟩
  · rintro ⟨_, ⟨links, hdescent, rfl⟩, rfl⟩
    exact ⟨_, .under hname hprofile hbase hdescent, by simp⟩

/-- A table is over an unknown base exactly if following bases comes to a name that is no
profile. -/
theorem resolve_eq_unknownBase_iff (hplain : profiles.Plain) (hname : name.isText = true)
    {last missing : Scalar} :
    resolve profiles name = .error (.unknownBase last missing) ↔
      ReflTransGen profiles.Extends name last ∧ profiles.Extends last missing ∧
        ¬ profiles.Knows missing := by
  rw [resolve_eq_error_iff hplain hname]
  constructor
  · intro hchain
    rcases chain_cases hplain hname with
      ⟨_, _, hends⟩ | ⟨_, hends⟩ | ⟨before, other, profile, base, htrail, htext, hnone, hends⟩ |
      ⟨_, _, _, _, hends⟩
    all_goals
      rw [hends] at hchain
      cases hchain
    obtain ⟨v, hbefore, hlast⟩ := htrail.exists_of_append
    cases hlast with
    | pass hother hprofile hrest =>
    generalize hbase : Profile.base profile = v at hrest
    cases hrest
    exact ⟨hbefore.reflTransGen hother rfl, ⟨hother, htext, profile, hprofile, hbase⟩, hnone⟩
  · rintro ⟨hreach, ⟨hlast, hmissing, profile, hprofile, hbase⟩, hnone⟩
    obtain ⟨before, hbefore⟩ := Profiles.exists_trail_of_reflTransGen hreach
    have hlink : profiles.Trail (.scalar last) [(last, profile)] (.scalar missing) :=
      .pass hlast hprofile (hbase ▸ .stay _)
    have htrail := hbefore.append hlink
    have hend := fun passed => Profiles.halts_of_not_knows hnone passed
    have hfresh : missing ∉ (before ++ [(last, profile)]).map Prod.fst := by
      intro hpassed
      obtain ⟨link, hmem, rfl⟩ := List.mem_map.1 hpassed
      exact hnone ⟨link.2, htrail.get?_of_mem link hmem⟩
    rw [chain, chainFrom_eq_ending htrail (htrail.nodup (hend [])) (hend _)
      (Profiles.leadsByText_of_isText hmissing) (Nat.le_refl _), ending, if_neg hfresh,
      List.getLast?_concat]
    · exact congrArg Except.error (unknownBaseFault_of_isText hlast hmissing)
    · rintro rfl
      cases hmissing

/-- A table comes back to a profile exactly if following bases goes around. -/
theorem exists_cycle_iff (hplain : profiles.Plain) (hname : name.isText = true) :
    (∃ names, resolve profiles name = .error (.cycle names)) ↔
      ∃ other, ReflTransGen profiles.Extends name other ∧
        TransGen profiles.Extends other other := by
  simp only [resolve_eq_error_iff hplain hname]
  constructor
  · rintro ⟨names, hchain⟩
    rcases chain_cases hplain hname with
      ⟨_, _, hends⟩ | ⟨_, hends⟩ | ⟨_, _, _, _, _, _, _, hends⟩ |
        ⟨links, again, htrail, hmem, hends⟩
    all_goals
      rw [hends] at hchain
      cases hchain
    have hagain := htrail.isText_of_mem again hmem
    obtain ⟨⟨_, profile⟩, hlink, rfl⟩ := List.mem_map.1 hmem
    obtain ⟨before, after, rfl⟩ := List.append_of_mem hlink
    obtain ⟨v, hbefore, haround⟩ := htrail.exists_of_append
    obtain ⟨other, hother, rfl⟩ := haround.exists_text hagain
    have hround := haround.transGen hagain (by simp)
    cases haround with
    | pass => exact ⟨_, hbefore.reflTransGen hother rfl, hround⟩
  · rintro ⟨other, hreach, haround⟩
    have hlost : ∀ {links w}, profiles.Trail (.scalar name) links w → ¬ profiles.Halts [] w :=
      fun htrail hend => htrail.not_transGen hend hreach haround
    rcases chain_cases hplain hname with
      ⟨_, hdescent, _⟩ | ⟨hnone, _⟩ | ⟨_, _, _, _, htrail, _, hnone, _⟩ | ⟨_, _, _, _, hends⟩
    · exact absurd Profiles.halts_null
        (hlost ((Profiles.descent_iff_trail hname).1 hdescent))
    · exact absurd (Profiles.halts_of_not_knows hnone []) (hlost (.stay _))
    · exact absurd (Profiles.halts_of_not_knows hnone []) (hlost htrail)
    · exact ⟨_, hends⟩

/-- Where bases are texts and rows are lists, what is resolved does not depend on the bound of its
steps, and it is a table or a fault that is reported.  The table of a name that is no profile is
empty, that of a profile that extends nothing is its own rows, and that of a profile over another
one is that one's table and then its own rows.  The base of a profile is unknown exactly if
following bases comes to a name that is no profile, and there is a cycle exactly if it goes
around. -/
theorem resolve_follows_bases (hplain : profiles.Plain) (hname : name.isText = true) :
    (∀ steps, profiles.length ≤ steps →
      chainFrom profiles steps [] [] (.scalar name) = chain profiles name) ∧
    ((∃ rows, resolve profiles name = .ok rows) ∨
      ∃ fault, resolve profiles name = .error fault ∧ fault.isReported = true) ∧
    (¬ profiles.Knows name → resolve profiles name = .ok []) ∧
    (∀ profile, Entries.get? name profiles = some (.dict profile) →
      (base profile = .null → resolve profiles name = .ok (writtenRows profile)) ∧
      ∀ other : Scalar, other.isText = true → base profile = .scalar other →
        profiles.Knows other →
          ∀ rows, resolve profiles name = .ok rows ↔
            ∃ under, resolve profiles other = .ok under ∧ rows = under ++ writtenRows profile) ∧
    (∀ last missing, resolve profiles name = .error (.unknownBase last missing) ↔
      ReflTransGen profiles.Extends name last ∧ profiles.Extends last missing ∧
        ¬ profiles.Knows missing) ∧
    ((∃ names, resolve profiles name = .error (.cycle names)) ↔
      ∃ other, ReflTransGen profiles.Extends name other ∧
        TransGen profiles.Extends other other) := by
  refine ⟨?bound, ?outcome, resolve_of_not_knows hname, fun profile hprofile =>
    ⟨resolve_of_root hplain hname hprofile, fun other htext hbase hother rows =>
      resolve_of_under hplain hname htext hprofile hbase hother⟩,
    fun last missing => resolve_eq_unknownBase_iff hplain hname, exists_cycle_iff hplain hname⟩
  case bound =>
    obtain ⟨links, v, _, _, _, _, hending⟩ := exists_chain hplain.linked hname
    intro steps hsteps
    rw [chain, hending steps hsteps, hending _ (Nat.le_refl _)]
  case outcome =>
    cases hresolve : resolve profiles name with
    | ok rows => exact Or.inl ⟨rows, rfl⟩
    | error fault => exact Or.inr ⟨fault, rfl, isReported_of_resolve hplain hname hresolve⟩

end Profile

namespace ResolvingWitness

/-- A profile over a shared base, one over a base that is missing, and one that comes into a cycle
without being in it. -/
def configuration : Profiles := [
  Bundled.profile "_base" [Bundled.need "type" "event.type"],
  Bundled.extension "erp_sap" "_base" [Bundled.move "id" "event.id"],
  Bundled.extension "_lost" "_missing" [],
  Bundled.extension "webhook_slack" "_a" [],
  Bundled.extension "_a" "_b" [],
  Bundled.extension "_b" "_a" []]

theorem plain_configuration : configuration.Plain := by
  have hall : ∀ entry ∈ configuration, ∀ profile, entry.2 = .dict profile →
      (Profile.base profile).isTextOrNull = true ∧
      ∃ rows, Entries.get? (.string "mappings") profile = some (.list rows) := by
    simp only [configuration, List.forall_mem_cons]
    refine ⟨?_, ?_, ?_, ?_, ?_, ?_, by simp⟩ <;>
    · rintro _ ⟨⟩
      exact ⟨rfl, _, rfl⟩
  refine ⟨fun key profile hmem => (hall _ hmem profile rfl).1, fun key profile hmem v hget => ?_⟩
  obtain ⟨_, rows, hrows⟩ := hall _ hmem profile rfl
  rw [hrows] at hget
  exact Or.inr ⟨rows, (Option.some.inj hget).symm⟩

theorem resolve_follows_bases_to_three_ends :
    configuration.Plain ∧
    Profile.resolve configuration (.string "erp_sap") =
      .ok [Bundled.need "type" "event.type", Bundled.move "id" "event.id"] ∧
    Profile.resolve configuration (.string "_lost") =
      .error (.unknownBase (.string "_lost") (.string "_missing")) ∧
    ∃ names, Profile.resolve configuration (.string "webhook_slack") = .error (.cycle names) := by
  have hfollows (name : String) := Profile.resolve_follows_bases plain_configuration
    (rfl : (Scalar.string name).isText = true)
  obtain ⟨_, _, _, hsap, _, _⟩ := hfollows "erp_sap"
  obtain ⟨_, _, _, hbase, _, _⟩ := hfollows "_base"
  obtain ⟨_, _, _, _, hlost, _⟩ := hfollows "_lost"
  obtain ⟨_, _, _, _, _, hslack⟩ := hfollows "webhook_slack"
  refine ⟨plain_configuration, ?_, ?_, ?_⟩
  · obtain ⟨_, hunder⟩ := hsap _ rfl
    obtain ⟨hroot, _⟩ := hbase _ rfl
    exact (hunder (.string "_base") rfl rfl ⟨_, rfl⟩ _).2 ⟨_, hroot rfl, rfl⟩
  · have hknows : ¬ configuration.Knows (.string "_missing") := by
      rintro ⟨_, hmissing⟩
      cases hmissing
    exact (hlost _ _).2 ⟨.refl, ⟨rfl, rfl, _, rfl, rfl⟩, hknows⟩
  · have hslackTo : configuration.Extends (.string "webhook_slack") (.string "_a") :=
      ⟨rfl, rfl, _, rfl, rfl⟩
    have hforth : configuration.Extends (.string "_a") (.string "_b") := ⟨rfl, rfl, _, rfl, rfl⟩
    have hback : configuration.Extends (.string "_b") (.string "_a") := ⟨rfl, rfl, _, rfl, rfl⟩
    exact hslack.2 ⟨.string "_a", .single hslackTo, .tail (.single hforth) hback⟩

end ResolvingWitness

end EventIntake
