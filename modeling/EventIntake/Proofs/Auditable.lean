/-
What can be audited.  An audit comes to an end exactly if what it looks at can be named: keys are
texts, transforms and bases are scalars, numbers in messages have not too many digits, and the
profiles that one extends give their rows in a row.
-/
import EventIntake.Mapping.Audit
import EventIntake.Proofs.Chain

namespace EventIntake

/-- A row can be audited: its keys are texts, and its transform is a scalar that can be told. -/
structure Row.Auditable (row : Entries) : Prop where
  keys : ∀ member ∈ row, member.1.isText = true
  transformation : ∀ v, Entries.get? (.string "transformation") row = some v →
    ∃ s, v = .scalar s ∧ s.isTooLong = false

/-- A profile can be audited under a name: the name and the keys are texts, rows in a list can be
audited, and the base can be told if it leads to no profile. -/
structure Profile.Auditable (profiles : Profiles) (name : Scalar) (profile : Entries) : Prop where
  name : name.isText = true
  keys : ∀ member ∈ profile, member.1.isText = true
  rows : ∀ rows, Entries.get? (.string "mappings") profile = some (.list rows) →
    ∀ row, .dict row ∈ rows → Row.Auditable row
  base : Profile.HasTellableBase profiles profile

structure Profiles.Auditable (profiles : Profiles) : Prop where
  profile : ∀ name profile, (name, .dict profile) ∈ profiles →
    Profile.Auditable profiles name profile
  /-- The name of what is no profile can be told. -/
  other : ∀ name v, (name, v) ∈ profiles → (∀ profile, v ≠ .dict profile) →
    name.isTooLong = false
  /-- The profiles on the descent from one that extends another give their rows in a row. -/
  rows : ∀ name profile, (name, .dict profile) ∈ profiles → Profile.base profile ≠ .null →
    Profile.GivesRows profiles name

theorem Profiles.Auditable.linked {profiles : Profiles} (hauditable : profiles.Auditable) :
    profiles.Linked :=
  linked_of_named fun name profile hmem => (hauditable.profile name profile hmem).name

theorem Profiles.Auditable.hasTellableBase {profiles : Profiles} (hauditable : profiles.Auditable) :
    ∀ name profile, (name, .dict profile) ∈ profiles → Profile.HasTellableBase profiles profile :=
  fun name profile hmem => (hauditable.profile name profile hmem).base

namespace Audit

section

variable {α : Type} {entries : Entries}

/-- Keys can be told in order exactly if they are texts. -/
theorem exists_orderedNames_iff {keys : List Scalar} :
    (∃ names, orderedNames keys = .ok names) ↔ ∀ key ∈ keys, key.isText = true := by
  rw [← List.all_eq_true]
  constructor
  · rintro ⟨names, hordered⟩
    simp only [orderedNames] at hordered
    split at hordered
    next htexts => exact htexts
    next hother =>
      -- No keys are all texts, and what is said of others is a fault.
      split at hordered
      next => cases hordered
      next => split at hordered <;> cases hordered
      next => exact absurd rfl hother
  · intro htexts
    exact ⟨_, if_pos htexts⟩

theorem exists_keyIssues_iff {issue : List String → α} {keys : List Scalar} :
    (∃ issues, keyIssues issue keys = .ok issues) ↔ ∀ key ∈ keys, key.isText = true := by
  rw [← exists_orderedNames_iff]
  cases keys with
  | nil => exact iff_of_true ⟨[], rfl⟩ ⟨_, rfl⟩
  | cons key rest => simp [keyIssues, Except.map_eq_ok_iff]

/-- Keys that are not texts are unknown, whatever the names are. -/
theorem exists_unknownKeys_iff {issue : List String → α} {names : List String} :
    (∃ issues, keyIssues issue (unknownKeys names entries) = .ok issues) ↔
      ∀ member ∈ entries, member.1.isText = true := by
  rw [exists_keyIssues_iff]
  constructor
  · intro htexts member hmember
    by_contra hother
    have hunknown : member.1 ∈ unknownKeys names entries := by
      refine List.mem_filter.2 ⟨List.mem_map_of_mem hmember, ?_⟩
      rw [Bool.not_eq_true', List.any_eq_false]
      intro name _ hsame
      rw [Scalar.same_string, decide_eq_true_iff] at hsame
      exact hother (hsame ▸ rfl)
    exact hother (htexts _ hunknown)
  · intro htexts key hkey
    obtain ⟨member, hmember, rfl⟩ := List.mem_map.1 (List.mem_filter.1 hkey).1
    exact htexts member hmember

theorem exists_transformIssues_iff :
    (∃ issues, transformIssues entries = .ok issues) ↔
      ∀ v, Entries.get? (.string "transformation") entries = some v →
        ∃ s, v = .scalar s ∧ s.isTooLong = false := by
  unfold transformIssues
  split
  next hget => simp [hget]
  next hget => simp [hget, Scalar.isTooLong]
  next name hget => simp [hget, Scalar.isTooLong]
  next s _ _ hget => cases hlong : s.isTooLong <;> simp [hget, hlong]
  next v _ _ hscalar hget =>
    refine iff_of_false (by simp) fun htransformation => ?_
    obtain ⟨s, heq, _⟩ := htransformation v hget
    exact hscalar s heq

/-- What is wrong with a row is told exactly if it can be audited, or is no row. -/
theorem exists_rowIssues_iff {row : Value} :
    (∃ issues, rowIssues row = .ok issues) ↔ ∀ entries, row = .dict entries →
      Row.Auditable entries := by
  unfold rowIssues
  split
  next entries =>
    rw [Except.exists_bind_eq_ok_iff fun _ => Except.exists_bind_pure_eq_ok_iff,
      exists_unknownKeys_iff, exists_transformIssues_iff]
    constructor
    · rintro ⟨hkeys, htransformation⟩ _ ⟨⟩
      exact ⟨hkeys, htransformation⟩
    · intro haudited
      exact ⟨(haudited entries rfl).keys, (haudited entries rfl).transformation⟩
  next hother => exact iff_of_true ⟨_, rfl⟩ fun entries heq => absurd heq (hother entries)

theorem exists_rowListIssues_iff {profile : String} {index : Nat} {rows : List Value} :
    (∃ issues, rowListIssues profile index rows = .ok issues) ↔
      ∀ row, .dict row ∈ rows → Row.Auditable row := by
  induction rows generalizing index with
  | nil => exact iff_of_true ⟨[], rfl⟩ (by simp)
  | cons row rest ih =>
      rw [rowListIssues, Except.exists_bind_eq_ok_iff fun _ => Except.exists_bind_pure_eq_ok_iff,
        exists_rowIssues_iff, ih]
      simp only [List.mem_cons, or_imp, forall_and, eq_comm]

theorem exists_rowsIssues_iff {profile : String} :
    (∃ issues, rowsIssues profile entries = .ok issues) ↔
      ∀ rows, Entries.get? (.string "mappings") entries = some (.list rows) →
        ∀ row, .dict row ∈ rows → Row.Auditable row := by
  unfold rowsIssues
  split
  next rows hget => simp [hget, exists_rowListIssues_iff]
  next hother => exact iff_of_true ⟨_, rfl⟩ fun rows hget => absurd hget (hother rows)

theorem exists_nameIssues_iff {name : Scalar} :
    (∃ issues, nameIssues name = .ok issues) ↔ name.isText = true := by
  cases name <;> simp [nameIssues, Scalar.isText]

/-- What is wrong with the base of a profile is told if there is none, if it is missing and can be
told, or if it is there and the table over it is resolved or reported. -/
theorem exists_baseIssues_iff {profiles : Profiles} {name : Scalar} :
    (∃ issues, baseIssues profiles name entries = .ok issues) ↔
      ∃ key, Profile.base entries = .scalar key ∧ (key ≠ .null →
        if Entries.has key profiles = true then
          ∀ fault, Profile.resolve profiles name = .error fault → fault.isReported = true
        else name.isTooLong = false ∧ key.isTooLong = false) := by
  unfold baseIssues
  split
  next hbase => simp [hbase]
  next key hnull hbase =>
    have hne : key ≠ .null := hnull
    by_cases hhas : Entries.has key profiles = true
    · rw [if_pos hhas]
      cases hresolve : Profile.resolve profiles name with
      | ok rows => simp [hbase, hhas]
      | error fault => cases hreported : fault.isReported <;> simp [hbase, hne, hhas, hreported]
    · rw [if_neg hhas]
      cases hname : name.isTooLong <;> cases hkey : key.isTooLong <;>
        simp [hbase, hne, hhas, hkey]
  next hnull hscalar =>
    refine iff_of_false (by simp) ?_
    rintro ⟨key, hbase, _⟩
    exact hscalar key hbase

/-- What is wrong with a profile is told exactly if its name, its keys, its rows and its base can
be. -/
theorem exists_profileIssues_iff {profiles : Profiles} {name : Scalar} {profile : Entries} :
    (∃ issues, profileIssues profiles name (.dict profile) = .ok issues) ↔
      name.isText = true ∧ (∀ member ∈ profile, member.1.isText = true) ∧
      (∀ rows, Entries.get? (.string "mappings") profile = some (.list rows) →
        ∀ row, .dict row ∈ rows → Row.Auditable row) ∧
      ∃ issues, baseIssues profiles name profile = .ok issues := by
  rw [profileIssues, Except.exists_bind_eq_ok_iff fun _ => Except.exists_bind_eq_ok_iff fun _ =>
    Except.exists_bind_eq_ok_iff fun _ => Except.exists_bind_pure_eq_ok_iff,
    exists_nameIssues_iff, exists_unknownKeys_iff, exists_rowsIssues_iff]

theorem exists_profileIssues_of_not_dict {profiles : Profiles} {name : Scalar} {v : Value}
    (hother : ∀ profile, v ≠ .dict profile) :
    (∃ issues, profileIssues profiles name v = .ok issues) ↔ name.isTooLong = false := by
  cases v with
  | dict profile => exact absurd rfl (hother profile)
  | scalar s => cases hlong : name.isTooLong <;> simp [profileIssues, hlong]
  | list items => cases hlong : name.isTooLong <;> simp [profileIssues, hlong]

theorem exists_profileListIssues_iff {profiles : Profiles} :
    (∃ issues, profileListIssues profiles entries = .ok issues) ↔
      ∀ entry ∈ entries, ∃ issues, profileIssues profiles entry.1 entry.2 = .ok issues := by
  induction entries with
  | nil => exact iff_of_true ⟨[], rfl⟩ (by simp)
  | cons entry rest ih =>
      rw [List.forall_mem_cons, ← ih, profileListIssues,
        Except.exists_bind_eq_ok_iff fun _ => Except.exists_bind_pure_eq_ok_iff]

end

variable {profiles : Profiles}

/-- Where a base has been looked at, it can be told if it leads to no profile. -/
theorem hasTellableBase_of_baseIssues (hdistinct : Entries.Distinct profiles) {name : Scalar}
    {profile : Entries} (hmem : (name, .dict profile) ∈ profiles) (hname : name.isText = true)
    (hbase : ∃ issues, baseIssues profiles name profile = .ok issues) :
    Profile.HasTellableBase profiles profile := by
  obtain ⟨key, hkey, hlooked⟩ := exists_baseIssues_iff.1 hbase
  refine ⟨key, hkey, fun hnone => ?_⟩
  by_cases hnull : key = .null
  · rw [hnull]
    rfl
  have hlooked := hlooked hnull
  split at hlooked
  next =>
    have hget := Entries.get?_text_of_mem hname hdistinct hmem
    have hchain := Profile.chain_of_unknown_base hname hget hkey hnull hnone
    have hreported := hlooked (Profile.unknownBaseFault name key) (by
      rw [Profile.resolve, hchain]
      rfl)
    rw [Profile.unknownBaseFault] at hreported
    cases hlong : key.isTooLong with
    | false => rfl
    | true =>
        rw [hlong, Bool.or_true] at hreported
        cases hreported
  next => exact hlooked.2

theorem exists_run_iff_forall :
    (∃ issues, run profiles = .ok issues) ↔
      ∀ entry ∈ profiles, ∃ issues, profileIssues profiles entry.1 entry.2 = .ok issues := by
  rw [← exists_profileListIssues_iff]
  exact Except.exists_bind_pure_eq_ok_iff

theorem auditable_of_run (hdistinct : Entries.Distinct profiles)
    (hrun : ∃ issues, run profiles = .ok issues) : profiles.Auditable := by
  have hentries := exists_run_iff_forall.1 hrun
  have hprofiles := fun name profile (hmem : (name, .dict profile) ∈ profiles) =>
    exists_profileIssues_iff.1 (hentries (name, .dict profile) hmem)
  have hlinked : profiles.Linked :=
    Profiles.linked_of_named fun name profile hmem => (hprofiles name profile hmem).1
  have hbases : ∀ name profile, (name, .dict profile) ∈ profiles →
      Profile.HasTellableBase profiles profile := by
    intro name profile hmem
    obtain ⟨hname, _, _, hbase⟩ := hprofiles name profile hmem
    exact hasTellableBase_of_baseIssues hdistinct hmem hname hbase
  refine ⟨fun name profile hmem => ?profile, fun name v hmem hother => ?other,
    fun name profile hmem hnull links hdescent => ?rows⟩
  case profile =>
    obtain ⟨hname, hkeys, hrows, _⟩ := hprofiles name profile hmem
    exact ⟨hname, hkeys, hrows, hbases name profile hmem⟩
  case other => exact (exists_profileIssues_of_not_dict hother).1 (hentries (name, v) hmem)
  case rows =>
    obtain ⟨hname, _, _, hbase⟩ := hprofiles _ profile hmem
    obtain ⟨key, hkey, hlooked⟩ := exists_baseIssues_iff.1 hbase
    have hne : key ≠ .null := by
      rintro rfl
      exact hnull hkey
    have hget := Entries.get?_text_of_mem hname hdistinct hmem
    have hreported := hlooked hne
    rw [if_pos (hdescent.has_base hget hkey hne)] at hreported
    exact (Profile.resolve_reported_iff hlinked hname hbases).1 hreported links hdescent

theorem exists_run_of_auditable (hauditable : profiles.Auditable) :
    ∃ issues, run profiles = .ok issues := by
  refine exists_run_iff_forall.2 fun ⟨name, v⟩ hentry => ?_
  by_cases hdict : ∃ profile, v = .dict profile
  · obtain ⟨profile, rfl⟩ := hdict
    obtain ⟨hname, hkeys, hrows, key, hkey, htold⟩ := hauditable.profile name profile hentry
    refine exists_profileIssues_iff.2 ⟨hname, hkeys, hrows,
      exists_baseIssues_iff.2 ⟨key, hkey, fun hnull => ?_⟩⟩
    split
    next =>
      refine (Profile.resolve_reported_iff hauditable.linked hname hauditable.hasTellableBase).2
        (hauditable.rows name profile hentry ?_)
      rw [hkey]
      rintro ⟨⟩
      exact hnull rfl
    next hmissing =>
      refine ⟨Scalar.isTooLong_of_isText hname, htold fun other hother => hmissing ?_⟩
      rw [Entries.has, hother]
      rfl
  · exact (exists_profileIssues_of_not_dict (not_exists.1 hdict)).2
      (hauditable.other name v hentry (not_exists.1 hdict))

/-- An audit comes to an end exactly if the configuration can be audited. -/
theorem exists_run_iff (hdistinct : Entries.Distinct profiles) :
    (∃ issues, run profiles = .ok issues) ↔ profiles.Auditable :=
  ⟨auditable_of_run hdistinct, exists_run_of_auditable⟩

end Audit

end EventIntake
