/-
What an audit accepts.  A configuration is well formed if each format that needs a profile has one,
profiles and their rows are written as they should be, and each profile is grounded.  An audit finds
nothing exactly in the configurations that are well formed.
-/
import EventIntake.Mapping.Bundled
import EventIntake.Proofs.Auditable

namespace EventIntake

/-- A row is written as it should be: under no other keys than those of rows, with two paths that
are more than blanks, and a built-in transform, a truth value and parameters where it has any. -/
structure Row.WellWritten (row : Entries) : Prop where
  keys : ∀ member ∈ row, ∃ key ∈ ["source_path", "target_path", "transformation", "required",
    "params"], member.1 = .string key
  source : ∃ path : Scalar, Entries.get? (.string "source_path") row = some (.scalar path) ∧
    path.isText = true ∧ ∃ p ∈ path.points, p.isBlank = false
  target : ∃ path : Scalar, Entries.get? (.string "target_path") row = some (.scalar path) ∧
    path.isText = true ∧ ∃ p ∈ path.points, p.isBlank = false
  transformation : Entries.get? (.string "transformation") row = none ∨
    Entries.get? (.string "transformation") row = some .null ∨
    ∃ builtin : Transform.Builtin,
      Entries.get? (.string "transformation") row = some (.string builtin.name)
  required : Entries.get? (.string "required") row = none ∨
    ∃ b, Entries.get? (.string "required") row = some (.bool b)
  params : Entries.get? (.string "params") row = none ∨
    Entries.get? (.string "params") row = some .null ∨
    ∃ params, Entries.get? (.string "params") row = some (.dict params)

/-- A profile is written as it should be: it has a list of rows that are. -/
structure Profile.WellWritten (profile : Entries) : Prop where
  keys : ∀ member ∈ profile, ∃ key ∈ ["extends", "mappings"], member.1 = .string key
  rows : ∃ rows, Entries.get? (.string "mappings") profile = some (.list rows) ∧
    ∀ row ∈ rows, ∃ entries, row = .dict entries ∧ Row.WellWritten entries

theorem Profile.WellWritten.exists_ownRows {profile : Entries}
    (hwritten : Profile.WellWritten profile) : ∃ own, Profile.ownRows profile = .ok own := by
  obtain ⟨rows, hrows, _⟩ := hwritten.rows
  exact ⟨rows, Profile.ownRows_of_list hrows⟩

structure Profiles.WellFormed (profiles : Profiles) : Prop where
  /-- Each format that is not generic has a profile. -/
  complete : ∀ format : Format, format.isGeneric = false →
    .string format.name ∈ profiles.map Prod.fst
  /-- Profiles are named for formats, or have a name that starts with an underscore. -/
  named : ∀ entry ∈ profiles, entry.1.isText = true ∧
    (entry.1.points.head? = some (.char '_') ∨ ∃ format : Format, entry.1 = .string format.name)
  written : ∀ entry ∈ profiles, ∃ profile, entry.2 = .dict profile ∧ Profile.WellWritten profile
  /-- The bases of each profile lead to one that extends nothing, over none that is unknown and none
  that has been passed. -/
  grounded : ∀ name ∈ profiles.map Prod.fst, profiles.Grounded name

/-- The keys of a row are texts, and its transform is a text or null; anything else is no row. -/
def Row.isTextual : Value → Bool
  | .dict row =>
    row.all (·.1.isText) &&
      ((Entries.get? (.string "transformation") row).getD .null).isTextOrNull
  | _ => true

/-- The keys of a profile are texts, its base is a text or null, and its rows are in a list if there
are any; anything else is no profile. -/
def Profile.isTextual : Value → Bool
  | .dict profile =>
    profile.all (·.1.isText) && (base profile).isTextOrNull &&
      match Entries.get? (.string "mappings") profile with
      | none => true
      | some (.list rows) => rows.all Row.isTextual
      | some _ => false
  | _ => true

/-- Profiles have distinct names, which are texts, and all that names something in them is a
text. -/
def Profiles.isTextual (profiles : Profiles) : Bool :=
  decide (profiles.map Prod.fst).Nodup &&
    profiles.all fun entry => entry.1.isText && Profile.isTextual entry.2

theorem Profiles.isTextual_iff {profiles : Profiles} :
    profiles.isTextual = true ↔ (profiles.map Prod.fst).Nodup ∧
      ∀ entry ∈ profiles, entry.1.isText = true ∧ Profile.isTextual entry.2 = true := by
  simp [Profiles.isTextual]

namespace Profile

theorem isTextual_dict_iff {profile : Entries} :
    isTextual (.dict profile) = true ↔
      (∀ member ∈ profile, member.1.isText = true) ∧ (base profile).isTextOrNull = true ∧
      (Entries.get? (.string "mappings") profile = none ∨
        ∃ rows, Entries.get? (.string "mappings") profile = some (.list rows) ∧
          ∀ row ∈ rows, Row.isTextual row = true) := by
  rw [isTextual, Bool.and_eq_true, Bool.and_eq_true, List.all_eq_true, and_assoc]
  cases hget : Entries.get? (.string "mappings") profile with
  | none => simp
  | some v =>
      cases v with
      | list rows => simp
      | _ => simp

theorem listsRows_of_isTextual {profile : Entries} (htextual : isTextual (.dict profile) = true) :
    ListsRows profile := by
  obtain ⟨_, _, habsent | ⟨rows, hrows, _⟩⟩ := isTextual_dict_iff.1 htextual
  · simp [ListsRows, habsent]
  · simp [ListsRows, hrows]

end Profile

theorem Row.auditable_of_isTextual {row : Entries} (htextual : isTextual (.dict row) = true) :
    Row.Auditable row := by
  rw [isTextual, Bool.and_eq_true, List.all_eq_true] at htextual
  refine ⟨htextual.1, fun v hget => ?_⟩
  have htransformation := htextual.2
  rw [hget] at htransformation
  rcases Value.isTextOrNull_iff.1 htransformation with rfl | ⟨text, htext, rfl⟩
  · exact ⟨.null, rfl, rfl⟩
  · exact ⟨text, rfl, Scalar.isTooLong_of_isText htext⟩

theorem Profile.auditable_of_isTextual {profiles : Profiles} {name : Scalar} {profile : Entries}
    (hname : name.isText = true) (htextual : isTextual (.dict profile) = true) :
    Profile.Auditable profiles name profile := by
  obtain ⟨hkeys, hbase, hrows⟩ := isTextual_dict_iff.1 htextual
  refine ⟨hname, hkeys, fun rows hget row hrow => ?_, ?_⟩
  · rcases hrows with habsent | ⟨_, hsame, htexts⟩
    · rw [habsent] at hget
      cases hget
    · rw [hget, Option.some.injEq, Value.list.injEq] at hsame
      exact Row.auditable_of_isTextual (htexts _ (hsame ▸ hrow))
  · rcases Value.isTextOrNull_iff.1 hbase with hnull | ⟨text, htext, hscalar⟩
    · exact ⟨.null, hnull, fun _ => rfl⟩
    · exact ⟨text, hscalar, fun _ => Scalar.isTooLong_of_isText htext⟩

theorem Profiles.auditable_of_isTextual {profiles : Profiles}
    (htextual : profiles.isTextual = true) : profiles.Auditable := by
  obtain ⟨_, htexts⟩ := isTextual_iff.1 htextual
  refine ⟨fun name profile hmem => ?_, fun name v hmem _ => ?_,
    fun name _ _ _ links hdescent link hlink => ?_⟩
  · exact Profile.auditable_of_isTextual (htexts _ hmem).1 (htexts _ hmem).2
  · exact Scalar.isTooLong_of_isText (htexts _ hmem).1
  · have hmem := ((descent_iff_trail hdescent.isText).1 hdescent).mem_profiles link hlink
    exact ⟨_, Profile.ownRows_of_listsRows (Profile.listsRows_of_isTextual (htexts _ hmem).2)⟩

namespace Audit

section

variable {ε α : Type}

theorem append_eq_ok_nil_iff {first second : Except ε (List α)} :
    (do let here ← first; let others ← second; return here ++ others) = .ok [] ↔
      first = .ok [] ∧ second = .ok [] := by
  constructor
  · intro hboth
    obtain ⟨here, hfirst, hrest⟩ := Except.bind_eq_ok_iff.1 hboth
    obtain ⟨others, hsecond, happend⟩ := Except.bind_eq_ok_iff.1 hrest
    obtain ⟨rfl, rfl⟩ := List.append_eq_nil_iff.1 (Except.ok.inj happend)
    exact ⟨hfirst, hsecond⟩
  · rintro ⟨rfl, rfl⟩
    rfl

theorem keyIssues_eq_ok_nil_iff {issue : List String → α} {keys : List Scalar} :
    keyIssues issue keys = .ok [] ↔ keys = [] := by
  cases keys with
  | nil => simp [keyIssues]
  | cons key rest => simp [keyIssues, Except.map_eq_ok_iff]

end

section

variable {entries : Entries}

theorem unknownKeys_eq_nil_iff {names : List String} :
    unknownKeys names entries = [] ↔
      ∀ member ∈ entries, ∃ name ∈ names, member.1 = .string name := by
  simp [unknownKeys, Scalar.same_string]

theorem pathIssues_eq_nil_iff {key : String} :
    pathIssues entries key = [] ↔
      ∃ path : Scalar, Entries.get? (.string key) entries = some (.scalar path) ∧
        path.isText = true ∧ ∃ p ∈ path.points, p.isBlank = false := by
  unfold pathIssues
  split
  next path hget => simp [hget]
  next hother =>
    refine iff_of_false (by simp) ?_
    rintro ⟨path, hget, _⟩
    exact hother path hget

theorem transformIssues_eq_ok_nil_iff :
    transformIssues entries = .ok [] ↔
      Entries.get? (.string "transformation") entries = none ∨
      Entries.get? (.string "transformation") entries = some .null ∨
      ∃ builtin : Transform.Builtin,
        Entries.get? (.string "transformation") entries = some (.string builtin.name) := by
  unfold transformIssues
  split
  next hget => simp [hget]
  next hget => simp [hget]
  next name hget =>
    simp [hget, Option.isSome_iff_exists, Transform.Builtin.ofName?_eq_some_iff]
  next s _ _ hget => cases hlong : s.isTooLong <;> simp_all
  next => simp_all

theorem requiredIssues_eq_nil_iff :
    requiredIssues entries = [] ↔ Entries.get? (.string "required") entries = none ∨
      ∃ b, Entries.get? (.string "required") entries = some (.bool b) := by
  unfold requiredIssues
  split
  next hget => simp [hget]
  next hget => simp [hget]
  next => simp_all

theorem paramsIssues_eq_nil_iff :
    paramsIssues entries = [] ↔ Entries.get? (.string "params") entries = none ∨
      Entries.get? (.string "params") entries = some .null ∨
      ∃ params, Entries.get? (.string "params") entries = some (.dict params) := by
  unfold paramsIssues
  split
  next hget => simp [hget]
  next hget => simp [hget]
  next hget => simp [hget]
  next => simp_all

end

/-- Nothing is wrong with a row exactly if it is well written. -/
theorem rowIssues_eq_ok_nil_iff {row : Value} :
    rowIssues row = .ok [] ↔ ∃ entries, row = .dict entries ∧ Row.WellWritten entries := by
  unfold rowIssues
  split
  next entries =>
    constructor
    · intro hrow
      obtain ⟨keys, hkeys, hrest⟩ := Except.bind_eq_ok_iff.1 hrow
      obtain ⟨transform, htransform, hnone⟩ := Except.bind_eq_ok_iff.1 hrest
      simp only [pure, Except.pure, Except.ok.injEq, List.append_eq_nil_iff] at hnone
      obtain ⟨⟨⟨⟨⟨rfl, hsource⟩, htarget⟩, rfl⟩, hrequired⟩, hparams⟩ := hnone
      exact ⟨entries, rfl, unknownKeys_eq_nil_iff.1 (keyIssues_eq_ok_nil_iff.1 hkeys),
        pathIssues_eq_nil_iff.1 hsource, pathIssues_eq_nil_iff.1 htarget,
        transformIssues_eq_ok_nil_iff.1 htransform, requiredIssues_eq_nil_iff.1 hrequired,
        paramsIssues_eq_nil_iff.1 hparams⟩
    · rintro ⟨_, heq, hwritten⟩
      cases heq
      have hkeys : unknownKeys rowKeys entries = [] := unknownKeys_eq_nil_iff.2 hwritten.keys
      rw [keyIssues_eq_ok_nil_iff.2 hkeys, transformIssues_eq_ok_nil_iff.2 hwritten.transformation,
        pathIssues_eq_nil_iff.2 hwritten.source, pathIssues_eq_nil_iff.2 hwritten.target,
        requiredIssues_eq_nil_iff.2 hwritten.required, paramsIssues_eq_nil_iff.2 hwritten.params]
      rfl
  next v hother =>
    refine iff_of_false (by simp) ?_
    rintro ⟨entries, rfl, _⟩
    exact hother entries rfl

theorem rowListIssues_eq_ok_nil_iff {profile : String} {index : Nat} {rows : List Value} :
    rowListIssues profile index rows = .ok [] ↔
      ∀ row ∈ rows, ∃ entries, row = .dict entries ∧ Row.WellWritten entries := by
  induction rows generalizing index with
  | nil => simp [rowListIssues]
  | cons row rest ih =>
      have hlater : rowListIssues profile (index + 1) rest = .ok [] ↔
          ∀ row ∈ rest, ∃ entries, row = .dict entries ∧ Row.WellWritten entries := ih
      rw [List.forall_mem_cons, ← hlater, ← rowIssues_eq_ok_nil_iff, rowListIssues]
      constructor
      · intro hrows
        obtain ⟨here, hhere, hrest⟩ := Except.bind_eq_ok_iff.1 hrows
        obtain ⟨others, hothers, hnone⟩ := Except.bind_eq_ok_iff.1 hrest
        simp only [pure, Except.pure, Except.ok.injEq, List.append_eq_nil_iff,
          List.map_eq_nil_iff] at hnone
        obtain ⟨rfl, rfl⟩ := hnone
        exact ⟨hhere, hothers⟩
      · rintro ⟨hhere, hothers⟩
        rw [hhere, hothers]
        rfl

theorem nameIssues_eq_ok_nil_iff {name : Scalar} :
    nameIssues name = .ok [] ↔ name.isText = true ∧
      (name.points.head? = some (.char '_') ∨ ∃ format : Format, name = .string format.name) := by
  unfold nameIssues
  split
  next text => simp [Scalar.isText, Scalar.points, Format.mem_names_iff, or_iff_not_imp_left]
  next text => simp [Scalar.isText, Scalar.points]
  next hstring hhalved =>
    refine iff_of_false (by simp) ?_
    rintro ⟨htext, _⟩
    cases name with
    | string text => exact hstring text rfl
    | halved text => exact hhalved text rfl
    | _ => cases htext

theorem rowsIssues_eq_ok_nil_iff {profile : String} {entries : Entries} :
    rowsIssues profile entries = .ok [] ↔
      ∃ rows, Entries.get? (.string "mappings") entries = some (.list rows) ∧
        ∀ row ∈ rows, ∃ entries, row = .dict entries ∧ Row.WellWritten entries := by
  unfold rowsIssues
  split
  next rows hget => simp [hget, rowListIssues_eq_ok_nil_iff]
  next hother =>
    refine iff_of_false (by simp) ?_
    rintro ⟨rows, hget, _⟩
    exact hother rows hget

/-- The base of a profile has no issue exactly if there is none, or it is a profile and the table
over it can be resolved. -/
theorem baseIssues_eq_ok_nil_iff {profiles : Profiles} {name : Scalar} {entries : Entries} :
    baseIssues profiles name entries = .ok [] ↔
      Profile.base entries = .null ∨
      ∃ key, Profile.base entries = .scalar key ∧ Entries.has key profiles = true ∧
        ∃ rows, Profile.resolve profiles name = .ok rows := by
  unfold baseIssues
  split
  next hbase => simp [hbase]
  next key hnull hbase =>
    have hne : key ≠ .null := hnull
    by_cases hhas : Entries.has key profiles = true
    · rw [if_pos hhas]
      cases hresolve : Profile.resolve profiles name with
      | ok rows => simp [hbase, hhas]
      | error fault => cases hreported : fault.isReported <;> simp [hbase, hne, hreported]
    · rw [if_neg hhas]
      cases hlong : name.isTooLong || key.isTooLong <;> simp [hbase, hne, hhas]
  next hnull hscalar =>
    refine iff_of_false (by simp) ?_
    rintro (hbase | ⟨key, hbase, _⟩)
    · exact hnull hbase
    · exact hscalar key hbase

theorem profileIssues_eq_ok_nil_iff {profiles : Profiles} {name : Scalar} {profile : Value} :
    profileIssues profiles name profile = .ok [] ↔ ∃ entries, profile = .dict entries ∧
      nameIssues name = .ok [] ∧ Profile.WellWritten entries ∧
      baseIssues profiles name entries = .ok [] := by
  unfold profileIssues
  split
  next entries =>
    constructor
    · intro hprofile
      obtain ⟨naming, hnaming, hrest⟩ := Except.bind_eq_ok_iff.1 hprofile
      obtain ⟨keys, hkeys, hrest⟩ := Except.bind_eq_ok_iff.1 hrest
      obtain ⟨rows, hrows, hrest⟩ := Except.bind_eq_ok_iff.1 hrest
      obtain ⟨base, hbase, hnone⟩ := Except.bind_eq_ok_iff.1 hrest
      simp only [pure, Except.pure, Except.ok.injEq, List.append_eq_nil_iff] at hnone
      obtain ⟨⟨⟨rfl, rfl⟩, rfl⟩, rfl⟩ := hnone
      exact ⟨entries, rfl, hnaming,
        ⟨unknownKeys_eq_nil_iff.1 (keyIssues_eq_ok_nil_iff.1 hkeys),
          rowsIssues_eq_ok_nil_iff.1 hrows⟩, hbase⟩
    · rintro ⟨_, heq, hnaming, hwritten, hbase⟩
      cases heq
      have hkeys : unknownKeys profileKeys entries = [] := unknownKeys_eq_nil_iff.2 hwritten.keys
      rw [hnaming, keyIssues_eq_ok_nil_iff.2 hkeys, rowsIssues_eq_ok_nil_iff.2 hwritten.rows,
        hbase]
      rfl
  next v hother =>
    refine iff_of_false (by cases name.isTooLong <;> simp) ?_
    rintro ⟨entries, rfl, _⟩
    exact hother entries rfl

theorem profileListIssues_eq_ok_nil_iff {profiles : Profiles} {entries : Entries} :
    profileListIssues profiles entries = .ok [] ↔
      ∀ entry ∈ entries, profileIssues profiles entry.1 entry.2 = .ok [] := by
  induction entries with
  | nil => simp [profileListIssues]
  | cons entry rest ih =>
      obtain ⟨name, profile⟩ := entry
      rw [profileListIssues, append_eq_ok_nil_iff, ih, List.forall_mem_cons]

theorem missingProfiles_eq_nil_iff {profiles : Profiles} :
    missingProfiles profiles = [] ↔ ∀ format : Format, format.isGeneric = false →
      .string format.name ∈ profiles.map Prod.fst := by
  have hhas : ∀ format : Format, Entries.has (.string format.name) profiles = true ↔
      .string format.name ∈ profiles.map Prod.fst := fun _ => Entries.has_text_iff rfl
  simp [missingProfiles, Format.mem_all, hhas]

/-- What an audit without findings has looked at. -/
theorem run_eq_ok_nil_iff {profiles : Profiles} :
    run profiles = .ok [] ↔
      (∀ format : Format, format.isGeneric = false →
        .string format.name ∈ profiles.map Prod.fst) ∧
      ∀ entry ∈ profiles, profileIssues profiles entry.1 entry.2 = .ok [] := by
  rw [run, ← profileListIssues_eq_ok_nil_iff, ← missingProfiles_eq_nil_iff]
  constructor
  · intro hrun
    obtain ⟨found, hfound, hnone⟩ := Except.bind_eq_ok_iff.1 hrun
    obtain ⟨hmissing, rfl⟩ := List.append_eq_nil_iff.1 (Except.ok.inj hnone)
    exact ⟨hmissing, hfound⟩
  · rintro ⟨hmissing, hfound⟩
    rw [hmissing, hfound]
    rfl

variable {profiles : Profiles}

theorem isText_of_run (hrun : run profiles = .ok []) :
    ∀ entry ∈ profiles, entry.1.isText = true := by
  intro entry hentry
  have hentry := (run_eq_ok_nil_iff.1 hrun).2 entry hentry
  obtain ⟨_, _, hname, _, _⟩ := profileIssues_eq_ok_nil_iff.1 hentry
  exact (nameIssues_eq_ok_nil_iff.1 hname).1

theorem linked_of_run (hrun : run profiles = .ok []) : profiles.Linked :=
  Profiles.linked_of_named fun _ _ hmem => isText_of_run hrun _ hmem

theorem wellWritten_of_run (hrun : run profiles = .ok []) {key : Scalar} {profile : Entries}
    (hmem : (key, .dict profile) ∈ profiles) : Profile.WellWritten profile := by
  obtain ⟨_, heq, _, hwritten, _⟩ :=
    profileIssues_eq_ok_nil_iff.1 ((run_eq_ok_nil_iff.1 hrun).2 _ hmem)
  cases heq
  exact hwritten

/-- Without findings, what stands under the name of a profile is one that is grounded. -/
theorem grounded_of_run (hrun : run profiles = .ok []) {name : Scalar} {v : Value}
    (hname : name.isText = true) (hget : Entries.get? name profiles = some v) :
    ∃ profile, v = .dict profile ∧ profiles.Grounded name := by
  obtain ⟨profile, rfl, _, _, hbase⟩ := profileIssues_eq_ok_nil_iff.1
    ((run_eq_ok_nil_iff.1 hrun).2 _ (Entries.mem_of_get?_text hname hget))
  refine ⟨profile, rfl, ?_⟩
  rcases baseIssues_eq_ok_nil_iff.1 hbase with hnull | ⟨_, _, _, rows, hresolve⟩
  · exact ⟨[(name, profile)], .root hname hget hnull, by simp⟩
  · obtain ⟨found, hchain, _⟩ := Except.bind_eq_ok_iff.1 hresolve
    exact (Profile.exists_chain_iff (linked_of_run hrun) hname hget).1 ⟨found, hchain⟩

/-- A configuration without findings is well formed. -/
theorem wellFormed_of_run (hrun : run profiles = .ok []) : profiles.WellFormed := by
  obtain ⟨hcomplete, hentries⟩ := run_eq_ok_nil_iff.1 hrun
  refine ⟨hcomplete, ?_, ?_, ?_⟩
  · intro entry hentry
    obtain ⟨_, _, hname, _, _⟩ := profileIssues_eq_ok_nil_iff.1 (hentries entry hentry)
    exact nameIssues_eq_ok_nil_iff.1 hname
  · intro entry hentry
    obtain ⟨profile, heq, _, hwritten, _⟩ := profileIssues_eq_ok_nil_iff.1 (hentries entry hentry)
    exact ⟨profile, heq, hwritten⟩
  · intro name hmem
    have hname : name.isText = true := by
      obtain ⟨entry, hentry, rfl⟩ := List.mem_map.1 hmem
      exact isText_of_run hrun entry hentry
    obtain ⟨v, hget⟩ := Option.isSome_iff_exists.1 ((Entries.has_text_iff hname).2 hmem)
    obtain ⟨_, _, hgrounded⟩ := grounded_of_run hrun hname hget
    exact hgrounded

/-- An audit finds nothing in a configuration that is well formed, if its profiles have distinct
names. -/
theorem run_of_wellFormed (hdistinct : (profiles.map Prod.fst).Nodup)
    (hformed : profiles.WellFormed) : run profiles = .ok [] := by
  have hlinked : profiles.Linked :=
    Profiles.linked_of_named fun key profile hmem => (hformed.named _ hmem).1
  refine run_eq_ok_nil_iff.2 ⟨hformed.complete, ?_⟩
  rintro ⟨name, v⟩ hentry
  have hname : name.isText = true := (hformed.named _ hentry).1
  obtain ⟨profile, rfl, hwritten⟩ := hformed.written _ hentry
  refine profileIssues_eq_ok_nil_iff.2
    ⟨profile, rfl, nameIssues_eq_ok_nil_iff.2 (hformed.named _ hentry), hwritten, ?_⟩
  have hget := Entries.get?_text_of_mem hname (Entries.distinct_of_nodup hdistinct) hentry
  have hgrounded := hformed.grounded name (List.mem_map.2 ⟨_, hentry, rfl⟩)
  have hrows : Profile.GivesRows profiles name := by
    intro links hdescent link hlink
    have hmem := ((Profiles.descent_iff_trail hname).1 hdescent).mem_profiles link hlink
    obtain ⟨_, heq, hwritten⟩ := hformed.written _ hmem
    cases heq
    exact hwritten.exists_ownRows
  obtain ⟨rows, hresolve⟩ := (Profile.exists_resolve_iff hlinked hname hrows).2
    ((Profile.exists_chain_iff hlinked hname hget).2 hgrounded)
  obtain ⟨links, hdescent, _⟩ := hgrounded
  refine baseIssues_eq_ok_nil_iff.2 ?_
  cases hdescent with
  | root _ hprofile hbase =>
      rw [hget] at hprofile
      cases hprofile
      exact Or.inl hbase
  | @under _ base _ _ _ hprofile hbase hrest =>
      rw [hget] at hprofile
      cases hprofile
      exact Or.inr ⟨base, hbase, hrest.has, rows, hresolve⟩

/-- A configuration in which all that names something is a text can be audited. -/
theorem exists_run (htextual : profiles.isTextual = true) :
    ∃ issues, run profiles = .ok issues :=
  exists_run_of_auditable (Profiles.auditable_of_isTextual htextual)

end Audit

/-- Where profiles have distinct names and all that names something is a text, an audit tells what
is wrong with a configuration, and it finds nothing exactly if the configuration is well formed. -/
theorem audit_empty_iff_wellFormed {profiles : Profiles} (htextual : profiles.isTextual = true) :
    ∃ issues, Audit.run profiles = .ok issues ∧ (issues = [] ↔ profiles.WellFormed) := by
  obtain ⟨issues, hrun⟩ := Audit.exists_run htextual
  refine ⟨issues, hrun, ?_⟩
  constructor
  · rintro rfl
    exact Audit.wellFormed_of_run hrun
  · intro hformed
    have hnone := Audit.run_of_wellFormed (Profiles.isTextual_iff.1 htextual).1 hformed
    exact Except.ok.inj (hrun.symm.trans hnone)

namespace AuditingWitness

/-- A profile with one row for each format that needs a profile, over a shared base. -/
def based : Profiles :=
  (Format.all.filter fun format => !format.isGeneric).map (fun format =>
    Bundled.extension format.name "_base" [Bundled.change "id" "event.id" "to_string"]) ++
  [Bundled.profile "_base" [Bundled.need "type" "event.type"]]

/-- The same with two more profiles, which extend one another. -/
def looped : Profiles :=
  based ++ [Bundled.extension "_a" "_b" [], Bundled.extension "_b" "_a" []]

theorem audit_empty_iff_wellFormed_looped :
    based.isTextual = true ∧ based.WellFormed ∧ looped.isTextual = true ∧ ¬ looped.WellFormed := by
  have hbased : based.isTextual = true := by decide +kernel
  have hlooped : looped.isTextual = true := by decide +kernel
  have hnone : Audit.run based = .ok [] := by decide +kernel
  have hloop : Audit.run looped = .ok [
      .chain (.cycle [.string "_a", .string "_b", .string "_a"]),
      .chain (.cycle [.string "_b", .string "_a", .string "_b"])] := by
    decide +kernel
  refine ⟨hbased, ?_, hlooped, ?_⟩
  · obtain ⟨issues, hrun, hempty⟩ := audit_empty_iff_wellFormed hbased
    exact hempty.1 (Except.ok.inj (hrun.symm.trans hnone))
  · obtain ⟨issues, hrun, hempty⟩ := audit_empty_iff_wellFormed hlooped
    intro hformed
    have hissues := Except.ok.inj (hrun.symm.trans hloop)
    rw [hempty.2 hformed] at hissues
    cases hissues

end AuditingWitness

end EventIntake
