/-
Chains of profiles.  The chain of a name follows the way from it to where it halts, and comes to
what stands there.  The bound on the length of a chain ends none: the names that a way passes are
distinct names of profiles.
-/
import EventIntake.Proofs.Magnitudes
import EventIntake.Proofs.Trail

namespace EventIntake

namespace Profile

variable {profiles : Profiles}

/-- A chain goes on with a profile whose name has not been passed. -/
theorem chainFrom_of_profile {steps : Nat} {names : List Scalar} {found : List Entries}
    {name : Scalar} {profile : Entries} (hname : name.isText = true)
    (hpassed : ∀ other ∈ names, other.isText = true) (hfresh : name ∉ names)
    (hprofile : Entries.get? name profiles = some (.dict profile)) :
    chainFrom profiles (steps + 1) names found (.scalar name) =
      chainFrom profiles steps (names ++ [name]) (profile :: found) (base profile) := by
  have hnone : ¬ names.any (·.same name) = true := mt (Scalar.any_same_iff hpassed).1 hfresh
  rw [chainFrom, if_neg hnone, hprofile]
  rintro rfl
  cases hname

/-- A chain follows a way through profiles whose names have not been passed. -/
theorem chainFrom_of_trail {v w : Value} {links : List (Scalar × Entries)}
    (htrail : profiles.Trail v links w) {names : List Scalar}
    (hpassed : ∀ other ∈ names, other.isText = true)
    (hdistinct : (names ++ links.map Prod.fst).Nodup) {steps : Nat}
    (found : List Entries) :
    chainFrom profiles (steps + links.length) names found v =
      chainFrom profiles steps (names ++ links.map Prod.fst)
        ((links.map Prod.snd).reverse ++ found) w := by
  induction htrail generalizing names found with
  | stay => simp
  | @pass name profile links w hname hprofile _ ih =>
      have hfresh : name ∉ names :=
        fun hmem => (List.nodup_append.1 hdistinct).2.2 name hmem name (by simp) rfl
      have hmore : ∀ other ∈ names ++ [name], other.isText = true := by
        rw [List.forall_mem_append, List.forall_mem_singleton]
        exact ⟨hpassed, hname⟩
      rw [List.map_cons, List.append_cons] at hdistinct
      rw [List.length_cons, ← Nat.add_assoc, chainFrom_of_profile hname hpassed hfresh hprofile,
        ih hmore hdistinct, List.map_cons, List.append_cons]
      simp

theorem cycleFault_of_isText {names : List Scalar} (hnames : ∀ name ∈ names, name.isText = true) :
    cycleFault names = .cycle names := by
  have hnone : ∀ i, firstUnnamed? i names = none := by
    induction names with
    | nil => exact fun _ => rfl
    | cons name rest ih =>
        obtain ⟨hname, hrest⟩ := List.forall_mem_cons.1 hnames
        intro i
        rw [firstUnnamed?, if_pos hname, ih hrest]
  rw [cycleFault, hnone]

/-- What a chain comes to that has followed some links to a value where it halts. -/
def ending (links : List (Scalar × Entries)) : Value → Except ProfileFault (List Entries)
  | .null => .ok (links.map Prod.snd).reverse
  | .list _ => .error (.noKey "list")
  | .dict _ => .error (.noKey "dict")
  | .scalar key =>
    if key ∈ links.map Prod.fst then .error (.cycle (links.map Prod.fst ++ [key]))
    else
      match links.getLast? with
      | none => .ok []
      | some last => .error (unknownBaseFault last.1 key)

theorem unknownBaseFault_of_isText {name key : Scalar} (hname : name.isText = true)
    (hkey : key.isText = true) : unknownBaseFault name key = .unknownBase name key := by
  rw [unknownBaseFault, Scalar.isTooLong_of_isText hname, Scalar.isTooLong_of_isText hkey]
  rfl

theorem eq_of_ending_eq_ok {links : List (Scalar × Entries)} {v : Value} {found : List Entries}
    (hending : ending links v = .ok found) :
    (v = .null ∧ found = (links.map Prod.snd).reverse) ∨ (links = [] ∧ found = []) := by
  unfold ending at hending
  split at hending
  next => exact Or.inl ⟨rfl, (Except.ok.inj hending).symm⟩
  next => cases hending
  next => cases hending
  next =>
    split at hending
    next => cases hending
    next =>
      split at hending
      next hlast =>
        exact Or.inr ⟨List.getLast?_eq_none_iff.1 hlast, (Except.ok.inj hending).symm⟩
      next => cases hending

/-- Where a chain halts it comes to its ending, whatever bounds its length. -/
theorem chainFrom_of_halts {links : List (Scalar × Entries)} {v : Value}
    (hnames : ∀ name ∈ links.map Prod.fst, name.isText = true)
    (hhalts : profiles.Halts (links.map Prod.fst) v) (htext : profiles.LeadsByText v)
    (steps : Nat) :
    chainFrom profiles steps (links.map Prod.fst) (links.map Prod.snd).reverse v =
      ending links v := by
  cases v with
  | list items => rw [chainFrom, ending]
  | dict entries => rw [chainFrom, ending]
  | scalar key =>
      by_cases hnull : key = .null
      · rw [hnull, chainFrom, ending]
      · rw [chainFrom, ending]
        rotate_left
        · exact hnull
        · exact hnull
        by_cases hpassed : key ∈ links.map Prod.fst
        · have hall : ∀ name ∈ links.map Prod.fst ++ [key], name.isText = true := by
            rw [List.forall_mem_append, List.forall_mem_singleton]
            exact ⟨hnames, hnames key hpassed⟩
          rw [if_pos ((Scalar.any_same_iff hnames).2 hpassed), if_pos hpassed,
            cycleFault_of_isText hall]
        · rw [if_neg (mt (Scalar.any_same_iff hnames).1 hpassed), if_neg hpassed]
          split
          next profile hprofile =>
            exact absurd (hhalts key profile rfl (htext key profile rfl hnull hprofile) hprofile)
              hpassed
          next =>
            rw [List.getLast?_map]
            cases links.getLast? <;> rfl

variable {name : Scalar}

/-- The chain of a name comes to the ending of a way to where it halts; the bound on its length ends
none. -/
theorem chainFrom_eq_ending {links : List (Scalar × Entries)} {v : Value}
    (htrail : profiles.Trail (.scalar name) links v) (hdistinct : (links.map Prod.fst).Nodup)
    (hhalts : profiles.Halts (links.map Prod.fst) v) (htext : profiles.LeadsByText v) {steps : Nat}
    (hsteps : profiles.length ≤ steps) :
    chainFrom profiles steps [] [] (.scalar name) = ending links v := by
  have hle := Profiles.length_le_of_mem_profiles htrail.mem_profiles hdistinct
  obtain ⟨left, rfl⟩ := Nat.exists_eq_add_of_le' (Nat.le_trans hle hsteps)
  rw [chainFrom_of_trail htrail (by simp) (by simpa using hdistinct),
    ← chainFrom_of_halts htrail.isText_of_mem hhalts htext left]
  simp

/-- Every name has a way to where its chain halts. -/
theorem exists_chain (hlinked : profiles.Linked) (hname : name.isText = true) :
    ∃ links v, profiles.Trail (.scalar name) links v ∧ (links.map Prod.fst).Nodup ∧
      profiles.Halts (links.map Prod.fst) v ∧ profiles.LeadsByText v ∧
      ∀ steps, profiles.length ≤ steps →
        chainFrom profiles steps [] [] (.scalar name) = ending links v := by
  obtain ⟨links, v, htrail, hdistinct, hhalts⟩ : ∃ links v,
      profiles.Trail (.scalar name) links v ∧ (links.map Prod.fst).Nodup ∧
        profiles.Halts (links.map Prod.fst) v :=
    @Profiles.exists_trail profiles [] (by simp) (by simp) (.scalar name)
  have htext := htrail.leadsByText hlinked (Profiles.leadsByText_of_isText hname)
  exact ⟨links, v, htrail, hdistinct, hhalts, htext, fun _ hsteps =>
    chainFrom_eq_ending htrail hdistinct hhalts htext hsteps⟩

/-- What is no profile has no chain. -/
theorem chain_of_not_profile (hname : name.isText = true)
    (hnone : ∀ profile, Entries.get? name profiles ≠ some (.dict profile)) :
    chain profiles name = .ok [] := by
  have hhalts : profiles.Halts [] (.scalar name) := by
    rintro _ profile ⟨⟩ _ hprofile
    exact absurd hprofile (hnone profile)
  rw [chain, chainFrom_eq_ending (.stay _) List.nodup_nil hhalts
    (Profiles.leadsByText_of_isText hname) (Nat.le_refl _), ending]
  · rfl
  · rintro rfl
    cases hname

/-- The chain of a profile that extends what is no profile is broken there. -/
theorem chain_of_unknown_base {profile : Entries} {key : Scalar} (hname : name.isText = true)
    (hprofile : Entries.get? name profiles = some (.dict profile))
    (hbase : base profile = .scalar key) (hnull : key ≠ .null)
    (hnone : ∀ other, Entries.get? key profiles ≠ some (.dict other)) :
    chain profiles name = .error (unknownBaseFault name key) := by
  have htrail : profiles.Trail (.scalar name) [(name, profile)] (.scalar key) :=
    .pass hname hprofile (hbase ▸ .stay _)
  have hhalts : profiles.Halts [name] (.scalar key) := by
    rintro other found ⟨⟩ _ hfound
    exact absurd hfound (hnone found)
  have htext : profiles.LeadsByText (.scalar key) := by
    rintro _ found ⟨⟩ _ hfound
    exact absurd hfound (hnone found)
  have hfresh : key ∉ [(name, profile)].map Prod.fst := by
    rw [List.map_singleton, List.mem_singleton]
    rintro rfl
    exact hnone profile hprofile
  rw [chain, chainFrom_eq_ending htrail (List.nodup_singleton _) hhalts htext (Nat.le_refl _),
    ending, if_neg hfresh]
  · rfl
  · exact hnull

/-- The chain of a profile is made of the profiles on the descent from it, the last one first. -/
theorem chain_eq_ok_iff (hlinked : profiles.Linked) (hname : name.isText = true)
    {profile : Entries} {found : List Entries}
    (hprofile : Entries.get? name profiles = some (.dict profile)) :
    chain profiles name = .ok found ↔
      ∃ links, profiles.Descent name links ∧ found = (links.map Prod.snd).reverse := by
  constructor
  · intro hchain
    obtain ⟨links, v, htrail, _, hhalts, _, hending⟩ := exists_chain hlinked hname
    rw [chain, hending _ (Nat.le_refl _)] at hchain
    rcases eq_of_ending_eq_ok hchain with ⟨rfl, hfound⟩ | ⟨rfl, _⟩
    · exact ⟨links, (Profiles.descent_iff_trail hname).2 htrail, hfound⟩
    · -- The name of a profile is no end of the way: nothing has been passed before it.
      cases htrail
      exact absurd (hhalts name profile rfl hname hprofile) List.not_mem_nil
  · rintro ⟨links, hdescent, rfl⟩
    refine chainFrom_eq_ending ((Profiles.descent_iff_trail hname).1 hdescent) hdescent.nodup
      Profiles.halts_null ?_ (Nat.le_refl _)
    rintro _ _ ⟨⟩ hnull _
    exact absurd rfl hnull

/-- A profile has a chain exactly if it is grounded. -/
theorem exists_chain_iff (hlinked : profiles.Linked) (hname : name.isText = true)
    {profile : Entries} (hprofile : Entries.get? name profiles = some (.dict profile)) :
    (∃ found, chain profiles name = .ok found) ↔ profiles.Grounded name := by
  constructor
  · rintro ⟨found, hchain⟩
    obtain ⟨links, hdescent, _⟩ := (chain_eq_ok_iff hlinked hname hprofile).1 hchain
    exact ⟨links, hdescent, hdescent.nodup⟩
  · rintro ⟨links, hdescent, _⟩
    exact ⟨_, (chain_eq_ok_iff hlinked hname hprofile).2 ⟨links, hdescent, rfl⟩⟩

theorem mem_profiles_of_chain (hlinked : profiles.Linked) (hname : name.isText = true)
    {found : List Entries} (hchain : chain profiles name = .ok found) :
    ∀ profile ∈ found, ∃ other, (other, Value.dict profile) ∈ profiles := by
  by_cases hknown : ∃ profile, Entries.get? name profiles = some (.dict profile)
  · obtain ⟨profile, hprofile⟩ := hknown
    obtain ⟨links, hdescent, rfl⟩ := (chain_eq_ok_iff hlinked hname hprofile).1 hchain
    intro other hmem
    obtain ⟨link, hlink, rfl⟩ := List.mem_map.1 (List.mem_reverse.1 hmem)
    exact ⟨link.1, ((Profiles.descent_iff_trail hname).1 hdescent).mem_profiles link hlink⟩
  · rw [chain_of_not_profile hname (not_exists.1 hknown), Except.ok.injEq] at hchain
    simp [← hchain]

theorem ownRows_of_list {profile : Entries} {rows : List Value}
    (hrows : Entries.get? (.string "mappings") profile = some (.list rows)) :
    ownRows profile = .ok rows := by
  cases rows with
  | nil => simp [ownRows, hrows, Value.truthy]
  | cons row rest => simp [ownRows, hrows, Value.truthy]

/-- The rows that a profile writes in a list. -/
def writtenRows (profile : Entries) : List Value :=
  match Entries.get? (.string "mappings") profile with
  | some (.list rows) => rows
  | _ => []

/-- The rows of a profile are a list, if there are any. -/
def ListsRows (profile : Entries) : Prop :=
  ∀ v, Entries.get? (.string "mappings") profile = some v → v = .null ∨ ∃ rows, v = .list rows

theorem ownRows_of_listsRows {profile : Entries} (hlists : ListsRows profile) :
    ownRows profile = .ok (writtenRows profile) := by
  cases hget : Entries.get? (.string "mappings") profile with
  | none => simp [ownRows, writtenRows, hget, Value.truthy, Scalar.truthy]
  | some v =>
      rcases hlists v hget with rfl | ⟨rows, rfl⟩
      · simp [ownRows, writtenRows, hget, Value.truthy, Scalar.truthy]
      · rw [ownRows_of_list hget, writtenRows, hget]

/-- Where each profile gives its rows in a list, the rows of several are found in these lists. -/
theorem exists_rowsOf {found : List Entries}
    (hlists : ∀ profile ∈ found, ∃ own, ownRows profile = .ok own) :
    ∃ rows, rowsOf found = .ok rows ∧
      ∀ row ∈ rows, ∃ profile ∈ found, ∃ own, ownRows profile = .ok own ∧ row ∈ own := by
  induction found with
  | nil => exact ⟨[], rfl, by simp⟩
  | cons profile rest ih =>
      obtain ⟨⟨own, hown⟩, hrest⟩ := List.forall_mem_cons.1 hlists
      obtain ⟨rows, hrows, hmem⟩ := ih hrest
      refine ⟨own ++ rows, ?_, ?_⟩
      · rw [rowsOf, hown, hrows]
        rfl
      · intro row hrow
        rcases List.mem_append.1 hrow with hfirst | hlater
        · exact ⟨profile, List.mem_cons_self, own, hown, hfirst⟩
        · obtain ⟨other, hother, hfound⟩ := hmem row hlater
          exact ⟨other, List.mem_cons_of_mem _ hother, hfound⟩

/-- The rows of several profiles fail only where the rows of one do. -/
theorem exists_rowsOf_iff {found : List Entries} :
    (∃ rows, rowsOf found = .ok rows) ↔ ∀ profile ∈ found, ∃ own, ownRows profile = .ok own := by
  refine ⟨fun hrows => ?_, fun hlists => (exists_rowsOf hlists).imp fun _ => And.left⟩
  induction found with
  | nil => simp
  | cons profile rest ih =>
      obtain ⟨rows, hrows⟩ := hrows
      obtain ⟨own, hown, hrest⟩ := Except.bind_eq_ok_iff.1 hrows
      obtain ⟨others, hothers, _⟩ := Except.bind_eq_ok_iff.1 hrest
      exact List.forall_mem_cons.2 ⟨⟨own, hown⟩, ih ⟨others, hothers⟩⟩

/-- Where the rows of profiles are lists, the rows of several are these lists in order. -/
theorem rowsOf_of_listsRows {found : List Entries} (hlists : ∀ profile ∈ found, ListsRows profile) :
    rowsOf found = .ok (found.flatMap writtenRows) := by
  induction found with
  | nil => rfl
  | cons profile rest ih =>
      obtain ⟨hprofile, hrest⟩ := List.forall_mem_cons.1 hlists
      rw [rowsOf, ownRows_of_listsRows hprofile, ih hrest]
      rfl

theorem isReported_of_ownRows {profile : Entries} {fault : ProfileFault}
    (hown : ownRows profile = .error fault) : fault.isReported = false := by
  simp only [ownRows] at hown
  split at hown
  next => cases hown
  next =>
    split at hown
    all_goals cases hown
    rfl

/-- Rows that are not given in a row are not reported. -/
theorem isReported_of_rowsOf {found : List Entries} {fault : ProfileFault}
    (hrows : rowsOf found = .error fault) : fault.isReported = false := by
  induction found with
  | nil => cases hrows
  | cons profile rest ih =>
      rw [rowsOf] at hrows
      cases hown : ownRows profile with
      | error broken =>
          rw [hown] at hrows
          cases hrows
          exact isReported_of_ownRows hown
      | ok own =>
          cases hothers : rowsOf rest with
          | ok others =>
              rw [hown, hothers] at hrows
              cases hrows
          | error broken =>
              rw [hown, hothers] at hrows
              cases hrows
              exact ih hothers

/-- The profiles on each descent from a name give their rows in a row. -/
def GivesRows (profiles : Profiles) (name : Scalar) : Prop :=
  ∀ links, profiles.Descent name links → ∀ link ∈ links, ∃ own, ownRows link.2 = .ok own

/-- Where the profiles on its descent give their rows in a row, the table of a name can be resolved
exactly if its chain can be followed. -/
theorem exists_resolve_iff (hlinked : profiles.Linked) (hname : name.isText = true)
    (hrows : GivesRows profiles name) :
    (∃ rows, resolve profiles name = .ok rows) ↔
      ∃ found, chain profiles name = .ok found := by
  constructor
  · rintro ⟨rows, hresolve⟩
    obtain ⟨found, hchain, _⟩ := Except.bind_eq_ok_iff.1 hresolve
    exact ⟨found, hchain⟩
  · rintro ⟨found, hchain⟩
    obtain ⟨rows, hfound⟩ : ∃ rows, rowsOf found = .ok rows := by
      by_cases hknown : ∃ profile, Entries.get? name profiles = some (.dict profile)
      · obtain ⟨profile, hprofile⟩ := hknown
        obtain ⟨links, hdescent, rfl⟩ := (chain_eq_ok_iff hlinked hname hprofile).1 hchain
        refine exists_rowsOf_iff.2 fun other hother => ?_
        obtain ⟨link, hlink, rfl⟩ := List.mem_map.1 (List.mem_reverse.1 hother)
        exact hrows links hdescent link hlink
      · rw [chain_of_not_profile hname (not_exists.1 hknown), Except.ok.injEq] at hchain
        exact ⟨[], hchain ▸ rfl⟩
    exact ⟨rows, Except.bind_eq_ok_iff.2 ⟨found, hchain, hfound⟩⟩

/-- The base of a profile is a scalar, which can be told if it leads to no profile. -/
def HasTellableBase (profiles : Profiles) (profile : Entries) : Prop :=
  ∃ key, base profile = .scalar key ∧
    ((∀ other, Entries.get? key profiles ≠ some (.dict other)) → key.isTooLong = false)

/-- Where bases can be told, a chain that is broken is reported. -/
theorem isReported_of_chain (hlinked : profiles.Linked) (hname : name.isText = true)
    (hbases : ∀ key profile, (key, .dict profile) ∈ profiles → HasTellableBase profiles profile)
    {fault : ProfileFault} (hchain : chain profiles name = .error fault) :
    fault.isReported = true := by
  obtain ⟨links, v, htrail, _, hhalts, htext, hending⟩ := exists_chain hlinked hname
  rw [chain, hending _ (Nat.le_refl _)] at hchain
  rcases htrail.eq_or_base with ⟨rfl, rfl⟩ | ⟨before, last, rfl, rfl⟩
  · rw [ending] at hchain
    · cases hchain
    · rintro rfl
      cases hname
  · obtain ⟨key, hbase, htold⟩ := hbases _ _ (htrail.mem_profiles last (by simp))
    rw [hbase] at hchain hhalts htext
    by_cases hnull : key = .null
    · rw [hnull, ending] at hchain
      cases hchain
    · rw [ending] at hchain
      rotate_left
      · exact hnull
      split at hchain
      next =>
        cases hchain
        rfl
      next hfresh =>
        have hnone : ∀ other, Entries.get? key profiles ≠ some (.dict other) := by
          intro other hother
          exact hfresh (hhalts key other rfl (htext key other rfl hnull hother) hother)
        rw [List.getLast?_concat] at hchain
        obtain rfl := Except.error.inj hchain
        have hlast : last.1.isTooLong = false :=
          Scalar.isTooLong_of_isText (htrail.isText_of_mem _ (by simp))
        rw [unknownBaseFault, hlast, htold hnone]
        rfl

/-- Where bases can be told, a table that cannot be resolved is reported exactly if the profiles on
its descent give their rows in a row. -/
theorem resolve_reported_iff (hlinked : profiles.Linked) (hname : name.isText = true)
    (hbases : ∀ key profile, (key, .dict profile) ∈ profiles → HasTellableBase profiles profile) :
    (∀ fault, resolve profiles name = .error fault → fault.isReported = true) ↔
      GivesRows profiles name := by
  constructor
  · intro hreported links hdescent link hlink
    obtain ⟨profile, hprofile⟩ := hdescent.exists_profile
    have hchain := (chain_eq_ok_iff hlinked hname hprofile).2 ⟨links, hdescent, rfl⟩
    have hresolve : resolve profiles name = rowsOf (links.map Prod.snd).reverse := by
      rw [resolve, hchain]
      rfl
    cases hrows : rowsOf (links.map Prod.snd).reverse with
    | ok rows =>
        exact exists_rowsOf_iff.1 ⟨rows, hrows⟩ _
          (List.mem_reverse.2 (List.mem_map_of_mem hlink))
    | error fault =>
        have htrue := hreported fault (hresolve.trans hrows)
        rw [isReported_of_rowsOf hrows] at htrue
        cases htrue
  · intro hrows fault hresolve
    cases hchain : chain profiles name with
    | ok found =>
        obtain ⟨rows, hfound⟩ := (exists_resolve_iff hlinked hname hrows).2 ⟨found, hchain⟩
        rw [hfound] at hresolve
        cases hresolve
    | error broken =>
        rw [resolve, hchain] at hresolve
        cases hresolve
        exact isReported_of_chain hlinked hname hbases hchain

end Profile

end EventIntake
