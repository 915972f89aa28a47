/-
Tables of a configuration that an audit finds nothing in.  Each format has one that can be resolved.
Its rows can be used exactly if their parameters are under texts and their paths hold more than
points, neither of which an audit looks at.
-/
import EventIntake.Proofs.Auditing
import EventIntake.Proofs.BundledTable
import EventIntake.Proofs.Payload
import EventIntake.Proofs.Writing

namespace EventIntake

theorem Text.all_isEmpty_splitChars_iff {separator : Char} {cs : List Char} :
    (∀ piece ∈ Text.splitChars separator cs, piece = []) ↔ ∀ c ∈ cs, c = separator := by
  induction cs with
  | nil => simp [splitChars]
  | cons c rest ih =>
      rw [List.forall_mem_cons, ← ih, splitChars]
      by_cases hc : c = separator
      · simp [hc]
      · rw [if_neg hc]
        cases hpieces : splitChars separator rest with
        | nil => simp [hc]
        | cons piece pieces => simp [hc]

namespace Path

/-- A path has no segments exactly if it is made of points. -/
theorem segments_eq_nil_iff {path : String} :
    segments path = [] ↔ ∀ c ∈ path.toList, c = '.' := by
  simp only [segments, List.map_eq_nil_iff, List.filter_eq_nil_iff, Bool.not_eq_true,
    Bool.not_eq_false', List.isEmpty_iff]
  exact Text.all_isEmpty_splitChars_iff

/-- A path with segments leads to what is put there. -/
theorem find_put {path : String} (hpath : segments path ≠ []) (entries : Entries) (v : Value) :
    find (.dict (put entries path v)) path = .ok (some v) := by
  rw [find, put]
  exact follow_putAt_self hpath entries

/-- A path has segments exactly if what is put there is found again. -/
theorem segments_ne_nil_iff_find_put {path : String} :
    segments path ≠ [] ↔ ∀ entries v, find (.dict (put entries path v)) path = .ok (some v) := by
  constructor
  · exact find_put
  · intro hput hnil
    have hnull := hput [] .null
    rw [find, put, hnil, follow] at hnull
    cases hnull

end Path

namespace Schema

variable {anyObject : Bool} {place : List Step}

theorem check_text {s : Scalar} (htext : s.isText = true) :
    Shape.text.check anyObject place (.scalar s) = .ok (.scalar s) := by
  cases s <;> first | rfl | cases htext

theorem eq_map_ok_of_gather {α β : Type} {results : List (Except (List α) β)} {vs : List β}
    (hgather : gather results = .ok vs) : results = vs.map .ok := by
  induction results generalizing vs with
  | nil =>
      cases hgather
      rfl
  | cons result rest ih =>
      rw [gather, List.foldr_cons, ← gather] at hgather
      split at hgather
      next v others hothers =>
        cases hgather
        rw [ih hothers, List.map_cons]
      all_goals cases hgather

theorem isText_of_checkEntry {check : List Step → Value → Checked} {entry checked : Scalar × Value}
    (hcheck : checkEntry place check entry = .ok checked) : entry.1.isText = true := by
  obtain ⟨key, v⟩ := entry
  cases key with
  | string name => rfl
  | _ =>
      unfold checkEntry at hcheck
      dsimp only at hcheck
      split at hcheck
      all_goals simp_all

/-- Of a dictionary that passes a check, all keys are texts. -/
theorem isText_of_check_dict {shape : Shape} {entries : Entries} {w : Value}
    (hcheck : (Shape.dict shape).check anyObject place (.dict entries) = .ok w) :
    ∀ member ∈ entries, member.1.isText = true := by
  rw [Shape.check] at hcheck
  obtain ⟨members, hgather, _⟩ := Except.map_eq_ok_iff.1 hcheck
  have hentries := eq_map_ok_of_gather hgather
  intro member hmember
  have hchecked := List.mem_map_of_mem (f := checkEntry place fun place v =>
    shape.check anyObject place v) hmember
  rw [hentries] at hchecked
  obtain ⟨_, _, hentry⟩ := List.mem_map.1 hchecked
  exact isText_of_checkEntry hentry.symm

/-- Each field that is given has passed its check. -/
theorem exists_check_of_checkFields {entries members : Entries} {name : String} {shape : Shape}
    {default? : Option Value} {given : Value} {fields : List (String × Shape × Option Value)}
    (hcheck : checkFields anyObject place entries fields = .ok members)
    (hfield : (name, shape, default?) ∈ fields)
    (hget : Entries.get? (.string name) entries = some given) :
    ∃ w, shape.check anyObject (place ++ [.name name]) given = .ok w := by
  induction fields generalizing members with
  | nil => cases hfield
  | cons field rest ih =>
      obtain ⟨first, firstShape, firstDefault⟩ := field
      simp only [checkFields] at hcheck
      split at hcheck
      next v others hhere hothers =>
        rcases List.mem_cons.1 hfield with heq | hrest
        · cases heq
          rw [hget] at hhere
          exact ⟨v, hhere⟩
        · exact ih hothers hrest
      all_goals cases hcheck

end Schema

/-- What an audit does not look at in a row: parameters are under texts, and paths hold more than
points. -/
structure Row.Usable (row : Entries) : Prop where
  params : ∀ params, Entries.get? (.string "params") row = some (.dict params) →
    ∀ member ∈ params, member.1.isText = true
  source : ∀ path : Scalar, Entries.get? (.string "source_path") row = some (.scalar path) →
    ∃ p ∈ path.points, p ≠ .char '.'
  target : ∀ path : Scalar, Entries.get? (.string "target_path") row = some (.scalar path) →
    ∃ p ∈ path.points, p ≠ .char '.'

/-- The escape of a half is no point, either. -/
theorem Scalar.exists_ne_point_iff {path : Scalar} {text : String}
    (hshown : path.shown? = some text) :
    (∃ p ∈ path.points, p ≠ .char '.') ↔ ∃ c ∈ text.toList, c ≠ '.' := by
  cases path with
  | string s =>
      cases hshown
      simp [points]
  | halved t =>
      cases hshown
      obtain ⟨p, hp, hhalf⟩ := List.any_eq_true.1 t.hasHalf
      cases p with
      | char c => cases hhalf
      | half n =>
          refine iff_of_true ⟨.half n, hp, by simp⟩ ⟨'\\', ?_, by decide⟩
          rw [Halved.shown, String.toList_ofList, List.mem_flatMap]
          exact ⟨.half n, hp, List.mem_cons_self⟩
  | _ => cases hshown

namespace Row

variable {row : Entries}

/-- A row under texts is read if it passes the check of its shape. -/
theorem read_eq_ok_iff (hkeys : ∀ member ∈ row, member.1.isText = true) {r : Row} :
    Row.read (.dict row) = .ok r ↔
      ∃ checked, Row.shape.check false [] (.dict row) = .ok checked ∧
        Row.ofChecked checked = r := by
  unfold Row.read
  dsimp only
  split
  next =>
    cases hcheck : Row.shape.check false [] (.dict row) with
    | ok checked => simp
    | error issues => simp
  next hnot =>
    exact absurd (List.all_eq_true.2 fun member hmember => hkeys member hmember) hnot

theorem WellWritten.isText (hwritten : WellWritten row) :
    ∀ member ∈ row, member.1.isText = true := by
  intro member hmember
  obtain ⟨key, _, hkey⟩ := hwritten.keys member hmember
  rw [hkey]
  rfl

/-- The parameters of a row that is read are under texts. -/
theorem isText_of_read {r : Row} (hwritten : WellWritten row)
    (hread : Row.read (.dict row) = .ok r) {params : Entries}
    (hparams : Entries.get? (.string "params") row = some (.dict params)) :
    ∀ member ∈ params, member.1.isText = true := by
  obtain ⟨checked, hcheck, _⟩ := (read_eq_ok_iff hwritten.isText).1 hread
  rw [Row.shape, Schema.Shape.check] at hcheck
  split at hcheck
  next members hmembers _ =>
    have hfield : ("params", Schema.Shape.optional (.dict .any), some Value.null) ∈ [
        ("source_path", .text, none), ("target_path", .text, none),
        ("transformation", .optional .text, some .null), ("required", .truth, some (.bool false)),
        ("params", .optional (.dict .any), some .null)] := by simp
    obtain ⟨w, hw⟩ := Schema.exists_check_of_checkFields hmembers hfield hparams
    rw [Schema.Shape.check] at hw
    · exact Schema.isText_of_check_dict hw
    · simp
  all_goals cases hcheck

/-- The members of a row as a check completes them. -/
def members (row : Entries) : List Schema.Member :=
  [("source_path", .null), ("target_path", .null), ("transformation", .null),
    ("required", .bool false), ("params", .null)].map fun (name, default) =>
      ⟨name, Entries.get? (.string name) row, (Entries.get? (.string name) row).getD default⟩

/-- The members of a well written row fit the shape of rows, if its parameters are under texts. -/
theorem WellWritten.fits (hwritten : WellWritten row)
    (hparams : ∀ params, Entries.get? (.string "params") row = some (.dict params) →
      ∀ member ∈ params, member.1.isText = true) :
    List.Forall₂ Schema.Member.Fits (members row) [
      ("source_path", .text, none), ("target_path", .text, none),
      ("transformation", .optional .text, some .null), ("required", .truth, some (.bool false)),
      ("params", .optional (.dict .any), some .null)] := by
  obtain ⟨source, hsource, hsourceText, _⟩ := hwritten.source
  obtain ⟨target, htarget, htargetText, _⟩ := hwritten.target
  simp only [members, List.map_cons, List.map_nil, List.forall₂_cons, List.forall₂_nil_left_iff,
    and_true, Schema.Member.Fits, true_and]
  refine ⟨?_, ?_, ?_, ?_, ?_⟩
  · rw [hsource]
    exact fun _ _ => Schema.check_text hsourceText
  · rw [htarget]
    exact fun _ _ => Schema.check_text htargetText
  · rcases hwritten.transformation with hnone | hnull | ⟨builtin, hname⟩
    · rw [hnone]
      rfl
    · rw [hnull]
      exact fun _ _ => rfl
    · rw [hname]
      exact fun _ _ => rfl
  · rcases hwritten.required with hnone | ⟨b, hbool⟩
    · rw [hnone]
      rfl
    · rw [hbool]
      exact fun _ _ => rfl
  · rcases hwritten.params with hnone | hnull | ⟨params, hdict⟩
    · rw [hnone]
      rfl
    · rw [hnull]
      exact fun _ _ => rfl
    · rw [hdict]
      intro anyObject place
      rw [Schema.Shape.check]
      · exact Schema.check_dict_any (hparams params hdict) anyObject place
      · simp

/-- A well written row whose parameters are under texts is read, with its paths as they are
shown. -/
theorem WellWritten.exists_read (hwritten : WellWritten row)
    (hparams : ∀ params, Entries.get? (.string "params") row = some (.dict params) →
      ∀ member ∈ params, member.1.isText = true) :
    ∃ r, ∃ source target : Scalar, Row.read (.dict row) = .ok r ∧
      Entries.get? (.string "source_path") row = some (.scalar source) ∧
      source.shown? = some r.source ∧
      Entries.get? (.string "target_path") row = some (.scalar target) ∧
      target.shown? = some r.target := by
  obtain ⟨source, hsource, hsourceText, _⟩ := hwritten.source
  obtain ⟨target, htarget, htargetText, _⟩ := hwritten.target
  have hall : ∀ member ∈ members row,
      Entries.get? (.string member.name) row = member.written := by
    simp [members]
  have hextra : Schema.extraIssues [] ["source_path", "target_path", "transformation", "required",
      "params"] row = [] := by
    rw [Schema.extraIssues, List.filterMap_eq_nil_iff]
    rintro ⟨key, v⟩ hentry
    obtain ⟨name, hname, hkey⟩ := hwritten.keys _ hentry
    dsimp only at hkey
    subst hkey
    dsimp only
    rw [List.contains_iff_mem.2 hname, if_pos rfl]
  have hcheck : Row.shape.check false [] (.dict row) =
      .ok (Schema.Member.complete (members row)) := by
    rw [Row.shape, Schema.Shape.check,
      Schema.checkFields_of_fits (hwritten.fits hparams) hall false []]
    simp only [List.map_cons, List.map_nil] at hextra ⊢
    rw [hextra, Schema.Member.complete, Value.record, List.map_map]
    rfl
  refine ⟨_, source, target, (read_eq_ok_iff hwritten.isText).2 ⟨_, hcheck, rfl⟩, hsource, ?_,
    htarget, ?_⟩
  · simp only [hsource, members, List.map_cons, Option.getD_some]
    cases source <;> first | rfl | cases hsourceText
  · simp only [htarget, members, List.map_cons, Option.getD_some]
    cases target <;> first | rfl | cases htargetText

/-- A well written row is read as a row whose paths have segments exactly if it can be used. -/
theorem WellWritten.exists_read_iff_usable (hwritten : WellWritten row) :
    (∃ r, Row.read (.dict row) = .ok r ∧ Path.segments r.source ≠ [] ∧
      Path.segments r.target ≠ []) ↔ Usable row := by
  have hpoints : ∀ path : String, Path.segments path ≠ [] ↔ ∃ c ∈ path.toList, c ≠ '.' := by
    intro path
    rw [Ne, Path.segments_eq_nil_iff]
    push Not
    rfl
  constructor
  · rintro ⟨r, hread, hsource, htarget⟩
    have hparams : ∀ params, Entries.get? (.string "params") row = some (.dict params) →
        ∀ member ∈ params, member.1.isText = true := fun _ => isText_of_read hwritten hread
    obtain ⟨_, source, target, hread', hsource', hshownSource, htarget', hshownTarget⟩ :=
      hwritten.exists_read hparams
    obtain rfl := Except.ok.inj (hread.symm.trans hread')
    refine ⟨hparams, fun path hpath => ?_, fun path hpath => ?_⟩
    · rw [hsource', Option.some.injEq, Value.scalar.injEq] at hpath
      rwa [← hpath, Scalar.exists_ne_point_iff hshownSource, ← hpoints]
    · rw [htarget', Option.some.injEq, Value.scalar.injEq] at hpath
      rwa [← hpath, Scalar.exists_ne_point_iff hshownTarget, ← hpoints]
  · intro husable
    obtain ⟨r, source, target, hread, hsource, hshownSource, htarget, hshownTarget⟩ :=
      hwritten.exists_read husable.params
    exact ⟨r, hread,
      (hpoints _).2 ((Scalar.exists_ne_point_iff hshownSource).1 (husable.source _ hsource)),
      (hpoints _).2 ((Scalar.exists_ne_point_iff hshownTarget).1 (husable.target _ htarget))⟩

/-- A well written row is read exactly if its parameters are under texts. -/
theorem WellWritten.exists_read_iff (hwritten : WellWritten row) :
    (∃ r, Row.read (.dict row) = .ok r) ↔
      ∀ params, Entries.get? (.string "params") row = some (.dict params) →
        ∀ member ∈ params, member.1.isText = true := by
  constructor
  · rintro ⟨r, hread⟩ params
    exact isText_of_read hwritten hread
  · intro hparams
    obtain ⟨r, _, _, hread, _⟩ := hwritten.exists_read hparams
    exact ⟨r, hread⟩

end Row

namespace Audit

variable {profiles : Profiles}

/-- Without findings, the table of each format can be resolved, and all its rows are well
written. -/
theorem exists_resolve_of_run (hrun : run profiles = .ok []) (format : Format) :
    ∃ rows, Profile.resolve profiles (.string format.name) = .ok rows ∧
      ∀ v ∈ rows, ∃ row, v = .dict row ∧ Row.WellWritten row := by
  have hlinked := linked_of_run hrun
  obtain ⟨found, hchain⟩ : ∃ found, Profile.chain profiles (.string format.name) = .ok found := by
    cases hget : Entries.get? (.string format.name) profiles with
    | none => exact ⟨[], Profile.chain_of_not_profile rfl (by simp [hget])⟩
    | some v =>
        obtain ⟨profile, rfl, hgrounded⟩ := grounded_of_run hrun rfl hget
        exact (Profile.exists_chain_iff hlinked rfl hget).2 hgrounded
  have hfound : ∀ profile ∈ found, Profile.WellWritten profile := by
    intro profile hprofile
    obtain ⟨name, hmem⟩ := Profile.mem_profiles_of_chain hlinked rfl hchain profile hprofile
    exact wellWritten_of_run hrun hmem
  obtain ⟨rows, hrows, hmem⟩ :=
    Profile.exists_rowsOf fun profile hprofile => (hfound profile hprofile).exists_ownRows
  refine ⟨rows, Except.bind_eq_ok_iff.2 ⟨found, hchain, hrows⟩, fun v hv => ?_⟩
  obtain ⟨profile, hprofile, own, hown, hv⟩ := hmem v hv
  obtain ⟨given, hgiven, hwritten⟩ := (hfound profile hprofile).rows
  rw [Profile.ownRows_of_list hgiven, Except.ok.injEq] at hown
  exact hwritten v (hown ▸ hv)

end Audit

/-- Well written rows write a table of rows with some property exactly if each of them is written as
such a row is. -/
theorem Row.exists_readAll_iff_of_wellWritten {holds : Row → Prop} {written : Entries → Prop}
    (hrow : ∀ row, WellWritten row →
      ((∃ r, read (.dict row) = .ok r ∧ holds r) ↔ written row)) {values : List Value}
    (hvalues : ∀ v ∈ values, ∃ row, v = .dict row ∧ WellWritten row) :
    (∃ table, readAll values = .ok table ∧ ∀ r ∈ table, holds r) ↔
      ∀ row, .dict row ∈ values → written row := by
  rw [exists_readAll_iff]
  constructor
  · intro hread row hmem
    obtain ⟨_, heq, hwritten⟩ := hvalues _ hmem
    cases heq
    exact (hrow row hwritten).1 (hread _ hmem)
  · intro hall v hv
    obtain ⟨row, rfl, hwritten⟩ := hvalues v hv
    exact (hrow row hwritten).2 (hall row hv)

/-- A row has a place to look at and a place to write to. -/
structure Row.Addresses (r : Row) : Prop where
  source : Path.segments r.source ≠ []
  target : Path.segments r.target ≠ []

/-- In a configuration that an audit finds nothing in, the table of each format can be resolved.
Its rows are read exactly if the parameters of each are under texts.  They have places to look at
and to write to besides exactly if no path is made of points alone; and a row has a place to write
to exactly if what it puts there is found again. -/
theorem audited_table_usable_iff {profiles : Profiles} (hrun : Audit.run profiles = .ok [])
    (format : Format) :
    ∃ rows, Profile.resolve profiles (.string format.name) = .ok rows ∧
      ((∃ table, Profile.table profiles (.string format.name) = .ok table) ↔
        ∀ row, .dict row ∈ rows →
          ∀ params, Entries.get? (.string "params") row = some (.dict params) →
            ∀ member ∈ params, member.1.isText = true) ∧
      ((∃ table, Profile.table profiles (.string format.name) = .ok table ∧
          ∀ r ∈ table, r.Addresses) ↔
        ∀ row, .dict row ∈ rows → Row.Usable row) ∧
      ∀ table, Profile.table profiles (.string format.name) = .ok table → ∀ r ∈ table,
        (Path.segments r.target ≠ [] ↔
          ∀ entries v, Path.find (.dict (Path.put entries r.target v)) r.target =
            .ok (some v)) := by
  obtain ⟨rows, hresolve, hwritten⟩ := Audit.exists_resolve_of_run hrun format
  have htable : Profile.table profiles (.string format.name) = Row.readAll rows := by
    rw [Profile.table, hresolve]
    rfl
  refine ⟨rows, hresolve, ?_, ?_, fun table _ r _ => Path.segments_ne_nil_iff_find_put⟩
  · have hread : (∃ table, Row.readAll rows = .ok table ∧ ∀ r ∈ table, True) ↔ _ :=
      Row.exists_readAll_iff_of_wellWritten
        (fun row hrow => by simpa using hrow.exists_read_iff) hwritten
    simpa [htable] using hread
  · rw [htable]
    refine Row.exists_readAll_iff_of_wellWritten (fun row hrow => ?_) hwritten
    rw [← hrow.exists_read_iff_usable]
    exact exists_congr fun r => and_congr_right fun _ =>
      ⟨fun hplaces => ⟨hplaces.source, hplaces.target⟩, fun hplaces => ⟨hplaces.1, hplaces.2⟩⟩

namespace UsableWitness

/-- Profiles without rows for each format that needs one, but for one with a single row. -/
def profilesWith (row : Value) : Profiles :=
  (Format.all.filter fun format => !format.isGeneric).map fun format =>
    Bundled.profile format.name (if format = .webhook then [row] else [])

/-- A row whose parameters are under a number. -/
def numbered : Value :=
  .record [("source_path", .string "id"), ("target_path", .string "event.id"),
    ("params", .dict [(.int 1, .string "one")])]

/-- A row that writes nowhere. -/
def pointed : Value := Bundled.move "id" "."

/-- An audit tells none of these rows from a good one. -/
theorem audited_table_usable_iff_of_one_row :
    (∀ row ∈ [Bundled.move "id" "event.id", numbered, pointed],
      Audit.run (profilesWith row) = .ok []) ∧
    (∃ table, Profile.table (profilesWith (Bundled.move "id" "event.id"))
        (.string "webhook_generic") = .ok table ∧ ∀ r ∈ table, r.Addresses) ∧
    (¬ ∃ table, Profile.table (profilesWith numbered) (.string "webhook_generic") = .ok table) ∧
    ¬ ∃ table, Profile.table (profilesWith pointed) (.string "webhook_generic") = .ok table ∧
      ∀ r ∈ table, r.Addresses := by
  have hgood : Audit.run (profilesWith (Bundled.move "id" "event.id")) = .ok [] := by
    decide +kernel
  have hnumbered : Audit.run (profilesWith numbered) = .ok [] := by decide +kernel
  have hpointed : Audit.run (profilesWith pointed) = .ok [] := by decide +kernel
  have hrows : ∀ row, Profile.resolve (profilesWith row) (.string "webhook_generic") = .ok [row] :=
    fun _ => rfl
  refine ⟨by simp [hgood, hnumbered, hpointed], ?_, ?_, ?_⟩
  · obtain ⟨rows, hresolve, _, htable, _⟩ := audited_table_usable_iff hgood .webhook
    obtain rfl := Except.ok.inj ((hrows _).symm.trans hresolve)
    refine htable.2 fun row hrow => ?_
    cases List.mem_singleton.1 hrow
    refine ⟨fun params hparams => ?_, fun path hpath => ?_, fun path hpath => ?_⟩
    · cases hparams
    · obtain rfl : .string "id" = path := by simpa [Entries.get?, Scalar.same_string] using hpath
      exact ⟨.char 'i', by decide, by decide⟩
    · obtain rfl : .string "event.id" = path := by
        simpa [Entries.get?, Scalar.same_string] using hpath
      exact ⟨.char 'e', by decide, by decide⟩
  · obtain ⟨rows, hresolve, htable, _⟩ := audited_table_usable_iff hnumbered .webhook
    obtain rfl := Except.ok.inj ((hrows _).symm.trans hresolve)
    intro hread
    have htext := htable.1 hread _ (List.mem_singleton.2 rfl) _ rfl _ (List.mem_singleton.2 rfl)
    cases htext
  · obtain ⟨rows, hresolve, _, htable, _⟩ := audited_table_usable_iff hpointed .webhook
    obtain rfl := Except.ok.inj ((hrows _).symm.trans hresolve)
    intro hread
    obtain ⟨p, hp, hpoint⟩ := (htable.1 hread _ (List.mem_singleton.2 rfl)).target (.string ".") rfl
    exact hpoint (by simpa [Scalar.points] using hp)

end UsableWitness

end EventIntake
