/-
What a report comes to.  A report on a configuration is printed exactly if the configuration can be
audited and the tables of its formats can be counted.  Its status tells whether the audit has found
something, and it prints each finding as a failure.
-/
import EventIntake.Mapping.Report
import EventIntake.Proofs.Auditable
import EventIntake.Proofs.Loading
import EventIntake.Proofs.Utf8

namespace EventIntake

/-- The tables of a configuration can be listed: all names are texts, those without an underscore in
front have no halves of surrogate pairs, and the profiles on the descents from these give their rows
in a row. -/
structure Profiles.Listable (profiles : Profiles) : Prop where
  names : ∀ name ∈ profiles.map Prod.fst, name.isText = true
  whole : ∀ name ∈ profiles.map Prod.fst, name.points.head? ≠ some (.char '_') →
    name.isWhole = true
  rows : ∀ name ∈ profiles.map Prod.fst, name.points.head? ≠ some (.char '_') →
    Profile.GivesRows profiles name

/-- A parser gives no dictionary with one key twice. -/
def Yaml.Parser.KeepsKeysApart (parser : Yaml.Parser) : Prop :=
  ∀ cs entries, parser.read cs = .ok (.dict entries) → Entries.Distinct entries

theorem Yaml.reader_keepsKeysApart : reader.KeepsKeysApart := by
  intro cs entries hread
  change readChars cs = .ok (.dict entries) at hread
  rw [readChars] at hread
  split at hread
  next => cases hread
  obtain ⟨_, _, hread⟩ := Except.bind_eq_ok_iff.1 hread
  obtain ⟨node, _, hread⟩ := Except.bind_eq_ok_iff.1 hread
  cases node with
  | none => cases hread
  | some node =>
      have hvalue := Except.mapError_eq_ok_iff.1 hread
      cases node with
      | plain text =>
          rw [Node.value] at hvalue
          obtain ⟨_, _, hdict⟩ := Except.map_eq_ok_iff.1 hvalue
          cases hdict
      | quoted text =>
          rw [Node.value] at hvalue
          cases hvalue
      | sequence items =>
          rw [Node.value] at hvalue
          obtain ⟨_, _, hdict⟩ := Except.map_eq_ok_iff.1 hvalue
          cases hdict
      | mapping pairs =>
          rw [Node.value] at hvalue
          split at hvalue
          next => cases hvalue
          next =>
            obtain ⟨written, _, hdict⟩ := Except.map_eq_ok_iff.1 hvalue
            cases hdict
            exact Entries.distinct_ofPairs written

namespace Report

variable {profiles : Profiles}

theorem formatNames_cons {key : Scalar} {v : Value} {rest : Profiles} (hkey : key.isText = true) :
    formatNames ((key, v) :: rest) = (formatNames rest).map fun names =>
      if key.points.head? = some (.char '_') then names else key :: names := by
  rw [formatNames, hkey]
  cases formatNames rest <;> rfl

theorem formatNames_cons_error {key : Scalar} (hkey : ¬ key.isText = true) (v : Value)
    (rest : Profiles) : ∃ fault, formatNames ((key, v) :: rest) = .error fault := by
  rw [formatNames, eq_false_of_ne_true hkey]
  exact ⟨_, rfl⟩

theorem exists_formatNames_iff :
    (∃ names, formatNames profiles = .ok names) ↔
      ∀ name ∈ profiles.map Prod.fst, name.isText = true := by
  induction profiles with
  | nil => exact iff_of_true ⟨[], rfl⟩ (by simp)
  | cons entry rest ih =>
      obtain ⟨key, v⟩ := entry
      rw [List.map_cons, List.forall_mem_cons, ← ih]
      by_cases hkey : key.isText = true
      · simp [formatNames_cons hkey, Except.map_eq_ok_iff, hkey]
      · obtain ⟨fault, hfault⟩ := formatNames_cons_error hkey v rest
        simp [hfault, hkey]

theorem mem_formatNames_iff {names : List Scalar} (hnames : formatNames profiles = .ok names)
    {name : Scalar} :
    name ∈ names ↔ name ∈ profiles.map Prod.fst ∧ name.points.head? ≠ some (.char '_') := by
  induction profiles generalizing names with
  | nil =>
      cases hnames
      simp
  | cons entry rest ih =>
      obtain ⟨key, v⟩ := entry
      have hkey : key.isText = true := exists_formatNames_iff.1 ⟨names, hnames⟩ key (by simp)
      rw [formatNames_cons hkey] at hnames
      obtain ⟨later, hlater, rfl⟩ := Except.map_eq_ok_iff.1 hnames
      rw [List.map_cons, List.mem_cons]
      by_cases hunderscore : key.points.head? = some (.char '_')
      · rw [if_pos hunderscore, ih hlater]
        constructor
        · exact fun hname => ⟨Or.inr hname.1, hname.2⟩
        · rintro ⟨rfl | hname, hother⟩
          · exact absurd hunderscore hother
          · exact ⟨hname, hother⟩
      · rw [if_neg hunderscore, List.mem_cons, ih hlater]
        constructor
        · rintro (rfl | hname)
          · exact ⟨Or.inl rfl, hunderscore⟩
          · exact ⟨Or.inr hname.1, hname.2⟩
        · rintro ⟨rfl | hname, hother⟩
          · exact Or.inl rfl
          · exact Or.inr ⟨hname, hother⟩

/-- The line with some names has bytes exactly if each name has. -/
theorem exists_namesLine_iff {names : List Scalar} :
    (∃ line, namesLine names = .ok line) ↔ ∀ name ∈ names, name.isWhole = true := by
  rw [← List.all_eq_true]
  cases hwhole : names.all Scalar.isWhole <;> simp [namesLine, hwhole]

/-- The tables of some names are counted exactly if each is resolved or reported. -/
theorem exists_tableLines_iff {names : List Scalar} :
    (∃ lines, tableLines profiles names = .ok lines) ↔ ∀ name ∈ names, ∀ fault,
      Profile.resolve profiles name = .error fault → fault.isReported = true := by
  induction names with
  | nil => exact iff_of_true ⟨[], rfl⟩ (by simp)
  | cons name rest ih =>
      rw [List.forall_mem_cons, ← ih, tableLines]
      cases hresolve : Profile.resolve profiles name with
      | ok rows =>
          dsimp only
          rw [Except.exists_bind_pure_eq_ok_iff]
          simp
      | error fault => cases hreported : fault.isReported <;> simp [hreported]

/-- A report is made of the findings of an audit, the names of formats, and the lines on these and
on their tables. -/
theorem exists_ofProfiles_iff_parts :
    (∃ printout, ofProfiles profiles = .ok printout) ↔
      (∃ issues, Audit.run profiles = .ok issues) ∧
      ∃ names, formatNames profiles = .ok names ∧ (∃ line, namesLine names = .ok line) ∧
        ∃ lines, tableLines profiles names = .ok lines := by
  rw [ofProfiles]
  cases Audit.run profiles with
  | error fault => simp [bind, Except.bind]
  | ok issues =>
      cases formatNames profiles with
      | error fault => simp [bind, Except.bind]
      | ok names =>
          cases hline : namesLine names with
          | error fault => simp [bind, Except.bind, hline]
          | ok line =>
              cases hlines : tableLines profiles names with
              | error fault => simp [bind, Except.bind, hline, hlines]
              | ok lines =>
                  cases issues <;> simp [bind, Except.bind, pure, Except.pure, hline, hlines]

/-- A report is printed exactly if the configuration can be audited and listed. -/
theorem exists_ofProfiles_iff (hdistinct : Entries.Distinct profiles) :
    (∃ printout, ofProfiles profiles = .ok printout) ↔ profiles.Auditable ∧ profiles.Listable := by
  rw [exists_ofProfiles_iff_parts, Audit.exists_run_iff hdistinct]
  refine and_congr_right fun hauditable => ?_
  have hgives : ∀ name : Scalar, name.isText = true →
      ((∀ fault, Profile.resolve profiles name = .error fault → fault.isReported = true) ↔
        Profile.GivesRows profiles name) := fun name hname =>
    Profile.resolve_reported_iff hauditable.linked hname hauditable.hasTellableBase
  constructor
  · rintro ⟨names, hnames, hline, hlines⟩
    have htexts := exists_formatNames_iff.1 ⟨names, hnames⟩
    refine ⟨htexts, fun name hmem hother => ?_, fun name hmem hother => ?_⟩
    · exact exists_namesLine_iff.1 hline name ((mem_formatNames_iff hnames).2 ⟨hmem, hother⟩)
    · have hname := (mem_formatNames_iff hnames).2 ⟨hmem, hother⟩
      exact (hgives name (htexts name hmem)).1 (exists_tableLines_iff.1 hlines name hname)
  · intro hlistable
    obtain ⟨names, hnames⟩ := exists_formatNames_iff.2 hlistable.names
    refine ⟨names, hnames, exists_namesLine_iff.2 fun name hname => ?_,
      exists_tableLines_iff.2 fun name hname => ?_⟩
    · obtain ⟨hmem, hother⟩ := (mem_formatNames_iff hnames).1 hname
      exact hlistable.whole name hmem hother
    · obtain ⟨hmem, hother⟩ := (mem_formatNames_iff hnames).1 hname
      exact (hgives name (hlistable.names name hmem)).2 (hlistable.rows name hmem hother)

/-- The status of a report tells whether an audit has found something, and each finding is printed
as a failure. -/
theorem status_of_ofProfiles {issues : List ConfigIssue} {printout : Printout}
    (hrun : Audit.run profiles = .ok issues) (hreport : ofProfiles profiles = .ok printout) :
    printout.status = (if issues = [] then 0 else 1) ∧
      printout.errors = linesText (issues.map fun issue => s!"FAIL  {issue.message}") := by
  obtain ⟨found, hfound, hrest⟩ := Except.bind_eq_ok_iff.1 hreport
  rw [hrun, Except.mapError_ok, Except.ok.injEq] at hfound
  obtain ⟨names, _, hrest⟩ := Except.bind_eq_ok_iff.1 hrest
  obtain ⟨line, _, hrest⟩ := Except.bind_eq_ok_iff.1 hrest
  obtain ⟨lines, _, hrest⟩ := Except.bind_eq_ok_iff.1 hrest
  cases hfound
  cases issues with
  | nil =>
      cases hrest
      exact ⟨rfl, rfl⟩
  | cons issue rest =>
      cases hrest
      exact ⟨rfl, rfl⟩

section

variable {program : String} {source : TableSource} {arguments : List String}
  {state : EngineState}

/-- A command that is told to report does so on the tables that it loads anew.  A fault in loading
them is reported, or ends the command. -/
theorem run_command (hflag : "--validate" ∈ arguments) :
    (command program source arguments).run state =
      match state.store.load source state.environment state.files true with
      | .ok (profiles, store) => (ofProfiles profiles, { state with store })
      | .error fault =>
        (if fault.isReported then
          .ok ⟨1, "", linesText [s!"FAIL  Config load error: {fault.message}"]⟩
        else .error (.load fault), state) := by
  have hcontains : arguments.contains "--validate" = true := List.contains_iff_mem.2 hflag
  rw [command, hcontains]
  simp only [Bool.not_true, Bool.false_eq_true, ↓reduceIte, bind_pure_comp, StateT.run_bind,
    StateT.run_get, pure_bind]
  cases state.store.load source state.environment state.files true with
  | ok loaded => rfl
  | error fault =>
      simp only
      split <;> rfl

end

end Report

/-- An audit of a configuration with distinct names ends exactly if it can be audited, and the
report on a file in which any parser reads it is printed exactly if it can be listed, too.  The
status of the report is 0 exactly if nothing has been found and else 1, and each finding is printed
as a failure. -/
theorem validation_ends_iff {profiles : Profiles} (hdistinct : Entries.Distinct profiles) :
    ((∃ issues, Audit.run profiles = .ok issues) ↔ profiles.Auditable) ∧
    ∀ (program : String) (source : TableSource) (arguments : List String) (state : EngineState)
      (cs : List Char), "--validate" ∈ arguments →
      MappingStore.IsWritten source state.environment state.files cs →
      source.parser.read cs = .ok (.dict profiles) →
      ((∃ printout, ((Report.command program source arguments).run state).1 = .ok printout) ↔
        profiles.Auditable ∧ profiles.Listable) ∧
      ∀ issues printout, Audit.run profiles = .ok issues →
        ((Report.command program source arguments).run state).1 = .ok printout →
        (printout.status = 0 ↔ issues = []) ∧ (issues ≠ [] → printout.status = 1) ∧
        printout.errors = Report.linesText (issues.map fun issue => s!"FAIL  {issue.message}") := by
  refine ⟨Audit.exists_run_iff hdistinct, ?_⟩
  intro program source arguments state cs hflag hwritten hread
  obtain ⟨store, hload⟩ := MappingStore.load_of_isWritten hwritten hread state.store
  rw [Report.run_command hflag, hload]
  refine ⟨Report.exists_ofProfiles_iff hdistinct, fun issues printout hrun hreport => ?_⟩
  obtain ⟨hstatus, herrors⟩ := Report.status_of_ofProfiles hrun hreport
  refine ⟨?_, fun hfound => by rw [hstatus, if_neg hfound], herrors⟩
  rw [hstatus]
  split <;> simp [*]

namespace ReportingWitness

/-- A profile whose only row is none. -/
def text : List Char := "erp_sap:\n  mappings: [7]\n".toList

/-- What the text writes. -/
def configuration : Profiles := [
  (.string "erp_sap", .dict [(.string "mappings", .list [.int 7])])]

open Yaml in
theorem read_text : reader.read text = .ok (.dict configuration) := by
  have htokens : tokens text = .ok [.blockMapping, .key, .plain "erp_sap", .value,
      .blockMapping, .key, .plain "mappings", .value, .flowSequence, .plain "7",
      .flowSequenceEnd, .blockEnd, .blockEnd] := by
    decide +kernel
  have hprofile : Plain.read "erp_sap" = .ok (.value (.string "erp_sap")) := by decide +kernel
  have hmappings : Plain.read "mappings" = .ok (.value (.string "mappings")) := by decide +kernel
  have hseven : Plain.read "7" = .ok (.value (.int 7)) := by decide +kernel
  refine readChars_of_tokens (by decide +kernel) htokens rfl ?_
  simp [Node.value, Node.values, Node.entries, nestingLimit, Node.split, Node.isMerge,
    Node.asKey, Node.keyValue, Node.plainValue, hprofile, hmappings, hseven]
  rfl

/-- The tables that come with the program are at another path. -/
def source : TableSource := ⟨"tables.yaml", Yaml.reader⟩

/-- An engine whose environment leads to a file with the text. -/
def state : EngineState where
  environment := [("MAPPING_CONFIG_PATH", "m.yaml")]
  files := ⟨[("m.yaml", Text.Utf8.encode text)], ["."]⟩

theorem isWritten_text :
    MappingStore.IsWritten source state.environment state.files text := by
  have hsettings : Settings.read source.path state.environment =
      .ok ⟨"m.yaml", 10485760, true, true, false, none, "INFO"⟩ := rfl
  have hlocate : state.files.locate "m.yaml" = .ok "m.yaml" := by decide +kernel
  have hread : state.files.read "m.yaml" = .ok (Text.Utf8.encode text) := by
    rw [Files.read_of_locate hlocate]
    rfl
  exact ⟨_, _, text, hsettings, hread, Text.Utf8.decode_encode text, by decide +kernel⟩

theorem listable_configuration : configuration.Listable := by
  refine ⟨by simp [configuration, Scalar.isText], by simp [configuration, Scalar.isWhole],
    fun name _ _ links hdescent link hlink => ?_⟩
  have hmem :=
    ((Profiles.descent_iff_trail hdescent.isText).1 hdescent).mem_profiles link hlink
  simp only [configuration, List.mem_singleton, Prod.mk.injEq, Value.dict.injEq] at hmem
  rw [hmem.2]
  exact ⟨_, Profile.ownRows_of_list rfl⟩

/-- The audit ends with findings, and the report on them is printed with the status 1. -/
theorem validation_ends_iff_with_findings :
    Entries.Distinct configuration ∧
    (∃ issues, Audit.run configuration = .ok issues ∧
      .row "erp_sap" 0 (.notARow "int") ∈ issues) ∧
    ∃ printout, ((Report.command "loader" source ["--validate"]).run state).1 = .ok printout ∧
      printout.status = 1 := by
  have hrun : Audit.run configuration =
      .ok (Audit.missingProfiles configuration ++ [.row "erp_sap" 0 (.notARow "int")]) := by
    decide +kernel
  have hdistinct := Yaml.reader_keepsKeysApart _ _ read_text
  obtain ⟨haudited, hcommand⟩ := validation_ends_iff hdistinct
  obtain ⟨hprinted, hstatus⟩ :=
    hcommand "loader" source ["--validate"] state text (by simp) isWritten_text read_text
  obtain ⟨printout, hprintout⟩ := hprinted.2 ⟨haudited.1 ⟨_, hrun⟩, listable_configuration⟩
  obtain ⟨_, hfound, _⟩ := hstatus _ printout hrun hprintout
  exact ⟨hdistinct, ⟨_, hrun, by simp⟩, printout, hprintout, hfound (by simp)⟩

end ReportingWitness

end EventIntake
