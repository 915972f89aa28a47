/-
How loading breaks.  Loading gives tables, reports a fault, or breaks off.  It breaks off exactly
where tables are read from a directory, from bytes that are no text's unless the text before them
has a reported fault, or from a text on which the parser itself breaks off.
-/
import EventIntake.Proofs.Reporting

namespace EventIntake

/-- What stands at a path breaks off the reading of tables: it is a directory; or its bytes are no
text's, and in front of them the parser has met nothing to report; or its text has a fault that is
not reported. -/
inductive Files.Breaks (parser : Yaml.Parser) (files : Files) (path : String) : Prop
  | directory {place : String} (hplace : files.locate path = .ok place)
      (hdirectory : files.isDirectory place = true)
  | bytes {bytes : List UInt8} {fault : Text.Utf8.Fault} (hread : files.read path = .ok bytes)
      (hbroken : Text.Utf8.decode bytes = .error fault)
      (hmet : ∀ met, parser.readBroken (Text.plainLines (Text.Utf8.readable bytes)) fault =
        some met → (LoadFault.yaml path met).isReported = false)
  | value {cs : List Char} {fault : Yaml.ReadFault}
      (hread : files.read path = .ok (Text.Utf8.encode cs))
      (hfault : parser.read (Text.plainLines cs) = .error fault)
      (hunreported : (LoadFault.yaml path fault).isReported = false)

/-- Loading has to read what breaks off. -/
def MappingStore.Breaks (source : TableSource) (environment : Environment) (files : Files)
    (force : Bool) (store : MappingStore) : Prop :=
  ∃ settings, Settings.read source.path environment = .ok settings ∧
    (force = true ∨ ∀ profiles, store.loaded ≠ some (settings.mappingPath, profiles)) ∧
    files.Breaks source.parser settings.mappingPath

/-- There is nothing at a path, or a directory, or bytes that are no text's, or a text. -/
theorem Files.exists_cases (files : Files) (path : String) :
    files.exists path = false ∨
    (∃ place, files.locate path = .ok place ∧ files.isDirectory place = true) ∨
    (∃ bytes fault, files.read path = .ok bytes ∧ Text.Utf8.decode bytes = .error fault) ∨
    ∃ cs, files.read path = .ok (Text.Utf8.encode cs) := by
  cases hexists : files.exists path with
  | false => exact Or.inl rfl
  | true =>
      rcases directory_or_read hexists with hdirectory | ⟨bytes, hread⟩
      · exact Or.inr (Or.inl hdirectory)
      cases hdecode : Text.Utf8.decode bytes with
      | ok cs =>
          obtain rfl := Text.Utf8.decode_eq_ok_iff.1 hdecode
          exact Or.inr (Or.inr (Or.inr ⟨cs, hread⟩))
      | error fault => exact Or.inr (Or.inr (Or.inl ⟨bytes, fault, hread, hdecode⟩))

namespace Profiles

variable {parser : Yaml.Parser} {files : Files} {path : String}

theorem ofFile_of_text {cs : List Char} (hread : files.read path = .ok (Text.Utf8.encode cs)) :
    ofFile parser files path = ofParsed path (parser.read (Text.plainLines cs)) :=
  ofFile_of_read hread (Text.Utf8.decode_encode cs)

/-- What has been read is tables, or a fault of the text, or no dictionary, which is reported. -/
theorem exists_ofParsed_iff {read : Except Yaml.ReadFault Value} :
    (∃ fault, ofParsed path read = .error fault ∧ fault.isReported = false) ↔
      ∃ fault, read = .error fault ∧ (LoadFault.yaml path fault).isReported = false := by
  cases read with
  | error fault => simp [ofParsed]
  | ok v => cases v <;> simp [ofParsed, LoadFault.isReported]

/-- The tables in a file break off exactly where what stands there does. -/
theorem exists_ofFile_iff :
    (∃ fault, ofFile parser files path = .error fault ∧ fault.isReported = false) ↔
      files.Breaks parser path := by
  constructor
  · rintro ⟨fault, hfault, hunreported⟩
    rcases files.exists_cases path with
      hmissing | ⟨_, hplace, hdirectory⟩ | ⟨_, _, hread, hbroken⟩ | ⟨cs, hread⟩
    · rw [ofFile_of_not_exists hmissing] at hfault
      cases hfault
      cases hunreported
    · exact .directory hplace hdirectory
    · rw [ofFile_of_broken hread hbroken] at hfault
      refine .bytes hread hbroken fun met hmet => ?_
      rw [hmet] at hfault
      cases hfault
      exact hunreported
    · rw [ofFile_of_text hread] at hfault
      obtain ⟨broken, hbroken, hother⟩ := exists_ofParsed_iff.1 ⟨fault, hfault, hunreported⟩
      exact .value hread hbroken hother
  · intro hbreaks
    cases hbreaks with
    | directory hplace hdirectory => exact ⟨_, ofFile_of_directory hplace hdirectory, rfl⟩
    | bytes hread hbroken hmet =>
        rw [ofFile_of_broken hread hbroken]
        split
        next met hmeets => exact ⟨_, rfl, hmet met hmeets⟩
        next => exact ⟨_, rfl, rfl⟩
    | value hread hfault hunreported =>
        rw [ofFile_of_text hread]
        exact exists_ofParsed_iff.2 ⟨_, hfault, hunreported⟩

end Profiles

namespace MappingStore

variable {source : TableSource} {environment : Environment} {files : Files} {force : Bool}
  {store : MappingStore}

/-- Loading breaks off exactly where it has to read what does. -/
theorem exists_load_iff :
    (∃ fault, store.load source environment files force = .error fault ∧
      fault.isReported = false) ↔ store.Breaks source environment files force := by
  cases hsettings : Settings.read source.path environment with
  | error fault =>
      have hload : store.load source environment files force = .error (.settings fault) := by
        simp [load, hsettings, bind, Except.bind]
      simp [hload, Breaks, hsettings, LoadFault.isReported]
  | ok settings =>
      have hbreaks : store.Breaks source environment files force ↔
          (force = true ∨ ∀ profiles, store.loaded ≠ some (settings.mappingPath, profiles)) ∧
          files.Breaks source.parser settings.mappingPath := by
        simp [Breaks, hsettings]
      rw [hbreaks]
      by_cases hread : force = true ∨
          ∀ profiles, store.loaded ≠ some (settings.mappingPath, profiles)
      · rw [load_of_not_loaded hsettings hread, ← Profiles.exists_ofFile_iff]
        cases Profiles.ofFile source.parser files settings.mappingPath <;> simp [hread, Except.map]
      · obtain ⟨hforce, hheld⟩ := not_or.1 hread
        obtain ⟨profiles, hheld⟩ := Classical.not_forall.1 hheld
        obtain rfl := eq_false_of_ne_true hforce
        obtain rfl : store = ⟨some (settings.mappingPath, profiles)⟩ := by
          rw [← Classical.not_not.1 hheld]
        simp [load_of_loaded hsettings]

/-- Tables that are loaded anew have distinct names, if the parser keeps keys apart. -/
theorem distinct_of_load (hparser : source.parser.KeepsKeysApart) {profiles : Profiles}
    {loaded : MappingStore} (hload : store.load source environment files true =
      .ok (profiles, loaded)) : Entries.Distinct profiles := by
  obtain ⟨settings, hsettings, _⟩ := Except.bind_eq_ok_iff.1 hload
  rw [load_of_not_loaded (Except.mapError_eq_ok_iff.1 hsettings) (Or.inl rfl)] at hload
  obtain ⟨found, hfound, heq⟩ := Except.map_eq_ok_iff.1 hload
  cases heq
  obtain ⟨_, _, _, _, hread⟩ := Profiles.exists_text_of_ofFile hfound
  exact hparser _ _ hread

end MappingStore

namespace BreakingWitness

/-- The parser is the program's own. -/
def source : TableSource := ⟨"tables.yaml", Yaml.reader⟩

/-- An engine whose environment leads to a file with one byte, which no text begins with. -/
def state : EngineState where
  environment := [("MAPPING_CONFIG_PATH", "m.yaml")]
  files := ⟨[("m.yaml", [0xff])], ["."]⟩

theorem breaks_state : state.files.Breaks source.parser "m.yaml" := by
  have hlocate : state.files.locate "m.yaml" = .ok "m.yaml" := by decide +kernel
  have hread : state.files.read "m.yaml" = .ok [0xff] := by
    rw [Files.read_of_locate hlocate]
    rfl
  have hbroken : Text.Utf8.decode [0xff] = .error ⟨0xff, 0, 1, .invalidStart⟩ := by
    decide +kernel
  exact .bytes hread hbroken fun met hmet => by cases hmet

end BreakingWitness

end EventIntake
