/-
Loading mapping tables: a store gives the tables that it holds for the configured path, or else
reads what stands there, and an engine loads what its store does.
-/
import EventIntake.Engine
import EventIntake.Proofs.Nesting
import EventIntake.Proofs.Places
import EventIntake.Proofs.Stateful
import EventIntake.Proofs.Utf8

namespace EventIntake

/-- What a text without a fault writes, by its tokens, the tree of these, and the tree's value. -/
theorem Yaml.readChars_of_tokens {cs : List Char} {written : List Token} {node : Node} {v : Value}
    (hprintable : cs.all isPrintable = true) (htokens : tokens cs = .ok written)
    (hnode : Node.ofTokens? written = .ok (some node))
    (hvalue : node.value (nestingLimit + 1) 0 = .ok v) : readChars cs = .ok v := by
  simp [readChars, hprintable, htokens, hnode, hvalue, bind, Except.bind]

namespace Profiles

variable {parser : Yaml.Parser} {files : Files} {path : String}

theorem ofFile_of_not_exists (hmissing : files.exists path = false) :
    ofFile parser files path = .error (.notFound path) := by
  simp only [ofFile, hmissing, bind, Except.bind]
  rfl

/-- A file whose bytes are a text is read as what the text writes. -/
theorem ofFile_of_read {bytes : List UInt8} {written : List Char}
    (hread : files.read path = .ok bytes) (hdecode : Text.Utf8.decode bytes = .ok written) :
    ofFile parser files path = ofParsed path (parser.read (Text.plainLines written)) := by
  have hexists := Files.exists_of_read hread
  simp [ofFile, hexists, hread, hdecode, bind, Except.bind]

theorem ofFile_of_directory {place : String} (hplace : files.locate path = .ok place)
    (hdirectory : files.isDirectory place = true) :
    ofFile parser files path = .error (.file (.isADirectory path)) := by
  have hexists : files.exists path = true := by simp [Files.exists, hplace, hdirectory]
  have hread := Files.read_of_locate hplace
  rw [if_pos hdirectory] at hread
  simp [ofFile, hexists, hread, bind, Except.bind]

/-- A file that breaks off gives the fault that the parser meets in front of the break, or else that
of the break. -/
theorem ofFile_of_broken {bytes : List UInt8} {fault : Text.Utf8.Fault}
    (hread : files.read path = .ok bytes) (hdecode : Text.Utf8.decode bytes = .error fault) :
    ofFile parser files path =
      match parser.readBroken (Text.plainLines (Text.Utf8.readable bytes)) fault with
      | some met => .error (.yaml path met)
      | none => .error (.text fault.leftOver) := by
  have hexists := Files.exists_of_read hread
  cases hmet : parser.readBroken (Text.plainLines (Text.Utf8.readable bytes)) fault <;>
    simp [ofFile, hexists, hread, hdecode, hmet, bind, Except.bind, throw, throwThe,
      MonadExceptOf.throw]

theorem ofParsed_eq_ok_iff {read : Except Yaml.ReadFault Value} {profiles : Profiles} :
    ofParsed path read = .ok profiles ↔ read = .ok (.dict profiles) := by
  cases read with
  | error fault => simp [ofParsed]
  | ok v => cases v <;> simp [ofParsed]

/-- Tables in a file are what its text writes. -/
theorem exists_text_of_ofFile {profiles : Profiles}
    (hfile : ofFile parser files path = .ok profiles) :
    ∃ bytes written, files.read path = .ok bytes ∧ Text.Utf8.decode bytes = .ok written ∧
      parser.read (Text.plainLines written) = .ok (.dict profiles) := by
  cases hexists : files.exists path with
  | false =>
      rw [ofFile_of_not_exists hexists] at hfile
      cases hfile
  | true =>
      rcases Files.directory_or_read hexists with ⟨_, hplace, hdirectory⟩ | ⟨bytes, hbytes⟩
      · rw [ofFile_of_directory hplace hdirectory] at hfile
        cases hfile
      cases hdecode : Text.Utf8.decode bytes with
      | ok written =>
          rw [ofFile_of_read hbytes hdecode] at hfile
          exact ⟨bytes, written, hbytes, hdecode, ofParsed_eq_ok_iff.1 hfile⟩
      | error fault =>
          rw [ofFile_of_broken hbytes hdecode] at hfile
          split at hfile <;> cases hfile

end Profiles

namespace MappingStore

variable {source : TableSource} {environment : Environment} {files : Files}
  {settings : Settings} {profiles : Profiles}

/-- Tables that have been loaded from the configured path are used as they are. -/
theorem load_of_loaded (hsettings : Settings.read source.path environment = .ok settings) :
    load source environment files false ⟨some (settings.mappingPath, profiles)⟩ =
      .ok (profiles, ⟨some (settings.mappingPath, profiles)⟩) := by
  refine Except.bind_eq_ok_iff.2 ⟨settings, by rw [hsettings]; rfl, ?_⟩
  exact if_pos rfl

/-- Where tables are asked for anew, where none have been loaded, and where they are another path's,
they are read. -/
theorem load_of_not_loaded (hsettings : Settings.read source.path environment = .ok settings)
    {force : Bool} {store : MappingStore}
    (hread : force = true ∨ ∀ profiles, store.loaded ≠ some (settings.mappingPath, profiles)) :
    load source environment files force store =
      (Profiles.ofFile source.parser files settings.mappingPath).map fun profiles =>
        (profiles, ⟨some (settings.mappingPath, profiles)⟩) := by
  have hmap : ∀ path, (do
      let profiles ← Profiles.ofFile source.parser files path
      return (profiles, ⟨some (path, profiles)⟩) : Except LoadFault (Profiles × MappingStore)) =
        (Profiles.ofFile source.parser files path).map fun profiles =>
          (profiles, ⟨some (path, profiles)⟩) := by
    intro path
    cases Profiles.ofFile source.parser files path <;> rfl
  obtain ⟨loaded⟩ := store
  rw [load, hsettings]
  cases loaded with
  | none => exact hmap settings.mappingPath
  | some entry =>
      obtain ⟨known, profiles⟩ := entry
      cases force with
      | true => exact hmap settings.mappingPath
      | false =>
          have hother : known ≠ settings.mappingPath := by
            rintro rfl
            rcases hread with hforce | hread
            · cases hforce
            · exact hread profiles rfl
          exact (if_neg hother).trans (hmap settings.mappingPath)

/-- A text is written in the file that is configured for the tables. -/
def IsWritten (source : TableSource) (environment : Environment) (files : Files)
    (cs : List Char) : Prop :=
  ∃ settings bytes written, Settings.read source.path environment = .ok settings ∧
    files.read settings.mappingPath = .ok bytes ∧ Text.Utf8.decode bytes = .ok written ∧
    Text.plainLines written = cs

/-- What is written in the configured file is loaded where the tables are asked for anew. -/
theorem load_of_isWritten {cs : List Char} (hwritten : IsWritten source environment files cs)
    (hread : source.parser.read cs = .ok (.dict profiles)) (store : MappingStore) :
    ∃ loaded, store.load source environment files true = .ok (profiles, loaded) := by
  obtain ⟨settings, bytes, written, hsettings, hbytes, hdecode, rfl⟩ := hwritten
  have hat : Profiles.ofFile source.parser files settings.mappingPath = .ok profiles := by
    rw [Profiles.ofFile_of_read hbytes hdecode, Profiles.ofParsed_eq_ok_iff, hread]
  rw [load_of_not_loaded hsettings (Or.inl rfl), hat]
  exact ⟨_, rfl⟩

/-- Where a file has tables, and what has been loaded from its path are these, they are loaded: from
the store if they are there, and else anew. -/
theorem load_eq_of_ofFile {store : MappingStore}
    (hsettings : Settings.read source.path environment = .ok settings)
    (hfile : Profiles.ofFile source.parser files settings.mappingPath = .ok profiles)
    (hloaded : ∀ other, store.loaded = some (settings.mappingPath, other) → other = profiles)
    (force : Bool) :
    store.load source environment files force =
      .ok (profiles, ⟨some (settings.mappingPath, profiles)⟩) := by
  by_cases hread : force = true ∨
      ∀ profiles, store.loaded ≠ some (settings.mappingPath, profiles)
  · rw [load_of_not_loaded hsettings hread, hfile]
    rfl
  · obtain ⟨hforce, hheld⟩ := not_or.1 hread
    obtain ⟨other, hheld⟩ := Classical.not_forall.1 hheld
    have hheld := Classical.not_not.1 hheld
    obtain rfl := hloaded other hheld
    obtain rfl := eq_false_of_ne_true hforce
    obtain rfl : store = ⟨some (settings.mappingPath, other)⟩ := by rw [← hheld]
    exact load_of_loaded hsettings

end MappingStore

namespace Engine

open Stateful

/-- What an engine loads is what its store loads, and the store is the only thing that changes. -/
theorem run_load_eq (host : Host) (force : Bool) (state : EngineState) :
    (load host force).run state =
      match state.store.load host.tables state.environment state.files force with
      | .ok (profiles, store) => (.ok profiles, { state with store })
      | .error fault => (.error (.load fault), state) := by
  have hget : (get : Engine EngineState).run state = (.ok state, state) := rfl
  rw [load, run_bind_ok hget]
  cases state.store.load host.tables state.environment state.files force with
  | ok loaded => rfl
  | error fault => rfl

end Engine

end EventIntake
