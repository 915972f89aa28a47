/-
The cache of mapping tables over every run of changes and calls.  A call gives what the latest
successful reading gave or, where it reads itself, what stands at the configured path; a reading
that fails changes nothing.
-/
import EventIntake.Proofs.Loading
import Mathlib.Data.List.Nodup

namespace EventIntake

/-- What happens around an engine: its environment or its files change, or tables are asked for. -/
inductive StoreStep where
  | configure (environment : Environment)
  | change (files : Files)
  | load (force : Bool)

/-- A call that asks for tables: the engine before it, what it gives, and the engine behind it. -/
structure LoadCall where
  force : Bool
  before : EngineState
  outcome : Except EngineFault Profiles
  after : EngineState

namespace LoadCall

/-- A call of an engine. -/
def of (host : Host) (state : EngineState) (force : Bool) : LoadCall where
  force
  before := state
  outcome := ((Engine.load host force).run state).1
  after := ((Engine.load host force).run state).2

/-- A call reads where it is forced to, where nothing has been loaded, or where something has been
loaded from another path than the configured one. -/
def IsRead (path : String) (call : LoadCall) : Prop :=
  call.force = true ∨ call.before.store.loaded = none ∨
    ∃ known profiles, call.before.store.loaded = some (known, profiles) ∧ known ≠ path

/-- A call reads these tables, and the path that they stand at is the configured one. -/
def Reads (host : Host) (path : String) (profiles : Profiles) (call : LoadCall) : Prop :=
  (∃ settings, Settings.read host.tables.path call.before.environment = .ok settings ∧
    settings.mappingPath = path) ∧ call.IsRead path ∧ call.outcome = .ok profiles

variable {host : Host} {settings : Settings} {state : EngineState} {force : Bool}

theorem not_isRead_iff {path : String} {call : LoadCall} :
    ¬ call.IsRead path ↔
      call.force = false ∧ ∃ profiles, call.before.store.loaded = some (path, profiles) := by
  rw [IsRead]
  cases hloaded : call.before.store.loaded with
  | none => simp
  | some entry =>
      obtain ⟨known, profiles⟩ := entry
      simp

theorem IsRead.forced_or_not_loaded {path : String} {call : LoadCall} (hread : call.IsRead path) :
    call.force = true ∨ ∀ profiles, call.before.store.loaded ≠ some (path, profiles) := by
  rcases hread with hforce | hnone | ⟨known, _, hloaded, hother⟩
  · exact Or.inl hforce
  · simp [hnone]
  · simp [hloaded, hother]

/-- A call that does not read gives what has been loaded, and changes nothing. -/
theorem of_eq_of_loaded
    (hsettings : Settings.read host.tables.path state.environment = .ok settings)
    {profiles : Profiles} (hloaded : state.store.loaded = some (settings.mappingPath, profiles)) :
    of host state false = ⟨false, state, .ok profiles, state⟩ := by
  obtain ⟨environment, files, ⟨loaded⟩, readings⟩ := state
  dsimp only at hsettings hloaded
  rw [of, Engine.run_load_eq, hloaded, MappingStore.load_of_loaded hsettings]

/-- A call that reads gives what stands at the configured path.  If that are tables, they have been
loaded behind it, and otherwise nothing changes. -/
theorem of_eq_of_isRead
    (hsettings : Settings.read host.tables.path state.environment = .ok settings)
    (hread : (of host state force).IsRead settings.mappingPath) :
    of host state force =
      match Profiles.ofFile host.tables.parser state.files settings.mappingPath with
      | .ok profiles => ⟨force, state, .ok profiles,
          { state with store := ⟨some (settings.mappingPath, profiles)⟩ }⟩
      | .error fault => ⟨force, state, .error (.load fault), state⟩ := by
  have hnot : force = true ∨ ∀ profiles,
      state.store.loaded ≠ some (settings.mappingPath, profiles) := hread.forced_or_not_loaded
  rw [of, Engine.run_load_eq, MappingStore.load_of_not_loaded hsettings hnot]
  cases Profiles.ofFile host.tables.parser state.files settings.mappingPath <;> rfl

theorem environment_of (host : Host) (state : EngineState) (force : Bool) :
    (of host state force).after.environment = state.environment := by
  rw [of, Engine.run_load_eq]
  cases state.store.load host.tables state.environment state.files force <;> rfl

theorem files_of (host : Host) (state : EngineState) (force : Bool) :
    (of host state force).after.files = state.files := by
  rw [of, Engine.run_load_eq]
  cases state.store.load host.tables state.environment state.files force <;> rfl

/-- What has been loaded after some calls: what the latest of them that read tables read, or
nothing where none did. -/
def Latest (host : Host) (calls : List LoadCall) : Option (String × Profiles) → Prop
  | none => ∀ call ∈ calls, ∀ path profiles, ¬ call.Reads host path profiles
  | some (path, profiles) =>
    ∃ before source after, calls = before ++ source :: after ∧ source.Reads host path profiles ∧
      ∀ call ∈ after, ∀ path profiles, ¬ call.Reads host path profiles

/-- A call that reads no tables is not the latest one that did. -/
theorem Latest.append_of_not_reads {calls : List LoadCall} {loaded : Option (String × Profiles)}
    (hlatest : Latest host calls loaded) {call : LoadCall}
    (hreads : ∀ path profiles, ¬ call.Reads host path profiles) :
    Latest host (calls ++ [call]) loaded := by
  cases loaded with
  | none =>
      intro other hother
      rcases List.mem_append.1 hother with hold | hnew
      · exact hlatest other hold
      · rw [List.mem_singleton.1 hnew]
        exact hreads
  | some entry =>
      obtain ⟨before, source, after, rfl, hsource, hafter⟩ := hlatest
      refine ⟨before, source, after ++ [call], by simp, hsource, ?_⟩
      rw [List.forall_mem_append, List.forall_mem_singleton]
      exact ⟨hafter, hreads⟩

/-- One call: what has been loaded behind it is what the latest call up to it read. -/
theorem Latest.step {calls : List LoadCall} (hlatest : Latest host calls state.store.loaded)
    (hsettings : Settings.read host.tables.path state.environment = .ok settings) (force : Bool) :
    Latest host (calls ++ [of host state force]) (of host state force).after.store.loaded := by
  have hconfigured : ∀ path profiles, (of host state force).Reads host path profiles →
      (of host state force).IsRead settings.mappingPath := by
    rintro path profiles ⟨⟨other, hother, rfl⟩, hread, _⟩
    obtain rfl : settings = other := Except.ok.inj (hsettings.symm.trans hother)
    exact hread
  by_cases hread : (of host state force).IsRead settings.mappingPath
  · have hcall := of_eq_of_isRead hsettings hread
    cases hat : Profiles.ofFile host.tables.parser state.files settings.mappingPath with
    | ok profiles =>
        rw [hat] at hcall
        dsimp only at hcall
        refine hcall ▸ ⟨calls, _, [], rfl, ⟨⟨settings, hsettings, rfl⟩, hcall ▸ hread, rfl⟩, ?_⟩
        simp
    | error fault =>
        rw [hat] at hcall
        dsimp only at hcall
        have hafter : (of host state force).after.store.loaded = state.store.loaded := by
          rw [hcall]
        rw [hafter]
        refine hlatest.append_of_not_reads ?_
        rintro path profiles ⟨_, _, houtcome⟩
        rw [hcall] at houtcome
        cases houtcome
  · obtain ⟨hforce, profiles, hloaded⟩ := not_isRead_iff.1 hread
    have hforce : force = false := hforce
    have hafter : (of host state force).after.store.loaded = state.store.loaded := by
      rw [hforce, of_eq_of_loaded hsettings hloaded]
    rw [hafter]
    exact hlatest.append_of_not_reads fun path profiles hreads =>
      hread (hconfigured path profiles hreads)

end LoadCall

namespace StoreStep

def after (host : Host) (state : EngineState) : StoreStep → EngineState
  | .configure environment => { state with environment }
  | .change files => { state with files }
  | .load force => (LoadCall.of host state force).after

def calls (host : Host) : EngineState → List StoreStep → List LoadCall
  | _, [] => []
  | state, .load force :: rest =>
    LoadCall.of host state force :: calls host (LoadCall.of host state force).after rest
  | state, step :: rest => calls host (step.after host state) rest

/-- The environments that steps meet: the one at the beginning and those that are set. -/
def Meets (state : EngineState) (steps : List StoreStep) (environment : Environment) : Prop :=
  environment = state.environment ∨ .configure environment ∈ steps

variable {host : Host}

/-- Over a run: what has been loaded when a call comes is what the latest call before it read. -/
theorem latest_of_calls {steps : List StoreStep} {state : EngineState} {log : List LoadCall}
    (hlatest : LoadCall.Latest host log state.store.loaded)
    (hreadable : ∀ environment, Meets state steps environment →
      ∃ settings, Settings.read host.tables.path environment = .ok settings)
    {earlier later : List LoadCall} {call : LoadCall}
    (hcalls : calls host state steps = earlier ++ call :: later) :
    LoadCall.Latest host (log ++ earlier) call.before.store.loaded ∧
      call = .of host call.before call.force ∧
      ∃ settings, Settings.read host.tables.path call.before.environment = .ok settings := by
  induction steps generalizing state log earlier with
  | nil => simp [calls] at hcalls
  | cons step rest ih =>
      cases step with
      | configure environment =>
          have hkept : LoadCall.Latest host log
              ({ state with environment } : EngineState).store.loaded := hlatest
          refine ih hkept (fun other hother => hreadable other ?_) hcalls
          rcases hother with rfl | hlater
          · exact Or.inr List.mem_cons_self
          · exact Or.inr (List.mem_cons_of_mem _ hlater)
      | change files =>
          have hkept : LoadCall.Latest host log
              ({ state with files } : EngineState).store.loaded := hlatest
          refine ih hkept (fun other hother => hreadable other ?_) hcalls
          exact hother.imp_right (List.mem_cons_of_mem _)
      | load force =>
          obtain ⟨settings, hsettings⟩ := hreadable _ (Or.inl rfl)
          cases earlier with
          | nil =>
              obtain ⟨rfl, -⟩ := List.cons.inj hcalls
              rw [List.append_nil]
              exact ⟨hlatest, rfl, settings, hsettings⟩
          | cons first earlier =>
              obtain ⟨rfl, hrest⟩ := List.cons.inj hcalls
              rw [← List.singleton_append, ← List.append_assoc]
              refine ih (hlatest.step hsettings force)
                (fun other hother => hreadable other ?_) hrest
              rw [Meets, LoadCall.environment_of] at hother
              exact hother.imp_right (List.mem_cons_of_mem _)

end StoreStep

/-- Over every run of changes and calls from an empty cache, with settings that can be read, and
with any parser: a call that does not read gives exactly what the latest successful reading before
it gave, which was for the path that is configured now, and changes nothing, whatever has become of
the files.  A call that reads gives what stands at the configured path.  If that are tables, they
are what the parser makes of the file's text, and are loaded behind it; if not, what was loaded
stays loaded.  So tables that are loaded behind a call are used again without reading as soon as
their path is the configured one. -/
theorem mapping_cache_coherent {host : Host} {state : EngineState} {steps : List StoreStep}
    (hempty : state.store.loaded = none)
    (hreadable : ∀ environment, StoreStep.Meets state steps environment →
      ∃ settings, Settings.read host.tables.path environment = .ok settings)
    {earlier later : List LoadCall} {call : LoadCall}
    (hcalls : StoreStep.calls host state steps = earlier ++ call :: later) :
    ∃ settings, Settings.read host.tables.path call.before.environment = .ok settings ∧
      (¬ call.IsRead settings.mappingPath →
        ∃ profiles before source after, call.outcome = .ok profiles ∧ call.after = call.before ∧
          earlier = before ++ source :: after ∧
          source.Reads host settings.mappingPath profiles ∧
          ∀ other ∈ after, ∀ path profiles, ¬ other.Reads host path profiles) ∧
      (call.IsRead settings.mappingPath →
        match Profiles.ofFile host.tables.parser call.before.files settings.mappingPath with
        | .ok profiles => call.outcome = .ok profiles ∧
            call.after.store.loaded = some (settings.mappingPath, profiles) ∧
            ∃ bytes written, call.before.files.read settings.mappingPath = .ok bytes ∧
              Text.Utf8.decode bytes = .ok written ∧
              host.tables.parser.read (Text.plainLines written) = .ok (.dict profiles)
        | .error fault => call.outcome = .error (.load fault) ∧
            call.after.store.loaded = call.before.store.loaded) ∧
      ∀ environment restored files profiles,
        Settings.read host.tables.path environment = .ok restored →
        call.after.store.loaded = some (restored.mappingPath, profiles) →
        let again := LoadCall.of host { call.after with environment, files } false
        again.outcome = .ok profiles ∧ ¬ again.IsRead restored.mappingPath := by
  have hnone : LoadCall.Latest host [] state.store.loaded := by
    rw [hempty]
    simp [LoadCall.Latest]
  obtain ⟨hlatest, hcall, settings, hsettings⟩ := StoreStep.latest_of_calls hnone hreadable hcalls
  rw [List.nil_append] at hlatest
  refine ⟨settings, hsettings, fun hserved => ?_, fun hread => ?_, ?_⟩
  · obtain ⟨hforce, profiles, hloaded⟩ := LoadCall.not_isRead_iff.1 hserved
    rw [hloaded] at hlatest
    obtain ⟨before, source, after, hearlier, hsource, hafter⟩ := hlatest
    rw [hforce, LoadCall.of_eq_of_loaded hsettings hloaded] at hcall
    exact ⟨profiles, before, source, after, by rw [hcall], by rw [hcall], hearlier, hsource, hafter⟩
  · rw [hcall] at hread
    have hgives := LoadCall.of_eq_of_isRead hsettings hread
    rw [← hcall] at hgives
    cases hat : Profiles.ofFile host.tables.parser call.before.files settings.mappingPath with
    | ok profiles =>
        simp only [hat] at hgives
        exact ⟨congrArg LoadCall.outcome hgives,
          congrArg (fun gives : LoadCall => gives.after.store.loaded) hgives,
          Profiles.exists_text_of_ofFile hat⟩
    | error fault =>
        simp only [hat] at hgives
        exact ⟨congrArg LoadCall.outcome hgives,
          congrArg (fun gives : LoadCall => gives.after.store.loaded) hgives⟩
  · intro environment restored files profiles hrestored hloaded again
    have hagain : again = _ := LoadCall.of_eq_of_loaded hrestored hloaded
    rw [hagain]
    exact ⟨rfl, LoadCall.not_isRead_iff.2 ⟨rfl, profiles, hloaded⟩⟩

namespace CachingWitness

/-- The parser is the program's own. -/
def host : Host where
  tables := ⟨"tables.yaml", Yaml.reader⟩
  instruments := ⟨fun _ => ⟨0, some 0⟩, fun _ => .zero false, fun _ => "evt-1"⟩
  registry := []

def text : List Char := "_base: \x7b\x7d\n".toList

def tables : Profiles := [(.string "_base", .dict [])]

open Yaml in
theorem read_text : reader.read text = .ok (.dict tables) := by
  have htokens : tokens text = .ok [.blockMapping, .key, .plain "_base", .value,
      .flowMapping, .flowMappingEnd, .blockEnd] := by
    decide +kernel
  have hname : Plain.read "_base" = .ok (.value (.string "_base")) := by decide +kernel
  refine readChars_of_tokens (by decide +kernel) htokens rfl ?_
  simp [Node.value, Node.entries, nestingLimit, Node.split, Node.isMerge, Node.asKey,
    Node.keyValue, Node.plainValue, hname]
  rfl

open Yaml in
theorem read_list : reader.read ['[', ']'] = .ok (.list []) := by
  have htokens : tokens ['[', ']'] = .ok [.flowSequence, .flowSequenceEnd] := by decide +kernel
  refine readChars_of_tokens (by decide +kernel) htokens rfl ?_
  simp [Node.value, Node.values, nestingLimit, Except.map]

/-- The tables in their file, beside a list in another one. -/
def written : Files :=
  ⟨[("tables.yaml", Text.Utf8.encode text), ("other.yaml", [0x5b, 0x5d])], ["."]⟩

/-- The same files without the one with the tables. -/
def removed : Files := ⟨[("other.yaml", [0x5b, 0x5d])], ["."]⟩

/-- An environment in which the tables are at the other path. -/
def elsewhere : Environment := [("MAPPING_CONFIG_PATH", "other.yaml")]

/-- The tables are written and loaded, another path is tried, and the first path is configured again
after its file has gone. -/
def steps : List StoreStep := [
  .change written, .load false, .configure elsewhere, .load true,
  .configure [], .change removed, .load false]

/-- An engine that has loaded nothing. -/
def state : EngineState where
  environment := []
  files := ⟨[], ["."]⟩

def first : LoadCall := .of host { state with files := written } false

def failed : LoadCall := .of host { first.after with environment := elsewhere } true

def again : LoadCall := .of host { failed.after with environment := [], files := removed } false

/-- The first call reads what is written, the second one fails, and the third one does not read and
gives what the first one read, whose file is no longer there. -/
theorem mapping_cache_coherent_of_restored_path :
    state.store.loaded = none ∧
    (∀ environment, StoreStep.Meets state steps environment →
      ∃ settings, Settings.read host.tables.path environment = .ok settings) ∧
    StoreStep.calls host state steps = [first, failed, again] ∧
    first.Reads host "tables.yaml" tables ∧
    failed.IsRead "other.yaml" ∧ failed.outcome = .error (.load (.notAMapping "other.yaml")) ∧
    again.before.files.exists "tables.yaml" = false ∧
    ¬ again.IsRead "tables.yaml" ∧ again.outcome = .ok tables := by
  have hstart : Settings.read host.tables.path [] =
      .ok ⟨"tables.yaml", 10485760, true, true, false, none, "INFO"⟩ := rfl
  have helsewhere : Settings.read host.tables.path elsewhere =
      .ok ⟨"other.yaml", 10485760, true, true, false, none, "INFO"⟩ := rfl
  have hreadable : ∀ environment, StoreStep.Meets state steps environment →
      ∃ settings, Settings.read host.tables.path environment = .ok settings := by
    rintro environment (rfl | hset)
    · exact ⟨_, hstart⟩
    · simp only [steps, List.mem_cons, reduceCtorEq, StoreStep.configure.injEq, false_or,
        List.not_mem_nil, or_false] at hset
      rcases hset with rfl | rfl
      · exact ⟨_, helsewhere⟩
      · exact ⟨_, hstart⟩
  have hcalls : StoreStep.calls host state steps = [first, failed, again] := rfl
  have hfirst : first.outcome = .ok tables ∧
      first.after.store.loaded = some ("tables.yaml", tables) := by
    have hsplit : StoreStep.calls host state steps = [] ++ first :: [failed, again] := hcalls
    obtain ⟨settings, hsettings, _, hreads, _⟩ := mapping_cache_coherent rfl hreadable hsplit
    obtain rfl := Except.ok.inj (hstart.symm.trans hsettings)
    have hlocate : written.locate "tables.yaml" = .ok "tables.yaml" := by decide +kernel
    have hbytes : written.read "tables.yaml" = .ok (Text.Utf8.encode text) := by
      rw [Files.read_of_locate hlocate]
      rfl
    have hfile : Profiles.ofFile host.tables.parser written "tables.yaml" = .ok tables := by
      rw [Profiles.ofFile_of_read hbytes (Text.Utf8.decode_encode text),
        Profiles.ofParsed_eq_ok_iff]
      exact read_text
    have hbefore : first.before.files = written := rfl
    have hgives := hreads (Or.inr (Or.inl rfl))
    rw [hbefore, hfile] at hgives
    exact ⟨hgives.1, hgives.2.1⟩
  have hfailed : failed.outcome = .error (.load (.notAMapping "other.yaml")) ∧
      failed.after.store.loaded = first.after.store.loaded := by
    have hsplit : StoreStep.calls host state steps = [first] ++ failed :: [again] := hcalls
    obtain ⟨settings, hsettings, _, hreads, _⟩ := mapping_cache_coherent rfl hreadable hsplit
    obtain rfl := Except.ok.inj (helsewhere.symm.trans hsettings)
    have hlocate : written.locate "other.yaml" = .ok "other.yaml" := by decide +kernel
    have hbytes : written.read "other.yaml" = .ok [0x5b, 0x5d] := by
      rw [Files.read_of_locate hlocate]
      rfl
    have hdecode : Text.Utf8.decode [0x5b, 0x5d] = .ok ['[', ']'] := by decide +kernel
    have hbefore : failed.before.files = written := LoadCall.files_of host _ false
    have hfile : Profiles.ofFile host.tables.parser written "other.yaml" =
        .error (.notAMapping "other.yaml") := by
      rw [Profiles.ofFile_of_read hbytes hdecode]
      exact congrArg (Profiles.ofParsed "other.yaml") read_list
    have hgives := hreads (Or.inl rfl)
    rw [hbefore, hfile] at hgives
    exact hgives
  have hloaded : again.before.store.loaded = some ("tables.yaml", tables) :=
    hfailed.2.trans hfirst.2
  have hserved : ¬ again.IsRead "tables.yaml" := LoadCall.not_isRead_iff.2 ⟨rfl, _, hloaded⟩
  refine ⟨rfl, hreadable, hcalls, ⟨⟨_, hstart, rfl⟩, Or.inr (Or.inl rfl), hfirst.1⟩, Or.inl rfl,
    hfailed.1, by decide +kernel, hserved, ?_⟩
  -- The entry that the second call left is the one that the first call made.
  have hsplit : StoreStep.calls host state steps = [first] ++ failed :: [again] := hcalls
  obtain ⟨_, _, _, _, hrestore⟩ := mapping_cache_coherent rfl hreadable hsplit
  exact (hrestore [] _ removed _ hstart hloaded).1

end CachingWitness

end EventIntake
