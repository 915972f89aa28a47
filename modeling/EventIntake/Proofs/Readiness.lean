/-
An engine that is ready: its settings can be read and lead to a file with mapping tables.  It stays
ready whatever it is asked for, and it normalizes by these tables.
-/
import EventIntake.Proofs.Loading

namespace EventIntake

open Stateful

/-- The settings can be read and leave the path of the mapping tables as it is, where a file has
certain tables.  What has been loaded from there are these, and the counters are kept elsewhere. -/
structure EngineState.Ready (host : Host) (settings : Settings) (tables : Profiles)
    (state : EngineState) : Prop where
  readable : Settings.read host.tables.path state.environment = .ok settings
  path : settings.mappingPath = host.tables.path
  file : Profiles.ofFile host.tables.parser state.files host.tables.path = .ok tables
  loaded : ∀ profiles, state.store.loaded = some (host.tables.path, profiles) → profiles = tables
  apart : ∀ path place, settings.metricsFile = some path → state.files.Leads path place →
    ¬ state.files.Leads host.tables.path place

/-- Writing the counters keeps an engine ready. -/
theorem EngineState.Ready.write {host : Host} {settings : Settings} {tables : Profiles}
    {state : EngineState} (hready : state.Ready host settings tables) {path : String}
    {bytes : List UInt8} {files : Files} (hpath : settings.metricsFile = some path)
    (hwrite : state.files.write path bytes = .ok files) :
    { state with files }.Ready host settings tables := by
  have hapart : ∀ place, state.files.Leads path place →
      ¬ state.files.Leads host.tables.path place := fun place => hready.apart path place hpath
  obtain ⟨place, hplace⟩ := Files.exists_leads hwrite
  have hdirectories : state.files.directories = files.directories := by
    rw [hplace.write] at hwrite
    cases hwrite
    rfl
  refine ⟨hready.readable, hready.path, ?_, hready.loaded, ?_⟩
  · obtain ⟨tablesBytes, written, hread, hdecode, hparsed⟩ :=
      Profiles.exists_text_of_ofFile hready.file
    have hread : files.read host.tables.path = .ok tablesBytes :=
      Files.read_of_write hwrite hapart hread
    rw [Profiles.ofFile_of_read hread hdecode]
    exact Profiles.ofParsed_eq_ok_iff.2 hparsed
  · intro other place hother hleads hboth
    exact hready.apart other place hother (hleads.of_directories hdirectories)
      (hboth.of_directories hdirectories)

namespace Engine

variable {host : Host} {settings : Settings} {tables : Profiles} {state : EngineState}

/-- An engine that is ready loads its tables. -/
theorem run_load (hready : state.Ready host settings tables) (force : Bool) :
    (load host force).run state =
      (.ok tables, { state with store := ⟨some (host.tables.path, tables)⟩ }) := by
  have hpath := hready.path
  have hfile : Profiles.ofFile host.tables.parser state.files settings.mappingPath = .ok tables :=
    hpath ▸ hready.file
  have hloaded : ∀ other, state.store.loaded = some (settings.mappingPath, other) →
      other = tables := fun other hother => hready.loaded other (hpath ▸ hother)
  rw [run_load_eq, MappingStore.load_eq_of_ofFile hready.readable hfile hloaded force, hpath]

theorem keeps_load (force : Bool) :
    Keeps (EngineState.Ready host settings tables) (load host force) := by
  intro state hready
  rw [run_load hready]
  refine ⟨hready.readable, hready.path, hready.file, fun profiles hloaded => ?_, hready.apart⟩
  cases hloaded
  rfl

theorem keeps_table (format : String) :
    Keeps (EngineState.Ready host settings tables) (table host format) := by
  refine (keeps_load false).bind fun profiles => ?_
  cases Profile.table profiles (.string format) with
  | ok rows => exact .ofExcept _
  | error fault => exact .ofExcept _

theorem keeps_supported (name : String) :
    Keeps (EngineState.Ready host settings tables) (supported name) := by
  unfold supported
  cases Format.ofName? name with
  | some format => exact .ofExcept _
  | none => exact .ofExcept _

variable [Limits]

theorem run_normalizeBy (format : Format) (table : List Row) (event : ExternalEvent)
    (config : Config) :
    (normalizeBy host format table event config).run state =
      (((Normalize.run ⟨host.instruments, host.registry, table, config⟩ format event).run
          state.readings).1.mapError .normalize,
        { state with
          readings := ((Normalize.run ⟨host.instruments, host.registry, table, config⟩ format
            event).run state.readings).2 }) := by
  have hget : (get : Engine EngineState).run state = (.ok state, state) := rfl
  rw [normalizeBy, run_bind_ok hget]
  rcases hresult : (Normalize.run ⟨host.instruments, host.registry, table, config⟩ format
    event).run state.readings with ⟨fault | envelope, readings⟩
  · dsimp only
    rw [hresult]
    rfl
  · dsimp only
    rw [hresult]
    rfl

theorem keeps_normalizeBy (format : Format) (table : List Row) (event : ExternalEvent)
    (config : Config) :
    Keeps (EngineState.Ready host settings tables)
      (normalizeBy host format table event config) := by
  intro state hready
  rw [run_normalizeBy]
  exact ⟨hready.readable, hready.path, hready.file, hready.loaded, hready.apart⟩

/-- Normalizing keeps the engine ready. -/
theorem keeps_normalize (event : ExternalEvent) (config : Config) :
    Keeps (EngineState.Ready host settings tables) (normalize host event config) :=
  (keeps_supported event.format).bind fun format =>
    (keeps_table event.format).bind fun table => keeps_normalizeBy format table event config

/-- Inspecting keeps the engine ready. -/
theorem keeps_inspect (event : ExternalEvent) (config : Config) :
    Keeps (EngineState.Ready host settings tables) (inspect host event config) :=
  (keeps_supported event.format).bind fun format =>
    (keeps_table event.format).bind fun table =>
      (keeps_normalizeBy format table event config).bind fun _ => .ofExcept _

/-- What an engine that is ready makes of an event of a supported format is what normalizing makes
of it by the format's table. -/
theorem run_normalize {format : Format} {table : List Row} {event : ExternalEvent}
    {config : Config} (hready : state.Ready host settings tables)
    (hformat : Format.ofName? event.format = some format)
    (htable : Profile.table tables (.string event.format) = .ok table) :
    ((normalize host event config).run state).1 =
      ((Normalize.run ⟨host.instruments, host.registry, table, config⟩ format event).run
        state.readings).1.mapError .normalize := by
  have hsupported : (supported event.format).run state = (.ok format, state) := by
    rw [supported, hformat]
    rfl
  have hlooked : (Engine.table host event.format).run state =
      (.ok table, { state with store := ⟨some (host.tables.path, tables)⟩ }) := by
    rw [Engine.table, run_bind_ok (run_load hready false), htable]
    rfl
  rw [normalize, run_bind_ok hsupported, run_bind_ok hlooked, run_normalizeBy]

end Engine

end EventIntake
