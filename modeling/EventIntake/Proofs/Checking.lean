/-
Data that can be checked, and events whose system has a name: JSON data can be checked, and every
event has a source, as long as nothing is nested past a limit.
-/
import EventIntake.Event.Check
import EventIntake.Normalize
import EventIntake.Proofs.JsonValue

namespace EventIntake

namespace Json

/-- What is written where halves of pairs have no place: a text if there are none, and else their
fault. -/
def Told (whole : Bool) (written : Except WriteFault String) : Prop :=
  if whole then ∃ text, written = .ok text else written = .error .halved

namespace Told

theorem of_ok {text : String} : Told true (.ok text) := ⟨text, rfl⟩

/-- One part that cannot be written is enough, and it is met before any other fault. -/
theorem bind {here there : Bool} {first : Except WriteFault String}
    {next : String → Except WriteFault String} (hfirst : Told here first)
    (hnext : ∀ text, Told there (next text)) : Told (here && there) (first >>= next) := by
  cases here with
  | true =>
      obtain ⟨text, rfl⟩ := hfirst
      exact hnext text
  | false =>
      have hfault : first = .error .halved := hfirst
      rw [hfault]
      rfl

end Told

theorem told_scalar {s : Scalar} (hjson : s.IsJson) : Told s.isWhole (measured.scalar s) := by
  cases s with
  | int n =>
      rw [measured.scalar_int (Scalar.isTooLong_int_eq_false.2 hjson)]
      exact Told.of_ok
  | halved t => rfl
  | moment m => cases hjson
  | date d => cases hjson
  | _ => exact Told.of_ok

theorem told_key {key : Scalar} (hkey : key.IsKey Scalar.IsJson) :
    Told key.isWhole (measured.key key) := by
  cases key with
  | string name => exact Told.of_ok
  | halved t => rfl
  | _ => cases hkey

/-- Points have a place for halves, so that every JSON value is written in them. -/
theorem exists_points_scalar {s : Scalar} (hjson : s.IsJson) :
    ∃ points : List Point, measured.scalar s = .ok points := by
  cases s with
  | int n => exact ⟨_, measured.scalar_int (Scalar.isTooLong_int_eq_false.2 hjson)⟩
  | moment m => cases hjson
  | date d => cases hjson
  | _ => exact ⟨_, rfl⟩

variable [Limits]

mutual

/-- JSON values are written in characters if they have no halves, and else the halves are at
fault. -/
theorem told_writeAt : {v : Value} → {level : Nat} → v.MadeOf Scalar.IsJson →
    level + v.depth ≤ Limits.writing → Told v.isWhole (measured.writeAt level v)
  | .scalar s, _, hmade, _ => by
      rw [Value.MadeOf] at hmade
      rw [Layout.writeAt, Value.isWhole]
      exact told_scalar hmade
  | .list [], _, _, _ => by
      rw [Layout.writeAt, Value.isWhole, Value.itemsWhole]
      exact Told.of_ok
  | .dict [], _, _, _ => by
      rw [Layout.writeAt, Value.isWhole, Value.entriesWhole]
      exact Told.of_ok
  | .list (v :: rest), level, hmade, hdepth => by
      rw [Value.MadeOf, Value.AllMadeOf] at hmade
      rw [Value.depth, Value.depthOfItems] at hdepth
      have hvroom : level + 1 + v.depth ≤ Limits.writing := by omega
      have hroom : level + 1 + Value.depthOfItems rest ≤ Limits.writing := by omega
      rw [Layout.writeAt, if_neg (by omega), Value.isWhole, Value.itemsWhole]
      refine (told_writeAt hmade.1 hvroom).bind fun first => ?_
      rw [← Bool.and_true (Value.itemsWhole rest)]
      exact (told_writeItems hmade.2 hroom).bind fun others => Told.of_ok
  | .dict ((key, v) :: rest), level, hmade, hdepth => by
      rw [Value.MadeOf, Entries.MadeOf] at hmade
      obtain ⟨hkey, _, hv, hrest⟩ := hmade
      rw [Value.depth, Value.depthOfEntries] at hdepth
      have hvroom : level + 1 + v.depth ≤ Limits.writing := by omega
      have hroom : level + 1 + Value.depthOfEntries rest ≤ Limits.writing := by omega
      rw [Layout.writeAt, if_neg (by omega), Value.isWhole, Value.entriesWhole, Bool.and_assoc]
      refine (told_key hkey).bind fun name => (told_writeAt hv hvroom).bind fun first => ?_
      rw [← Bool.and_true (Value.entriesWhole rest)]
      exact (told_writeEntries hrest hroom).bind fun others => Told.of_ok

theorem told_writeItems : {items : List Value} → {level : Nat} →
    Value.AllMadeOf Scalar.IsJson items → level + Value.depthOfItems items ≤ Limits.writing →
      Told (Value.itemsWhole items) (measured.writeItems level items)
  | [], _, _, _ => Told.of_ok
  | v :: rest, level, hmade, hdepth => by
      rw [Value.AllMadeOf] at hmade
      rw [Value.depthOfItems] at hdepth
      have hvroom : level + v.depth ≤ Limits.writing := by omega
      have hroom : level + Value.depthOfItems rest ≤ Limits.writing := by omega
      rw [Layout.writeItems, Value.itemsWhole]
      refine (told_writeAt hmade.1 hvroom).bind fun first => ?_
      rw [← Bool.and_true (Value.itemsWhole rest)]
      exact (told_writeItems hmade.2 hroom).bind fun others => Told.of_ok

theorem told_writeEntries : {entries : Entries} → {level : Nat} →
    Entries.MadeOf Scalar.IsJson entries → level + Value.depthOfEntries entries ≤ Limits.writing →
      Told (Value.entriesWhole entries) (measured.writeEntries level entries)
  | [], _, _, _ => Told.of_ok
  | (key, v) :: rest, level, hmade, hdepth => by
      rw [Entries.MadeOf] at hmade
      obtain ⟨hkey, _, hv, hrest⟩ := hmade
      rw [Value.depthOfEntries] at hdepth
      have hvroom : level + v.depth ≤ Limits.writing := by omega
      have hroom : level + Value.depthOfEntries rest ≤ Limits.writing := by omega
      rw [Layout.writeEntries, Value.entriesWhole, Bool.and_assoc]
      refine (told_key hkey).bind fun name => (told_writeAt hv hvroom).bind fun first => ?_
      rw [← Bool.and_true (Value.entriesWhole rest)]
      exact (told_writeEntries hrest hroom).bind fun others => Told.of_ok

end

end Json

namespace DataCheck

variable {data : Value}

/-- JSON data with room for their nesting have a size if no text in them has a half of a pair. -/
theorem exists_size [Limits] (hmade : data.MadeOf Scalar.IsJson)
    (hwritten : data.depth ≤ Limits.writing) (hwhole : data.isWhole = true) :
    ∃ n, size data = .ok n := by
  have hroom : 0 + data.depth ≤ Limits.writing := by omega
  have htold := Json.told_writeAt hmade hroom
  rw [hwhole] at htold
  obtain ⟨text, htext⟩ := htold
  rw [size, Json.Layout.write, htext]
  exact ⟨_, rfl⟩

/-- With a half in a text they have none: their bytes cannot be told. -/
theorem size_of_not_isWhole [Limits] (hmade : data.MadeOf Scalar.IsJson)
    (hwritten : data.depth ≤ Limits.writing) (hhalved : data.isWhole = false) :
    ∃ fault, size data = .error (.encode fault) := by
  have hroom : 0 + data.depth ≤ Limits.writing := by omega
  have htold := Json.told_writeAt hmade hroom
  rw [hhalved] at htold
  have hfault : (Json.measured.writeAt 0 data : Except Json.WriteFault String) = .error .halved :=
    htold
  obtain ⟨points, hpoints⟩ :=
    Json.Layout.exists_writeAt (fun _ => Json.exists_points_scalar) hmade hroom
  rw [size, Json.Layout.write, hfault, Json.Layout.write, hpoints]
  exact ⟨_, rfl⟩

theorem find_of_at? {path : String} {v : Value} (hat : at? data path = some v) :
    Path.find data path = .ok (some v) := by
  unfold at? at hat
  split at hat
  next found hfind => rw [hfind, hat]
  next => cases hat

theorem depth_le_of_at? {path : String} {v : Value} (hat : at? data path = some v) :
    v.depth ≤ data.depth :=
  Path.depth_le_of_follow (find_of_at? hat)

variable [Limits]

theorem exists_counterIssues (htold : data.depth ≤ Limits.telling) (counter : String) :
    ∃ found, counterIssues data counter = .ok found := by
  unfold counterIssues
  split
  next => exact ⟨_, rfl⟩
  next v hat =>
    have hshallow := Value.tooDeepToTell_eq_false (Nat.le_trans (depth_le_of_at? hat) htold)
    simp only [hshallow, Bool.false_eq_true, ↓reduceIte]
    repeat' split
    all_goals exact ⟨_, rfl⟩

theorem exists_allCounterIssues (htold : data.depth ≤ Limits.telling) (names : List String) :
    ∃ found, allCounterIssues data names = .ok found := by
  induction names with
  | nil => exact ⟨_, rfl⟩
  | cons counter rest ih =>
      obtain ⟨here, hhere⟩ := exists_counterIssues htold counter
      obtain ⟨others, hothers⟩ := ih
      rw [allCounterIssues, hhere, hothers]
      exact ⟨_, rfl⟩

theorem exists_issues (htold : data.depth ≤ Limits.telling) (check : DataCheck)
    (kind : EventKind) : ∃ found, check.issues data kind = .ok found := by
  unfold issues
  split
  next => exact ⟨_, rfl⟩
  next => exact exists_allCounterIssues htold counters
  next => exact ⟨_, rfl⟩
  next => exact ⟨_, rfl⟩

theorem exists_allIssues (htold : data.depth ≤ Limits.telling) (kind : EventKind)
    (checks : List DataCheck) : ∃ found, allIssues data kind checks = .ok found := by
  induction checks with
  | nil => exact ⟨_, rfl⟩
  | cons check rest ih =>
      obtain ⟨here, hhere⟩ := exists_issues htold check kind
      obtain ⟨others, hothers⟩ := ih
      rw [allIssues, hhere, hothers]
      exact ⟨_, rfl⟩

/-- JSON data without halves of pairs that are nested neither too deeply to be written nor for their
text can be checked. -/
theorem exists_run (hmade : data.MadeOf Scalar.IsJson) (hwritten : data.depth ≤ Limits.writing)
    (hwhole : data.isWhole = true) (htold : data.depth ≤ Limits.telling) (checks : List DataCheck)
    (kind : EventKind) (limit : Int) :
    ∃ found, run checks data kind limit = .ok found := by
  obtain ⟨n, hsize⟩ := exists_size hmade hwritten hwhole
  obtain ⟨found, hfound⟩ := exists_allIssues htold kind checks
  rw [run, hsize, hfound]
  exact ⟨_, rfl⟩

end DataCheck

namespace Format

variable [Limits]

theorem exists_displayFirst {candidates : List (Option Value)}
    (htold : ∀ v, some v ∈ candidates → v.depth ≤ Limits.telling ∧ v.MadeOf Scalar.IsJson) :
    ∃ name, displayFirst candidates = .ok name := by
  unfold displayFirst
  split
  next v hfind =>
    obtain ⟨hle, hmade⟩ := htold v (List.mem_of_find?_eq_some hfind)
    rw [Value.tooDeepToTell_eq_false hle, Value.hasTooLong_eq_false hmade]
    exact ⟨_, rfl⟩
  next => exact ⟨_, rfl⟩

/-- An event with a JSON payload, whose members are not nested too deeply for their text, has a
system with a name. -/
theorem exists_system (format : Format) {event : ExternalEvent}
    (hmade : event.payload.MadeOf Scalar.IsJson)
    (htold : event.payload.depth ≤ Limits.telling + 1) :
    ∃ name, format.system event = .ok name := by
  have hmember : ∀ key v, event.payload.member? key = some v →
      v.depth ≤ Limits.telling ∧ v.MadeOf Scalar.IsJson := by
    intro key v hv
    have hlt := Value.depth_lt_of_member? hv
    exact ⟨by omega, hmade.member? hv⟩
  cases format with
  | stripe =>
      have hcandidates : ∀ v, some v ∈ [event.payload.member? "type"] →
          v.depth ≤ Limits.telling ∧ v.MadeOf Scalar.IsJson := by
        intro v hv
        exact hmember "type" v (List.mem_singleton.1 hv).symm
      obtain ⟨name, hname⟩ := exists_displayFirst hcandidates
      rw [system, hname]
      exact ⟨_, rfl⟩
  | slack =>
      have hcandidates : ∀ v, some v ∈ [(event.payload.member? "event").bind (·.member? "type"),
          event.payload.member? "type"] → v.depth ≤ Limits.telling ∧ v.MadeOf Scalar.IsJson := by
        intro v hv
        rcases List.mem_cons.1 hv with hinner | hv
        · obtain ⟨inner, hinner, hmember'⟩ := Option.bind_eq_some_iff.1 hinner.symm
          obtain ⟨hle, hinnermade⟩ := hmember "event" inner hinner
          have hlt := Value.depth_lt_of_member? hmember'
          exact ⟨by omega, hinnermade.member? hmember'⟩
        · exact hmember "type" v (List.mem_singleton.1 hv).symm
      obtain ⟨name, hname⟩ := exists_displayFirst hcandidates
      rw [system, hname]
      exact ⟨_, rfl⟩
  | _ => exact ⟨_, rfl⟩

end Format

/-- An event with a JSON payload, whose members are not nested too deeply for their text, has a
source. -/
theorem Normalize.exists_source [Limits] (format : Format) {event : ExternalEvent}
    (hmade : event.payload.MadeOf Scalar.IsJson)
    (htold : event.payload.depth ≤ Limits.telling + 1) :
    ∃ source, Normalize.source format event = .ok source := by
  obtain ⟨name, hname⟩ := format.exists_system hmade htold
  rw [Normalize.source, hname]
  exact ⟨_, rfl⟩

end EventIntake
