/-
Every request with an event of a supported format is answered, unless the answer would have to tell
data that are nested too deeply or halves of surrogate pairs.
-/
import EventIntake.Proofs.Asking
import EventIntake.Proofs.BundledTable
import EventIntake.Proofs.Checking
import EventIntake.Proofs.JsonTables
import EventIntake.Proofs.Normalizing
import EventIntake.Proofs.Serving

namespace EventIntake

theorem Value.depth_record_le_iff {members : List (String × Value)} {n : Nat} :
    (record members).depth ≤ n + 1 ↔ ∀ member ∈ members, member.2.depth ≤ n := by
  rw [record, depth, Nat.add_comm, Nat.add_le_add_iff_right, depthOfEntries_le_iff,
    List.forall_mem_map]

theorem Wire.depth_present_le {α : Type} {name : String} {f : α → Value} {a : Option α} {n : Nat}
    (hf : ∀ a, (f a).depth ≤ n) : ∀ member ∈ present name f a, member.2.depth ≤ n := by
  cases a with
  | none => simp [present]
  | some a => simpa [present] using hf a

theorem Value.depth_ofTexts_le (texts : List String) : (Value.ofTexts texts).depth ≤ 1 := by
  rw [ofTexts, depth_list_le_iff]
  simp

theorem AppliedRow.depth_toPayload_le (row : AppliedRow) : row.toPayload.depth ≤ 1 := by
  rw [toPayload, Value.depth_record_le_iff, List.forall_mem_append]
  exact ⟨by simp, Wire.depth_present_le fun _ => by simp⟩

theorem DataIssue.depth_toValue_le (issue : DataIssue) : issue.toValue.depth ≤ 1 := by
  rw [toValue, Value.depth_record_le_iff]
  simp

theorem Source.depth_toPayload_le (source : Source) : source.toPayload.depth ≤ 1 := by
  rw [toPayload, Value.depth_record_le_iff, List.forall_mem_append]
  exact ⟨by simp, Wire.depth_present_le fun _ => by simp⟩

theorem Validation.depth_toPayload_le (validation : Validation) :
    validation.toPayload.depth ≤ 3 := by
  rw [toPayload, Value.depth_record_le_iff, List.forall_mem_append]
  refine ⟨by simp, Wire.depth_present_le fun issues => ?_⟩
  rw [Value.depth_list_le_iff, List.forall_mem_map]
  exact fun issue _ => issue.depth_toValue_le

theorem Normalization.depth_toPayload_le (report : Normalization) :
    report.toPayload.depth ≤ 3 := by
  rw [toPayload, Value.depth_record_le_iff]
  simp only [List.forall_mem_append]
  refine ⟨⟨⟨?_, ?_⟩, ?_⟩, by simp⟩
  · have hmappings : (Value.list (report.mappings.map AppliedRow.toPayload)).depth ≤ 2 := by
      rw [Value.depth_list_le_iff, List.forall_mem_map]
      exact fun row _ => row.depth_toPayload_le
    simpa using hmappings
  · exact Wire.depth_present_le fun texts => Nat.le_succ_of_le (Value.depth_ofTexts_le texts)
  · exact Wire.depth_present_le fun texts => Nat.le_succ_of_le (Value.depth_ofTexts_le texts)

/-- The payload of an event is nested one level more deeply than its data, if these are not so
shallow that the event's own members decide. -/
theorem Envelope.depth_payload_le_iff {event : Envelope} {payload : Value} {n : Nat}
    (hpayload : event.toPayload = .ok payload) (hn : 3 ≤ n) :
    payload.depth ≤ n + 1 ↔ (Wire.value (.dict event.data)).depth ≤ n := by
  have hsource : event.source.toPayload.depth ≤ n :=
    Nat.le_trans event.source.depth_toPayload_le (by omega)
  have hvalidation := Nat.le_trans event.validation.depth_toPayload_le hn
  have hnormalization := Nat.le_trans event.normalization.depth_toPayload_le hn
  rw [toPayload] at hpayload
  split at hpayload
  next => cases hpayload
  next =>
    cases hpayload
    have hcorrelation : ∀ member ∈ Wire.present "correlation_id" Value.string event.correlationId,
        member.2.depth ≤ n := Wire.depth_present_le fun _ => by simp
    rw [Value.depth_record_le_iff, List.forall_mem_append, List.forall_mem_append]
    simp only [List.forall_mem_cons, List.not_mem_nil, Value.depth_scalar, Nat.zero_le, hsource,
      hvalidation, hnormalization, false_implies, implies_true, and_true, true_and]
    exact and_iff_left hcorrelation

namespace Service

variable {host : Host} {settings : Settings} {service : Service}

/-- The payload of an event whose data are JSON values that can be dumped, and the reply with it:
only the answer of success has no room for data right at the limit. -/
theorem exists_reply_of_depth_le {event : Envelope} (config : Config)
    (hdata : Entries.MadeOf Scalar.IsJson event.data)
    (hdepth : (Value.dict event.data).depth ≤ Schema.dumpLimit) :
    ∃ payload, event.toPayload = .ok payload ∧ reply config event =
      if config.strictValidation && !event.validation.validated then .ok (rejected event payload)
      else if (Value.dict event.data).depth < Schema.dumpLimit then
        .ok (.ofData (Wire.value (.record [
          ("normalized_event", payload), ("metrics", event.normalization.counts)])))
      else .error .answerTooDeep := by
  obtain ⟨payload, hpayload⟩ : ∃ payload, event.toPayload = .ok payload :=
    ⟨_, if_neg (Nat.not_lt.2 hdepth)⟩
  have hwritten : (Wire.value (.dict event.data)).depth = (Value.dict event.data).depth :=
    Wire.depth_value (Value.madeOf_dict_iff.2 hdata)
  -- The payload is one dictionary around the data; the records of the answer do not count.
  have hroom : payload.depth ≤ Schema.dumpLimit ↔
      (Value.dict event.data).depth < Schema.dumpLimit := by
    have hstep : payload.depth ≤ 254 + 1 ↔ (Wire.value (.dict event.data)).depth ≤ 254 :=
      Envelope.depth_payload_le_iff hpayload (by omega)
    rw [Schema.dumpLimit, hstep, hwritten, Nat.lt_succ_iff]
  refine ⟨payload, hpayload, ?_⟩
  simp only [reply_of_toPayload hpayload, hroom]

theorem reply_of_lt_depth {event : Envelope} (config : Config)
    (hdepth : Schema.dumpLimit < (Value.dict event.data).depth) :
    reply config event = .error (.payload .tooDeep) := by
  rw [reply, Envelope.toPayload, if_pos hdepth]
  rfl

theorem answer_eq_answerNormalize [Limits] {request : Request} {asked : EventRequest}
    (hendpoint : request.endpoint = .ok .normalize)
    (hbody : EventRequest.ofBody request.body = .ok asked) :
    answer host request = answerNormalize host asked := by
  unfold answer answerEvent
  rw [hendpoint, hbody]

end Service

namespace Engine

variable [Limits]

/-- An engine makes an event with the mapped data, unless checking these ends with a fault. -/
def Makes (host : Host) (format : Format) (event : ExternalEvent) (config : Config)
    (mapped : Mapped) (state : EngineState) : Prop :=
  match DataCheck.run format.checks (.dict mapped.data) (format.detect event.payload)
    config.maxPayloadBytes with
  | .ok issues => ∃ envelope, ((normalize host event config).run state).1 = .ok envelope ∧
      envelope.data = mapped.data ∧ envelope.validation.validated = issues.isEmpty
  | .error fault =>
      ((normalize host event config).run state).1 = .error (.normalize (.check fault))

/-- An engine that is ready makes an event of one whose payload is mapped by its format's table. -/
theorem makes_of_apply {host : Host} {settings : Settings} {tables : Profiles}
    {state : EngineState} {event : ExternalEvent} {config : Config} {format : Format}
    {table : List Row} {mapped : Mapped} {source : Source} (hreliable : host.instruments.Reliable)
    (hready : state.Ready host settings tables)
    (hformat : Format.ofName? event.format = some format)
    (htable : Profile.table tables (.string event.format) = .ok table)
    (happly : Mapping.apply ⟨host.registry, config.pipelines.getD [], ⟨event.format⟩⟩ table
      event.payload = .ok mapped)
    (hsource : Normalize.source format event = .ok source) :
    Makes host format event config mapped state := by
  have hmapped : Normalize.mapPayload ⟨host.instruments, host.registry, table, config⟩ event =
      .ok mapped := by
    rw [Normalize.mapPayload, happly]
    rfl
  have hrun := Normalize.run_of_mapPayload hreliable hmapped hsource state.readings
  rw [Makes, run_normalize hready hformat htable]
  split at hrun
  next issues hissues =>
    obtain ⟨envelope, henvelope, hparts⟩ := hrun
    simp only [hissues]
    exact ⟨envelope, by rw [henvelope]; rfl, hparts⟩
  next fault hfault =>
    simp only [hfault]
    rw [hrun]
    rfl

end Engine

namespace Service

variable {host : Host} {settings : Settings} {tables : Profiles} {service : Service}
  {asked : EventRequest} {format : Format} {mapped : Mapped}

variable [Limits]

/-- The answer where the engine makes an event with data that can be dumped, and nothing that is
told has halves of surrogate pairs. -/
theorem exists_answer_of_depth_le (hready : service.Ready host settings tables)
    (hmakes : Engine.Makes host format asked.event (asked.effective settings) mapped service.engine)
    (hdata : Entries.MadeOf Scalar.IsJson mapped.data)
    (hdepth : (Value.dict mapped.data).depth ≤ Schema.dumpLimit)
    (hwhole : (Value.dict mapped.data).isWhole = true)
    (hsent : ExternalEvent.tellsHalf asked.written (asked.effective settings) = false) :
    ∃ issues event payload,
      DataCheck.run format.checks (.dict mapped.data) (format.detect asked.event.payload)
        (asked.effective settings).maxPayloadBytes = .ok issues ∧
      ((Engine.normalize host asked.event (asked.effective settings)).run service.engine).1 =
        .ok event ∧
      event.data = mapped.data ∧ event.validation.validated = issues.isEmpty ∧
      event.toPayload = .ok payload ∧
      ((answerNormalize host asked).run service).1 =
        if (asked.effective settings).strictValidation && !event.validation.validated then
          .ok (rejected event payload)
        else if (Value.dict mapped.data).depth < Schema.dumpLimit then
          .ok (.ofData (Wire.value (.record [
            ("normalized_event", payload), ("metrics", event.normalization.counts)])))
        else .error .answerTooDeep := by
  have hwritten := Nat.le_trans hdepth (Nat.le_of_lt Limits.le_writing)
  have htold := Nat.le_trans hdepth (Nat.le_of_lt Limits.le_telling)
  have hmade : (Value.dict mapped.data).MadeOf Scalar.IsJson := Value.madeOf_dict_iff.2 hdata
  obtain ⟨issues, hissues⟩ := DataCheck.exists_run hmade hwritten hwhole htold
    format.checks (format.detect asked.event.payload) (asked.effective settings).maxPayloadBytes
  simp only [Engine.Makes, hissues] at hmakes
  obtain ⟨event, hevent, hsame, hvalidated⟩ := hmakes
  rw [← hsame] at hdata hdepth
  obtain ⟨payload, hpayload, hreply⟩ :=
    exists_reply_of_depth_le (asked.effective settings) hdata hdepth
  refine ⟨issues, event, payload, hissues, hevent, hsame, hvalidated, hpayload, ?_⟩
  rw [run_answerNormalize_of_ok hready.readable hevent, hreply, hsame,
    told_of_not_tellsHalf hsent]
  exact bind_pure _

/-- Beyond the limit of a dump there is no answer. -/
theorem exists_fault_of_lt_depth (hready : service.Ready host settings tables)
    (hmakes : Engine.Makes host format asked.event (asked.effective settings) mapped service.engine)
    (hdepth : Schema.dumpLimit < (Value.dict mapped.data).depth) :
    ∃ fault, ((answerNormalize host asked).run service).1 = .error fault := by
  -- Data this deep may stop the check already; if they do not, they stop the dump.
  rw [Engine.Makes] at hmakes
  split at hmakes
  next =>
    obtain ⟨event, hevent, hsame, _⟩ := hmakes
    rw [← hsame] at hdepth
    rw [run_answerNormalize_of_ok hready.readable hevent,
      reply_of_lt_depth (asked.effective settings) hdepth]
    exact ⟨_, rfl⟩
  next =>
    rw [run_answerNormalize_of_error hready.readable hmakes]
    exact ⟨_, rfl⟩

/-- Data with halves of surrogate pairs stop their check. -/
theorem exists_fault_of_not_isWhole (hready : service.Ready host settings tables)
    (hmakes : Engine.Makes host format asked.event (asked.effective settings) mapped service.engine)
    (hdata : Entries.MadeOf Scalar.IsJson mapped.data)
    (hdepth : (Value.dict mapped.data).depth ≤ Schema.dumpLimit)
    (hhalved : (Value.dict mapped.data).isWhole = false) :
    ∃ fault, ((answerNormalize host asked).run service).1 =
      .error (.engine (.normalize (.check (.encode fault)))) := by
  obtain ⟨fault, hsize⟩ := DataCheck.size_of_not_isWhole (Value.madeOf_dict_iff.2 hdata)
    (Nat.le_trans hdepth (Nat.le_of_lt Limits.le_writing)) hhalved
  have hcheck : DataCheck.run format.checks (.dict mapped.data)
      (format.detect asked.event.payload) (asked.effective settings).maxPayloadBytes =
      .error (.encode fault) := by
    rw [DataCheck.run, hsize]
    rfl
  simp only [Engine.Makes, hcheck] at hmakes
  exact ⟨fault, run_answerNormalize_of_error hready.readable hmakes⟩

/-- Nothing is answered that tells halves of surrogate pairs. -/
theorem exists_fault_of_tellsHalf (hready : service.Ready host settings tables)
    (hmakes : Engine.Makes host format asked.event (asked.effective settings) mapped service.engine)
    (hsent : ExternalEvent.tellsHalf asked.written (asked.effective settings) = true) :
    ∃ fault, ((answerNormalize host asked).run service).1 = .error fault := by
  rw [Engine.Makes] at hmakes
  split at hmakes
  next =>
    obtain ⟨event, hevent, _⟩ := hmakes
    rw [run_answerNormalize_of_ok hready.readable hevent]
    cases reply (asked.effective settings) event with
    | error fault => exact ⟨fault, rfl⟩
    | ok response => exact ⟨.halved, told_of_tellsHalf hsent response⟩
  next =>
    rw [run_answerNormalize_of_error hready.readable hmakes]
    exact ⟨_, rfl⟩

end Service

namespace AnsweringWitness

local instance : Limits := .standard

/-- The clock and the timer stand still, and no functions are registered. -/
def host : Host where
  tables := ⟨"field_mappings.yaml", Json.parser⟩
  instruments := ⟨fun _ => ⟨1705314600000000, some 0⟩, fun _ => .zero false, fun _ => "evt-1"⟩
  registry := []

/-- The tables that come with the program are in their file. -/
def service : Service where
  engine := {
    environment := []
    files := ⟨[("field_mappings.yaml", Bundled.profiles.jsonBytes)], ["."]⟩ }

def settings : Settings where
  mappingPath := "field_mappings.yaml"
  maxPayloadBytes := 10485760
  includeDroppedFields := true
  includeFieldMappings := true
  strictValidation := false
  metricsFile := none
  logLevel := "INFO"

def request : Request where
  method := "POST"
  path := "/normalize"
  body := "\x7b\"event\":\x7b\"format\":\"webhook_generic\"," ++
    "\"raw_payload\":\x7b\"data\":[1]\x7d\x7d\x7d"
  received := ⟨1705314600000000, some 0⟩

def asked : EventRequest where
  event := ⟨"webhook_generic", .dict [(.string "data", .list [.int 1])], none, none, none⟩
  written := .record [("format", .string "webhook_generic"),
    ("raw_payload", .record [("data", .list [.int 1])])]
  sent := []
  config := none

theorem reliable : host.instruments.Reliable := by
  have hround : ((Binary64.zero false).sub (.zero false)).timesThousand.round? = some 0 := by
    decide +kernel
  refine ⟨fun _ => Option.isSome_iff_exists.1 rfl, fun _ _ => ⟨0, ?_⟩⟩
  rw [host, Normalize.elapsedMillis, hround]

theorem ready : service.Ready host settings Bundled.profiles := by
  have hleads : service.engine.files.Leads "field_mappings.yaml" "field_mappings.yaml" :=
    ⟨by decide +kernel, rfl⟩
  have hfile : Profiles.ofFile Json.parser service.engine.files "field_mappings.yaml" =
      .ok Bundled.profiles :=
    Profiles.ofFile_of_jsonBytes Bundled.madeOf_profiles (by decide) (by rw [hleads.read_eq]; rfl)
  refine ⟨by with_unfolding_all rfl, rfl, hfile, fun _ hloaded => ?_, fun _ _ hpath => ?_⟩
  · cases hloaded
  · cases hpath

/-- The list goes to the data as it is. -/
theorem data_of_apply {table : List Row} {mapped : Mapped}
    (htable : Profile.table Bundled.profiles (.string asked.event.format) = .ok table)
    (happly : Mapping.apply ⟨host.registry, (asked.effective settings).pipelines.getD [],
      ⟨asked.event.format⟩⟩ table asked.event.payload = .ok mapped) :
    (Value.dict mapped.data).depth = 2 ∧ (Value.dict mapped.data).isWhole = true := by
  have hdata : ((Profile.table Bundled.profiles (.string asked.event.format)).toOption.bind
      fun table => (Mapping.apply ⟨host.registry, (asked.effective settings).pipelines.getD [],
        ⟨asked.event.format⟩⟩ table asked.event.payload).toOption.map fun mapped =>
          ((Value.dict mapped.data).depth, (Value.dict mapped.data).isWhole)) =
      some (2, true) := by rfl
  simpa [htable, happly, Except.toOption] using hdata

end AnsweringWitness

end EventIntake
