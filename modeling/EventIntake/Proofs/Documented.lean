/-
The documented errors.  What is wrong with an event by the tables that come with the program can be
told from its payload: whether the messages of a request are a list, whether the counters of a
response are counts, and whether a payment event has an identifier and a type.  The size of the
mapped data comes first, and nothing else is told.
-/
import EventIntake.Proofs.Answering
import EventIntake.Proofs.BundledTargets
import EventIntake.Proofs.Switches

namespace EventIntake

namespace Value

/-- The value is a number of things. -/
def isCount : Value → Bool
  | .int n => 0 ≤ n
  | _ => false

/-- A member tells nothing: it is absent, null or an empty text. -/
def lacks (name : String) (payload : Value) : Bool :=
  match payload.member? name with
  | none | some .null | some (.string "") => true
  | _ => false

end Value

namespace Documented

/-- Data that are written in too many bytes. -/
def sizeIssues (limit : Int) (written : String) : List DataIssue :=
  if limit < written.utf8ByteSize then
    [⟨"$", s!"Payload size {written.utf8ByteSize} exceeds maximum {limit}", "PAYLOAD_TOO_LARGE"⟩]
  else []

/-- Messages that are no list. -/
def messageIssues (field : String) (payload : Value) : List DataIssue :=
  match payload.member? field with
  | none | some (.list _) => []
  | some v => [⟨"$.messages", s!"messages must be a list, got {v.kindName}", "INVALID_TYPE"⟩]

/-- A counter that is supplied, but not with a count. -/
def counterIssues (counter : String) (fields : List String) (payload : Value) : List DataIssue :=
  match payload.supplied? fields with
  | none => []
  | some v =>
    if v.isCount then []
    else [⟨s!"$.response.usage.{counter}",
      s!"{counter} must be a non-negative integer, got {v.quoted}", "INVALID_VALUE"⟩]

/-- A member that a payment event lacks, and where the data should have it. -/
def memberIssues (name path : String) (payload : Value) : List DataIssue :=
  if payload.lacks name then
    [⟨s!"$.{path}", s!"Stripe event is missing {path}", "MISSING_FIELD"⟩]
  else []

/-- What is wrong with the payload of an event of a language model. -/
def modelIssues (format : Format) (payload : Value) : EventKind → List DataIssue
  | .llmRequest => messageIssues format.messageField payload
  | .llmResponse =>
    format.counterFields.flatMap fun (counter, fields) => counterIssues counter fields payload
  | _ => []

/-- What is wrong with the payload of a payment event. -/
def paymentIssues (payload : Value) : EventKind → List DataIssue
  | .webhookValidated =>
    memberIssues "id" "event.id" payload ++ memberIssues "type" "event.type" payload
  | _ => []

/-- What is wrong with a payload of a format. -/
def payloadIssues (format : Format) (payload : Value) : List DataIssue :=
  if format.family = .llm then modelIssues format payload (format.detect payload)
  else if format = .stripe then paymentIssues payload (format.detect payload)
  else []

end Documented

namespace DataCheck

variable {data payload : Value}

theorem allIssues_singleton [Limits] {check : DataCheck} {kind : EventKind} {found : List DataIssue}
    (hfound : check.issues data kind = .ok found) : allIssues data kind [check] = .ok found := by
  rw [allIssues, hfound]
  exact congrArg Except.ok (List.append_nil found)

theorem messageIssues_eq {field : String} (hat : at? data "messages" = payload.member? field) :
    messageIssues data = Documented.messageIssues field payload := by
  cases hmember : payload.member? field with
  | none => simp [messageIssues, Documented.messageIssues, hat, hmember]
  | some v => cases v <;> simp [messageIssues, Documented.messageIssues, hat, hmember]

theorem counterIssues_eq [Limits] {counter : String} {fields : List String}
    (hat : at? data s!"response.usage.{counter}" = payload.supplied? fields)
    (hshallow : ∀ v, payload.supplied? fields = some v → v.depth ≤ Limits.telling) :
    counterIssues data counter = .ok (Documented.counterIssues counter fields payload) := by
  rw [counterIssues, Documented.counterIssues, hat]
  cases hsupplied : payload.supplied? fields with
  | none => rfl
  | some v =>
      have htold := Value.tooDeepToTell_eq_false (hshallow v hsupplied)
      change (if v.isCount = true then (.ok [] : Except CheckFault (List DataIssue))
        else if v.tooDeepToTell = true then .error .tooDeep else .ok _) = _
      rw [htold, if_neg Bool.false_ne_true]
      split <;> simp [*]

theorem allCounterIssues_eq [Limits] {counters : List (String × List String)}
    (hcounters : ∀ counter ∈ counters,
      counterIssues data counter.1 = .ok (Documented.counterIssues counter.1 counter.2 payload)) :
    allCounterIssues data (counters.map Prod.fst) =
      .ok (counters.flatMap fun (counter, fields) =>
        Documented.counterIssues counter fields payload) := by
  induction counters with
  | nil => rfl
  | cons counter rest ih =>
      obtain ⟨hcounter, hrest⟩ := List.forall_mem_cons.1 hcounters
      rw [List.map_cons, allCounterIssues, hcounter, ih hrest]
      rfl

theorem requiredIssues_eq {path name : String} (hat : at? data path = payload.member? name) :
    requiredIssues data path = Documented.memberIssues name path payload := by
  rw [requiredIssues, Documented.memberIssues, Value.lacks, hat]
  split <;> simp_all

end DataCheck

/-- A kind that is known comes from a rule that holds. -/
theorem Detection.exists_rule {rules : List DetectionRule} {payload : Value} {kind : EventKind}
    (hkind : detect rules payload = kind) (hknown : kind ≠ .unknown) :
    ∃ rule ∈ rules, rule.kind = kind ∧ rule.holds payload = true := by
  rw [detect] at hkind
  split at hkind
  next rule hfind =>
    have hholds : rule.holds payload = true :=
      List.find?_some (p := fun rule : DetectionRule => rule.holds payload) hfind
    exact ⟨rule, List.mem_of_find?_eq_some hfind, hkind, hholds⟩
  next => exact absurd hkind.symm hknown

namespace Format

theorem map_fst_counterFields {format : Format} (hfamily : format.family = .llm) :
    format.counterFields.map Prod.fst = DataCheck.counters := by
  cases format <;> first | rfl | cases hfamily

theorem checks_of_llm {format : Format} (hfamily : format.family = .llm) :
    format.checks = [.llmShape] := by
  cases format <;> first | rfl | cases hfamily

theorem checks_of_other {format : Format} (hfamily : format.family ≠ .llm)
    (hother : format ≠ .stripe) : format.checks = [] := by
  cases format <;> first | rfl | exact absurd rfl hfamily | exact absurd rfl hother

theorem at?_messageField (format : Format) (payload : Value) :
    DataCheck.at? payload format.messageField = payload.member? format.messageField := by
  have hmessages : DataCheck.at? payload "messages" = payload.member? "messages" :=
    Bundled.at?_ofList (by decide +kernel) (by decide +kernel) payload
  have hcontents : DataCheck.at? payload "contents" = payload.member? "contents" :=
    Bundled.at?_ofList (by decide +kernel) (by decide +kernel) payload
  cases format with
  | googleAi => exact hcontents
  | _ => exact hmessages

/-- The rules for requests ask for the messages. -/
theorem isSome_messages_of_holds {format : Format} (hfamily : format.family = .llm)
    (payload : Value) : ∀ rule ∈ format.rules, rule.kind = .llmRequest →
      rule.holds payload = true → (payload.member? format.messageField).isSome = true := by
  cases format <;> try cases hfamily
  all_goals
    simp +contextual [rules, messageField, Detection.chatRules, Detection.messageRules,
      Detection.candidateRules, Detection.hostedRules, Detection.hasAll]

/-- A request has messages. -/
theorem exists_messages {format : Format} {payload : Value} (hfamily : format.family = .llm)
    (hkind : format.detect payload = .llmRequest) :
    ∃ messages, payload.member? format.messageField = some messages := by
  obtain ⟨rule, hrule, hrequest, hholds⟩ := Detection.exists_rule hkind (by decide)
  rw [← Option.isSome_iff_exists]
  exact isSome_messages_of_holds hfamily payload rule hrule hrequest hholds

end Format

namespace Documented

variable {format : Format} {table : List Row} {scope : TransformScope} {payload : Value}
  {mapped : Mapped}

variable [Limits]

/-- What the checks of a language model's format find in the data of a mapped payload. -/
theorem issues_llmShape (hfamily : format.family = .llm)
    (htable : Profile.table Bundled.profiles (.string format.name) = .ok table)
    (hcopied : payload.depth ≤ Limits.copying + 1) (htold : payload.depth ≤ Limits.telling + 1)
    (happly : Mapping.apply scope table payload = .ok mapped) (kind : EventKind) :
    DataCheck.issues .llmShape (.dict mapped.data) kind =
      .ok (modelIssues format payload kind) := by
  obtain ⟨hmessages, hcounters, _⟩ := Bundled.feeds_targets format
  cases kind with
  | llmRequest =>
      have hat := ((hmessages hfamily).feed htable).at?_data hcopied happly
      rw [Value.supplied?_singleton, Format.at?_messageField] at hat
      exact congrArg Except.ok (DataCheck.messageIssues_eq hat)
  | llmResponse =>
      rw [DataCheck.issues, ← Format.map_fst_counterFields hfamily, modelIssues]
      refine DataCheck.allCounterIssues_eq fun counter hcounter => ?_
      have hfeed := (hcounters counter hcounter).feed htable
      exact DataCheck.counterIssues_eq (hfeed.at?_data hcopied happly) fun v hsupplied =>
        Nat.le_of_lt_succ (Nat.lt_of_lt_of_le
          (Value.depth_lt_of_supplied? hfeed.fields_namesKeys hsupplied) htold)
  | _ => rfl

/-- What the checks of the payment format find in the data of a mapped payload. -/
theorem issues_stripeShape
    (htable : Profile.table Bundled.profiles (.string Format.stripe.name) = .ok table)
    (hcopied : payload.depth ≤ Limits.copying + 1)
    (happly : Mapping.apply scope table payload = .ok mapped) (kind : EventKind) :
    DataCheck.issues .stripeShape (.dict mapped.data) kind = .ok (paymentIssues payload kind) := by
  obtain ⟨_, _, hpayment⟩ := Bundled.feeds_targets .stripe
  obtain ⟨hid, htype⟩ := hpayment rfl
  cases kind with
  | webhookValidated =>
      have hidAt := (hid.feed htable).at?_data hcopied happly
      rw [Value.supplied?_singleton] at hidAt
      have htypeAt := (htype.feed htable).at?_data hcopied happly
      rw [Value.supplied?_singleton] at htypeAt
      have hidMember : DataCheck.at? payload "id" = payload.member? "id" :=
        Bundled.at?_ofList (by decide +kernel) (by decide +kernel) payload
      have htypeMember : DataCheck.at? payload "type" = payload.member? "type" :=
        Bundled.at?_ofList (by decide +kernel) (by decide +kernel) payload
      rw [DataCheck.issues, DataCheck.requiredIssues_eq (hidAt.trans hidMember),
        DataCheck.requiredIssues_eq (htypeAt.trans htypeMember)]
      rfl
  | _ => rfl

/-- What is wrong with the data of a mapped payload can be told from the payload. -/
theorem allIssues_eq (htable : Profile.table Bundled.profiles (.string format.name) = .ok table)
    (hcopied : payload.depth ≤ Limits.copying + 1) (htold : payload.depth ≤ Limits.telling + 1)
    (happly : Mapping.apply scope table payload = .ok mapped) :
    DataCheck.allIssues (.dict mapped.data) (format.detect payload) format.checks =
      .ok (payloadIssues format payload) := by
  rw [payloadIssues]
  split
  next hfamily =>
    rw [Format.checks_of_llm hfamily]
    exact DataCheck.allIssues_singleton (issues_llmShape hfamily htable hcopied htold happly _)
  next hfamily =>
    split
    next hstripe =>
      subst hstripe
      exact DataCheck.allIssues_singleton (issues_stripeShape htable hcopied happly _)
    next hother =>
      rw [Format.checks_of_other hfamily hother]
      rfl

end Documented

theorem DataCheck.exists_written [Limits] {data : Value} {n : Nat} (hsize : size data = .ok n) :
    ∃ written : String, Json.measured.write data = .ok written ∧ n = written.utf8ByteSize := by
  rw [size] at hsize
  split at hsize
  next written hwritten =>
    cases hsize
    exact ⟨written, hwritten, rfl⟩
  next => split at hsize <;> cases hsize
  next => cases hsize

/-- The table that an engine that is ready looks up is the one of its tables. -/
theorem Engine.profileTable_of_run_table {host : Host} {settings : Settings}
    {tables : Profiles} {state looked : EngineState} {format : String} {table : List Row}
    (hready : state.Ready host settings tables)
    (htable : (Engine.table host format).run state = (.ok table, looked)) :
    Profile.table tables (.string format) = .ok table := by
  rw [Engine.table, Stateful.run_bind_ok (run_load hready false)] at htable
  cases hrows : Profile.table tables (.string format) with
  | ok rows =>
      rw [hrows] at htable
      cases htable
      rfl
  | error fault =>
      rw [hrows] at htable
      cases htable

section

variable {host : Host} {settings : Settings} {state : EngineState} {event : ExternalEvent}
  {config : Config} {format : Format}

variable [Limits]

/-- An event that an engine makes has the documented errors. -/
theorem Engine.errors_of_normalize {made : Envelope}
    (hready : state.Ready host settings Bundled.profiles)
    (hformat : Format.ofName? event.format = some format)
    (hcopied : event.payload.depth ≤ Limits.copying + 1)
    (htold : event.payload.depth ≤ Limits.telling + 1)
    (hmade : ((normalize host event config).run state).1 = .ok made) :
    ∃ written : String, Json.measured.write (.dict made.data) = .ok written ∧
      made.kind = format.detect event.payload ∧
      let issues := Documented.sizeIssues config.maxPayloadBytes written ++
        Documented.payloadIssues format event.payload
      made.validation.errors = (if issues.isEmpty then none else some issues) ∧
        made.validation.validated = issues.isEmpty := by
  obtain ⟨known, table, looked, draft, hknown, hlooked, hdraft, rfl⟩ := exists_draft hmade
  rw [supported, hformat] at hknown
  cases hknown
  have htable := profileTable_of_run_table hready hlooked
  rw [← Format.name_of_ofName? hformat] at htable
  obtain ⟨hmapped, hsize, hfound, hdata, hkind, _⟩ := Normalize.of_run_draft hdraft
  have happly := Except.mapError_eq_ok_iff.1 hmapped
  rw [Documented.allIssues_eq htable hcopied htold happly, Except.ok.injEq] at hfound
  obtain ⟨written, hwritten, hbytes⟩ := DataCheck.exists_written hsize
  refine ⟨written, hdata ▸ hwritten, hkind, ?_⟩
  rw [hfound]
  have hissues : Documented.sizeIssues config.maxPayloadBytes written =
      DataCheck.sizeIssues draft.size config.maxPayloadBytes := by
    rw [hbytes]
    rfl
  rw [hissues]
  exact ⟨rfl, rfl⟩

/-- An engine makes an event of a JSON payload whose mapped data are not nested too deeply to be
measured, unless half of a surrogate pair stands in them: then their size is at fault. -/
theorem Engine.normalize_of_depth_le {table : List Row} {mapped : Mapped}
    (hreliable : host.instruments.Reliable) (hready : state.Ready host settings Bundled.profiles)
    (hformat : Format.ofName? event.format = some format)
    (hmade : event.payload.MadeOf Scalar.IsJson)
    (hcopied : event.payload.depth ≤ Limits.copying + 1)
    (htold : event.payload.depth ≤ Limits.telling + 1)
    (htable : Profile.table Bundled.profiles (.string format.name) = .ok table)
    (happly : Mapping.apply ⟨host.registry, config.pipelines.getD [], ⟨event.format⟩⟩ table
      event.payload = .ok mapped)
    (hdata : Entries.MadeOf Scalar.IsJson mapped.data)
    (hdepth : (Value.dict mapped.data).depth ≤ Limits.writing) :
    if (Value.dict mapped.data).isWhole then
      ∃ made, ((normalize host event config).run state).1 = .ok made ∧ made.data = mapped.data
    else
      ∃ fault, ((normalize host event config).run state).1 =
        .error (.normalize (.check (.encode fault))) := by
  obtain ⟨source, hsource⟩ := Normalize.exists_source format hmade htold
  have hjson : (Value.dict mapped.data).MadeOf Scalar.IsJson := Value.madeOf_dict_iff.2 hdata
  have hmakes : Makes host format event config mapped state := by
    refine makes_of_apply hreliable hready hformat ?_ happly hsource
    rw [← Format.name_of_ofName? hformat]
    exact htable
  rw [Makes, DataCheck.run] at hmakes
  split
  next hwhole =>
    obtain ⟨n, hsize⟩ := DataCheck.exists_size hjson hdepth hwhole
    rw [hsize, Documented.allIssues_eq htable hcopied htold happly] at hmakes
    obtain ⟨made, hmade, hsame, _⟩ := hmakes
    exact ⟨made, hmade, hsame⟩
  next hhalved =>
    obtain ⟨fault, hsize⟩ := DataCheck.size_of_not_isWhole hjson hdepth (by simpa using hhalved)
    rw [hsize] at hmakes
    exact ⟨fault, hmakes⟩

/-- The errors of an event are the documented ones.  By the tables that come with the program, with
any configuration, and for every payload that can be copied, the event that is made lists: that the
data are too large, exactly if they are written in more bytes than the limit; and what is wrong with
the payload, which for a request to a language model is that its messages, which it has, are no
list, for a response each counter that is supplied but is no count, and for a validated payment
event its identifier and its type where they are absent, null or empty.  Of a JSON payload whose
data are not nested too deeply to be measured an event is made exactly if no half of a surrogate
pair stands in the data; with one, their bytes cannot be counted, and this fault is no listed
error. -/
theorem errors_are_documented (hready : state.Ready host settings Bundled.profiles)
    (hformat : Format.ofName? event.format = some format)
    (hcopied : event.payload.depth ≤ Limits.copying + 1)
    (htold : event.payload.depth ≤ Limits.telling + 1) :
    (∀ made, ((Engine.normalize host event config).run state).1 = .ok made →
      ∃ written : String, Json.measured.write (.dict made.data) = .ok written ∧
        made.kind = format.detect event.payload ∧
        let issues := Documented.sizeIssues config.maxPayloadBytes written ++
          Documented.payloadIssues format event.payload
        made.validation.errors = (if issues.isEmpty then none else some issues) ∧
          made.validation.validated = issues.isEmpty) ∧
    (format.family = .llm → format.detect event.payload = .llmRequest →
      ∃ messages, event.payload.member? format.messageField = some messages) ∧
    (host.instruments.Reliable → host.registry.KeepsJson →
      event.payload.MadeOf Scalar.IsJson →
      ∃ table mapped, Profile.table Bundled.profiles (.string event.format) = .ok table ∧
        Mapping.apply ⟨host.registry, config.pipelines.getD [], ⟨event.format⟩⟩ table
          event.payload = .ok mapped ∧
        ((Value.dict mapped.data).depth ≤ Limits.writing →
          if (Value.dict mapped.data).isWhole then
            ∃ made, ((Engine.normalize host event config).run state).1 = .ok made ∧
              made.data = mapped.data
          else
            ∃ fault, ((Engine.normalize host event config).run state).1 =
              .error (.normalize (.check (.encode fault))))) := by
  refine ⟨fun made hmade =>
      Engine.errors_of_normalize hready hformat hcopied htold hmade,
    fun hfamily hkind => Format.exists_messages hfamily hkind, ?_⟩
  intro hreliable hregistry hmade
  obtain ⟨table, htable, hgentle⟩ := Bundled.exists_table format
  obtain ⟨mapped, happly, hdata⟩ : ∃ mapped,
      Mapping.apply ⟨host.registry, config.pipelines.getD [], ⟨event.format⟩⟩ table
        event.payload = .ok mapped ∧ Entries.MadeOf Scalar.IsJson mapped.data :=
    Mapping.exists_apply_of_isGentle hregistry hgentle hmade
  refine ⟨table, mapped, Format.name_of_ofName? hformat ▸ htable, happly, fun hdepth => ?_⟩
  exact Engine.normalize_of_depth_le hreliable hready hformat hmade hcopied htold htable happly
    hdata hdepth

end

namespace DocumentedWitness

local instance : Limits := .standard

open AnsweringWitness

/-- A response that tells one counter in two fields, the second time with null. -/
def event : ExternalEvent where
  format := "aws_bedrock_api"
  payload := .dict [(.string "generation", .string "ok"),
    (.string "usage", .dict [(.string "input_tokens", .int 7)]),
    (.string "prompt_token_count", .null)]
  headers := none
  receivedAt := none
  connector := none

/-- No data are small enough. -/
def config : Config := { maxPayloadBytes := -1 }

/-- The generation and the counter are three levels down at most, and whole. -/
theorem data_of_apply {table : List Row} {mapped : Mapped}
    (htable : Profile.table Bundled.profiles (.string event.format) = .ok table)
    (happly : Mapping.apply ⟨host.registry, config.pipelines.getD [], ⟨event.format⟩⟩ table
      event.payload = .ok mapped) :
    (Value.dict mapped.data).depth ≤ Limits.writing ∧
      (Value.dict mapped.data).isWhole = true := by
  have hdata : ((Profile.table Bundled.profiles (.string event.format)).toOption.bind
      fun table => (Mapping.apply ⟨host.registry, config.pipelines.getD [], ⟨event.format⟩⟩ table
        event.payload).toOption.map fun mapped =>
          ((Value.dict mapped.data).depth, (Value.dict mapped.data).isWhole)) =
      some (3, true) := by
    decide +kernel
  rw [htable] at hdata
  simp only [Except.toOption, Option.bind_some, happly, Option.map_some, Option.some.injEq,
    Prod.mk.injEq] at hdata
  refine ⟨?_, hdata.2⟩
  rw [hdata.1]
  decide

theorem errors_are_documented_of_response :
    service.engine.Ready host settings Bundled.profiles ∧
      event.payload.depth ≤ Limits.copying + 1 ∧ event.payload.depth ≤ Limits.telling + 1 ∧
      ∃ made, ∃ written : String,
        ((Engine.normalize host event config).run service.engine).1 = .ok made ∧
        Json.measured.write (.dict made.data) = .ok written ∧ made.kind = .llmResponse ∧
        made.validation.errors = some [
          ⟨"$", s!"Payload size {written.utf8ByteSize} exceeds maximum {(-1 : Int)}",
            "PAYLOAD_TOO_LARGE"⟩,
          ⟨"$.response.usage.prompt_tokens",
            "prompt_tokens must be a non-negative integer, got None", "INVALID_VALUE"⟩] := by
  have hregistry : host.registry.KeepsJson := by
    intro name f hf
    cases hf
  have hseven : (Scalar.int 7).IsJson := by
    rw [Scalar.IsJson]
    decide +kernel
  have hjson : event.payload.MadeOf Scalar.IsJson := by
    simp only [event, Value.MadeOf, Entries.MadeOf, hseven]
    simp [Scalar.IsJson]
  have hcopied : event.payload.depth ≤ Limits.copying + 1 := by decide
  have htold : event.payload.depth ≤ Limits.telling + 1 := by decide
  have hissues : Documented.payloadIssues .awsBedrock event.payload =
      [⟨"$.response.usage.prompt_tokens",
        "prompt_tokens must be a non-negative integer, got None", "INVALID_VALUE"⟩] := by
    decide +kernel
  obtain ⟨herrors, _, hmakes⟩ :=
    @errors_are_documented host settings service.engine event config .awsBedrock _ ready rfl hcopied
      htold
  obtain ⟨table, mapped, htable, happly, hmade⟩ := hmakes reliable hregistry hjson
  obtain ⟨hdepth, hwhole⟩ := data_of_apply htable happly
  have houtcome := hmade hdepth
  rw [if_pos hwhole] at houtcome
  obtain ⟨made, hmade, _⟩ := houtcome
  obtain ⟨written, hwritten, hkind, hlisted, _⟩ := herrors made hmade
  have hlarge : config.maxPayloadBytes < written.utf8ByteSize := by
    have hlimit : config.maxPayloadBytes = -1 := rfl
    omega
  rw [hissues, Documented.sizeIssues, if_pos hlarge] at hlisted
  exact ⟨ready, hcopied, htold, made, written, hmade, hwritten, hkind, hlisted⟩

end DocumentedWitness

end EventIntake
