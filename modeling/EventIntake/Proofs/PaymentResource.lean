/-
The resource of a payment event.  The table of the payment format copies the object of the event and
then writes six of its fields over the copy.  Four of these writes change nothing, and two set the
type and the customer.
-/
import EventIntake.Proofs.BundledTargets

namespace EventIntake

namespace Entries

/-- The entries with a value under a key, if there is one to write. -/
def amend (key : String) (v? : Option Value) (entries : Entries) : Entries :=
  match v? with
  | some v => insert (.string key) v entries
  | none => entries

variable {key other : String} {entries : Entries}

theorem get?_amend_self (v? : Option Value) :
    get? (.string key) (amend key v? entries) = v?.or (get? (.string key) entries) := by
  cases v? with
  | none => rfl
  | some v => exact get?_insert_self key v entries

theorem get?_amend_of_ne (hne : other ≠ key) (v? : Option Value) :
    get? (.string other) (amend key v? entries) = get? (.string other) entries := by
  cases v? with
  | none => rfl
  | some v => exact get?_insert_of_ne hne v entries

theorem has_amend_of_ne (hne : other ≠ key) (v? : Option Value) :
    has (.string other) (amend key v? entries) = has (.string other) entries := by
  rw [has, get?_amend_of_ne hne, has]

/-- Writing what stands there changes nothing. -/
theorem insert_eq_self {v : Value} (hget : get? (.string key) entries = some v) :
    insert (.string key) v entries = entries := by
  induction entries with
  | nil => cases hget
  | cons entry rest ih =>
      obtain ⟨k, w⟩ := entry
      rw [get?] at hget
      rw [insert]
      split at hget
      next hsame =>
        cases hget
        rw [if_pos hsame]
      next hother => rw [if_neg hother, ih hget]

theorem amend_eq_self {v? : Option Value} (hget : get? (.string key) entries = v?) :
    amend key v? entries = entries := by
  cases v? with
  | none => rfl
  | some v => exact insert_eq_self hget

/-- A key that is new comes last. -/
theorem keys_amend (v? : Option Value) :
    (amend key v? entries).map Prod.fst = entries.map Prod.fst ++
      if v?.isSome && !has (.string key) entries then [.string key] else [] := by
  cases v? with
  | none => simp [amend]
  | some v =>
      rw [amend, keys_insert]
      cases has (.string key) entries <;> rfl

/-- Entries under other keys stay, in their order. -/
theorem filter_amend {p : Scalar × Value → Bool} (hkey : ∀ v, p (.string key, v) = false)
    (v? : Option Value) : (amend key v? entries).filter p = entries.filter p := by
  cases v? with
  | none => rfl
  | some v =>
      rw [amend]
      induction entries with
      | nil => rw [insert, List.filter_cons_of_neg (by simp [hkey])]
      | cons entry rest ih =>
          obtain ⟨k, w⟩ := entry
          rw [insert, Scalar.same_string]
          by_cases hk : k = .string key
          · simp [hk, hkey]
          · simp [hk, List.filter_cons, ih]

end Entries

/-- What a payment event tells of. -/
def Value.paymentObject? (payload : Value) : Option Value :=
  (payload.member? "data").bind fun data => data.member? "object"

/-- What becomes of a payment object: its kind and its customer stand under keys of their own, and
all that stands under other keys stays as it is, in its order and before the new keys. -/
structure IsPaymentResource (object resource : Entries) : Prop where
  type : Entries.get? (.string "type") resource =
    (Entries.get? (.string "object") object).or (Entries.get? (.string "type") object)
  customer : Entries.get? (.string "customer_id") resource =
    (Entries.get? (.string "customer") object).or (Entries.get? (.string "customer_id") object)
  others : resource.filter (fun entry => entry.1 ∉ [.string "type", .string "customer_id"]) =
    object.filter fun entry => entry.1 ∉ [.string "type", .string "customer_id"]
  keys : resource.map Prod.fst = object.map Prod.fst ++
    (if Entries.has (.string "object") object && !Entries.has (.string "type") object
      then [.string "type"] else []) ++
    (if Entries.has (.string "customer") object && !Entries.has (.string "customer_id") object
      then [.string "customer_id"] else [])

/-- A payment object with its kind as type and its customer. -/
def paymentResource (object : Entries) : Entries :=
  Entries.amend "customer_id" (Entries.get? (.string "customer") object)
    (Entries.amend "type" (Entries.get? (.string "object") object) object)

theorem isPaymentResource_paymentResource (object : Entries) :
    IsPaymentResource object (paymentResource object) := by
  refine ⟨?type, ?customer, ?others, ?keys⟩
  case type =>
    rw [paymentResource, Entries.get?_amend_of_ne (by decide), Entries.get?_amend_self]
  case customer =>
    rw [paymentResource, Entries.get?_amend_self, Entries.get?_amend_of_ne (by decide)]
  case others =>
    rw [paymentResource, Entries.filter_amend (by simp), Entries.filter_amend (by simp)]
  case keys =>
    rw [paymentResource, Entries.keys_amend, Entries.keys_amend,
      Entries.has_amend_of_ne (by decide)]
    rfl

namespace Bundled

/-- The rows of the payment table that come before those written over the resource. -/
def paymentEventRows : List Row := [
  ⟨"id", "event.id", none, true, none⟩,
  ⟨"object", "event.object", none, false, none⟩,
  ⟨"type", "event.type", none, true, none⟩,
  ⟨"created", "event.created", some "to_iso_date", false, none⟩,
  ⟨"livemode", "event.livemode", none, false, none⟩,
  ⟨"api_version", "event.api_version", none, false, none⟩,
  ⟨"data.object", "resource", none, false, none⟩,
  ⟨"data.previous_attributes", "previous_attributes", none, false, none⟩]

/-- The fields of a payment object that are written over its copy, each with its key there. -/
def resourceFields : List (String × String) := [
  ("id", "id"), ("object", "type"), ("amount", "amount"), ("currency", "currency"),
  ("status", "status"), ("customer", "customer_id")]

/-- The row that writes a field of the payment object over its copy. -/
def resourceRow (field : String × String) : Row :=
  ⟨"data.object." ++ field.1, "resource." ++ field.2, none, false, none⟩

theorem table_stripe : Profile.table profiles (.string Format.stripe.name) =
    .ok (paymentEventRows ++ resourceFields.map resourceRow) := rfl

theorem feed_resource : Row.Feed "resource" paymentEventRows ["data.object"] := by
  repeat first
    | refine .beside (by decide +kernel) ?_
    | refine .copy rfl rfl (by decide +kernel) ?_
    | exact .done (by decide +kernel)

theorem segments_resourceRow : ∀ field ∈ resourceFields,
    Path.NamesKeys (resourceRow field).source ∧
    Path.segments (resourceRow field).source = ["data", "object", field.1] ∧
    Path.segments (resourceRow field).target = ["resource", field.2] := by
  decide +kernel

/-- A field of the payment object is looked up in it. -/
theorem at?_resourceRow {field : String × String} (hfield : field ∈ resourceFields)
    (payload : Value) : DataCheck.at? payload (resourceRow field).source =
      payload.paymentObject?.bind fun object => object.member? field.1 := by
  obtain ⟨hkeys, hsegments, _⟩ := segments_resourceRow field hfield
  rw [DataCheck.at?_eq_foldlM hkeys, hsegments, Value.paymentObject?, Option.bind_assoc]
  simp only [List.foldlM_cons, List.foldlM_nil, bind_pure, Option.bind_eq_bind]

variable {scope : TransformScope} {payload : Value}

section

variable [Limits]

/-- A row writes a field over the copy if the payment object has it. -/
theorem write?_resourceRow {field : String × String} (hfield : field ∈ resourceFields)
    (hcopied : payload.depth ≤ Limits.copying + 1) :
    (resourceRow field).write? scope (.dict payload.entries) =
      (payload.paymentObject?.bind fun object => object.member? field.1).map
        (⟨resourceRow field, ·⟩) := by
  rw [Row.write?_of_copies rfl (segments_resourceRow field hfield).1 hcopied,
    at?_resourceRow hfield]

/-- If no payment object is a dictionary, no row writes over the copy. -/
theorem writes_resourceRows_of_no_dict {fields : List (String × String)}
    (hfields : fields ⊆ resourceFields) (hcopied : payload.depth ≤ Limits.copying + 1)
    (hobject : ∀ object, payload.paymentObject? ≠ some (.dict object)) :
    Mapping.writes scope (.dict payload.entries) (fields.map resourceRow) = [] := by
  rw [Mapping.writes, List.filterMap_eq_nil_iff, List.forall_mem_map]
  intro field hfield
  rw [write?_resourceRow (hfields hfield) hcopied]
  cases hpayment : payload.paymentObject? with
  | none => rfl
  | some v =>
      cases v with
      | dict object => exact absurd hpayment (hobject object)
      | list items => rfl
      | scalar s => rfl

/-- One row after the other, the rows write the fields of the payment object over the copy. -/
theorem get?_replay_resourceRows {fields : List (String × String)}
    (hfields : fields ⊆ resourceFields) (hcopied : payload.depth ≤ Limits.copying + 1)
    {object : Entries} (hobject : payload.paymentObject? = some (.dict object))
    {data resource : Entries}
    (hget : Entries.get? (.string "resource") data = some (.dict resource)) :
    Entries.get? (.string "resource") (Mapping.replay
        (Mapping.writes scope (.dict payload.entries) (fields.map resourceRow)) data) =
      some (.dict (fields.foldl (fun entries field =>
        Entries.amend field.2 (Entries.get? (.string field.1) object) entries) resource)) := by
  induction fields generalizing data resource with
  | nil => exact hget
  | cons field rest ih =>
      obtain ⟨hfield, hrest⟩ := List.cons_subset.1 hfields
      rw [List.map_cons, Mapping.writes_cons, Mapping.replay_append,
        write?_resourceRow hfield hcopied, hobject, Option.bind_some, Value.member?,
        List.foldl_cons]
      apply ih hrest
      cases hfound : Entries.get? (.string field.1) object with
      | none => exact hget
      | some v =>
          have hbelow : Path.below "resource" data = resource := by rw [Path.below, hget]
          have hput : Path.put data (resourceRow field).target v = Entries.insert
              (.string "resource") (.dict (Entries.insert (.string field.2) v resource)) data := by
            rw [Path.put, (segments_resourceRow field hfield).2.2, Path.putAt, Path.putAt, hbelow]
          simp only [Option.map_some, Option.toList_some, Mapping.replay, List.foldl_cons,
            List.foldl_nil, hput, Entries.get?_insert_self, Entries.amend]

end

/-- Four of the fields stand in the copy already. -/
theorem foldl_amend_resourceFields (object : Entries) :
    resourceFields.foldl (fun entries field =>
      Entries.amend field.2 (Entries.get? (.string field.1) object) entries) object =
      paymentResource object := by
  rw [paymentResource]
  generalize hkind : Entries.get? (.string "object") object = kind?
  simp only [resourceFields, List.foldl_cons, List.foldl_nil, hkind]
  have hid : Entries.amend "id" (Entries.get? (.string "id") object) object = object :=
    Entries.amend_eq_self rfl
  have hkept : ∀ key : String, key ≠ "type" → Entries.amend key
      (Entries.get? (.string key) object) (Entries.amend "type" kind? object) =
        Entries.amend "type" kind? object :=
    fun key hne => Entries.amend_eq_self (Entries.get?_amend_of_ne hne kind?)
  rw [hid, hkept "amount" (by decide), hkept "currency" (by decide), hkept "status" (by decide)]

/-- The first rows of the table copy what the payment event tells of. -/
theorem get?_replay_paymentEventRows [Limits] (scope : TransformScope)
    (hcopied : payload.depth ≤ Limits.copying + 1) :
    Entries.get? (.string "resource") (Mapping.replay
        (Mapping.writes scope (.dict payload.entries) paymentEventRows) []) =
      payload.paymentObject? := by
  have hsource : Path.NamesKeys "data.object" ∧
      Path.segments "data.object" = ["data", "object"] := by decide +kernel
  have htarget : Path.NamesKeys "resource" ∧ Path.segments "resource" = ["resource"] := by
    decide +kernel
  have hobject : DataCheck.at? payload "data.object" = payload.paymentObject? := by
    rw [DataCheck.at?_eq_foldlM hsource.1, hsource.2, Value.paymentObject?]
    simp only [List.foldlM_cons, List.foldlM_nil, bind_pure, Option.bind_eq_bind]
  have hreplay : DataCheck.at? (.dict (Mapping.replay
      (Mapping.writes scope (.dict payload.entries) paymentEventRows) [])) "resource" =
        payload.paymentObject? := by
    rw [feed_resource.at?_replay hcopied, DataCheck.at?_nil htarget.1.1, Option.or_none,
      Value.supplied?_singleton, hobject]
  rw [DataCheck.at?_eq_foldlM htarget.1, htarget.2] at hreplay
  simpa only [List.foldlM_cons, List.foldlM_nil, bind_pure, Value.member?] using hreplay

end Bundled

/-- The payment table makes data of every payload that can be copied, and they have as resource
what the payment event tells of: nothing if it tells of nothing, the same if it is no dictionary,
and else the payment object, which stays as it is but for its type and its customer. -/
theorem payment_resource_copied [Limits] {payload : Value}
    (hcopied : payload.depth ≤ Limits.copying + 1)
    (scope : TransformScope) :
    ∃ table mapped, Profile.table Bundled.profiles (.string Format.stripe.name) = .ok table ∧
      Mapping.apply scope table payload = .ok mapped ∧
      (payload.paymentObject? = none → Entries.has (.string "resource") mapped.data = false) ∧
      (∀ v, payload.paymentObject? = some v → v.isDict = false →
        Entries.get? (.string "resource") mapped.data = some v) ∧
      ∀ object, payload.paymentObject? = some (.dict object) →
        ∃ resource, Entries.get? (.string "resource") mapped.data = some (.dict resource) ∧
          IsPaymentResource object resource := by
  obtain ⟨table, htable, hgentle⟩ := Bundled.exists_table .stripe
  obtain ⟨mapped, happly⟩ : ∃ mapped, Mapping.apply scope table payload = .ok mapped :=
    Mapping.apply_ok fun row hrow => (hgentle row hrow).exists_outcome _
  have hrows := Except.ok.inj (htable.symm.trans Bundled.table_stripe)
  have hfields : Bundled.resourceFields ⊆ Bundled.resourceFields := List.Subset.refl _
  have hcopy := Bundled.get?_replay_paymentEventRows scope hcopied
  have hkept (hobject : ∀ object, payload.paymentObject? ≠ some (.dict object)) :
      Entries.get? (.string "resource") mapped.data = payload.paymentObject? := by
    rw [Mapping.apply_eq happly, hrows, Mapping.writes_append,
      Bundled.writes_resourceRows_of_no_dict hfields hcopied hobject, List.append_nil, hcopy]
  refine ⟨table, mapped, htable, happly, ?nothing, ?other, ?object⟩
  case nothing =>
    intro hnone
    rw [Entries.has, hkept (by simp [hnone]), hnone]
    rfl
  case other =>
    intro v hpayment hdict
    rw [hkept, hpayment]
    intro object hobject
    cases hpayment.symm.trans hobject
    cases hdict
  case object =>
    intro object hobject
    refine ⟨paymentResource object, ?_, isPaymentResource_paymentResource object⟩
    rw [Mapping.apply_eq happly, hrows, Mapping.writes_append, Mapping.replay_append,
      Bundled.get?_replay_resourceRows hfields hcopied hobject (hcopy.trans hobject),
      Bundled.foldl_amend_resourceFields]

namespace PaymentResourceWitness

local instance : Limits := .standard

/-- A payment object with a type of its own, a kind, a customer that is null, and the same names
further down. -/
def object : Entries := [
  (.string "type", .string "card"), (.string "id", .string "pi_1"),
  (.string "object", .string "payment_intent"), (.string "customer", .null),
  (.string "charge", .dict [(.string "object", .string "charge"), (.string "type", .int 1)])]

def payload : Value :=
  .dict [(.string "id", .string "evt_1"),
    (.string "data", .dict [(.string "object", .dict object)])]

theorem payment_resource_copied_with_type :
    payload.depth ≤ Limits.copying + 1 ∧
      ∃ table mapped resource,
        Profile.table Bundled.profiles (.string Format.stripe.name) = .ok table ∧
        Mapping.apply (.bare "webhook_stripe") table payload = .ok mapped ∧
        Entries.get? (.string "resource") mapped.data = some (.dict resource) ∧
        Entries.get? (.string "type") resource = some (.string "payment_intent") ∧
        Entries.get? (.string "customer_id") resource = some .null ∧
        resource.map Prod.fst = object.map Prod.fst ++ [.string "customer_id"] := by
  have hcopied : payload.depth ≤ Limits.copying + 1 := by decide +kernel
  obtain ⟨table, mapped, htable, happly, _, _, hobject⟩ :=
    payment_resource_copied hcopied (.bare "webhook_stripe")
  obtain ⟨resource, hget, hresource⟩ := hobject object rfl
  exact ⟨hcopied, table, mapped, resource, htable, happly, hget, hresource.type,
    hresource.customer, hresource.keys⟩

end PaymentResourceWitness

end EventIntake
