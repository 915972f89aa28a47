/-
Payloads of events.  A record in a payload leaves out the members that are absent, and a check puts
them back; so a payload of portable data is read as the event that it was made of, and holds no
null but in its data.
-/
import EventIntake.Proofs.JsonValue

namespace EventIntake

/-- No null stands anywhere in the value. -/
def Value.NullFree (v : Value) : Prop := v.MadeOf (· ≠ .null)

/-- A scalar that the members of an event beside its data are written with. -/
@[simp] def Scalar.IsFirm : Scalar → Prop
  | .bool _ => True
  | .int _ => True
  | .string _ => True
  | _ => False

/-- The value is made of truth values, integers and texts. -/
def Value.IsFirm (v : Value) : Prop := v.MadeOf Scalar.IsFirm

theorem Scalar.IsFirm.isPortable {s : Scalar} (hfirm : s.IsFirm) : s.IsPortable := by
  cases s <;> trivial

namespace Value

@[simp] theorem isFirm_scalar_iff (s : Scalar) : (Value.scalar s).IsFirm ↔ s.IsFirm :=
  madeOf_scalar_iff

@[simp] theorem isFirm_map_iff {α : Type} (f : α → Value) (items : List α) :
    (Value.list (items.map f)).IsFirm ↔ ∀ a ∈ items, (f a).IsFirm := by
  rw [IsFirm, MadeOf, allMadeOf_iff, List.forall_mem_map]
  rfl

theorem IsFirm.nullFree {v : Value} (hfirm : v.IsFirm) : v.NullFree :=
  MadeOf.mono (fun s hs => by rintro rfl; cases hs) hfirm

end Value

namespace Schema

/-- A member of a record: what is written of it, if anything is, and what a check makes of it. -/
structure Member where
  name : String
  written : Option Value
  full : Value

namespace Member

/-- A member that is always there. -/
def always (name : String) (v : Value) : Member := ⟨name, some v, v⟩

/-- A member that may be absent, which a check tells by null. -/
def optional {α : Type} (name : String) (written full : α → Value) (a : Option α) : Member :=
  ⟨name, a.map written, .ofOption full a⟩

@[simp] theorem always_name (name : String) (v : Value) : (always name v).name = name := rfl

@[simp] theorem always_written (name : String) (v : Value) :
    (always name v).written = some v := rfl

@[simp] theorem optional_name {α : Type} (name : String) (written full : α → Value)
    (a : Option α) : (optional name written full a).name = name := rfl

@[simp] theorem optional_written {α : Type} (name : String) (written full : α → Value)
    (a : Option α) : (optional name written full a).written = a.map written := rfl

/-- The member is written as a field asks for it, or left out where the field has a default. -/
def Fits (member : Member) (field : String × Shape × Option Value) : Prop :=
  field.1 = member.name ∧
    match member.written with
    | some v => ∀ anyObject place, field.2.1.check anyObject place v = .ok member.full
    | none => field.2.2 = some member.full

theorem fits_text (name : String) (default? : Option Value) (text : String) :
    (always name (.string text)).Fits (name, .text, default?) :=
  ⟨rfl, fun _ _ => rfl⟩

theorem fits_optional {α : Type} {shape : Shape} (name : String) (written full : α → Value)
    (a : Option α)
    (hcheck : ∀ a anyObject place, shape.check anyObject place (written a) = .ok (full a))
    (hnull : ∀ a, written a ≠ .null) :
    (optional name written full a).Fits (name, .optional shape, some .null) := by
  refine ⟨rfl, ?_⟩
  cases a with
  | none => rfl
  | some a =>
      intro anyObject place
      have hcheck := hcheck a anyObject place
      rw [Shape.check]
      · exact hcheck
      · exact hnull a

def entries (members : List Member) : Entries :=
  members.filterMap fun member => member.written.map fun v => (.string member.name, v)

/-- The record with all members. -/
def complete (members : List Member) : Value :=
  .record (members.map fun member => (member.name, member.full))

variable {members : List Member}

theorem mem_entries_iff {key : Scalar} {v : Value} :
    (key, v) ∈ entries members ↔
      ∃ member ∈ members, key = .string member.name ∧ member.written = some v := by
  simp only [entries, List.mem_filterMap, Option.map_eq_some_iff, Prod.mk.injEq]
  constructor
  · rintro ⟨member, hmember, w, hwritten, rfl, rfl⟩
    exact ⟨member, hmember, rfl, hwritten⟩
  · rintro ⟨member, hmember, rfl, hwritten⟩
    exact ⟨member, hmember, v, hwritten, rfl, rfl⟩

theorem get?_entries_of_not_mem {name : String} (hname : name ∉ members.map Member.name) :
    Entries.get? (.string name) (entries members) = none := by
  induction members with
  | nil => rfl
  | cons member rest ih =>
      simp only [List.map_cons, List.mem_cons, not_or] at hname
      have hrest := ih hname.2
      rw [entries, List.filterMap_cons]
      cases hwritten : member.written with
      | none => exact hrest
      | some v =>
          rw [Option.map_some, Entries.get?, Scalar.same_string, if_neg]
          · exact hrest
          · simpa using Ne.symm hname.1

theorem get?_entries (hnames : (members.map Member.name).Nodup) {member : Member}
    (hmember : member ∈ members) :
    Entries.get? (.string member.name) (entries members) = member.written := by
  induction members with
  | nil => cases hmember
  | cons first rest ih =>
      rw [List.map_cons, List.nodup_cons] at hnames
      obtain ⟨hfresh, hnames⟩ := hnames
      rcases List.mem_cons.1 hmember with rfl | hrest
      · have habsent := get?_entries_of_not_mem hfresh
        rw [entries, List.filterMap_cons]
        cases hwritten : member.written with
        | none => exact habsent
        | some v => simp [Entries.get?, Scalar.same_string]
      · have hother : first.name ≠ member.name := by
          intro hsame
          exact hfresh (hsame ▸ List.mem_map_of_mem hrest)
        have hget := ih hnames hrest
        rw [entries, List.filterMap_cons]
        cases hwritten : first.written with
        | none => exact hget
        | some v =>
            rw [Option.map_some, Entries.get?, Scalar.same_string, if_neg]
            · exact hget
            · simpa using hother

theorem madeOf_entries {kind : Scalar → Prop} (hnames : (members.map Member.name).Nodup)
    (hmembers : ∀ member ∈ members, ∀ v ∈ member.written, v.MadeOf kind) :
    (Value.dict (entries members)).MadeOf kind := by
  rw [Value.MadeOf]
  induction members with
  | nil => trivial
  | cons member rest ih =>
      rw [List.map_cons, List.nodup_cons] at hnames
      obtain ⟨hfresh, hnames⟩ := hnames
      obtain ⟨hfirst, hothers⟩ := List.forall_mem_cons.1 hmembers
      have hrest := ih hnames hothers
      rw [entries, List.filterMap_cons]
      cases hwritten : member.written with
      | none => exact hrest
      | some v =>
          rw [Option.map_some, Entries.MadeOf]
          refine ⟨trivial, ?_, hfirst v hwritten, hrest⟩
          rw [List.mem_map]
          rintro ⟨⟨key, w⟩, hentry, rfl⟩
          obtain ⟨other, hother, hkey, _⟩ := mem_entries_iff.1 hentry
          rw [Scalar.string.injEq] at hkey
          exact hfresh (hkey ▸ List.mem_map_of_mem hother)

theorem isFirm_entries (hnames : (members.map Member.name).Nodup)
    (hmembers : ∀ member ∈ members, ∀ v ∈ member.written, v.IsFirm) :
    (Value.dict (entries members)).IsFirm :=
  madeOf_entries hnames hmembers

end Member

variable {members : List Member} {fields : List (String × Shape × Option Value)}

theorem checkFields_of_fits {all : Entries} (hfits : List.Forall₂ Member.Fits members fields)
    (hall : ∀ member ∈ members, Entries.get? (.string member.name) all = member.written)
    (anyObject : Bool) (place : List Step) :
    checkFields anyObject place all fields =
      .ok (members.map fun member => (.string member.name, member.full)) := by
  induction hfits with
  | nil => rfl
  | @cons member field members fields hfirst _ ih =>
      obtain ⟨name, shape, default?⟩ := field
      obtain ⟨hget, hrest⟩ := List.forall_mem_cons.1 hall
      obtain ⟨rfl, hwritten⟩ := hfirst
      cases hmember : member.written with
      | none =>
          simp only [hmember] at hwritten
          simp [checkFields, hget, hmember, hwritten, ih hrest]
      | some v =>
          simp only [hmember] at hwritten
          simp [checkFields, hget, hmember, hwritten, ih hrest]

/-- A record without its absent members passes the check, which puts them back. -/
theorem check_record (hfits : List.Forall₂ Member.Fits members fields)
    (hnames : (members.map Member.name).Nodup) (title : String) (anyObject : Bool)
    (place : List Step) :
    (Shape.record title fields).check anyObject place (.dict (Member.entries members)) =
      .ok (Member.complete members) := by
  have hall : ∀ member ∈ members,
      Entries.get? (.string member.name) (Member.entries members) = member.written :=
    fun member hmember => Member.get?_entries hnames hmember
  have hfields : fields.map Prod.fst = members.map Member.name := by
    clear hall hnames
    induction hfits with
    | nil => rfl
    | cons hfirst _ ih => rw [List.map_cons, List.map_cons, hfirst.1, ih]
  have hextra : extraIssues place (fields.map (·.1)) (Member.entries members) = [] := by
    rw [extraIssues, List.filterMap_eq_nil_iff]
    rintro ⟨key, v⟩ hentry
    obtain ⟨member, hmember, rfl, _⟩ := Member.mem_entries_iff.1 hentry
    have hknown : (fields.map (·.1)).contains member.name = true := by
      rw [List.contains_iff_mem, hfields]
      exact List.mem_map_of_mem hmember
    simp only [hknown, ↓reduceIte]
  rw [Shape.check, checkFields_of_fits hfits hall]
  simp only [hextra]
  rw [Member.complete, Value.record, List.map_map]
  rfl

theorem gather_map_ok {α β : Type} (vs : List β) :
    gather (vs.map (Except.ok : β → Except (List α) β)) = .ok vs := by
  induction vs with
  | nil => rfl
  | cons v rest ih =>
      rw [gather] at ih
      rw [gather, List.map_cons, List.foldr_cons, ih]

/-- A list whose items pass the check one by one. -/
theorem check_list {α : Type} {shape : Shape} {written full : α → Value}
    (hcheck : ∀ a anyObject place, shape.check anyObject place (written a) = .ok (full a))
    (items : List α) (anyObject : Bool) (place : List Step) :
    (Shape.list shape).check anyObject place (.list (items.map written)) =
      .ok (.list (items.map full)) := by
  have hitems : (items.map written).mapIdx
      (fun i item => shape.check anyObject (place ++ [.index i]) item) =
        (items.map full).map .ok := by
    apply List.ext_getElem
    · simp
    · intro i _ _
      simp [hcheck]
  rw [Shape.check, hitems, gather_map_ok]
  rfl

/-- Entries whose keys are texts pass a check that their values pass as they are. -/
theorem check_dict {shape : Shape} {entries : Entries}
    (hkeys : ∀ entry ∈ entries, entry.1.isText = true) {anyObject : Bool}
    {place : List Step}
    (hvalues : ∀ entry ∈ entries, ∀ place, shape.check anyObject place entry.2 = .ok entry.2) :
    (Shape.dict shape).check anyObject place (.dict entries) = .ok (.dict entries) := by
  have hentries : entries.map
      (checkEntry place fun place v => shape.check anyObject place v) = entries.map .ok := by
    refine List.map_congr_left ?_
    intro entry hentry
    simp only [checkEntry, hvalues _ hentry, hkeys _ hentry]
  rw [Shape.check, hentries, gather_map_ok]
  rfl

/-- Entries whose keys are texts pass a check that asks for nothing else. -/
theorem check_dict_any {entries : Entries}
    (hkeys : ∀ entry ∈ entries, entry.1.isText = true) (anyObject : Bool)
    (place : List Step) :
    (Shape.dict .any).check anyObject place (.dict entries) = .ok (.dict entries) :=
  check_dict hkeys fun _ _ _ => rfl

end Schema

open Schema

namespace EventKind

theorem ofName?_name (kind : EventKind) : ofName? kind.name = some kind := by
  cases kind <;> rfl

theorem mem_all (kind : EventKind) : kind ∈ all := by
  cases kind <;> decide

end EventKind

/-- The name of a kind is one of the names that a field of kinds takes. -/
theorem Schema.Member.fits_kind (name : String) (kind : EventKind) :
    (Member.always name (.string kind.name)).Fits
      (name, .choice (EventKind.all.map EventKind.name), none) := by
  have hknown : (EventKind.all.map EventKind.name).contains kind.name = true := by
    rw [List.contains_iff_mem]
    exact List.mem_map_of_mem kind.mem_all
  refine ⟨rfl, fun anyObject place => ?_⟩
  rw [Shape.check, if_pos hknown]
  rfl

namespace AppliedRow

def members (row : AppliedRow) : List Member := [
  .always "source_path" (.string row.source), .always "target_path" (.string row.target),
  .optional "transformation" Value.string Value.string row.transformation]

theorem toPayload_eq (row : AppliedRow) : row.toPayload = .dict (Member.entries row.members) := by
  obtain ⟨source, target, transformation⟩ := row
  cases transformation <;> rfl

theorem check_toPayload (row : AppliedRow) (anyObject : Bool) (place : List Step) :
    shape.check anyObject place row.toPayload = .ok (Member.complete row.members) := by
  rw [toPayload_eq]
  refine check_record ?_ (by simp [members]) _ anyObject place
  refine .cons (Member.fits_text _ _ _) (.cons (Member.fits_text _ _ _) (.cons ?_ .nil))
  exact Member.fits_optional _ _ _ _ (fun _ _ _ => rfl) (fun _ => by simp)

theorem isFirm_toPayload (row : AppliedRow) : row.toPayload.IsFirm := by
  rw [toPayload_eq]
  exact Member.isFirm_entries (by simp [members]) (by simp [members])

theorem ofChecked_complete (row : AppliedRow) :
    ofChecked (Member.complete row.members) = row := by
  obtain ⟨source, target, transformation⟩ := row
  cases transformation <;> rfl

end AppliedRow

namespace DataIssue

def members (issue : DataIssue) : List Member := [
  .always "path" (.string issue.path), .always "message" (.string issue.message),
  .always "code" (.string issue.code)]

theorem isFirm_toValue (issue : DataIssue) : issue.toValue.IsFirm := by
  have hvalue : issue.toValue = .dict (Member.entries issue.members) := rfl
  rw [hvalue]
  exact Member.isFirm_entries (by simp [members]) (by simp [members])

theorem check_toValue (issue : DataIssue) (anyObject : Bool) (place : List Step) :
    shape.check anyObject place issue.toValue = .ok issue.toValue := rfl

theorem ofChecked_toValue (issue : DataIssue) : ofChecked issue.toValue = issue := rfl

end DataIssue

namespace Source

def members (source : Source) : List Member := [
  .always "format" (.string source.format), .always "system" (.string source.system),
  .always "connector" (.string source.connector), .always "version" (.string source.version),
  .optional "region" Value.string Value.string source.region]

theorem toPayload_eq (source : Source) :
    source.toPayload = .dict (Member.entries source.members) := by
  obtain ⟨format, system, connector, version, region⟩ := source
  cases region <;> rfl

theorem check_toPayload (source : Source) (anyObject : Bool) (place : List Step) :
    shape.check anyObject place source.toPayload = .ok (Member.complete source.members) := by
  rw [toPayload_eq]
  refine check_record ?_ (by simp [members]) _ anyObject place
  refine .cons (Member.fits_text _ _ _) (.cons (Member.fits_text _ _ _)
    (.cons (Member.fits_text _ _ _) (.cons (Member.fits_text _ _ _) (.cons ?_ .nil))))
  exact Member.fits_optional _ _ _ _ (fun _ _ _ => rfl) (fun _ => by simp)

theorem isFirm_toPayload (source : Source) : source.toPayload.IsFirm := by
  rw [toPayload_eq]
  exact Member.isFirm_entries (by simp [members]) (by simp [members])

theorem ofChecked_complete (source : Source) :
    ofChecked (Member.complete source.members) = source := by
  obtain ⟨format, system, connector, version, region⟩ := source
  cases region <;> rfl

end Source

namespace Validation

def issuesValue (issues : List DataIssue) : Value := .list (issues.map DataIssue.toValue)

def members (validation : Validation) : List Member := [
  .always "validated" (.bool validation.validated),
  .always "validator_version" (.string validation.validatorVersion),
  .always "validation_timestamp" (.string validation.timestamp),
  .optional "errors" issuesValue issuesValue validation.errors]

theorem toPayload_eq (validation : Validation) :
    validation.toPayload = .dict (Member.entries validation.members) := by
  obtain ⟨validated, validatorVersion, timestamp, errors⟩ := validation
  cases errors <;> rfl

theorem check_toPayload (validation : Validation) (anyObject : Bool) (place : List Step) :
    shape.check anyObject place validation.toPayload =
      .ok (Member.complete validation.members) := by
  rw [toPayload_eq]
  refine check_record ?_ (by simp [members]) _ anyObject place
  refine .cons ⟨rfl, fun _ _ => rfl⟩ (.cons (Member.fits_text _ _ _)
    (.cons (Member.fits_text _ _ _) (.cons ?_ .nil)))
  exact Member.fits_optional _ _ _ _ (check_list DataIssue.check_toValue)
    (fun _ => by simp [issuesValue])

theorem isFirm_toPayload (validation : Validation) : validation.toPayload.IsFirm := by
  rw [toPayload_eq]
  refine Member.isFirm_entries (by simp [members]) ?_
  simp [members, issuesValue, DataIssue.isFirm_toValue]

theorem ofChecked_complete (validation : Validation) :
    ofChecked (Member.complete validation.members) = validation := by
  obtain ⟨validated, validatorVersion, timestamp, errors⟩ := validation
  cases errors with
  | none => rfl
  | some issues =>
      have hissues : (issues.map DataIssue.toValue).map DataIssue.ofChecked = issues := by
        rw [List.map_map, List.map_congr_left fun issue _ => issue.ofChecked_toValue]
        exact List.map_id issues
      have hread : ofChecked (Member.complete
          (members ⟨validated, validatorVersion, timestamp, some issues⟩)) =
            ⟨validated, validatorVersion, timestamp,
              some ((issues.map DataIssue.toValue).map DataIssue.ofChecked)⟩ := rfl
      rw [hread, hissues]

end Validation

theorem Value.texts_map_string (texts : List String) :
    Value.texts (texts.map Value.string) = texts := by
  rw [Value.texts, List.filterMap_map]
  exact List.filterMap_some

namespace Normalization

def members (report : Normalization) : List Member := [
  .always "source_format" (.string report.sourceFormat),
  .always "target_type" (.string report.targetKind.name),
  ⟨"field_mappings", some (.list (report.mappings.map AppliedRow.toPayload)),
    .list (report.mappings.map fun row => Member.complete row.members)⟩,
  .optional "dropped_fields" Value.ofTexts Value.ofTexts report.dropped,
  .optional "warnings" Value.ofTexts Value.ofTexts report.warnings,
  .always "processing_time_ms" (.int report.processingMillis)]

theorem toPayload_eq (report : Normalization) :
    report.toPayload = .dict (Member.entries report.members) := by
  obtain ⟨sourceFormat, targetKind, mappings, dropped, warnings, processingMillis⟩ := report
  cases dropped <;> cases warnings <;> rfl

theorem check_toPayload (report : Normalization) (anyObject : Bool) (place : List Step) :
    shape.check anyObject place report.toPayload = .ok (Member.complete report.members) := by
  have htexts : ∀ texts anyObject place,
      (Shape.list .text).check anyObject place (Value.ofTexts texts) =
        .ok (Value.ofTexts texts) := check_list fun _ _ _ => rfl
  rw [toPayload_eq]
  refine check_record ?_ (by simp [members]) _ anyObject place
  refine .cons (Member.fits_text _ _ _) (.cons (Member.fits_kind _ _)
    (.cons ⟨rfl, check_list AppliedRow.check_toPayload _⟩ (.cons ?_ (.cons ?_
      (.cons ⟨rfl, fun _ _ => rfl⟩ .nil)))))
  · exact Member.fits_optional _ _ _ _ htexts (fun _ => by simp [Value.ofTexts])
  · exact Member.fits_optional _ _ _ _ htexts (fun _ => by simp [Value.ofTexts])

theorem isFirm_toPayload (report : Normalization) : report.toPayload.IsFirm := by
  rw [toPayload_eq]
  refine Member.isFirm_entries (by simp [members]) ?_
  simp [members, Value.ofTexts, AppliedRow.isFirm_toPayload]

theorem ofChecked_complete (report : Normalization) :
    ofChecked (Member.complete report.members) = report := by
  have hmappings : (report.mappings.map fun row => Member.complete row.members).map
      AppliedRow.ofChecked = report.mappings := by
    rw [List.map_map]
    exact (List.map_congr_left fun row _ => row.ofChecked_complete).trans (List.map_id _)
  have htexts : ∀ texts? : Option (List String),
      texts?.map (fun texts => Value.texts (texts.map Value.string)) = texts? := by
    intro texts?
    simp only [Value.texts_map_string, Option.map_id']
  have hread : ofChecked (Member.complete report.members) =
      ⟨report.sourceFormat, (EventKind.ofName? report.targetKind.name).getD .unknown,
        (report.mappings.map fun row => Member.complete row.members).map AppliedRow.ofChecked,
        report.dropped.map fun texts => Value.texts (texts.map Value.string),
        report.warnings.map fun texts => Value.texts (texts.map Value.string),
        report.processingMillis⟩ := by
    obtain ⟨sourceFormat, targetKind, mappings, dropped, warnings, processingMillis⟩ := report
    cases dropped <;> cases warnings <;> rfl
  rw [hread, EventKind.ofName?_name, hmappings, htexts, htexts]
  rfl

end Normalization

namespace Envelope

/-- The members of an event whose data are written as a value. -/
def members (event : Envelope) (data : Value) : List Member := [
  .always "id" (.string event.id), .always "type" (.string event.kind.name),
  ⟨"source", some event.source.toPayload, Member.complete event.source.members⟩,
  .always "timestamp" (.string event.timestamp), .always "data" data,
  .optional "correlation_id" Value.string Value.string event.correlationId,
  .always "schema_version" (.string event.schemaVersion),
  ⟨"validation", some event.validation.toPayload, Member.complete event.validation.members⟩,
  ⟨"normalization", some event.normalization.toPayload,
    Member.complete event.normalization.members⟩]

/-- Within the limit of nesting an event has a payload. -/
theorem toPayload_eq {event : Envelope} (hdepth : (Value.dict event.data).depth ≤ dumpLimit) :
    event.toPayload =
      .ok (.dict (Member.entries (event.members (Wire.value (.dict event.data))))) := by
  rw [toPayload, if_neg (Nat.not_lt.2 hdepth)]
  obtain ⟨id, kind, source, timestamp, data, correlationId, schemaVersion, validation,
    normalization⟩ := event
  cases correlationId <;> rfl

theorem toPayload_eq_of_portable {event : Envelope}
    (hdata : Entries.MadeOf Scalar.IsPortable event.data)
    (hdepth : (Value.dict event.data).depth ≤ dumpLimit) :
    event.toPayload = .ok (.dict (Member.entries (event.members (.dict event.data)))) := by
  have hvalue : Wire.value (.dict event.data) = .dict event.data :=
    Wire.value_eq (Value.madeOf_dict_iff.2 hdata)
  rw [toPayload_eq hdepth, hvalue]

theorem check_toPayload {event : Envelope} (hdata : Entries.MadeOf Scalar.IsPortable event.data)
    (anyObject : Bool) (place : List Step) :
    shape.check anyObject place (.dict (Member.entries (event.members (.dict event.data)))) =
      .ok (Member.complete (event.members (.dict event.data))) := by
  have hkeys : ∀ entry ∈ event.data, entry.1.isText = true :=
    fun entry hentry => (hdata.isKey (List.mem_map_of_mem hentry)).isText
  refine check_record ?_ (by simp [members]) _ anyObject place
  refine .cons (Member.fits_text _ _ _) (.cons (Member.fits_kind _ _)
    (.cons ⟨rfl, event.source.check_toPayload⟩ (.cons (Member.fits_text _ _ _)
      (.cons ⟨rfl, check_dict_any hkeys⟩ (.cons ?_ (.cons (Member.fits_text _ _ _)
        (.cons ⟨rfl, event.validation.check_toPayload⟩
          (.cons ⟨rfl, event.normalization.check_toPayload⟩ .nil))))))))
  exact Member.fits_optional _ _ _ _ (fun _ _ _ => rfl) (fun _ => by simp)

theorem ofChecked_complete (event : Envelope) :
    ofChecked (Member.complete (event.members (.dict event.data))) = event := by
  have hread : ofChecked (Member.complete (event.members (.dict event.data))) =
      ⟨event.id, (EventKind.ofName? event.kind.name).getD .unknown,
        .ofChecked (Member.complete event.source.members), event.timestamp, event.data,
        event.correlationId, event.schemaVersion,
        .ofChecked (Member.complete event.validation.members),
        .ofChecked (Member.complete event.normalization.members)⟩ := by
    obtain ⟨id, kind, source, timestamp, data, correlationId, schemaVersion, validation,
      normalization⟩ := event
    cases correlationId <;> rfl
  rw [hread, EventKind.ofName?_name, Source.ofChecked_complete, Validation.ofChecked_complete,
    Normalization.ofChecked_complete]
  rfl

/-- Beside the data no member of a payload has a null in it. -/
theorem nullFree_of_mem_entries {event : Envelope} {data : Value} {key : Scalar} {v : Value}
    (hentry : (key, v) ∈ Member.entries (event.members data)) (hkey : key ≠ .string "data") :
    v.NullFree := by
  obtain ⟨member, hmember, rfl, hwritten⟩ := Member.mem_entries_iff.1 hentry
  have hname : member.name ≠ "data" := fun hname => hkey (congrArg Scalar.string hname)
  have hmembers : ∀ member ∈ event.members data, member.name ≠ "data" →
      ∀ v ∈ member.written, v.IsFirm := by
    simp [members, Source.isFirm_toPayload, Validation.isFirm_toPayload,
      Normalization.isFirm_toPayload]
  exact (hmembers member hmember hname v hwritten).nullFree

/-- A payload has the members of its event. -/
theorem eq_entries_of_toPayload {event : Envelope} {payload : Value}
    (hpayload : event.toPayload = .ok payload) :
    payload = .dict (Member.entries (event.members (Wire.value (.dict event.data)))) := by
  have hdepth : (Value.dict event.data).depth ≤ dumpLimit := by
    rw [toPayload] at hpayload
    split at hpayload
    next => cases hpayload
    next hshallow => exact Nat.not_lt.1 hshallow
  rw [toPayload_eq hdepth] at hpayload
  exact (Except.ok.inj hpayload).symm

/-- A payload is itself what a payload holds of it. -/
theorem value_toPayload {event : Envelope} {payload : Value}
    (hpayload : event.toPayload = .ok payload) : Wire.value payload = payload := by
  rw [eq_entries_of_toPayload hpayload]
  have hdata := Wire.madeOf_value (.dict event.data)
  have hfirm : ∀ v : Value, v.IsFirm → v.MadeOf Scalar.IsPortable :=
    fun v hv => Value.MadeOf.mono (fun s hs => hs.isPortable) hv
  have hsource := hfirm _ event.source.isFirm_toPayload
  have hvalidation := hfirm _ event.validation.isFirm_toPayload
  have hreport := hfirm _ event.normalization.isFirm_toPayload
  refine Wire.value_eq (Member.madeOf_entries (by simp [members]) ?_)
  simp [members, Value.madeOf_scalar_iff, Scalar.IsPortable, hdata, hsource, hvalidation, hreport]

end Envelope

/-- An event whose data is portable and within the limit of nesting has a payload.  The payload
keeps the data as they are and has no null anywhere else, and the event that it is read as is the
event itself. -/
theorem payload_restores {event : Envelope} (hdata : Entries.MadeOf Scalar.IsPortable event.data)
    (hdepth : (Value.dict event.data).depth ≤ dumpLimit) :
    ∃ payload, event.toPayload = .ok payload ∧
      (∀ key v, (key, v) ∈ payload.entries → key ≠ .string "data" → v.NullFree) ∧
      payload.member? "data" = some (.dict event.data) ∧
      Envelope.ofPayload payload = .ok event := by
  refine ⟨_, Envelope.toPayload_eq_of_portable hdata hdepth, ?_, ?_, ?_⟩
  · intro key v hentry hkey
    exact Envelope.nullFree_of_mem_entries hentry hkey
  · have hnames : ((event.members (.dict event.data)).map Member.name).Nodup := by
      simp [Envelope.members]
    have hmember :
        Member.always "data" (.dict event.data) ∈ event.members (.dict event.data) := by
      simp [Envelope.members]
    exact Member.get?_entries hnames hmember
  · rw [Envelope.ofPayload, Envelope.check_toPayload hdata]
    exact congrArg Except.ok event.ofChecked_complete

namespace PayloadWitness

/-- The data have members named as optional ones of the event, and nulls under them. -/
def event : Envelope where
  id := "evt-1"
  kind := .llmResponse
  source := ⟨"openai", "openai", "unknown", "1.0.0", none⟩
  timestamp := "2024-01-01T00:00:00.000Z"
  data := [(.string "region", .null), (.string "", .list [.null, .dict []]),
    (.string "errors", .dict [(.string "transformation", .null), (.string "n", .int (-3))])]
  correlationId := none
  schemaVersion := "1.0.0"
  validation := ⟨false, "1.0.0", "2024-01-01T00:00:00.000Z", some [⟨"$", "too large", "SIZE"⟩]⟩
  normalization := {
    sourceFormat := "openai"
    targetKind := .llmResponse
    mappings := [⟨"a", "region", none⟩, ⟨"b", "errors.n", some "to_number"⟩]
    dropped := some []
    warnings := none
    processingMillis := 3 }

theorem payload_restores_lookalike_members :
    Entries.MadeOf Scalar.IsPortable event.data ∧
      (Value.dict event.data).depth ≤ dumpLimit ∧
      ∃ payload, event.toPayload = .ok payload ∧ Envelope.ofPayload payload = .ok event := by
  have hdata : Entries.MadeOf Scalar.IsPortable event.data := by
    simp [event, Entries.MadeOf, Value.MadeOf, Value.AllMadeOf, Scalar.IsPortable]
  have hdepth : (Value.dict event.data).depth ≤ dumpLimit := by decide
  obtain ⟨payload, hpayload, _, _, hread⟩ := payload_restores hdata hdepth
  exact ⟨hdata, hdepth, payload, hpayload, hread⟩

end PayloadWitness

end EventIntake
