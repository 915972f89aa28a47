/-
What a request can ask for: the payload of its event is a JSON value with room for it inside the
body.
-/
import EventIntake.Proofs.JsonReading
import EventIntake.Service.Answer

namespace EventIntake

namespace Schema

variable {anyObject : Bool} {place : List Step}

/-- A member of a checked record is the checked value under its name, or the default of a field. -/
theorem exists_field_of_checkFields {entries members : Entries} {name : String} {w : Value}
    {fields : List (String × Shape × Option Value)}
    (hcheck : checkFields anyObject place entries fields = .ok members)
    (hget : Entries.get? (.string name) members = some w) :
    ∃ shape default?, (name, shape, default?) ∈ fields ∧
      ((∃ given at', Entries.get? (.string name) entries = some given ∧
          shape.check anyObject at' given = .ok w) ∨ default? = some w) := by
  induction fields generalizing members with
  | nil =>
      simp only [checkFields] at hcheck
      cases hcheck
      cases hget
  | cons field rest ih =>
      obtain ⟨first, shape, default?⟩ := field
      simp only [checkFields] at hcheck
      split at hcheck
      next v others hhere hothers =>
        cases hcheck
        rw [Entries.get?] at hget
        split at hget
        next hsame =>
          cases hget
          obtain rfl : first = name := by simpa [Scalar.same_string] using hsame
          refine ⟨shape, default?, List.mem_cons_self, ?_⟩
          split at hhere
          next given hgiven => exact .inl ⟨given, _, hgiven, hhere⟩
          next =>
            split at hhere
            next => exact .inr (by simpa using hhere)
            next => cases hhere
        next =>
          obtain ⟨shape', default', hmem, hvalue⟩ := ih hothers hget
          exact ⟨shape', default', List.mem_cons_of_mem _ hmem, hvalue⟩
      all_goals cases hcheck

/-- A member of a checked record is the checked value under its name, or the default of a field. -/
theorem exists_field_of_check {title name : String} {v checked w : Value}
    {fields : List (String × Shape × Option Value)}
    (hcheck : (Shape.record title fields).check anyObject place v = .ok checked)
    (hmember : checked.member? name = some w) :
    ∃ shape default?, (name, shape, default?) ∈ fields ∧
      ((∃ given at', v.member? name = some given ∧
          shape.check anyObject at' given = .ok w) ∨ default? = some w) := by
  cases v with
  | dict entries =>
      simp only [Shape.check] at hcheck
      split at hcheck
      next members hmembers _ =>
        cases hcheck
        exact exists_field_of_checkFields hmembers hmember
      all_goals cases hcheck
  | _ => simp [Shape.check, fail] at hcheck

end Schema

open Schema

namespace ExternalEvent

/-- The payload of a checked event is a part of what was checked, or null. -/
theorem payload_ofChecked {anyObject : Bool} {place : List Step} {v checked : Value}
    (hcheck : shape.check anyObject place v = .ok checked) :
    v.member? "raw_payload" = some (ofChecked checked).payload ∨
      (ofChecked checked).payload = .null := by
  rw [ofChecked, Value.valueAt]
  cases hmember : checked.member? "raw_payload" with
  | none => exact .inr rfl
  | some payload =>
      obtain ⟨field, default?, hfield, hvalue⟩ := exists_field_of_check hcheck hmember
      obtain ⟨rfl, rfl⟩ : field = .any ∧ default? = some .null := by simpa using hfield
      rcases hvalue with ⟨given, _, hgiven, hany⟩ | hnull
      · cases hany
        exact .inl hgiven
      · cases hnull
        exact .inr rfl

end ExternalEvent

namespace EventRequest

theorem exists_read_of_value? [Limits] {body : String} {v : Value}
    (hvalue : value? body = .ok (some v)) :
    ∃ text, Json.read text = .ok v := by
  unfold value? at hvalue
  split at hvalue
  next => cases hvalue
  next =>
    split at hvalue
    next => cases hvalue
    next w _ hread =>
      cases hvalue
      obtain ⟨text, _, hread⟩ := Option.map_eq_some_iff.1 hread
      exact ⟨text, hread⟩
    all_goals cases hvalue

/-- The request in a body is what the check makes of its value. -/
theorem exists_check_of_ofBody [Limits] {body : String} {request : EventRequest}
    (hbody : ofBody body = .ok request) :
    ∃ v checked, value? body = .ok (some v) ∧
      Contract.normalizeRequest.check true [.name "body"] v = .ok checked ∧
      request.event = .ofChecked (checked.valueAt "event") := by
  obtain ⟨v?, hvalue, hrest⟩ := Except.bind_eq_ok_iff.1 hbody
  cases v? with
  | none => cases hrest
  | some v =>
      obtain ⟨checked, hcheck, hrequest⟩ := Except.bind_eq_ok_iff.1 hrest
      cases hrequest
      exact ⟨v, checked, hvalue, Except.mapError_eq_ok_iff.1 hcheck, rfl⟩

/-- The payload of a checked request is a part of its event, or null. -/
theorem payload_of_check {v checked : Value} {place : List Step}
    (hcheck : Contract.normalizeRequest.check true place v = .ok checked) :
    (∃ event, v.member? "event" = some event ∧
      event.member? "raw_payload" =
        some (ExternalEvent.ofChecked (checked.valueAt "event")).payload) ∨
      (ExternalEvent.ofChecked (checked.valueAt "event")).payload = .null := by
  rw [Value.valueAt]
  cases hmember : checked.member? "event" with
  | none => exact .inr rfl
  | some event =>
      obtain ⟨field, default?, hfield, hvalue⟩ := exists_field_of_check hcheck hmember
      obtain ⟨rfl, rfl⟩ : field = ExternalEvent.shape ∧ default? = none := by simpa using hfield
      rcases hvalue with ⟨given, _, hgiven, hevent⟩ | hnone
      · rcases ExternalEvent.payload_ofChecked hevent with hpayload | hnull
        · exact .inl ⟨given, hgiven, hpayload⟩
        · exact .inr hnull
      · cases hnone

/-- The payload of a request's event is a JSON value that is nested less deeply than a body may
be. -/
theorem madeOf_payload_of_ofBody [Limits] {body : String} {request : EventRequest}
    (hbody : ofBody body = .ok request) :
    request.event.payload.MadeOf Scalar.IsJson ∧
      request.event.payload.depth < Limits.reading := by
  obtain ⟨v, checked, hvalue, hcheck, hevent⟩ := exists_check_of_ofBody hbody
  obtain ⟨text, hread⟩ := exists_read_of_value? hvalue
  obtain ⟨hmade, hdepth⟩ := Json.fitsAt_of_read hread
  rw [hevent]
  rcases payload_of_check hcheck with ⟨event, hmember, hpayload⟩ | hnull
  · have hlt := Value.depth_lt_of_member? hmember
    have hlt' := Value.depth_lt_of_member? hpayload
    exact ⟨(hmade.member? hmember).member? hpayload, by omega⟩
  · have hroom := Limits.le_reading
    rw [hnull, Value.depth]
    exact ⟨Value.madeOf_scalar_iff.2 trivial, by omega⟩

end EventRequest

end EventIntake
