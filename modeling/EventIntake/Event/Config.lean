/-
How an event is to be normalized.
-/
import EventIntake.Schema.Shape
import EventIntake.Schema.View

namespace EventIntake

/-- The settings of one normalization. -/
structure Config where
  /-- Whether an event that fails validation is refused.  Only services act on it. -/
  strictValidation : Bool := false
  maxPayloadBytes : Int := 10485760
  includeDroppedFields : Bool := true
  includeFieldMappings : Bool := true
  /-- Pipelines of transforms by name. -/
  pipelines : Option (List (String × String)) := none
deriving DecidableEq, Repr

namespace Config

def shape : Schema.Shape :=
  .record "NormalizationConfig" [
    ("strict_validation", .truth, some (.bool false)),
    ("max_payload_bytes", .integer, some (.int 10485760)),
    ("include_dropped_fields", .truth, some (.bool true)),
    ("include_field_mappings", .truth, some (.bool true)),
    ("custom_transformations", .optional (.dict .text), some .null)]

def ofChecked (v : Value) : Config where
  strictValidation := v.truthAt "strict_validation"
  maxPayloadBytes := v.integerAt "max_payload_bytes"
  includeDroppedFields := v.truthAt "include_dropped_fields"
  includeFieldMappings := v.truthAt "include_field_mappings"
  pipelines := (v.entriesAt? "custom_transformations").map Value.textEntries

def toValue (config : Config) : Value :=
  .record [
    ("strict_validation", .bool config.strictValidation),
    ("max_payload_bytes", .int config.maxPayloadBytes),
    ("include_dropped_fields", .bool config.includeDroppedFields),
    ("include_field_mappings", .bool config.includeFieldMappings),
    ("custom_transformations", .ofOption (fun pipelines =>
      Value.record (pipelines.map fun (name, pipeline) => (name, .string pipeline)))
      config.pipelines)]

/-- A checked configuration laid over another one: only the keys that were sent count. -/
def overlay (base : Config) (sent : Entries) (checked : Value) : Config :=
  let given := ofChecked checked
  let has (key : String) : Bool := Entries.has (.string key) sent
  { strictValidation :=
      if has "strict_validation" then given.strictValidation else base.strictValidation
    maxPayloadBytes :=
      if has "max_payload_bytes" then given.maxPayloadBytes else base.maxPayloadBytes
    includeDroppedFields :=
      if has "include_dropped_fields" then given.includeDroppedFields
      else base.includeDroppedFields
    includeFieldMappings :=
      if has "include_field_mappings" then given.includeFieldMappings
      else base.includeFieldMappings
    pipelines := if has "custom_transformations" then given.pipelines else base.pipelines }

end Config

end EventIntake
