/-
Rows of mapping tables: where a value comes from, where it goes, and what is done to it.
-/
import EventIntake.Schema.Shape
import EventIntake.Schema.View

namespace EventIntake

structure Row where
  source : String
  target : String
  transformation : Option String
  /-- Whether it is worth a warning when there is nothing at the source. -/
  required : Bool
  /-- Parameters of the transform. -/
  params : Option Entries

namespace Row

def shape : Schema.Shape :=
  .record "FieldMapping" [
    ("source_path", .text, none),
    ("target_path", .text, none),
    ("transformation", .optional .text, some .null),
    ("required", .truth, some (.bool false)),
    ("params", .optional (.dict .any), some .null)]

def ofChecked (v : Value) : Row where
  source := v.textAt "source_path"
  target := v.textAt "target_path"
  transformation := v.textAt? "transformation"
  required := v.truthAt "required"
  params := v.entriesAt? "params"

def toValue (row : Row) : Value :=
  .record [
    ("source_path", .string row.source),
    ("target_path", .string row.target),
    ("transformation", .ofOption .string row.transformation),
    ("required", .bool row.required),
    ("params", .ofOption .dict row.params)]

/-- The row without the members that are null. -/
def toBriefValue (row : Row) : Value :=
  .record (
    [("source_path", .string row.source), ("target_path", .string row.target)]
    ++ (row.transformation.map fun t => ("transformation", Value.string t)).toList
    ++ [("required", .bool row.required)]
    ++ (row.params.map fun params => ("params", Value.dict params)).toList)

end Row

end EventIntake
