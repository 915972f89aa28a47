/-
Why a transform does not give a value.
-/
import EventIntake.Calendar.Instant
import EventIntake.Json.Reader
import EventIntake.Json.Writer
import EventIntake.Text.Base64
import EventIntake.Text.Halved
import EventIntake.Text.Utf8

namespace EventIntake.Transform

/-- The cause of a failed transform. -/
inductive Fault where
  /-- A truth value is no timestamp. -/
  | truthTimestamp
  /-- A value of this kind is no timestamp. -/
  | noTimestamp (kind : String)
  /-- The unit of a timestamp is unknown. -/
  | unknownUnit (unit : String)
  /-- An integer is past the largest float. -/
  | hugeInteger
  /-- A count is infinite. -/
  | infiniteCount
  /-- A count is not a number. -/
  | undefinedCount
  /-- A text is no date. -/
  | instant (fault : InstantFault)
  /-- A date lies outside the calendar. -/
  | overflow (fault : Calendar.OverflowFault)
  /-- A value of this kind is no number. -/
  | noNumber (kind : String)
  /-- A text is no number. -/
  | malformedNumber (text : String)
  /-- Halves of surrogate pairs write no number. -/
  | malformedPoints (points : List Point)
  /-- A text is no JSON. -/
  | read (fault : Json.ReadFault)
  /-- A value has no JSON. -/
  | write (fault : Json.WriteFault)
  /-- A text is no base 64. -/
  | base64 (fault : Text.Base64.Fault)
  /-- Bytes are no text. -/
  | bytes (fault : Text.Utf8.Fault)
  /-- A text has no bytes. -/
  | encode (fault : Text.EncodeFault)
  /-- A list or dictionary is no key. -/
  | noKey (kind : String)
  /-- A value of this kind is no table. -/
  | noTable (kind : String)
  /-- Only a text can be part of a text. -/
  | noPart (kind : String)
  /-- A part of a text is no place in it. -/
  | textPlace
  /-- A value of this kind is no place in a list. -/
  | listPlace (kind : String)
  /-- A list has no such place. -/
  | noPlace
  /-- No list can have such a place. -/
  | hugePlace
  /-- A value is nested too deeply. -/
  | tooDeep
  /-- An integer has more digits than can be written. -/
  | tooLong
deriving DecidableEq, Repr

namespace Fault

def message : Fault → String
  | .truthTimestamp => "boolean is not a timestamp"
  | .noTimestamp kind => s!"cannot read a timestamp from {kind}"
  | .unknownUnit unit => s!"Unsupported timestamp unit '{unit}'"
  | .hugeInteger => "int too large to convert to float"
  | .infiniteCount => "cannot convert float infinity to integer"
  | .undefinedCount => "cannot convert float NaN to integer"
  | .instant fault => fault.message
  | .overflow fault => fault.message
  | .noNumber kind => s!"cannot convert {kind} to a number"
  | .malformedNumber text => s!"could not convert string to float: {Text.quoted text}"
  | .malformedPoints points => s!"could not convert string to float: {Text.quotedPoints points}"
  | .read fault => fault.message
  | .write fault => fault.message
  | .base64 fault => fault.message
  | .bytes fault => fault.message
  | .encode fault => fault.message
  | .noKey kind => s!"unhashable type: '{kind}'"
  | .noTable kind => s!"argument of type '{kind}' is not iterable"
  | .noPart kind => s!"'in <string>' requires string as left operand, not {kind}"
  | .textPlace => "string indices must be integers, not 'str'"
  | .listPlace kind => s!"list indices must be integers or slices, not {kind}"
  | .noPlace => "list index out of range"
  | .hugePlace => "cannot fit 'int' into an index-sized integer"
  | .tooDeep => "value is nested too deeply"
  | .tooLong => unwritableMessage

/-- Faults that are not recorded as a warning but stop the event. -/
def stops : Fault → Bool
  | .noPlace => true
  | .hugePlace => true
  | .tooDeep => true
  | _ => false

def ofRead : Json.ReadFault → Fault
  | .tooDeep => .tooDeep
  | fault => .read fault

def ofWrite : Json.WriteFault → Fault
  | .tooDeep => .tooDeep
  | fault => .write fault

end Fault

end EventIntake.Transform
