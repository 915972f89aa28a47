/-
Instants of universal time in texts: the international notation alone, or that notation with a
zone's name at its end, or the notation of mail headers.
-/
import EventIntake.Calendar.Iso
import EventIntake.Calendar.Mail

namespace EventIntake

inductive InstantFault where
  | iso (fault : IsoFault)
  | overflow (fault : Calendar.OverflowFault)
  | unrecognized (text : String)
  | unrecognizedPoints (points : List Point)
deriving DecidableEq, Repr

def InstantFault.message : InstantFault → String
  | .iso fault => fault.message
  | .overflow fault => fault.message
  | .unrecognized text => s!"Unrecognized date string: {Text.quoted text}"
  | .unrecognizedPoints points => s!"Unrecognized date string: {Text.quotedPoints points}"

namespace Instant

/-- The moment on a clock of universal time, which must be able to show it. -/
def universal (m : Moment) : Except InstantFault Moment :=
  match m.toUniversal? with
  | some m => .ok m
  | none => .error (.overflow .date)

def readIso (text : String) : Except InstantFault Moment :=
  match Iso.readLoose text with
  | .ok m => universal m
  | .error fault => .error (.iso fault)

/-- The text with the name of universal time at its end written as an offset. -/
def withZone (text : String) : String :=
  let ending := (Text.upper text).toList.reverse.take 4
  if ending = " UTC".toList.reverse ∨ ending = " GMT".toList.reverse then
    String.ofList (text.toList.take (text.length - 4)) ++ "+00:00"
  else text

/-- The instant of a text in either notation.  A text in the international one whose instant lies
outside the calendar is not tried in the other. -/
def read (text : String) : Except InstantFault Moment :=
  let body := Text.strip text
  match readIso (withZone body) with
  | .ok m => .ok m
  | .error (.overflow fault) => .error (.overflow fault)
  | .error _ =>
    match Mail.read body with
    | .ok m => universal m
    | .error .unreadable => .error (.unrecognized text)
    | .error (.overflow fault) => .error (.overflow fault)

/-- The instant of a text with halves in it.  Only the international notation has a place for one,
and a half is no part of a zone's name. -/
def readHalved (t : Halved) : Except InstantFault Moment :=
  let body := Text.strip t.filled
  let iso : Except InstantFault Moment :=
    match Iso.separated? t with
    | some text =>
      let text := Text.strip text
      readIso (if withZone body = body then text else withZone text)
    | none => .error (.iso (.malformed body))
  match iso with
  | .ok m => .ok m
  | .error (.overflow fault) => .error (.overflow fault)
  | .error _ =>
    match Mail.read body with
    | .ok m => universal m
    | .error .unreadable => .error (.unrecognizedPoints t.strip)
    | .error (.overflow fault) => .error (.overflow fault)

end Instant

end EventIntake
