/-
What a command leaves: its exit status and the texts that it has printed.
-/

namespace EventIntake

/-- The exit status of a command, and what it has printed. -/
structure Printout where
  status : Nat
  output : String
  errors : String
deriving DecidableEq, Repr

end EventIntake
