/-
Dotted paths into values.  A path names the keys on the way down; empty segments do not count.
In a list a segment of digits names an item.  Looking up leaves the value alone, putting
replaces what stands in the way, and the leaf paths of a dictionary are those that end in
something other than a dictionary.
-/
import EventIntake.Number.Reading
import EventIntake.Text.Split
import EventIntake.Value.Display

namespace EventIntake

namespace Path

def segments (path : String) : List String :=
  ((Text.splitChars '.' path.toList).filter (!·.isEmpty)).map String.ofList

/-- Why a segment of digits names no item. -/
inductive IndexFault where
  | malformed (segment : String)
  | tooLong (digits : Nat)
deriving DecidableEq, Repr

/-- The wording of a fault, which quotes no more than the first two hundred characters. -/
def IndexFault.message : IndexFault → String
  | .malformed segment =>
    "invalid literal for int() with base 10: " ++
      String.ofList ((Text.quoted segment).toList.take 200)
  | .tooLong digits => tooLongMessage digits

/-- The item that a segment names in a list.  Segments of other characters name none. -/
def item (items : List Value) (segment : String) : Except IndexFault (Option Value) :=
  if segment.toList.all Text.isDigit && !segment.isEmpty then
    match Number.readInteger segment.toList with
    | .ok n => .ok items[n.toNat]?
    | .error .malformed => .error (.malformed segment)
    | .error (.tooLong digits) => .error (.tooLong digits)
  else .ok none

/-- What one segment leads to. -/
def child (v : Value) (segment : String) : Except IndexFault (Option Value) :=
  match v with
  | .dict entries => .ok (Entries.get? (.string segment) entries)
  | .list items => item items segment
  | .scalar _ => .ok none

/-- What segments lead to, one after the other. -/
def follow (v : Value) : List String → Except IndexFault (Option Value)
  | [] => .ok (some v)
  | segment :: rest =>
    match child v segment with
    | .ok (some w) => follow w rest
    | .ok none => .ok none
    | .error fault => .error fault

def find (v : Value) (path : String) : Except IndexFault (Option Value) :=
  follow v (segments path)

/-- The entries of the dictionary under a key; none if there is something else or nothing. -/
def below (key : String) (entries : Entries) : Entries :=
  match Entries.get? (.string key) entries with
  | some (.dict inner) => inner
  | _ => []

/-- The entries with a value where the segments lead.  Dictionaries are made on the way, in the
place of what is none. -/
def putAt (v : Value) : List String → Entries → Entries
  | [], entries => entries
  | [key], entries => Entries.insert (.string key) v entries
  | key :: next :: rest, entries =>
    Entries.insert (.string key) (.dict (putAt v (next :: rest) (below key entries))) entries

/-- The entries with a value where the path leads. -/
def put (entries : Entries) (path : String) (v : Value) : Entries :=
  putAt v (segments path) entries

/-- The path of a key below a base. -/
def extend (base : String) (key : Scalar) : String :=
  if base.isEmpty then key.plain else base ++ "." ++ key.plain

mutual

/-- The leaf paths of a value that stands at a path. -/
def leavesAt (path : String) : Value → List String
  | .dict entries => leavesBelow path entries
  | .list _ => [path]
  | .scalar _ => [path]

/-- The leaf paths of entries below a base, depth first and in order. -/
def leavesBelow (base : String) : Entries → List String
  | [] => []
  | (key, v) :: rest => leavesAt (extend base key) v ++ leavesBelow base rest

end

mutual

/-- How many dictionaries and entries a value holds, itself included. -/
def weight : Value → Nat
  | .dict entries => 1 + weightOfEntries entries
  | .list _ => 1
  | .scalar _ => 1

/-- How many dictionaries and entries some entries hold. -/
def weightOfEntries : Entries → Nat
  | [] => 0
  | (_, v) :: rest => 1 + weight v + weightOfEntries rest

end

/-- What is still to be walked through: bases with the entries below them, innermost first. -/
abbrev Pending := List (String × Entries)

/-- How many dictionaries and entries are still to be walked through. -/
def weightOfPending : Pending → Nat
  | [] => 0
  | (_, entries) :: pending => 1 + weightOfEntries entries + weightOfPending pending

/-- The leaf paths of what is still to be walked through.  The walk keeps the dictionaries that it
is inside of on a stack, so that it follows any nesting. -/
def walk : Pending → List String
  | [] => []
  | (_, []) :: pending => walk pending
  | (base, (key, v) :: rest) :: pending =>
    match v with
    | .dict inner => walk ((extend base key, inner) :: (base, rest) :: pending)
    | .list _ => extend base key :: walk ((base, rest) :: pending)
    | .scalar _ => extend base key :: walk ((base, rest) :: pending)
termination_by pending => weightOfPending pending
decreasing_by
  all_goals simp only [weightOfPending, weightOfEntries, weight]
  all_goals omega

def leaves (entries : Entries) (base : String) : List String :=
  walk [(base, entries)]

/-- The walk gives the leaf paths of what is left in its order. -/
theorem walk_eq_flatMap (pending : Pending) :
    walk pending = pending.flatMap fun (base, entries) => leavesBelow base entries := by
  fun_induction walk pending with
  | case1 => rfl
  | case2 _ _ ih => simp [ih, leavesBelow]
  | case3 _ _ _ _ _ ih => simp [ih, leavesBelow, leavesAt]
  | case4 _ _ _ _ _ ih => simp [ih, leavesBelow, leavesAt]
  | case5 _ _ _ _ _ ih => simp [ih, leavesBelow, leavesAt]

theorem leaves_eq_leavesBelow (entries : Entries) (base : String) :
    leaves entries base = leavesBelow base entries := by
  simp [leaves, walk_eq_flatMap]

/-- Why something that is no dictionary takes no value at a path, or has no leaf paths. -/
inductive TargetFault where
  | listKey
  | noItems (kind : String)
  | noMembers (kind : String)
  | noEntries (kind : String)
deriving DecidableEq, Repr

def TargetFault.message : TargetFault → String
  | .listKey => "list indices must be integers or slices, not str"
  | .noItems kind => s!"'{kind}' object does not support item assignment"
  | .noMembers kind => s!"'{kind}' object has no attribute 'get'"
  | .noEntries kind => s!"'{kind}' object has no attribute 'items'"

/-- A value put at a path of any value.  Only a dictionary takes one; the empty path asks for
nothing. -/
def putInto (target : Value) (path : String) (v : Value) : Except TargetFault Value :=
  match target, segments path with
  | target, [] => .ok target
  | .dict entries, _ => .ok (.dict (put entries path v))
  | .list _, [_] => .error .listKey
  | target, [_] => .error (.noItems target.fullKindName)
  | target, _ => .error (.noMembers target.fullKindName)

/-- The leaf paths of any value, if it is a dictionary. -/
def leavesOf (v : Value) (base : String) : Except TargetFault (List String) :=
  match v with
  | .dict entries => .ok (leaves entries base)
  | v => .error (.noEntries v.fullKindName)

end Path

end EventIntake
