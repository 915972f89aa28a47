/-
Looking up request headers: names compare without regard to case, and the first name that has a
header with something in it decides.
-/
import EventIntake.Text.Case

namespace EventIntake.Headers

/-- The headers under their names in lower case: of several with one name the last value stays, in
the first one's place. -/
def insert {α : Type} (name : String) (v : α) : List (String × α) → List (String × α)
  | [] => [(name, v)]
  | (n, w) :: rest => if n = name then (n, v) :: rest else (n, w) :: insert name v rest

/-- The headers under their names in lower case. -/
def lowered {α : Type} (headers : List (String × α)) : List (String × α) :=
  headers.foldl (fun found (name, v) => insert (Text.lower name) v found) []

/-- The value of the first of the names under which something is present. -/
def find? {α : Type} (present : α → Bool) (headers : List (String × α)) (names : List String) :
    Option α :=
  let table := lowered headers
  names.findSome? fun name =>
    match table.lookup (Text.lower name) with
    | some v => if present v then some v else none
    | none => none

/-- The first header among some names that is not empty. -/
def text? (headers : List (String × String)) (names : List String) : Option String :=
  find? (fun (s : String) => !s.isEmpty) headers names

end EventIntake.Headers
