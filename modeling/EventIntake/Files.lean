/-
Files by their paths: what is there, what reading gives, and what writing changes.
-/
import EventIntake.Text.Quoted
import EventIntake.Text.Split

namespace EventIntake

/-- Files with their bytes, and directories, each by its path. -/
structure Files where
  files : List (String × List UInt8)
  directories : List String
deriving DecidableEq, Repr

inductive FileFault where
  | notFound (path : String)
  | notADirectory (path : String)
  | isADirectory (path : String)
deriving DecidableEq, Repr

def FileFault.message : FileFault → String
  | .notFound path => s!"[Errno 2] No such file or directory: {Text.quoted path}"
  | .notADirectory path => s!"[Errno 20] Not a directory: {Text.quoted path}"
  | .isADirectory path => s!"[Errno 21] Is a directory: {Text.quoted path}"

namespace Files

def isDirectory (files : Files) (path : String) : Bool := files.directories.contains path

def isFile (files : Files) (path : String) : Bool := (files.files.lookup path).isSome

def below (directory name : String) : String :=
  if directory == "." then name
  else if directory.endsWith "/" then directory ++ name
  else directory ++ "/" ++ name

/-- The directory that a normal path is in. -/
def parent (path : String) : String :=
  match (Text.splitAt '/' path).dropLast with
  | [] => "."
  | [""] => "/"
  | parts => Text.joinWith "/" parts

/-- The normal path that is reached from a place by the parts of a path.  Every part but the last
one must lead to a directory, and two dots lead to the directory around it. -/
def follow (files : Files) (path : String) : String → List String → Except FileFault String
  | place, [] => .ok place
  | place, part :: rest =>
    if files.isDirectory place then
      follow files path
        (if part.isEmpty || part == "." then place
          else if part == ".." then parent place
          else below place part) rest
    else if files.isFile place then .error (.notADirectory path)
    else .error (.notFound path)

/-- The normal path of a path as it is written; there need be nothing at it. -/
def locate (files : Files) (path : String) : Except FileFault String :=
  if path.isEmpty then .error (.notFound path)
  else files.follow path (if path.startsWith "/" then "/" else ".") (Text.splitAt '/' path)

def «exists» (files : Files) (path : String) : Bool :=
  match files.locate path with
  | .ok place => files.isDirectory place || files.isFile place
  | .error _ => false

def read (files : Files) (path : String) : Except FileFault (List UInt8) := do
  let place ← files.locate path
  if files.isDirectory place then throw (.isADirectory path)
  match files.files.lookup place with
  | some bytes => return bytes
  | none => throw (.notFound path)

/-- The files with bytes at a normal path. -/
def insert (place : String) (bytes : List UInt8) :
    List (String × List UInt8) → List (String × List UInt8)
  | [] => [(place, bytes)]
  | (p, b) :: rest =>
    if p = place then (place, bytes) :: rest else (p, b) :: insert place bytes rest

theorem lookup_insert (place other : String) (bytes : List UInt8)
    (files : List (String × List UInt8)) :
    (insert place bytes files).lookup other =
      if other = place then some bytes else files.lookup other := by
  induction files with
  | nil => grind [insert]
  | cons entry rest ih => grind [insert]

/-- The files after writing to a path, whose directory must be there. -/
def write (files : Files) (path : String) (bytes : List UInt8) : Except FileFault Files := do
  let place ← files.locate path
  if files.isDirectory place then throw (.isADirectory path)
  return { files with files := insert place bytes files.files }

end Files

end EventIntake
