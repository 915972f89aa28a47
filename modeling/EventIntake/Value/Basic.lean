/-
Values of events: scalars, lists, and dictionaries in the order their keys came in.  Keys are
scalars, and numbers are one key whatever their kind.
-/
import EventIntake.Calendar.Moment
import EventIntake.Number.Binary64
import EventIntake.Text.Halved

namespace EventIntake

/-- A value without parts. -/
inductive Scalar where
  | null
  | bool (b : Bool)
  | int (n : Int)
  | float (x : Binary64)
  | string (s : String)
  /-- A text with half of a surrogate pair in it. -/
  | halved (t : Halved)
  | moment (m : Moment)
  | date (d : Date)
deriving DecidableEq, Repr

inductive Value where
  | scalar (s : Scalar)
  | list (items : List Value)
  | dict (entries : List (Scalar × Value))
deriving Repr

/-- The entries of a dictionary, in the order their keys came in. -/
abbrev Entries := List (Scalar × Value)

namespace Scalar

/-- The text of some points. -/
def ofPoints (points : List Point) : Scalar :=
  if h : points.any Point.isHalf = true then .halved ⟨points, h⟩
  else .string (String.ofList (points.filterMap Point.char?))

def isText : Scalar → Bool
  | .string _ => true
  | .halved _ => true
  | _ => false

@[simp] theorem isText_ofPoints (points : List Point) : (ofPoints points).isText = true := by
  unfold ofPoints
  split <;> rfl

/-- Characters alone are a text without halves. -/
@[simp] theorem ofPoints_chars (cs : List Char) :
    ofPoints (cs.map .char) = .string (String.ofList cs) := by
  have hwhole : ¬ (cs.map Point.char).any Point.isHalf = true := by
    simp [List.any_map, Function.comp_def, Point.isHalf]
  rw [ofPoints, dif_neg hwhole, List.filterMap_map]
  congr 1
  exact congrArg String.ofList (List.filterMap_some)

/-- The points of a text; nothing else has any. -/
def points : Scalar → List Point
  | .string s => s.toList.map .char
  | .halved t => t.points
  | _ => []

/-- A text, with the escapes of its halves. -/
def shown? : Scalar → Option String
  | .string s => some s
  | .halved t => some t.shown
  | _ => none

def isWhole : Scalar → Bool
  | .halved _ => false
  | _ => true

/-- What a number stands for. -/
def quantity? : Scalar → Option Exact
  | .bool b => some (.fraction (if b then 1 else 0) 1)
  | .int n => some (.fraction n 1)
  | .float x => some x.exact
  | _ => none

/-- Whether two scalars are the same key.  Numbers, truth values among them, are compared by what
they stand for, and moments by their instant; what is not a number is the same key as nothing. -/
def same (a b : Scalar) : Bool :=
  match a.quantity?, b.quantity? with
  | some x, some y => x.same y
  | some _, none => false
  | none, some _ => false
  | none, none =>
    match a, b with
    | .null, .null => true
    | .string s, .string t => s == t
    | .halved s, .halved t => s == t
    | .moment m, .moment n => m.same n
    | .date d, .date e => d == e
    | _, _ => false

/-- The scalar is neither null nor false, zero or the empty text. -/
def truthy : Scalar → Bool
  | .null => false
  | .bool b => b
  | .int n => n != 0
  | .float x => !x.isZero
  | .string s => !s.isEmpty
  | .halved _ => true
  | .moment _ => true
  | .date _ => true

/-- A key is the same as a text only if it is that text. -/
theorem same_text (key : Scalar) {text : Scalar} (htext : text.isText = true) :
    key.same text = decide (key = text) := by
  cases text with
  | string s =>
    cases key with
    | string t => by_cases h : t = s <;> simp [same, quantity?, h]
    | _ => simp [same, quantity?]
  | halved s =>
    cases key with
    | halved t => by_cases h : t = s <;> simp [same, quantity?, h]
    | _ => simp [same, quantity?]
  | _ => simp [isText] at htext

theorem same_string (key : Scalar) (s : String) :
    key.same (.string s) = decide (key = .string s) :=
  key.same_text rfl

end Scalar

namespace Entries

def get? (key : Scalar) : Entries → Option Value
  | [] => none
  | (k, v) :: rest => if k.same key then some v else get? key rest

def has (key : Scalar) (entries : Entries) : Bool :=
  (get? key entries).isSome

/-- The entries with a value under a key: in the place of the value that was there, or else at
the end. -/
def insert (key : Scalar) (v : Value) : Entries → Entries
  | [] => [(key, v)]
  | (k, w) :: rest => if k.same key then (k, v) :: rest else (k, w) :: insert key v rest

def erase (key : Scalar) (entries : Entries) : Entries :=
  entries.filter fun (k, _) => !k.same key

/-- Entries from pairs: of several with one key the last value stays, in the first one's place. -/
def ofPairs (pairs : List (Scalar × Value)) : Entries :=
  pairs.foldl (fun entries (k, v) => insert k v entries) []

theorem get?_insert_text_self {key : Scalar} (hkey : key.isText = true) (v : Value)
    (entries : Entries) : get? key (insert key v entries) = some v := by
  induction entries with
  | nil => simp [insert, get?, Scalar.same_text, hkey]
  | cons entry rest ih =>
    obtain ⟨k, w⟩ := entry
    by_cases h : k = key <;> simp [insert, get?, Scalar.same_text, hkey, h, ih]

theorem get?_insert_text_of_ne {key other : Scalar} (hkey : key.isText = true)
    (hother : other.isText = true) (h : other ≠ key) (v : Value) (entries : Entries) :
    get? other (insert key v entries) = get? other entries := by
  induction entries with
  | nil => simp [insert, get?, Scalar.same_text, hother, Ne.symm h]
  | cons entry rest ih =>
    obtain ⟨k, w⟩ := entry
    by_cases hk : k = key
    · subst hk; simp [insert, get?, Scalar.same_text, hother, hkey, Ne.symm h]
    · simp [insert, get?, Scalar.same_text, hother, hkey, hk, ih]

theorem get?_insert_self (key : String) (v : Value) (entries : Entries) :
    get? (.string key) (insert (.string key) v entries) = some v :=
  get?_insert_text_self rfl v entries

theorem get?_insert_of_ne {key other : String} (h : other ≠ key) (v : Value) (entries : Entries) :
    get? (.string other) (insert (.string key) v entries) = get? (.string other) entries :=
  get?_insert_text_of_ne rfl rfl (fun hsame => h (Scalar.string.inj hsame)) v entries

/-- Inserting keeps the keys that are there, and their order. -/
theorem keys_insert (key : Scalar) (v : Value) (entries : Entries) :
    (insert key v entries).map Prod.fst =
      entries.map Prod.fst ++ if has key entries then [] else [key] := by
  induction entries with
  | nil => simp [insert, has, get?]
  | cons entry rest ih =>
    obtain ⟨k, w⟩ := entry
    by_cases h : k.same key = true
    · simp [insert, has, get?, h]
    · cases hg : get? key rest <;> simp_all [insert, has, get?]

end Entries

namespace Value

@[match_pattern] abbrev null : Value := .scalar .null
@[match_pattern] abbrev bool (b : Bool) : Value := .scalar (.bool b)
@[match_pattern] abbrev int (n : Int) : Value := .scalar (.int n)
@[match_pattern] abbrev float (x : Binary64) : Value := .scalar (.float x)
@[match_pattern] abbrev string (s : String) : Value := .scalar (.string s)
@[match_pattern] abbrev halved (t : Halved) : Value := .scalar (.halved t)
@[match_pattern] abbrev moment (m : Moment) : Value := .scalar (.moment m)
@[match_pattern] abbrev date (d : Date) : Value := .scalar (.date d)

/-- The entries of a dictionary; nothing else has any. -/
def entries? : Value → Option Entries
  | .dict entries => some entries
  | _ => none

/-- The entries of a dictionary, and none of anything else. -/
def entries (v : Value) : Entries := v.entries?.getD []

def isDict : Value → Bool
  | .dict _ => true
  | _ => false

def isList : Value → Bool
  | .list _ => true
  | _ => false

/-- The value is neither an empty list or dictionary nor a scalar that counts as nothing. -/
def truthy : Value → Bool
  | .scalar s => s.truthy
  | .list items => !items.isEmpty
  | .dict entries => !entries.isEmpty

def member? (key : String) : Value → Option Value
  | .dict entries => Entries.get? (.string key) entries
  | _ => none

mutual

/-- How many lists and dictionaries stand inside one another. -/
def depth : Value → Nat
  | .scalar _ => 0
  | .list items => 1 + depthOfItems items
  | .dict entries => 1 + depthOfEntries entries

/-- The greatest depth of some values. -/
def depthOfItems : List Value → Nat
  | [] => 0
  | v :: rest => max v.depth (depthOfItems rest)

/-- The greatest depth of the values of some entries. -/
def depthOfEntries : Entries → Nat
  | [] => 0
  | (_, v) :: rest => max v.depth (depthOfEntries rest)

end

mutual

/-- Whether no text of the value has half of a surrogate pair in it, keys included. -/
def isWhole : Value → Bool
  | .scalar s => s.isWhole
  | .list items => itemsWhole items
  | .dict entries => entriesWhole entries

def itemsWhole : List Value → Bool
  | [] => true
  | v :: rest => v.isWhole && itemsWhole rest

/-- Whether the keys and values of all entries are whole. -/
def entriesWhole : Entries → Bool
  | [] => true
  | (key, v) :: rest => key.isWhole && v.isWhole && entriesWhole rest

end

mutual

/-- Whether two values are equal: lists by their items in order, dictionaries by the values under
their keys whatever the order, and scalars as keys are. -/
def same : Value → Value → Bool
  | .scalar a, .scalar b => a.same b
  | .list xs, .list ys => sameItems xs ys
  | .dict es, .dict fs => es.length == fs.length && sameEntries es fs
  | _, _ => false

/-- Whether the items are equal in order. -/
def sameItems : List Value → List Value → Bool
  | [], [] => true
  | x :: xs, y :: ys => x.same y && sameItems xs ys
  | _, _ => false

/-- Whether each entry has an equal value under its key. -/
def sameEntries : Entries → Entries → Bool
  | [], _ => true
  | (k, v) :: rest, fs =>
    (match Entries.get? k fs with
      | some w => v.same w
      | none => false)
      && sameEntries rest fs

end

mutual

/-- Whether two values are equal, as `same` has it; nothing if that takes more than `levels` lists
or dictionaries inside one another to tell.  Those of different lengths are told apart at once. -/
def sameWithin (levels : Nat) : Value → Value → Option Bool
  | .scalar a, .scalar b => some (a.same b)
  | .list xs, .list ys =>
    if xs.length ≠ ys.length then some false
    else if levels = 0 then none
    else sameItemsWithin (levels - 1) xs ys
  | .dict es, .dict fs =>
    if es.length ≠ fs.length then some false
    else if levels = 0 then none
    else sameEntriesWithin (levels - 1) es fs
  | _, _ => some false

def sameItemsWithin (levels : Nat) : List Value → List Value → Option Bool
  | [], [] => some true
  | x :: xs, y :: ys => do
    if ← x.sameWithin levels y then sameItemsWithin levels xs ys else return false
  | _, _ => some false

def sameEntriesWithin (levels : Nat) : Entries → Entries → Option Bool
  | [], _ => some true
  | (k, v) :: rest, fs =>
    match Entries.get? k fs with
    | some w => do
      if ← v.sameWithin levels w then sameEntriesWithin levels rest fs else return false
    | none => some false

end

/-- The word for the kind of a value in messages. -/
def kindName : Value → String
  | .scalar .null => "NoneType"
  | .scalar (.bool _) => "bool"
  | .scalar (.int _) => "int"
  | .scalar (.float _) => "float"
  | .scalar (.string _) => "str"
  | .scalar (.halved _) => "str"
  | .scalar (.moment _) => "datetime"
  | .scalar (.date _) => "date"
  | .list _ => "list"
  | .dict _ => "dict"

/-- The word for the kind of a value where it is used as something that it is not. -/
def fullKindName : Value → String
  | .scalar (.moment _) => "datetime.datetime"
  | .scalar (.date _) => "datetime.date"
  | v => v.kindName

end Value

/-- How deeply lists and dictionaries may stand inside one another for the kinds of work that follow
them down.  A platform sets these limits, and none of them below 256. -/
class Limits where
  copying : Nat
  telling : Nat
  comparing : Nat
  reading : Nat
  writing : Nat
  ample : ∀ limit ∈ [copying, telling, comparing, reading, writing], 256 ≤ limit

namespace Limits

/-- The limits of a platform that gives up after a thousand calls inside one another; a copy takes
two of them for each level. -/
@[reducible] def standard : Limits where
  copying := 498
  telling := 999
  comparing := 1000
  reading := 1000
  writing := 1000
  ample := by decide

variable [Limits]

theorem le_telling : 256 ≤ telling := ample _ (by simp)

theorem le_reading : 256 ≤ reading := ample _ (by simp)

theorem le_writing : 256 ≤ writing := ample _ (by simp)

end Limits

namespace Value

variable [Limits]

def tooDeepToCopy (v : Value) : Bool := Limits.copying < v.depth

def tooDeepToTell (v : Value) : Bool := Limits.telling < v.depth

/-- Whether a value equals one of some items, which are looked at in order; nothing if an item that
is looked at is nested too deeply to tell. -/
def isAmong (v : Value) : List Value → Option Bool
  | [] => some false
  | item :: rest => do
    if ← item.sameWithin Limits.comparing v then return true else v.isAmong rest

end Value

end EventIntake
