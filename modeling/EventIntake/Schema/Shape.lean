/-
Shapes of values, and checking values against them.  A check either gives all issues in order or
the value as the shape sees it: truth values and integers read from what stands for them, and
records complete, with their fields in order.
-/
import EventIntake.Calendar.Iso
import EventIntake.Number.Reading
import EventIntake.Schema.Issue
import EventIntake.Text.Blank
import EventIntake.Text.Split

namespace EventIntake.Schema

/-- What a value should look like. -/
inductive Shape where
  | any
  | text
  | truth
  | integer
  | choice (options : List String)
  /-- A text that is a moment.  Half of a surrogate pair between date and time is seen as the `T`
  that it counts as. -/
  | moment
  | optional (shape : Shape)
  | list (shape : Shape)
  /-- A dictionary whose keys are texts. -/
  | dict (shape : Shape)
  /-- A dictionary of named fields; a field with a default may be left out. -/
  | record (name : String) (fields : List (String × Shape × Option Value))

/-- What a check gives. -/
abbrev Checked := Except (List Issue) Value

/-- A single problem at a place. -/
def fail (place : List Step) (problem : Problem) : Checked := .error [⟨place, problem⟩]

/-- Texts that stand for true, and texts that stand for false, in letters of either case. -/
def trueTexts : List String := ["1", "on", "t", "true", "y", "yes"]

/-- Texts that stand for false. -/
def falseTexts : List String := ["0", "off", "f", "false", "n", "no"]

/-- The text with its ASCII letters in lower case. -/
def asciiLower (s : String) : String :=
  String.ofList (s.toList.map fun c =>
    if 65 ≤ c.toNat ∧ c.toNat ≤ 90 then Char.ofNat (c.toNat + 32) else c)

/-- The truth value that a number stands for.  Only machine numbers are looked at. -/
def readTruthNumber (n : Int) : Except Problem Bool :=
  if n = 0 then .ok false
  else if n = 1 then .ok true
  else if -9223372036854775808 ≤ n ∧ n ≤ 9223372036854775807 then .error .truthText
  else .error .truth

def readTruth (v : Value) : Except Problem Bool :=
  match v with
  | .bool b => .ok b
  | .int n => readTruthNumber n
  | .float x =>
    match x.integer? with
    | some n => if n.natAbs < 9223372036854775808 then readTruthNumber n else .error .truth
    | none => .error .truth
  | .string s =>
    if trueTexts.contains (asciiLower s) then .ok true
    else if falseTexts.contains (asciiLower s) then .ok false
    else .error .truthText
  | .halved _ => .error .truthText
  | _ => .error .truth

/-- Blanks around a number; the information separators are none of them. -/
def isPadding (c : Char) : Bool := Text.isBlank c && !(0x1c ≤ c.toNat && c.toNat ≤ 0x1f)

/-- The integer that digits stand for, after a minus if there is one.  No zero may lead it. -/
def readPlainInteger (cs : List Char) : Except Problem Int :=
  let body := if cs.head? == some '-' then cs.drop 1 else cs
  let digits := body.takeWhile Text.isAsciiDigit
  let n : Int := Text.decimalNumber digits
  if digits.isEmpty || (digits.head? == some '0' && body != ['0']) then .error .integerText
  else if digitLimit < cs.length - body.length + digits.length then .error .integerSize
  else if digits.length < body.length then .error .integerText
  else .ok (if cs.head? == some '-' then -n else n)

/-- The number without zeros that lead it, underscores among them; the last character of nothing
else stays.  None if it begins like no number. -/
def dropLeadingZeros? (cs : List Char) : Option (List Char) :=
  match cs with
  | '0' :: rest =>
    let zeros := rest.takeWhile fun c => c == '0' || c == '_'
    let last := zeros.getLastD '0'
    match rest.drop zeros.length with
    | [] => some [last]
    | '.' :: fraction => some (last :: '.' :: fraction)
    | c :: more => if Text.isAsciiDigit c then some (c :: more) else none
  | c :: _ => if c == '-' || Text.isAsciiDigit c then some cs else none
  | [] => none

/-- The digits without a point and zeros after it. -/
def dropZeroFraction (cs : List Char) : List Char :=
  let whole := cs.takeWhile (· != '.')
  let zeros := (cs.dropWhile (· != '.')).drop 1
  if !zeros.isEmpty && zeros.all (· == '0') then whole else cs

/-- The digits without single underscores between them. -/
def dropUnderscores (cs : List Char) : List Char :=
  if cs.head? == some '_' || cs.getLast? == some '_' || Text.isPart ['_', '_'] cs then cs
  else cs.filter (· != '_')

/-- The digits of a number that is written at more length: with blanks around it, a plus, zeros or
underscores. -/
def plainDigits? (cs : List Char) : Option (List Char) :=
  let cs := ((cs.dropWhile isPadding).reverse.dropWhile isPadding).reverse
  let unsigned? : Option (List Char) :=
    match cs with
    | '+' :: '-' :: _ => none
    | '+' :: rest => some rest
    | cs => some cs
  (unsigned?.bind dropLeadingZeros?).map fun cs => dropUnderscores (dropZeroFraction cs)

def readIntegerText (s : String) : Except Problem Int :=
  match readPlainInteger s.toList, plainDigits? s.toList with
  | .error .integerText, some cs => readPlainInteger cs
  | found, _ => found

def readInteger (v : Value) : Except Problem Int :=
  match v with
  | .bool b => .ok (if b then 1 else 0)
  | .int n => .ok n
  | .float (.infinite _) => .error .notFinite
  | .float .nan => .error .notFinite
  | .float x =>
    match x.integer? with
    | some n => if n.natAbs < 9223372036854775808 then .ok n else .error .integerSize
    | none => .error .fraction
  | .string s => readIntegerText s
  | .halved _ => .error .integerText
  | _ => .error .integer

/-- Results of checks one after the other: all issues, or all values. -/
def gather {α β : Type} (results : List (Except (List α) β)) : Except (List α) (List β) :=
  results.foldr
    (fun result rest =>
      match result, rest with
      | .ok v, .ok vs => .ok (v :: vs)
      | .ok _, .error issues => .error issues
      | .error issues, .ok _ => .error issues
      | .error issues, .error more => .error (issues ++ more))
    (.ok [])

/-- The issues of keys that name no field. -/
def extraIssues (place : List Step) (names : List String) (entries : Entries) : List Issue :=
  entries.filterMap fun (key, _) =>
    match key with
    | .string s => if names.contains s then none else some ⟨place ++ [.name s], .extra⟩
    | .halved t => some ⟨place ++ [.name t.shown], .extra⟩
    | key => some ⟨place ++ [.ofKey key], .keyType⟩

/-- The entries of a dictionary whose values have been checked.  A key that is no text comes before
its value. -/
def checkEntry (place : List Step) (check : List Step → Value → Checked)
    (entry : Scalar × Value) : Except (List Issue) (Scalar × Value) :=
  let step := Step.ofKey entry.1
  let value := check (place ++ [step]) entry.2
  match entry.1.isText, value with
  | true, .ok v => .ok (entry.1, v)
  | true, .error issues => .error issues
  | false, .ok _ => .error [⟨place ++ [step, .name "[key]"], .text⟩]
  | false, .error issues => .error (⟨place ++ [step, .name "[key]"], .text⟩ :: issues)

mutual

/-- The value as a shape sees it.  Where a record is expected, `anyObject` tells that the issue
should ask for any object. -/
def Shape.check (anyObject : Bool) (place : List Step) (v : Value) : Shape → Checked
  | .any => .ok v
  | .text =>
    match v with
    | .string _ => .ok v
    | .halved _ => .ok v
    | _ => fail place .text
  | .truth =>
    match readTruth v with
    | .ok b => .ok (.bool b)
    | .error problem => fail place problem
  | .integer =>
    match readInteger v with
    | .ok n => .ok (.int n)
    | .error problem => fail place problem
  | .choice options =>
    match v with
    | .string s => if options.contains s then .ok v else fail place (.choice options)
    | _ => fail place (.choice options)
  | .moment =>
    match v with
    | .string s => if Iso.accepts s then .ok v else fail place .receivedAt
    | .halved t =>
      match Iso.separated? t with
      | some s => if Iso.accepts s then .ok (.string s) else fail place .receivedAt
      | none => fail place .receivedAt
    | _ => fail place .text
  | .optional shape =>
    match v with
    | .null => .ok .null
    | v => Shape.check anyObject place v shape
  | .list shape =>
    match v with
    | .list items =>
      (gather (items.mapIdx fun i item =>
        Shape.check anyObject (place ++ [.index i]) item shape)).map .list
    | _ => fail place .list
  | .dict shape =>
    match v with
    | .dict entries =>
      (gather (entries.map
        (checkEntry place fun place v => Shape.check anyObject place v shape))).map .dict
    | _ => fail place .dict
  | .record name fields =>
    match v with
    | .dict entries =>
      let extras := extraIssues place (fields.map (·.1)) entries
      match checkFields anyObject place entries fields, extras with
      | .ok members, [] => .ok (.dict members)
      | .ok _, extras => .error extras
      | .error issues, extras => .error (issues ++ extras)
    | _ => fail place (.record name anyObject)

/-- The fields of a record with their values. -/
def checkFields (anyObject : Bool) (place : List Step) (entries : Entries) :
    List (String × Shape × Option Value) → Except (List Issue) Entries
  | [] => .ok []
  | (name, shape, default?) :: rest =>
    let here : Checked :=
      match Entries.get? (.string name) entries with
      | some v => Shape.check anyObject (place ++ [.name name]) v shape
      | none =>
        match default? with
        | some v => .ok v
        | none => fail (place ++ [.name name]) .missing
    match here, checkFields anyObject place entries rest with
    | .ok v, .ok members => .ok ((.string name, v) :: members)
    | .ok _, .error issues => .error issues
    | .error issues, .ok _ => .error issues
    | .error issues, .error more => .error (issues ++ more)

end

/-- Lists and dictionaries inside one another that a record's dump may hold. -/
def dumpLimit : Nat := 255

mutual

/-- Whether a checked value can be dumped: outside the records themselves, nothing may be nested
past the limit. -/
def Shape.dumps (v : Value) : Shape → Bool
  | .record _ fields => fieldsDump v.entries fields
  | .optional shape => Shape.dumps v shape
  | .list shape =>
    match v with
    | .list items => items.all fun item => Shape.dumps item shape
    | _ => true
  | _ => v.depth ≤ dumpLimit

/-- Whether the fields of a record can be dumped. -/
def fieldsDump (entries : Entries) : List (String × Shape × Option Value) → Bool
  | [] => true
  | (name, shape, _) :: rest =>
    (match Entries.get? (.string name) entries with
      | some v => Shape.dumps v shape
      | none => true)
      && fieldsDump entries rest

end

end EventIntake.Schema
