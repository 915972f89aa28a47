/-
Reading values from their notation: the tree of the only document, its scalars by what they stand
for, and its mappings with merged ones laid under them.
-/
import EventIntake.Text.Utf8
import EventIntake.Yaml.Node
import EventIntake.Yaml.Scalar

namespace EventIntake.Yaml

/-- Why a text is no value.  A parser words the problem with a text that is not well formed, and may
have `other` faults of its own. -/
inductive ReadFault where
  | malformed (problem : String)
  | tooDeep
  | noCharacter (code : Nat)
  | scalar (fault : ScalarFault)
  | other (wording : String)
deriving DecidableEq, Repr

namespace ReadFault

/-- The fault of a text in which something stands that may not stand there. -/
def misplaced : ReadFault := .malformed "something is out of place"

/-- The fault of a text that has no tree. -/
def ofFault : Fault → ReadFault
  | .malformed => misplaced
  | .noCharacter code => .noCharacter code
  | .tooDeep => .tooDeep

def message (path : String) : ReadFault → String
  | .malformed problem => s!"Field mappings config at {path} is not valid YAML: {problem}"
  | .tooDeep => "maximum recursion depth exceeded"
  | .noCharacter code =>
    if 0x7fffffff < code then "Python int too large to convert to C int"
    else "chr() arg not in range(0x110000)"
  | .scalar fault => fault.message
  | .other wording => wording

end ReadFault

/-- A parser, as files are handed to it.  `read` is what it makes of a whole text.  A stream hands
its text over in pieces and may break, and then `readBroken` is the fault, if any, that the parser
meets in the text in front of the break before it asks for what is behind. -/
structure Parser where
  read : List Char → Except ReadFault Value
  readBroken : List Char → Text.Utf8.Fault → Option ReadFault

/-- A value, or the fault that comes first.  Collections are filled level by level, so faults are
kept with their level. -/
abbrev Leveled := Except (Nat × ReadFault)

namespace Leveled

/-- Both results, or the fault of the lesser level, the first one of two. -/
def both {α β γ : Type} (f : α → β → γ) : Leveled α → Leveled β → Leveled γ
  | .ok a, .ok b => .ok (f a b)
  | .error e, .ok _ => .error e
  | .ok _, .error e => .error e
  | .error e, .error other => .error (if other.1 < e.1 then other else e)

end Leveled

namespace Node

/-- The key whose value is merged into the mapping. -/
def isMerge : Node → Bool
  | .plain text => text == "<<"
  | _ => false

/-- A key of a mapping.  The key of a mapping's own value is a text there. -/
def asKey : Node → Node
  | .plain text => if text == "=" then .quoted (.string text) else .plain text
  | node => node

mutual

/-- The pairs that are merged into a mapping, and its own pairs. -/
def split : List (Node × Node) → Option (List (Node × Node) × List (Node × Node))
  | [] => some ([], [])
  | (key, value) :: rest => do
    if key.isMerge then
      let found ← mergedPairs value
      let (merged, own) ← split rest
      return (found ++ merged, own)
    else
      let (merged, own) ← split rest
      return (merged, (key.asKey, value) :: own)

/-- The pairs of a mapping that is merged into another one, or of several mappings, the last one
first. -/
def mergedPairs : Node → Option (List (Node × Node))
  | .mapping pairs => do
    let (merged, own) ← split pairs
    return merged ++ own
  | .sequence items => mergedItems items
  | .plain _ => none
  | .quoted _ => none

/-- The pairs of several mappings, the last one first. -/
def mergedItems : List Node → Option (List (Node × Node))
  | [] => some []
  | .mapping pairs :: rest => do
    let (merged, own) ← split pairs
    let others ← mergedItems rest
    return others ++ (merged ++ own)
  | _ => none

end

/-- The value of a scalar without quotes.  Marks of mappings have no value. -/
def plainValue (level : Nat) (text : String) : Leveled Scalar :=
  match Plain.read text with
  | .ok (.value s) => .ok s
  | .ok _ => .error (level, .misplaced)
  | .error fault => .error (level, .scalar fault)

/-- The value of a key: collections are no keys. -/
def keyValue (level : Nat) : Node → Leveled Scalar
  | .plain text => plainValue level text
  | .quoted text => .ok text
  | _ => .error (level, .misplaced)

mutual

/-- The value of a node: the pairs that are merged into a mapping go before its own.  A scalar
belongs to the level where its collection is filled; `steps` bounds the depth. -/
def value : Nat → Nat → Node → Leveled Value
  | 0, level, _ => .error (level, .tooDeep)
  | _ + 1, level, .plain text => (plainValue level text).map .scalar
  | _ + 1, _, .quoted text => .ok (.scalar text)
  | steps + 1, level, .sequence items => (values steps (level + 1) items).map .list
  | steps + 1, level, .mapping pairs =>
    match split pairs with
    | none => .error (level + 1, .misplaced)
    | some (merged, own) =>
      (entries steps (level + 1) (merged ++ own)).map fun pairs => .dict (Entries.ofPairs pairs)

def values (steps level : Nat) : List Node → Leveled (List Value)
  | [] => .ok []
  | item :: rest => .both (· :: ·) (value steps level item) (values steps level rest)

def entries (steps level : Nat) : List (Node × Node) → Leveled (List (Scalar × Value))
  | [] => .ok []
  | (key, item) :: rest =>
    .both (· :: ·)
      (.both Prod.mk (keyValue level key) (value steps level item))
      (entries steps level rest)

end

end Node

def isPrintable (c : Char) : Bool :=
  let n := c.toNat
  n == 0x09 || n == 0x0a || n == 0x0d || (0x20 ≤ n && n ≤ 0x7e) || n == 0x85
    || (0xa0 ≤ n && n ≤ 0xfffd) || 0x10000 ≤ n

/-- The value that a text writes; a text without a document writes nothing. -/
def readChars (cs : List Char) : Except ReadFault Value := do
  if !cs.all isPrintable then throw .misplaced
  let tokens ← (tokens cs).mapError .ofFault
  match (← (Node.ofTokens? tokens).mapError .ofFault) with
  | none => return .null
  | some node => (node.value (nestingLimit + 1) 0).mapError (·.2)

/-- The parser of the program, which looks at nothing before it has the whole text. -/
def reader : Parser where
  read := readChars
  readBroken _ _ := none

end EventIntake.Yaml
