/-
The tokens of a text in block and flow notation.  Blocks are told by their indentation: a deeper
column opens a block, and a lesser one closes it.  That a scalar or a collection is a key is known
only at the colon behind it, so places where a key may stand are kept until then.
-/
import EventIntake.Value.Basic
import EventIntake.Yaml.Quote

namespace EventIntake.Yaml

inductive Token where
  | documentStart
  | documentEnd
  | blockSequence
  | blockMapping
  | blockEnd
  | flowSequence
  | flowSequenceEnd
  | flowMapping
  | flowMappingEnd
  /-- The dash before an item of a block. -/
  | item
  /-- The comma between the entries of a flow collection. -/
  | comma
  | key
  | value
  | plain (text : String)
  | quoted (text : Scalar)
deriving DecidableEq, Repr

structure Cursor where
  rest : List Char
  index : Nat
  line : Nat
  column : Nat

namespace Cursor

/-- The place one character on.  A byte order mark takes no column. -/
def next (cursor : Cursor) : Cursor :=
  match cursor.rest with
  | [] => cursor
  | c :: rest =>
    if isBreak c then ⟨rest, cursor.index + 1, cursor.line + 1, 0⟩
    else
      ⟨rest, cursor.index + 1, cursor.line,
        if c == '\ufeff' then cursor.column else cursor.column + 1⟩

/-- The place some characters on. -/
def advance : Nat → Cursor → Cursor
  | 0, cursor => cursor
  | n + 1, cursor => advance n cursor.next

/-- The place where only `rest` is left. -/
def upTo (rest : List Char) (cursor : Cursor) : Cursor :=
  cursor.advance (cursor.rest.length - rest.length)

def skip (p : Char → Bool) (cursor : Cursor) : Cursor :=
  cursor.advance (cursor.rest.takeWhile p).length

end Cursor

/-- A place where a key may begin. -/
structure KeyPlace where
  /-- How many tokens go before it. -/
  token : Nat
  /-- Nothing but a key may stand there. -/
  required : Bool
  index : Nat
  line : Nat
  column : Nat

/-- The most characters between the beginning of a key and its colon. -/
def keyLimit : Nat := 1024

/-- How far a text has been read. -/
structure Scan where
  cursor : Cursor
  tokens : Array Token := #[]
  /-- How many flow collections are open. -/
  level : Nat := 0
  /-- The column of the innermost block, or -1. -/
  indent : Int := -1
  /-- The columns of the blocks around it, innermost first. -/
  outer : List Int := []
  keyAllowed : Bool := true
  /-- Where keys may begin, one place for each flow collection. -/
  places : List (Nat × KeyPlace) := []

namespace Scan

def emit (token : Token) (scan : Scan) : Scan := { scan with tokens := scan.tokens.push token }

def move (n : Nat) (scan : Scan) : Scan := { scan with cursor := scan.cursor.advance n }

/-- The key that may begin in the innermost collection is none. -/
def dropPlace (scan : Scan) : Except Fault Scan :=
  match scan.places.lookup scan.level with
  | some place =>
    if place.required then .error .malformed
    else .ok { scan with places := scan.places.filter fun (level, _) => level != scan.level }
  | none => .ok scan

/-- A key may begin here, if one is allowed. -/
def savePlace (scan : Scan) : Except Fault Scan := do
  if !scan.keyAllowed then return scan
  let scan ← scan.dropPlace
  let ⟨_, index, line, column⟩ := scan.cursor
  let place : KeyPlace := {
    token := scan.tokens.size
    required := scan.level == 0 && scan.indent == column
    index, line, column }
  return { scan with places := (scan.level, place) :: scan.places }

/-- A key ends in the line that it begins in, and not too far behind. -/
def isStale (cursor : Cursor) (place : KeyPlace) : Bool :=
  place.line != cursor.line || place.index + keyLimit < cursor.index

/-- Places whose key would be too long are given up. -/
def dropStale (scan : Scan) : Except Fault Scan :=
  if scan.places.any fun (_, place) => isStale scan.cursor place && place.required then
    .error .malformed
  else
    .ok { scan with
      places := scan.places.filter fun (_, place) => !isStale scan.cursor place }

/-- The blocks left open when those deeper than a column are closed. -/
def closeDeeper (column : Int) (tokens : Array Token) (indent : Int) :
    List Int → Array Token × Int × List Int
  | [] => (tokens, indent, [])
  | above :: rest =>
    if column < indent then closeDeeper column (tokens.push .blockEnd) above rest
    else (tokens, indent, above :: rest)

/-- Blocks deeper than a column are closed. -/
def closeBlocks (column : Int) (scan : Scan) : Scan :=
  if scan.level != 0 then scan
  else
    let (tokens, indent, outer) := closeDeeper column scan.tokens scan.indent scan.outer
    { scan with tokens, indent, outer }

/-- A block begins at a column, unless one has begun there; its token goes to a place among the
tokens. -/
def openBlock (token : Token) (column place : Nat) (scan : Scan) : Scan :=
  if scan.indent < column then
    { scan with
      tokens := scan.tokens.insertIdxIfInBounds place token
      indent := column
      outer := scan.indent :: scan.outer }
  else scan

/-- An entry of a block begins here, which may open the block. -/
def beginEntry (block : Token) (scan : Scan) : Except Fault Scan :=
  if scan.level != 0 then .ok scan
  else if scan.keyAllowed then .ok (scan.openBlock block scan.cursor.column scan.tokens.size)
  else .error .malformed

/-- The dash before an item. -/
def readItem (scan : Scan) : Except Fault Scan := do
  let scan ← scan.beginEntry .blockSequence
  let scan ← ({ scan with keyAllowed := true }).dropPlace
  return (scan.emit .item).move 1

/-- The mark before a key. -/
def readKey (scan : Scan) : Except Fault Scan := do
  let scan ← scan.beginEntry .blockMapping
  let scan ← ({ scan with keyAllowed := scan.level == 0 }).dropPlace
  return (scan.emit .key).move 1

/-- The colon behind a key: what began at the last possible place was the key. -/
def readValue (scan : Scan) : Except Fault Scan :=
  match scan.places.lookup scan.level with
  | some place =>
    let scan := { scan with
      places := scan.places.filter fun (level, _) => level != scan.level
      tokens := scan.tokens.insertIdxIfInBounds place.token .key
      keyAllowed := false }
    let scan :=
      if scan.level == 0 then scan.openBlock .blockMapping place.column place.token else scan
    .ok ((scan.emit .value).move 1)
  | none => do
    let scan ← scan.beginEntry .blockMapping
    let scan ← ({ scan with keyAllowed := scan.level == 0 }).dropPlace
    return (scan.emit .value).move 1

def readMark (token : Token) (scan : Scan) : Except Fault Scan := do
  let scan ← (scan.closeBlocks (-1)).dropPlace
  return ({ scan with keyAllowed := false }.emit token).move 3

def openFlow (token : Token) (scan : Scan) : Except Fault Scan := do
  let scan ← scan.savePlace
  return ({ scan with level := scan.level + 1, keyAllowed := true }.emit token).move 1

/-- A bracket or brace that closes a flow collection, one of which must be open. -/
def closeFlow (token : Token) (scan : Scan) : Except Fault Scan := do
  let scan ← scan.dropPlace
  if scan.level == 0 then throw .malformed
  return ({ scan with level := scan.level - 1, keyAllowed := false }.emit token).move 1

def readComma (scan : Scan) : Except Fault Scan := do
  let scan ← ({ scan with keyAllowed := true }).dropPlace
  return (scan.emit .comma).move 1

def readQuoted (reader : List Char → Quoted) (scan : Scan) : Except Fault Scan := do
  let scan ← scan.savePlace
  let (text, rest) ← reader (scan.cursor.rest.drop 1)
  return { scan with cursor := scan.cursor.upTo rest, keyAllowed := false }.emit
    (.quoted (.ofPoints text))

/-- Characters with a meaning inside flow collections. -/
def isFlowMark (c : Char) : Bool := ['[', ']', '\x7b', '\x7d', ','].contains c

/-- How many characters of a plain scalar stand here without a blank. -/
def plainLength (inFlow : Bool) : List Char → Nat
  | [] => 0
  | c :: rest =>
    if isSpace c || isBreak c then 0
    else if c == ':' && (endsWord rest || (inFlow && (rest.head?.map isFlowMark).getD false)) then 0
    else if inFlow && (isFlowMark c || c == '?') then 0
    else plainLength inFlow rest + 1

/-- The line ends and spaces here: how many characters they are, and the line ends after the first
one, unless a document's mark follows. -/
def plainBreaks (length : Nat) (more : List Char) : List Char → Nat × Option (List Char)
  | [] => (length, some more)
  | c :: rest =>
    if c == ' ' then plainBreaks (length + 1) more rest
    else if isBreak c then
      if isMark rest then (length + 1, none)
      else plainBreaks (length + 1) (more ++ [breakText c]) rest
    else (length, some more)

/-- What stands between two pieces of a plain scalar: how many characters, what stays of them, and
whether a line ended. -/
def plainGap (cs : List Char) : Nat × List Char × Bool :=
  let spaces := cs.takeWhile (· == ' ')
  match cs.drop spaces.length with
  | [] => (spaces.length, spaces, false)
  | c :: rest =>
    if !isBreak c then (spaces.length, spaces, false)
    else if isMark rest then (spaces.length + 1, [], true)
    else
      match plainBreaks (spaces.length + 1) [] rest with
      | (length, none) => (length, [], true)
      | (length, some more) => (length, folded (breakText c) more, true)

/-- A plain scalar: its pieces, and the gaps between them while more pieces follow.  A piece in a
later line must be deeper than the block. -/
def plainFrom (inFlow : Bool) (indent : Int) :
    Nat → List Char → List Char → Cursor → Bool → List Char × Cursor × Bool
  | 0, text, _, cursor, ended => (text, cursor, ended)
  | steps + 1, text, gap, cursor, ended =>
    let length := plainLength inFlow cursor.rest
    if length = 0 then (text, cursor, ended)
    else
      let text := text ++ gap ++ cursor.rest.take length
      let cursor := cursor.advance length
      let (passed, gap, ended) := plainGap cursor.rest
      let cursor := cursor.advance passed
      if gap.isEmpty || cursor.rest.head? == some '#' || (!inFlow && cursor.column ≤ indent) then
        (text, cursor, ended)
      else plainFrom inFlow indent steps text gap cursor ended

/-- A scalar without quotes.  A key may follow it where a line has ended. -/
def readPlain (scan : Scan) : Except Fault Scan := do
  let scan ← scan.savePlace
  let (text, cursor, ended) :=
    plainFrom (scan.level != 0) scan.indent scan.cursor.rest.length [] [] scan.cursor false
  return { scan with cursor, keyAllowed := ended }.emit (.plain (String.ofList text))

/-- Characters that begin no plain scalar. -/
def isIndicator (c : Char) : Bool :=
  ['-', '?', ':', ',', '[', ']', '\x7b', '\x7d', '#', '&', '*', '!', '|', '>', '\'', '"', '%', '@',
    Char.ofNat 0x60].contains c

/-- Whether a plain scalar begins here.  A dash may begin one where no blank follows, and outside of
flow collections a question mark or a colon may, too. -/
def beginsPlain (inFlow : Bool) : List Char → Bool
  | [] => false
  | c :: rest =>
    (!isSpace c && !isBreak c && !isIndicator c)
      || (!endsWord rest && (c == '-' || (!inFlow && (c == '?' || c == ':'))))

def readToken (scan : Scan) : Except Fault Scan :=
  let cs := scan.cursor.rest
  let inFlow := scan.level != 0
  if scan.cursor.column == 0 && isMark cs then
    scan.readMark (if cs.head? == some '-' then .documentStart else .documentEnd)
  else
    match cs with
    | [] => .ok scan
    | c :: rest =>
      if c == '%' && scan.cursor.column == 0 then .error .malformed
      else if c == '[' then scan.openFlow .flowSequence
      else if c == '\x7b' then scan.openFlow .flowMapping
      else if c == ']' then scan.closeFlow .flowSequenceEnd
      else if c == '\x7d' then scan.closeFlow .flowMappingEnd
      else if c == ',' then scan.readComma
      else if c == '-' && endsWord rest then scan.readItem
      else if c == '?' && (inFlow || endsWord rest) then scan.readKey
      else if c == ':' && (inFlow || endsWord rest) then scan.readValue
      else if c == '\'' then scan.readQuoted (singleQuoted [] .none)
      else if c == '"' then scan.readQuoted (doubleQuoted [] .none .none)
      else if beginsPlain inFlow cs then scan.readPlain
      else .error .malformed

/-- The place of the next token: spaces, comments and line ends are passed over, and after a line
end a key may begin, save in flow collections. -/
def skipBlanks : Nat → Scan → Scan
  | 0, scan => scan
  | steps + 1, scan =>
    let cursor := scan.cursor.skip (· == ' ')
    let cursor := if cursor.rest.head? == some '#' then cursor.skip (!isBreak ·) else cursor
    match cursor.rest with
    | [] => { scan with cursor }
    | c :: _ =>
      if isBreak c then
        skipBlanks steps
          { scan with cursor := cursor.next, keyAllowed := scan.keyAllowed || scan.level == 0 }
      else { scan with cursor }

/-- The tokens of what is left; `steps` bounds their number. -/
def finish : Nat → Scan → Except Fault (List Token)
  | 0, _ => .error .malformed
  | steps + 1, scan => do
    let scan ← (skipBlanks scan.cursor.rest.length scan).dropStale
    let scan := scan.closeBlocks scan.cursor.column
    if scan.cursor.rest.isEmpty then
      let scan ← (scan.closeBlocks (-1)).dropPlace
      return scan.tokens.toList
    finish steps (← scan.readToken)

end Scan

/-- The tokens of a text, after a byte order mark if there is one. -/
def tokens (cs : List Char) : Except Fault (List Token) :=
  let start : Cursor := ⟨cs, 0, 0, 0⟩
  let cursor := if cs.head? == some '\ufeff' then start.next else start
  Scan.finish (cs.length + 1) { cursor }

end EventIntake.Yaml
