/-
Scalars in quotes.  A line end inside quotes is folded: the blanks around it go, one line end is
a space, and of several the first one goes.
-/
import EventIntake.Text.Halved

namespace EventIntake.Yaml

inductive Fault where
  /-- The text does not follow the notation. -/
  | malformed
  /-- An escape names no character; the code may even be no machine number. -/
  | noCharacter (code : Nat)
  | tooDeep
deriving DecidableEq, Repr

def isBreak (c : Char) : Bool :=
  c == '\n' || c == '\x85' || c == '\u2028' || c == '\u2029'

def isSpace (c : Char) : Bool := c == ' ' || c == '\t'

/-- Whether a word ends before these characters. -/
def endsWord : List Char → Bool
  | [] => true
  | c :: _ => isSpace c || isBreak c

/-- Whether a document's mark stands here, at the start of a line. -/
def isMark : List Char → Bool
  | '-' :: '-' :: '-' :: rest => endsWord rest
  | '.' :: '.' :: '.' :: rest => endsWord rest
  | _ => false

/-- What stays of a line end. -/
def breakText (c : Char) : Char :=
  if c == '\u2028' || c == '\u2029' then c else '\n'

/-- The line ends between two pieces of text, folded. -/
def folded (first : Char) (more : List Char) : List Char :=
  if first != '\n' then first :: more
  else if more.isEmpty then [' ']
  else more

/-- What stands between two pieces of quoted text. -/
inductive Gap where
  | none
  /-- Blanks, the last one first. -/
  | blanks (cs : List Char)
  | breaks (first : Char) (more : List Char)
  /-- The first line end was escaped. -/
  | escaped (more : List Char)

namespace Gap

/-- The gap after one more blank. -/
def blank (c : Char) : Gap → Gap
  | .none => .blanks [c]
  | .blanks cs => .blanks (c :: cs)
  | gap => gap

/-- The gap after one more line end. -/
def lineEnd (c : Char) : Gap → Gap
  | .breaks first more => .breaks first (more ++ [breakText c])
  | .escaped more => .escaped (more ++ [breakText c])
  | _ => .breaks (breakText c) []

/-- The points so far, last one first, with what stays of the gap. -/
def close (text : List Point) : Gap → List Point
  | .none => text
  | .blanks cs => cs.map .char ++ text
  | .breaks first more => (folded first more).reverse.map .char ++ text
  | .escaped more => more.reverse.map .char ++ text

end Gap

/-- A text and the characters after it. -/
abbrev Quoted := Except Fault (List Point × List Char)

/-- A text in single quotes, after the first one.  Two quotes stand for one. -/
def singleQuoted (text : List Point) (gap : Gap) : List Char → Quoted
  | [] => .error .malformed
  | '\'' :: '\'' :: rest => singleQuoted (.char '\'' :: gap.close text) .none rest
  | '\'' :: rest => .ok ((gap.close text).reverse, rest)
  | c :: rest =>
    if isSpace c then singleQuoted text (gap.blank c) rest
    else if isBreak c then
      if isMark rest then .error .malformed else singleQuoted text (gap.lineEnd c) rest
    else singleQuoted (.char c :: gap.close text) .none rest

/-- Escapes of one letter. -/
def escapes : List (Char × Char) := [
  ('0', '\x00'), ('a', '\x07'), ('b', '\x08'), ('t', '\t'), ('\t', '\t'), ('n', '\n'),
  ('v', '\x0b'), ('f', '\x0c'), ('r', '\r'), ('e', '\x1b'), (' ', ' '), ('"', '"'),
  ('\\', '\\'), ('/', '/'), ('N', '\x85'), ('_', '\xa0'), ('L', '\u2028'), ('P', '\u2029')]

/-- Escapes by a code of so many hexadecimal digits. -/
def codeEscapes : List (Char × Nat) := [('x', 2), ('u', 4), ('U', 8)]

/-- Where an escape stands. -/
inductive Escape where
  | none
  | «open»
  /-- So many digits of the code are left. -/
  | code (left n : Nat)

def doubleQuoted (text : List Point) (gap : Gap) : Escape → List Char → Quoted
  | _, [] => .error .malformed
  | .none, c :: rest =>
    if c == '"' then .ok ((gap.close text).reverse, rest)
    else if c == '\\' then doubleQuoted (gap.close text) .none .open rest
    else if isSpace c then doubleQuoted text (gap.blank c) .none rest
    else if isBreak c then
      if isMark rest then .error .malformed else doubleQuoted text (gap.lineEnd c) .none rest
    else doubleQuoted (.char c :: gap.close text) .none .none rest
  | .open, c :: rest =>
    match escapes.lookup c, codeEscapes.lookup c with
    | some d, _ => doubleQuoted (.char d :: text) .none .none rest
    | none, some width => doubleQuoted text .none (.code width 0) rest
    | none, none =>
      if isBreak c && !isMark rest then doubleQuoted text (.escaped []) .none rest
      else .error .malformed
  | .code left n, c :: rest =>
    match Text.hexValue? c with
    | none => .error .malformed
    | some d =>
      let n := 16 * n + d
      if 1 < left then doubleQuoted text .none (.code (left - 1) n) rest
      else if 0x10ffff < n then .error (.noCharacter n)
      else doubleQuoted (.ofCode n :: text) .none .none rest

end EventIntake.Yaml
