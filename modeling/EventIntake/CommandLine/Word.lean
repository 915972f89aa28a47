/-
The words of a command line: options by their spellings, which may be cut short where no other
option begins alike, and plain values.
-/
import EventIntake.Text.Digit
import EventIntake.Text.Quoted
import EventIntake.Text.Split

namespace EventIntake.CommandLine

inductive Flag where
  | help
  | format
  | receivedAt
  | header
  | noDroppedFields
  | output
deriving DecidableEq, Repr

namespace Flag

/-- The spellings of all options in their order. -/
def spellings : List (String × Flag) := [
  ("-h", .help), ("--help", .help), ("--format", .format), ("--received-at", .receivedAt),
  ("--header", .header), ("--no-dropped-fields", .noDroppedFields), ("-o", .output),
  ("--output", .output)]

/-- All spellings of an option. -/
def name (flag : Flag) : String :=
  Text.joinWith "/" ((spellings.filter (·.2 == flag)).map (·.1))

/-- Whether a value belongs to the option. -/
def takesValue : Flag → Bool
  | .help => false
  | .noDroppedFields => false
  | _ => true

end Flag

inductive UsageFault where
  /-- A word may be cut short from several spellings. -/
  | ambiguous (word : String) (spellings : List String)
  | unknownCommand (word : String) (commands : List String)
  | noValue (flag : Flag)
  /-- A value is attached to an option that takes none. -/
  | unusedValue (flag : Flag) (value : String)
  | missing (names : List String)
  | leftOver (words : List String)
deriving DecidableEq, Repr

def UsageFault.message : UsageFault → String
  | .ambiguous word spellings =>
    s!"ambiguous option: {word} could match " ++ Text.joinWith ", " spellings
  | .unknownCommand word commands =>
    s!"argument command: invalid choice: {Text.quoted word} (choose from " ++
      Text.joinWith ", " (commands.map Text.quoted) ++ ")"
  | .noValue flag => s!"argument {flag.name}: expected one argument"
  | .unusedValue flag value =>
    s!"argument {flag.name}: ignored explicit argument {Text.quoted value}"
  | .missing names => "the following arguments are required: " ++ Text.joinWith ", " names
  | .leftOver words => "unrecognized arguments: " ++ Text.joinWith " " words

/-- A value attached to an option: behind an equals sign, or right behind its letter. -/
structure Attached where
  equals : Bool
  text : String
deriving DecidableEq, Repr

/-- What a word of a command line is. -/
inductive Word where
  | value
  /-- The mark after which all words are values. -/
  | divider
  | option (flag : Flag) (attached : Option Attached)
  /-- It looks like an option, and is none. -/
  | unknown
deriving DecidableEq, Repr

namespace Word

/-- A dash and a decimal number. -/
def isNegativeNumber (cs : List Char) : Bool :=
  match cs with
  | '-' :: rest =>
    let rest := if rest.getLast? == some '\n' then rest.dropLast else rest
    match rest.dropWhile Text.isDecimal with
    | [] => !rest.isEmpty
    | '.' :: fraction => !fraction.isEmpty && fraction.all Text.isDecimal
    | _ => false
  | _ => false

/-- A spelling and a value behind an equals sign, if there is one. -/
def splitEquals (word : String) : String × Option Attached :=
  match Text.cutAt? '=' word with
  | some (spelling, text) => (spelling, some ⟨true, text⟩)
  | none => (word, none)

/-- The options that a word with two dashes may be cut short from. -/
def completions (word : String) : List (String × Word) :=
  let (start, attached) := splitEquals word
  (Flag.spellings.filter fun (spelling, _) => start.toList.isPrefixOf spelling.toList).map
    fun (spelling, flag) => (spelling, .option flag attached)

/-- The option of one letter that a word begins with, the rest of the word attached. -/
def lettered (cs : List Char) : List (String × Word) :=
  let spelling := String.ofList (cs.take 2)
  match Flag.spellings.lookup spelling with
  | some flag => [(spelling, .option flag (some ⟨false, String.ofList (cs.drop 2)⟩))]
  | none => []

/-- A word that begins with a dash, is longer than that, and is no spelling by itself. -/
def ofDashed (word : String) : Except UsageFault Word :=
  let cs := word.toList
  let (spelling, attached) := splitEquals word
  match attached, Flag.spellings.lookup spelling with
  | some attached, some flag => .ok (.option flag (some attached))
  | _, _ =>
    match if cs[1]? == some '-' then completions word else lettered cs with
    | [(_, found)] => .ok found
    | [] => .ok (if isNegativeNumber cs || cs.contains ' ' then .value else .unknown)
    | several => .error (.ambiguous word (several.map (·.1)))

/-- What a word is, before the divider. -/
def classify (word : String) : Except UsageFault Word :=
  if word == "--" then .ok .divider
  else
    match word.toList, Flag.spellings.lookup word with
    | _, some flag => .ok (.option flag none)
    | '-' :: _ :: _, none => ofDashed word
    | _, none => .ok .value

/-- The words of a command line with what they are. -/
def classifyAll : List String → Except UsageFault (List (String × Word))
  | [] => .ok []
  | word :: rest => do
    let found ← classify word
    if found = .divider then return (word, found) :: rest.map (·, .value)
    return (word, found) :: (← classifyAll rest)

end Word

end EventIntake.CommandLine
