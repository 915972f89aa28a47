/-
What a command line asks for: a command, the place of its input, and options.  Command and input
are taken together from the first values, so an input that stands apart is left over.
-/
import EventIntake.CommandLine.Word

namespace EventIntake.CommandLine

/-- What is done with an event. -/
inductive Command where
  | normalize
  | inspect
deriving DecidableEq, Repr

namespace Command

def all : List Command := [.normalize, .inspect]

def name : Command → String
  | .normalize => "normalize"
  | .inspect => "inspect"

def ofName? (name : String) : Option Command := all.find? (·.name == name)

end Command

/-- What a command line asks for. -/
structure Options where
  command : Command
  input : String
  format : String
  receivedAt : Option String
  headers : List String
  noDroppedFields : Bool
  output : Option String
deriving DecidableEq, Repr

inductive Stop where
  | help
  | fault (fault : UsageFault)
deriving DecidableEq, Repr

/-- What has been read of a command line. -/
structure Draft where
  command : Option Command := none
  input : String := "-"
  format : Option String := none
  receivedAt : Option String := none
  headers : List String := []
  noDroppedFields : Bool := false
  output : Option String := none
  leftOver : List String := []

namespace Draft

/-- An option with its value. -/
def set (flag : Flag) (value : String) (draft : Draft) : Draft :=
  match flag with
  | .help => draft
  | .format => { draft with format := some value }
  | .receivedAt => { draft with receivedAt := some value }
  | .header => { draft with headers := draft.headers ++ [value] }
  | .noDroppedFields => { draft with noDroppedFields := true }
  | .output => { draft with output := some value }

/-- Words that are no part of any option or argument. -/
def leave (words : List String) (draft : Draft) : Draft :=
  { draft with leftOver := draft.leftOver ++ words }

/-- The letters behind a call for help: each may call for help again, and the last one may begin an
option with a value. -/
def helpLetters (valueFollows : Bool) : List Char → Except UsageFault Unit
  | [] => .ok ()
  | '-' :: rest => .error (.unusedValue .help (String.ofList ('-' :: rest)))
  | 'h' :: '=' :: rest => .error (.unusedValue .help (String.ofList rest))
  | 'h' :: rest => helpLetters valueFollows rest
  | 'o' :: rest =>
    if rest.isEmpty && !valueFollows then .error (.noValue .output) else .ok ()
  | _ => .ok ()

/-- Whether the words begin with a value. -/
def beginsWithValue : List (String × Word) → Bool
  | (_, .value) :: _ => true
  | _ => false

/-- A call for help with something attached, which must be letters of options. -/
def helpAttached (spelling : String) (attached : Attached) (rest : List (String × Word)) : Stop :=
  if attached.equals || attached.text.isEmpty || spelling.startsWith "--" then
    .fault (.unusedValue .help attached.text)
  else
    match helpLetters (beginsWithValue rest) attached.text.toList with
    | .ok _ => .help
    | .error fault => .fault fault

/-- A divider at the beginning, and the words after it. -/
def takeDivider : List (String × Word) → List String × List (String × Word)
  | (word, .divider) :: rest => ([word], rest)
  | words => ([], words)

/-- A value at the beginning, and the words after it. -/
def takeValue : List (String × Word) → List String × List (String × Word)
  | (word, .value) :: rest => ([word], rest)
  | words => ([], words)

/-- One argument with the dividers around it, and the words after it. -/
def takeArgument (words : List (String × Word)) : List String × List (String × Word) :=
  let (before, words) := takeDivider words
  let (value, words) := takeValue words
  let (after, words) := takeDivider words
  (before ++ value ++ after, words)

/-- The command and the input that the words begin with. -/
def readArguments (words : List (String × Word)) (draft : Draft) :
    Except UsageFault (Draft × List (String × Word)) :=
  let (first, words) := takeArgument words
  let (second, words) := takeArgument words
  let word := ((first.erase "--").head?).getD ""
  match Command.ofName? word with
  | none => .error (.unknownCommand word (Command.all.map Command.name))
  | some command =>
    .ok ({ draft with
      command := some command
      input := ((second.erase "--").head?).getD "-" }, words)

/-- Whether a command may begin here. -/
def beginsArguments : List (String × Word) → Bool
  | (_, .value) :: _ => true
  | (_, .divider) :: rest => beginsWithValue rest
  | _ => false

/-- What the words ask for; `steps` bounds their number. -/
def read : Nat → List (String × Word) → Draft → Except Stop Draft
  | 0, _, draft => .ok draft
  | _ + 1, [], draft => .ok draft
  | steps + 1, (word, found) :: rest, draft =>
    match found with
    | .unknown => read steps rest (draft.leave [word])
    | .option flag none =>
      if flag = .help then .error .help
      else if !flag.takesValue then read steps rest (draft.set flag "")
      else
        match rest with
        | (value, .value) :: rest => read steps rest (draft.set flag value)
        | _ => .error (.fault (.noValue flag))
    | .option flag (some attached) =>
      if flag = .help then .error (helpAttached word attached rest)
      else if flag.takesValue then read steps rest (draft.set flag attached.text)
      else .error (.fault (.unusedValue flag attached.text))
    | _ =>
      let words := (word, found) :: rest
      if draft.command.isNone && beginsArguments words then
        match readArguments words draft with
        | .ok (draft, words) => read steps words draft
        | .error fault => .error (.fault fault)
      else read steps rest (draft.leave [word])

/-- The options when all words have been read: command and format must be there, and nothing left
over. -/
def finish (draft : Draft) : Except UsageFault Options :=
  match draft.command, draft.format with
  | some command, some format =>
    if draft.leftOver.isEmpty then
      .ok { draft with command, format }
    else .error (.leftOver draft.leftOver)
  | command, format =>
    .error (.missing (
      (if command.isNone then ["command"] else [])
        ++ if format.isNone then [Flag.name .format] else []))

end Draft

/-- What a command line asks for. -/
def Options.ofArguments (arguments : List String) : Except Stop Options := do
  let words ← (Word.classifyAll arguments).mapError .fault
  let draft ← Draft.read (words.length + 1) words {}
  draft.finish.mapError .fault

end EventIntake.CommandLine
