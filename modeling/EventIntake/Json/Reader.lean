/-
Reading JSON.  The reader takes one token at a time and keeps the lists and dictionaries that
are still open on a stack, so that it follows any nesting; it gives up where the nesting
reaches its limit.
-/
import EventIntake.Json.Token

namespace EventIntake.Json

variable [Limits]

inductive ReadFault where
  | malformed (problem : Problem) (line column position : Nat)
  | tooLong (digits : Nat)
  | tooDeep
deriving DecidableEq, Repr

def ReadFault.message : ReadFault → String
  | .malformed problem line column position =>
    s!"{problem.message}: line {line} column {column} (char {position})"
  | .tooLong digits => tooLongMessage digits
  | .tooDeep => "text is nested too deeply"

/-- A problem at a position of a text, by line and column from one on. -/
def ReadFault.atPosition (text : List Char) (problem : Problem) (position : Nat) : ReadFault :=
  let before := text.take position
  let column := (before.reverse.takeWhile (· != '\n')).length + 1
  .malformed problem (before.count '\n' + 1) column position

/-- A list or dictionary that waits for a value. -/
inductive Frame where
  /-- A list with the items before, the last one first. -/
  | list (items : List Value)
  /-- A dictionary with the entries before, and the key of the value. -/
  | dict (entries : Entries) (key : Scalar)

/-- What is read next. -/
inductive Stage where
  | value
  | firstItem
  | afterItem (items : List Value)
  | firstName
  | name (entries : Entries)
  | colon (entries : Entries) (key : Scalar)
  | afterEntry (entries : Entries)
  | done (v : Value)

/-- Where reading stands: the open lists and dictionaries, innermost first, and what is next. -/
structure Progress where
  stack : List Frame
  stage : Stage

/-- A fault before it is placed in its text. -/
inductive StepFault where
  | problem (kind : Problem) (position : Nat)
  | tooLong (digits : Nat)
  | tooDeep

def StepFault.ofScalar : ScalarFault → StepFault
  | .problem kind position => .problem kind position
  | .tooLong digits => .tooLong digits

namespace Progress

def start : Progress := ⟨[], .value⟩

/-- A finished value goes into the innermost open list or dictionary. -/
def deliver (v : Value) : List Frame → Progress
  | [] => ⟨[], .done v⟩
  | .list items :: stack => ⟨stack, .afterItem (v :: items)⟩
  | .dict entries key :: stack => ⟨stack, .afterEntry (Entries.insert key v entries)⟩

/-- The token where a value is expected. -/
def readValue (stack : List Frame) (token : Token) (position : Nat) : Except StepFault Progress :=
  match token with
  | .scalar s => .ok (deliver (.scalar s) stack)
  | .openList => if Limits.reading ≤ stack.length then .error .tooDeep else .ok ⟨stack, .firstItem⟩
  | .openDict => if Limits.reading ≤ stack.length then .error .tooDeep else .ok ⟨stack, .firstName⟩
  | .broken _ fault => .error (.ofScalar fault)
  | _ => .error (.problem .expectingValue position)

/-- The token where the name of an entry is expected. -/
def readName (stack : List Frame) (entries : Entries) (token : Token) (position : Nat) :
    Except StepFault Progress :=
  match token with
  | .scalar key =>
    if key.isText then .ok ⟨stack, .colon entries key⟩
    else .error (.problem .expectingName position)
  | .broken true fault => .error (.ofScalar fault)
  | _ => .error (.problem .expectingName position)

/-- The progress after one more token, which starts at a position. -/
def step (p : Progress) (token : Token) (position : Nat) : Except StepFault Progress :=
  match p.stage with
  | .value => readValue p.stack token position
  | .firstItem =>
    match token with
    | .closeList => .ok (deliver (.list []) p.stack)
    | token => readValue (.list [] :: p.stack) token position
  | .afterItem items =>
    match token with
    | .closeList => .ok (deliver (.list items.reverse) p.stack)
    | .comma => .ok ⟨.list items :: p.stack, .value⟩
    | _ => .error (.problem .expectingComma position)
  | .firstName =>
    match token with
    | .closeDict => .ok (deliver (.dict []) p.stack)
    | token => readName p.stack [] token position
  | .name entries => readName p.stack entries token position
  | .colon entries key =>
    match token with
    | .colon => .ok ⟨.dict entries key :: p.stack, .value⟩
    | _ => .error (.problem .expectingColon position)
  | .afterEntry entries =>
    match token with
    | .closeDict => .ok (deliver (.dict entries) p.stack)
    | .comma => .ok ⟨p.stack, .name entries⟩
    | _ => .error (.problem .expectingComma position)
  | .done _ => .error (.problem .extraData position)

/-- The value that has been read when the text ends at a position. -/
def finish (p : Progress) (position : Nat) : Except StepFault Value :=
  match p.stage with
  | .done v => .ok v
  | .value | .firstItem => .error (.problem .expectingValue position)
  | .firstName | .name _ => .error (.problem .expectingName position)
  | .colon _ _ => .error (.problem .expectingColon position)
  | .afterItem _ | .afterEntry _ => .error (.problem .expectingComma position)

/-- The value after all tokens of a text that ends at `size`. -/
def run (p : Progress) (size : Nat) : List (Token × Nat) → Except StepFault Value
  | [] => p.finish size
  | (token, position) :: rest =>
    match p.step token position with
    | .ok next => next.run size rest
    | .error fault => .error fault

end Progress

def byteOrderMark : Char := Char.ofNat 0xfeff

/-- The value that the tokens of some characters write. -/
def readTokens (cs : List Char) (tokens : List (Token × Nat)) : Except ReadFault Value :=
  match Progress.start.run cs.length tokens with
  | .ok v => .ok v
  | .error (.problem kind position) => .error (.atPosition cs kind position)
  | .error (.tooLong digits) => .error (.tooLong digits)
  | .error .tooDeep => .error .tooDeep

def readChars (cs : List Char) : Except ReadFault Value :=
  if cs.head? = some byteOrderMark then .error (.atPosition cs .byteOrderMark 0)
  else readTokens cs (tokens cs)

/-- The value that a text writes. -/
def read (text : String) : Except ReadFault Value := readChars text.toList

/-- The points of a string that is written well, from behind its opening quote on. -/
def stringPoints : List Point → List Point
  | [] => []
  | .char c :: rest =>
    if c = '"' then []
    else if c = '\\' then
      match readEscape 0 0 (rest.map Point.filled) with
      | .ok (p, taken) => p :: stringPoints (rest.drop taken)
      | .error _ => []
    else .char c :: stringPoints rest
  | p :: rest => p :: stringPoints rest
termination_by points => points.length
decreasing_by
  all_goals simp only [List.length_cons, List.length_drop]
  all_goals omega

/-- A token of points in which characters stood for the halves. -/
def restoreToken (points : List Point) : Token × Nat → Token × Nat
  | (.scalar s, position) =>
    (.scalar
      (if s.isText then .ofPoints (stringPoints (points.drop (position + 1))) else s), position)
  | token => token

/-- The value that points write.  A half means something inside strings alone; anywhere else it is
as misplaced as the character that stands for it. -/
def readPoints (points : List Point) : Except ReadFault Value :=
  let cs := points.map Point.filled
  if cs.head? = some byteOrderMark then .error (.atPosition cs .byteOrderMark 0)
  else readTokens cs ((tokens cs).map (restoreToken points))

end EventIntake.Json
