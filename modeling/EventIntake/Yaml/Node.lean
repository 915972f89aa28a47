/-
The tree that tokens write.  Reading takes one token at a time and keeps the collections that are
still open on a stack, so that it follows any nesting; it gives up where the nesting reaches its
limit.
-/
import EventIntake.Value.Basic
import EventIntake.Yaml.Token

namespace EventIntake.Yaml

/-- So many collections may stand inside one another. -/
def nestingLimit : Nat := 493

/-- A tree of scalars, sequences, and mappings with their pairs as they are written. -/
inductive Node where
  | plain (text : String)
  | quoted (text : Scalar)
  | sequence (items : List Node)
  | mapping (pairs : List (Node × Node))
deriving Repr

/-- The node where nothing is written. -/
def Node.empty : Node := .plain ""

/-- An open collection, with its finished entries, the last one first, and the part that is being
read. -/
inductive Frame where
  | blockItem (items : List Node)
  /-- An item of a sequence as deep as the key it belongs to. -/
  | looseItem (items : List Node)
  | blockKey (pairs : List (Node × Node))
  | blockValue (pairs : List (Node × Node)) (key : Node)
  | flowItem (items : List Node)
  /-- The key of a pair that is an item by itself. -/
  | pairKey (items : List Node)
  | pairValue (items : List Node) (key : Node)
  | flowKey (pairs : List (Node × Node))
  /-- A key that no colon may follow. -/
  | flowBare (pairs : List (Node × Node))
  | flowValue (pairs : List (Node × Node)) (key : Node)

/-- What is read next. -/
inductive Stage where
  | start
  /-- A node, which is empty if one of the tokens follows. -/
  | node (emptyBefore : List Token)
  /-- What follows a finished node. -/
  | after (node : Node)
  /-- An entry of a flow collection, or the end. -/
  | entry
  /-- The first entry of a block. -/
  | firstItem
  | finished (node : Node)

/-- How far the tokens have been read: the open collections, innermost first, and what is next. -/
structure Progress where
  stack : List Frame
  stage : Stage

namespace Progress

/-- Reading goes on with a node. -/
def content (emptyBefore : List Token) (stack : List Frame) : Progress :=
  ⟨stack, .node emptyBefore⟩

def opened (frame : Frame) (stage : Stage) (stack : List Frame) : Except Fault Progress :=
  if nestingLimit ≤ stack.length then .error .tooDeep else .ok ⟨frame :: stack, stage⟩

/-- Tokens before which a key or value of a block is empty. -/
def blockGaps : List Token := [.key, .value, .blockEnd]

/-- What follows a node that is finished, in the collections that are open. -/
def readAfter (token : Token) (node : Node) : List Frame → Except Fault Progress
  | [] =>
    if token = .documentEnd then .ok ⟨[], .finished node⟩ else .error .malformed
  | .blockItem items :: stack =>
    match token with
    | .item => .ok (content [.item, .blockEnd] (.blockItem (node :: items) :: stack))
    | .blockEnd => .ok ⟨stack, .after (.sequence (node :: items).reverse)⟩
    | _ => .error .malformed
  | .looseItem items :: stack =>
    match token with
    | .item => .ok (content (.item :: blockGaps) (.looseItem (node :: items) :: stack))
    | _ => readAfter token (.sequence (node :: items).reverse) stack
  | .blockKey pairs :: stack =>
    match token with
    | .value => .ok (content blockGaps (.blockValue pairs node :: stack))
    | .key => .ok (content blockGaps (.blockKey ((node, .empty) :: pairs) :: stack))
    | .blockEnd => .ok ⟨stack, .after (.mapping ((node, .empty) :: pairs).reverse)⟩
    | _ => .error .malformed
  | .blockValue pairs key :: stack =>
    match token with
    | .key => .ok (content blockGaps (.blockKey ((key, node) :: pairs) :: stack))
    | .blockEnd => .ok ⟨stack, .after (.mapping ((key, node) :: pairs).reverse)⟩
    | _ => .error .malformed
  | .flowItem items :: stack =>
    match token with
    | .comma => .ok ⟨.flowItem (node :: items) :: stack, .entry⟩
    | .flowSequenceEnd => .ok ⟨stack, .after (.sequence (node :: items).reverse)⟩
    | _ => .error .malformed
  | .pairKey items :: stack =>
    match token with
    | .value => .ok (content [.comma, .flowSequenceEnd] (.pairValue items node :: stack))
    | .comma => .ok ⟨.flowItem (.mapping [(node, .empty)] :: items) :: stack, .entry⟩
    | .flowSequenceEnd =>
      .ok ⟨stack, .after (.sequence (.mapping [(node, .empty)] :: items).reverse)⟩
    | _ => .error .malformed
  | .pairValue items key :: stack =>
    match token with
    | .comma => .ok ⟨.flowItem (.mapping [(key, node)] :: items) :: stack, .entry⟩
    | .flowSequenceEnd =>
      .ok ⟨stack, .after (.sequence (.mapping [(key, node)] :: items).reverse)⟩
    | _ => .error .malformed
  | .flowKey pairs :: stack =>
    match token with
    | .value => .ok (content [.comma, .flowMappingEnd] (.flowValue pairs node :: stack))
    | .comma => .ok ⟨.flowKey ((node, .empty) :: pairs) :: stack, .entry⟩
    | .flowMappingEnd => .ok ⟨stack, .after (.mapping ((node, .empty) :: pairs).reverse)⟩
    | _ => .error .malformed
  | .flowBare pairs :: stack =>
    match token with
    | .comma => .ok ⟨.flowKey ((node, .empty) :: pairs) :: stack, .entry⟩
    | .flowMappingEnd => .ok ⟨stack, .after (.mapping ((node, .empty) :: pairs).reverse)⟩
    | _ => .error .malformed
  | .flowValue pairs key :: stack =>
    match token with
    | .comma => .ok ⟨.flowKey ((key, node) :: pairs) :: stack, .entry⟩
    | .flowMappingEnd => .ok ⟨stack, .after (.mapping ((key, node) :: pairs).reverse)⟩
    | _ => .error .malformed

/-- Whether a block may begin as the part of a collection that is being read. -/
def allowsBlock : List Frame → Bool
  | [] => true
  | .blockItem _ :: _ => true
  | .looseItem _ :: _ => true
  | .blockKey _ :: _ => true
  | .blockValue _ _ :: _ => true
  | _ => false

/-- Whether items may begin without a block of their own. -/
def allowsLoose : List Frame → Bool
  | .blockKey _ :: _ => true
  | .blockValue _ _ :: _ => true
  | _ => false

def readNode (token : Token) (stack : List Frame) : Except Fault Progress :=
  match token with
  | .plain text => .ok ⟨stack, .after (.plain text)⟩
  | .quoted text => .ok ⟨stack, .after (.quoted text)⟩
  | .flowSequence => opened (.flowItem []) .entry stack
  | .flowMapping => opened (.flowKey []) .entry stack
  | .blockSequence =>
    if allowsBlock stack then opened (.blockItem []) .firstItem stack else .error .malformed
  | .blockMapping =>
    if allowsBlock stack then opened (.blockKey []) .firstItem stack else .error .malformed
  | .item =>
    if allowsLoose stack then
      opened (.looseItem []) (.node (.item :: blockGaps)) stack
    else .error .malformed
  | _ => .error .malformed

/-- The first entry of a block, which the block was opened for. -/
def readFirst (token : Token) (stack : List Frame) : Except Fault Progress :=
  match token, stack with
  | .item, .blockItem _ :: _ => .ok (content [.item, .blockEnd] stack)
  | .key, .blockKey _ :: _ => .ok (content blockGaps stack)
  | _, _ => .error .malformed

def readEntry (token : Token) (stack : List Frame) : Except Fault Progress :=
  match stack with
  | .flowItem items :: rest =>
    match token with
    | .flowSequenceEnd => .ok ⟨rest, .after (.sequence items.reverse)⟩
    | .key =>
      if nestingLimit ≤ stack.length then .error .tooDeep
      else .ok (content [.value, .comma, .flowSequenceEnd] (.pairKey items :: rest))
    | token => readNode token stack
  | .flowKey pairs :: rest =>
    match token with
    | .flowMappingEnd => .ok ⟨rest, .after (.mapping pairs.reverse)⟩
    | .key => .ok (content [.value, .comma, .flowMappingEnd] stack)
    | token => readNode token (.flowBare pairs :: rest)
  | _ => .error .malformed

def step (progress : Progress) (token : Token) : Except Fault Progress :=
  let stack := progress.stack
  match progress.stage with
  | .start =>
    match token with
    | .documentStart => .ok (content [.documentStart, .documentEnd] [])
    | token => readNode token []
  | .node emptyBefore =>
    if emptyBefore.contains token then readAfter token .empty stack else readNode token stack
  | .after node => readAfter token node stack
  | .entry => readEntry token stack
  | .firstItem => readFirst token stack
  | .finished node =>
    if token = .documentEnd then .ok ⟨[], .finished node⟩ else .error .malformed

/-- The node when there are no more tokens; a text without one has none. -/
def node? (progress : Progress) : Except Fault (Option Node) :=
  match progress.stack, progress.stage with
  | [], .start => .ok none
  | [], .node _ => .ok (some .empty)
  | [], .after node => .ok (some node)
  | [], .finished node => .ok (some node)
  | _, _ => .error .malformed

end Progress

/-- The tree of a text's only document, if there is one. -/
def Node.ofTokens? (tokens : List Token) : Except Fault (Option Node) := do
  (← tokens.foldlM Progress.step ⟨[], .start⟩).node?

end EventIntake.Yaml
