/-
Lower and upper case of texts, by the full mappings of the standard: one letter may become
several, and the capital sigma at the end of a word becomes the final one.
-/
import EventIntake.Text.CaseTable
import EventIntake.Text.Digit

namespace EventIntake.Text

/-- Whether the span moves the code point. -/
def CaseSpan.covers (span : CaseSpan) (n : Nat) : Bool :=
  span.first ≤ n && n ≤ span.last && (n - span.first) % span.step == 0

/-- The letters that stand for `c` under a mapping given by spans and expansions. -/
def mapLetter (spans : List CaseSpan) (expansions : List (Nat × List Nat)) (c : Char) :
    List Char :=
  match expansions.lookup c.toNat with
  | some letters => letters.map Char.ofNat
  | none =>
    match spans.find? (·.covers c.toNat) with
    | some span => [Char.ofNat ((c.toNat : Int) + span.shift).toNat]
    | none => [c]

/-- The lower case of a letter, whatever stands around it. -/
def lowerLetter (c : Char) : List Char :=
  if c.toNat < 128 then
    if 65 ≤ c.toNat ∧ c.toNat ≤ 90 then [Char.ofNat (c.toNat + 32)] else [c]
  else
    mapLetter lowerSpans lowerExpansions c

def upperLetter (c : Char) : List Char :=
  if c.toNat < 128 then
    if 97 ≤ c.toNat ∧ c.toNat ≤ 122 then [Char.ofNat (c.toNat - 32)] else [c]
  else
    mapLetter upperSpans upperExpansions c

/-- Characters that the final-sigma rule looks through. -/
def isCaseIgnorable (c : Char) : Bool :=
  inRanges caseIgnorableRanges c.toNat

/-- Letters that end the search of the final-sigma rule. -/
def isCased (c : Char) : Bool :=
  inRanges casedRanges c.toNat

/-- Whether the first character that is not looked through is a cased letter. -/
def startsCased (cs : List Char) : Bool :=
  match cs.dropWhile isCaseIgnorable with
  | [] => false
  | c :: _ => isCased c

def capitalSigma : Char := Char.ofNat 0x3a3

/-- Lower case of the characters; `before` tells whether a cased letter went before them. -/
def lowerChars (before : Bool) : List Char → List Char
  | [] => []
  | c :: rest =>
    let letters :=
      if c = capitalSigma then
        [Char.ofNat (if before && !startsCased rest then 0x3c2 else 0x3c3)]
      else lowerLetter c
    let after := if isCaseIgnorable c then before else isCased c
    letters ++ lowerChars after rest

def lower (s : String) : String :=
  String.ofList (lowerChars false s.toList)

def upper (s : String) : String :=
  String.ofList (s.toList.flatMap upperLetter)

end EventIntake.Text
