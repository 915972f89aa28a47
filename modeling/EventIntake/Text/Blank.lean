/-
Blank characters, and texts without the blanks around them.
-/

namespace EventIntake.Text

/-- A blank is a space, a line or paragraph break, a tab, or one of the four information
separators of ASCII. -/
def isBlank (c : Char) : Bool :=
  let n := c.toNat
  (0x09 ≤ n && n ≤ 0x0d) || (0x1c ≤ n && n ≤ 0x20) || n == 0x85 || n == 0xa0 || n == 0x1680
    || (0x2000 ≤ n && n ≤ 0x200a) || n == 0x2028 || n == 0x2029 || n == 0x202f || n == 0x205f
    || n == 0x3000

/-- The characters without the blanks at both ends. -/
def stripChars (cs : List Char) : List Char :=
  ((cs.dropWhile isBlank).reverse.dropWhile isBlank).reverse

/-- The text without the blanks at both ends. -/
def strip (s : String) : String :=
  String.ofList (stripChars s.toList)

/-- The words between blanks; `word` holds the letters of the current one, last first. -/
def wordsFrom (word : List Char) : List Char → List (List Char)
  | [] => if word.isEmpty then [] else [word.reverse]
  | c :: rest =>
    if isBlank c then
      if word.isEmpty then wordsFrom [] rest else word.reverse :: wordsFrom [] rest
    else wordsFrom (c :: word) rest

def words (cs : List Char) : List (List Char) := wordsFrom [] cs

/-- A text of blanks alone, the empty one included. -/
def isBlankText (s : String) : Bool :=
  s.toList.all isBlank

end EventIntake.Text
