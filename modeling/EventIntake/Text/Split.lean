/-
Cutting texts at separators.
-/

namespace EventIntake.Text

/-- The pieces between the separators; there is one more piece than there are separators. -/
def splitChars (separator : Char) : List Char → List (List Char)
  | [] => [[]]
  | c :: rest =>
    if c = separator then [] :: splitChars separator rest
    else
      match splitChars separator rest with
      | [] => [[c]]
      | piece :: pieces => (c :: piece) :: pieces

theorem splitChars_ne_nil (separator : Char) (cs : List Char) : splitChars separator cs ≠ [] := by
  cases cs with
  | nil => simp [splitChars]
  | cons c rest =>
    rw [splitChars]
    split
    · simp
    · split <;> simp

/-- A separator divides the pieces before it from those after it. -/
theorem splitChars_append (separator : Char) (before after : List Char) :
    splitChars separator (before ++ separator :: after) =
      splitChars separator before ++ splitChars separator after := by
  induction before with
  | nil => simp [splitChars]
  | cons c rest ih =>
    by_cases h : c = separator
    · simp [splitChars, h, ih]
    · cases hr : splitChars separator rest with
      | nil => exact absurd hr (splitChars_ne_nil separator rest)
      | cons piece pieces => simp [splitChars, h, ih, hr]

/-- A text without separators is one piece. -/
theorem splitChars_of_not_mem {separator : Char} {cs : List Char} (hfree : separator ∉ cs) :
    splitChars separator cs = [cs] := by
  induction cs with
  | nil => rfl
  | cons c rest ih =>
    simp only [List.mem_cons, not_or] at hfree
    have hc : ¬ c = separator := Ne.symm hfree.1
    simp [splitChars, hc, ih hfree.2]

/-- The pieces of a text between the separators. -/
def splitAt (separator : Char) (s : String) : List String :=
  (splitChars separator s.toList).map String.ofList

/-- What stands before and after the first separator. -/
def cutChars? (separator : Char) : List Char → Option (List Char × List Char)
  | [] => none
  | c :: rest =>
    if c = separator then some ([], rest)
    else (cutChars? separator rest).map fun (before, after) => (c :: before, after)

/-- What stands before and after the first separator of a text. -/
def cutAt? (separator : Char) (s : String) : Option (String × String) :=
  (cutChars? separator s.toList).map fun (before, after) =>
    (String.ofList before, String.ofList after)

/-- Whether the second row holds the first. -/
def isPart {α : Type} [BEq α] (part : List α) : List α → Bool
  | [] => part.isEmpty
  | c :: rest => part.isPrefixOf (c :: rest) || isPart part rest

/-- The text with every `old` replaced by `new`. -/
def replaceChar (old new : Char) (s : String) : String :=
  String.ofList (s.toList.map fun c => if c = old then new else c)

/-- The text with each kind of line end, a carriage return with or without a line feed, as a line
feed. -/
def plainLines : List Char → List Char
  | [] => []
  | '\r' :: '\n' :: rest => '\n' :: plainLines rest
  | c :: rest => (if c = '\r' then '\n' else c) :: plainLines rest

/-- The texts with a separator between neighbours. -/
def joinWith (separator : String) (texts : List String) : String :=
  String.intercalate separator texts

end EventIntake.Text
