/-
Where paths lead.  In a dictionary a segment is a key, in a list it is the number of an item in
decimal digits, and from anywhere else it leads nowhere.  A lookup follows a path like that, except
that in a list it is stopped by digits that are not decimal ones, and by more of them than a number
may have.
-/
import EventIntake.Path
import EventIntake.Proofs.Digits

namespace EventIntake

namespace Text

/-- Decimal digits are digits. -/
theorem isDigit_of_isDecimal {c : Char} (hdecimal : isDecimal c = true) : isDigit c = true := by
  rw [isDigit, hdecimal, Bool.true_or]

end Text

namespace Number

/-- A row of digits is the number that it writes, if all of them are decimal ones.  Too many decimal
ones at its start are told first. -/
theorem readInteger_of_isDigit {cs : List Char} (hsome : cs ≠ [])
    (hdigits : ∀ c ∈ cs, Text.isDigit c = true) :
    readInteger cs =
      if digitLimit < (cs.takeWhile Text.isDecimal).length then
        .error (.tooLong (cs.takeWhile Text.isDecimal).length)
      else if cs.all Text.isDecimal then .ok (Text.decimalNumber cs)
      else .error .malformed := by
  have hother : ∀ c, Text.isDigit c = false → c ∉ cs := by
    intro c hc hmem
    rw [hdigits c hmem] at hc
    cases hc
  -- Neither signs nor underscores are digits, so what is read is the run of decimal digits.
  have hunsigned : takeSign cs = (false, cs) := by
    rw [takeSign]
    · exact fun rest hminus => hother '-' (by decide) (hminus ▸ List.mem_cons_self)
    · exact fun rest hplus => hother '+' (by decide) (hplus ▸ List.mem_cons_self)
  have hleft : ((cs.dropWhile Text.isDecimal).head? == some '_') = false := by
    rw [beq_eq_false_iff_ne]
    intro hhead
    exact hother '_' (by decide) ((List.dropWhile_suffix _).subset (List.mem_of_head? hhead))
  rw [readInteger, hunsigned]
  dsimp only
  rw [digitRun_of_not_mem (hother '_' (by decide))]
  dsimp only
  rw [hleft, Bool.or_false, List.isEmpty_map, List.length_map]
  by_cases hall : cs.all Text.isDecimal = true
  · have hdecimal := List.all_eq_true.1 hall
    have hempty : cs.isEmpty = false := by simpa using hsome
    have hvalue : ofDigits (cs.map fun c => (Text.decimalValue? c).getD 0) =
        Text.decimalNumber cs := by
      rw [ofDigits, List.foldl_map, Text.decimalNumber]
    rw [List.takeWhile_eq_self_iff.2 hdecimal, List.dropWhile_eq_nil_iff.2 hdecimal, hempty, hvalue,
      if_pos hall]
    simp
  · have hmore : (cs.dropWhile Text.isDecimal).isEmpty = false := by
      rw [List.isEmpty_eq_false_iff, ne_eq, List.dropWhile_eq_nil_iff, ← List.all_eq_true]
      exact hall
    rw [hmore, if_neg hall]
    cases htake : cs.takeWhile Text.isDecimal with
    | nil => simp
    | cons c rest => simp

end Number

namespace Path

/-- The segment is a number in decimal digits, of whatever script. -/
def Numbers (segment : String) (n : Nat) : Prop :=
  segment ≠ "" ∧ (∀ c ∈ segment.toList, Text.isDecimal c = true) ∧
    Text.decimalNumber segment.toList = n

/-- The segment is made of digits, but cannot be read as a number: the decimal digits at its start
are too many, or else not all of its digits are decimal ones. -/
inductive Refuses (segment : String) : IndexFault → Prop
  | long (hdigits : ∀ c ∈ segment.toList, Text.isDigit c = true)
      (hlong : digitLimit < (segment.toList.takeWhile Text.isDecimal).length) :
      Refuses segment (.tooLong (segment.toList.takeWhile Text.isDecimal).length)
  | sign (hdigits : ∀ c ∈ segment.toList, Text.isDigit c = true)
      (hshort : (segment.toList.takeWhile Text.isDecimal).length ≤ digitLimit)
      (hsign : ∃ c ∈ segment.toList, Text.isDecimal c = false) :
      Refuses segment (.malformed segment)

/-- The segment leads from one value to another: to the entry of a dictionary under that key, or to
the item of a list with that number. -/
inductive Child : Value → String → Value → Prop
  | entry {entries : Entries} {segment : String} {w : Value}
      (hentry : Entries.get? (.string segment) entries = some w) : Child (.dict entries) segment w
  | item {items : List Value} {segment : String} {n : Nat} {w : Value}
      (hnumber : Numbers segment n) (hitem : items[n]? = some w) : Child (.list items) segment w

/-- The segments lead from one value to another, one after the other. -/
inductive Leads : Value → List String → Value → Prop
  | here (v : Value) : Leads v [] v
  | step {v u w : Value} {segment : String} {rest : List String}
      (hchild : Child v segment u) (hrest : Leads u rest w) : Leads v (segment :: rest) w

section Items

variable {items : List Value} {segment : String}

theorem item_of_isDigit (hsome : segment ≠ "")
    (hdigits : ∀ c ∈ segment.toList, Text.isDigit c = true) :
    item items segment =
      if digitLimit < (segment.toList.takeWhile Text.isDecimal).length then
        .error (.tooLong (segment.toList.takeWhile Text.isDecimal).length)
      else if segment.toList.all Text.isDecimal then
        .ok items[Text.decimalNumber segment.toList]?
      else .error (.malformed segment) := by
  have hchars : segment.toList ≠ [] := by simpa using hsome
  have hrow : (segment.toList.all Text.isDigit && !segment.isEmpty) = true := by
    simpa [hsome] using hdigits
  rw [item, if_pos hrow, Number.readInteger_of_isDigit hchars hdigits]
  split_ifs <;> rfl

/-- Digits that cannot be read as a number are an error, whatever the list. -/
theorem item_of_refuses {fault : IndexFault} (hrefuses : Refuses segment fault) :
    item items segment = .error fault := by
  cases hrefuses with
  | long hdigits hlong =>
      have hsome : segment ≠ "" := by
        rintro rfl
        simp at hlong
      rw [item_of_isDigit hsome hdigits, if_pos hlong]
  | sign hdigits hshort hsign =>
      obtain ⟨c, hmem, hc⟩ := hsign
      have hsome : segment ≠ "" := by
        rintro rfl
        simp at hmem
      have hall : ¬ segment.toList.all Text.isDecimal = true := by
        rw [List.all_eq_true]
        intro hdecimal
        rw [hdecimal c hmem] at hc
        cases hc
      rw [item_of_isDigit hsome hdigits, if_neg (Nat.not_lt.2 hshort), if_neg hall]

theorem refuses_of_item {fault : IndexFault} (hitem : item items segment = .error fault) :
    Refuses segment fault := by
  by_cases hrow : (segment.toList.all Text.isDigit && !segment.isEmpty) = true
  · obtain ⟨hdigits, hsome⟩ := Bool.and_eq_true_iff.1 hrow
    have hdigits := List.all_eq_true.1 hdigits
    rw [item_of_isDigit (by simpa using hsome) hdigits] at hitem
    split_ifs at hitem with hlong hall
    · cases hitem
      exact .long hdigits hlong
    · cases hitem
      exact .sign hdigits (Nat.not_lt.1 hlong) (by simpa using hall)
  · rw [item, if_neg hrow] at hitem
    cases hitem

/-- A number that is not refused names the item of that number. -/
theorem item_of_numbers {n : Nat} (hnumber : Numbers segment n)
    (hread : ∀ fault, ¬ Refuses segment fault) : item items segment = .ok items[n]? := by
  obtain ⟨hsome, hdecimal, rfl⟩ := hnumber
  have hdigits : ∀ c ∈ segment.toList, Text.isDigit c = true :=
    fun c hc => Text.isDigit_of_isDecimal (hdecimal c hc)
  rw [item_of_isDigit hsome hdigits, if_neg fun hlong => hread _ (.long hdigits hlong),
    if_pos (List.all_eq_true.2 hdecimal)]

theorem numbers_of_item {w : Value} (hitem : item items segment = .ok (some w)) :
    ∃ n, Numbers segment n ∧ items[n]? = some w := by
  by_cases hrow : (segment.toList.all Text.isDigit && !segment.isEmpty) = true
  · obtain ⟨hdigits, hsome⟩ := Bool.and_eq_true_iff.1 hrow
    have hsome : segment ≠ "" := by simpa using hsome
    rw [item_of_isDigit hsome (List.all_eq_true.1 hdigits)] at hitem
    split_ifs at hitem with hlong hall
    exact ⟨_, ⟨hsome, List.all_eq_true.1 hall, rfl⟩, Except.ok.inj hitem⟩
  · rw [item, if_neg hrow] at hitem
    cases hitem

end Items

section Steps

variable {v w : Value} {segment : String} {fault : IndexFault}

/-- A step is stopped in lists alone, by digits that cannot be read as a number. -/
theorem child_eq_error_iff :
    child v segment = .error fault ↔ ∃ items, v = .list items ∧ Refuses segment fault := by
  cases v with
  | scalar s => simp [child]
  | dict entries => simp [child]
  | list items =>
      constructor
      · exact fun hitem => ⟨items, rfl, refuses_of_item hitem⟩
      · rintro ⟨_, _, hrefuses⟩
        exact item_of_refuses hrefuses

theorem Child.of_child (hchild : child v segment = .ok (some w)) : Child v segment w := by
  cases v with
  | scalar s => cases hchild
  | dict entries => exact .entry (Except.ok.inj hchild)
  | list items =>
      obtain ⟨n, hnumber, hitem⟩ := numbers_of_item hchild
      exact .item hnumber hitem

/-- A step that is not stopped goes where its segment leads. -/
theorem Child.child_eq (hchild : Child v segment w)
    (hends : ∀ fault, child v segment ≠ .error fault) : child v segment = .ok (some w) := by
  cases hchild with
  | entry hentry => rw [child, hentry]
  | @item items _ n _ hnumber hitem =>
      have hread : ∀ fault, ¬ Refuses segment fault :=
        fun fault hrefuses => hends fault (child_eq_error_iff.2 ⟨items, rfl, hrefuses⟩)
      rw [child, item_of_numbers hnumber hread, hitem]

/-- What stops a lookup is a segment in a list that the segments before it lead to. -/
theorem leads_of_follow_error {names : List String} (hfollow : follow v names = .error fault) :
    ∃ before segment later items, names = before ++ segment :: later ∧
      Leads v before (.list items) ∧ Refuses segment fault := by
  induction names generalizing v with
  | nil => cases hfollow
  | cons segment rest ih =>
      rw [follow] at hfollow
      cases hchild : child v segment with
      | error other =>
          rw [hchild] at hfollow
          cases hfollow
          obtain ⟨items, rfl, hrefuses⟩ := child_eq_error_iff.1 hchild
          exact ⟨[], segment, rest, items, rfl, .here _, hrefuses⟩
      | ok found =>
          rw [hchild] at hfollow
          cases found with
          | none => cases hfollow
          | some u =>
              obtain ⟨before, last, later, items, rfl, hbefore, hrefuses⟩ := ih hfollow
              exact ⟨segment :: before, last, later, items, rfl, .step (.of_child hchild) hbefore,
                hrefuses⟩

theorem leads_of_follow {names : List String} (hfollow : follow v names = .ok (some w)) :
    Leads v names w := by
  induction names generalizing v with
  | nil =>
      cases hfollow
      exact .here _
  | cons segment rest ih =>
      rw [follow] at hfollow
      cases hchild : child v segment with
      | error fault =>
          rw [hchild] at hfollow
          cases hfollow
      | ok found =>
          rw [hchild] at hfollow
          cases found with
          | none => cases hfollow
          | some u => exact .step (.of_child hchild) (ih hfollow)

/-- A lookup goes on from where segments lead, unless it is stopped on the way. -/
theorem Leads.follow_append {before : List String} (hleads : Leads v before w)
    (later : List String) :
    (∃ fault, follow v (before ++ later) = .error fault) ∨
      follow v (before ++ later) = follow w later := by
  induction hleads with
  | here v => exact Or.inr rfl
  | @step v u w segment rest hchild hrest ih =>
      rw [List.cons_append, follow]
      by_cases hstops : ∃ fault, child v segment = .error fault
      · obtain ⟨fault, hfault⟩ := hstops
        exact Or.inl ⟨fault, by rw [hfault]⟩
      · rw [hchild.child_eq (not_exists.1 hstops)]
        exact ih

end Steps

end Path

/-- What a lookup by a path finds.  It is stopped exactly if the path has a segment of digits that
cannot be read as a number, and the segments before it lead to a list; and unless it is stopped, it
finds a value exactly if the segments lead there, one by one. -/
theorem path_walked (v : Value) (path : String) :
    (∀ fault, Path.find v path = .error fault →
      ∃ before segment later items, Path.segments path = before ++ segment :: later ∧
        Path.Leads v before (.list items) ∧ Path.Refuses segment fault) ∧
    (∀ before segment later items fault, Path.segments path = before ++ segment :: later →
      Path.Leads v before (.list items) → Path.Refuses segment fault →
      ∃ first, Path.find v path = .error first) ∧
    (∀ found, Path.find v path = .ok found →
      ∀ w, found = some w ↔ Path.Leads v (Path.segments path) w) := by
  refine ⟨fun fault => Path.leads_of_follow_error, ?_, ?_⟩
  · intro before segment later items fault hsegments hleads hrefuses
    rw [Path.find, hsegments]
    -- If nothing has stopped the lookup before it comes to the list, this segment does.
    rcases hleads.follow_append (segment :: later) with hstops | hgoes
    · exact hstops
    · refine ⟨fault, ?_⟩
      rw [hgoes, Path.follow, Path.child_eq_error_iff.2 ⟨items, rfl, hrefuses⟩]
  · intro found hfind w
    rw [Path.find] at hfind
    constructor
    · rintro rfl
      exact Path.leads_of_follow hfind
    · intro hleads
      have hgoes := hleads.follow_append []
      rw [List.append_nil, hfind, Path.follow] at hgoes
      rcases hgoes with ⟨fault, hstops⟩ | hgoes
      · cases hstops
      · exact Except.ok.inj hgoes

namespace WalkingWitness

def payload : Value := .dict [(.string "choices", .list [.int 10, .null])]

/-- A superscript is a digit, but not a decimal one. -/
theorem path_walked_to_superscript :
    Path.Leads payload ["choices"] (.list [.int 10, .null]) ∧
      Path.Refuses "²" (.malformed "²") ∧
      (∃ first, Path.find payload "choices.².name" = .error first) ∧
      Path.find payload ".choices..١" = .ok (some .null) ∧
      Path.Leads payload ["choices", "١"] .null := by
  have hlist : Path.Leads payload ["choices"] (.list [.int 10, .null]) :=
    .step (.entry rfl) (.here _)
  have hrefuses : Path.Refuses "²" (.malformed "²") :=
    .sign (List.all_eq_true.1 rfl) (by decide) ⟨'²', by decide, by decide⟩
  have hfind : Path.find payload ".choices..١" = .ok (some .null) := rfl
  have hleads : Path.Leads payload (Path.segments ".choices..١") .null :=
    ((path_walked payload ".choices..١").2.2 _ hfind _).1 rfl
  exact ⟨hlist, hrefuses,
    (path_walked payload "choices.².name").2.1 ["choices"] "²" ["name"] _ _ rfl hlist hrefuses,
    hfind, hleads⟩

end WalkingWitness

end EventIntake
