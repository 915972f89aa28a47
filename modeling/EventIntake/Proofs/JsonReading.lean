/-
What the JSON reader makes of a text.  The lists and dictionaries that are open while it reads hold
JSON values, none of them nested past the limit, and so does the value at the end.  The reader
gives up only on a text that opens more of them than the limit.
-/
import EventIntake.Proofs.JsonValue

namespace EventIntake

namespace Json

/-- A JSON value with room for it inside `level` lists and dictionaries. -/
def FitsAt [Limits] (level : Nat) (v : Value) : Prop :=
  v.MadeOf Scalar.IsJson ∧ level + v.depth ≤ Limits.reading

theorem fitsAt_scalar [Limits] {level : Nat} {s : Scalar} (hjson : s.IsJson)
    (hlevel : level ≤ Limits.reading) : FitsAt level (.scalar s) := by
  exact ⟨Value.madeOf_scalar_iff.2 hjson, by simpa using hlevel⟩

theorem fitsAt_list [Limits] {level : Nat} {items : List Value} (hlevel : level < Limits.reading)
    (hitems : ∀ v ∈ items, FitsAt (level + 1) v) : FitsAt level (.list items) := by
  refine ⟨?_, ?_⟩
  · rw [Value.MadeOf, Value.allMadeOf_iff]
    exact fun v hv => (hitems v hv).1
  · have hdepth : Value.depthOfItems items ≤ Limits.reading - (level + 1) := by
      rw [Value.depthOfItems_le_iff]
      intro v hv
      have hfits := (hitems v hv).2
      omega
    rw [Value.depth]
    omega

theorem fitsAt_dict_nil [Limits] {level : Nat} (hlevel : level < Limits.reading) :
    FitsAt level (.dict []) := by
  refine ⟨?_, ?_⟩
  · exact Value.madeOf_dict_iff.2 Entries.madeOf_nil
  · rw [Value.depth, Value.depthOfEntries]
    omega

namespace FitsAt

variable {level : Nat}

variable [Limits]

theorem lt_of_list {items : List Value} (hfits : FitsAt level (.list items)) :
    level < Limits.reading := by
  have hdepth := hfits.2
  rw [Value.depth] at hdepth
  omega

theorem mem {items : List Value} (hfits : FitsAt level (.list items)) {v : Value}
    (hv : v ∈ items) : FitsAt (level + 1) v := by
  obtain ⟨hmade, hdepth⟩ := hfits
  rw [Value.MadeOf, Value.allMadeOf_iff] at hmade
  rw [Value.depth] at hdepth
  have hle := Value.depth_le_of_mem hv
  exact ⟨hmade v hv, by omega⟩

theorem cons {items : List Value} (hfits : FitsAt level (.list items)) {v : Value}
    (hv : FitsAt (level + 1) v) : FitsAt level (.list (v :: items)) :=
  fitsAt_list hfits.lt_of_list (List.forall_mem_cons.2 ⟨hv, fun _ hw => hfits.mem hw⟩)

theorem reverse {items : List Value} (hfits : FitsAt level (.list items)) :
    FitsAt level (.list items.reverse) :=
  fitsAt_list hfits.lt_of_list fun _ hv => hfits.mem (List.mem_reverse.1 hv)

theorem lt_of_dict {entries : Entries} (hfits : FitsAt level (.dict entries)) :
    level < Limits.reading := by
  have hdepth := hfits.2
  rw [Value.depth] at hdepth
  omega

theorem insert {entries : Entries} (hfits : FitsAt level (.dict entries)) {key : Scalar}
    (hkey : key.isText = true) {v : Value} (hv : FitsAt (level + 1) v) :
    FitsAt level (.dict (Entries.insert key v entries)) := by
  obtain ⟨hmade, hdepth⟩ := hfits
  obtain ⟨hvmade, hvdepth⟩ := hv
  rw [Value.depth] at hdepth
  have hle := Value.depthOfEntries_insert_le key v entries
  refine ⟨?_, ?_⟩
  · exact Value.madeOf_dict_iff.2 ((Value.madeOf_dict_iff.1 hmade).insert
      (Scalar.isKey_isJson_iff.2 hkey) hvmade)
  · rw [Value.depth]
    omega

end FitsAt

/-- What an open list or dictionary holds so far fits inside `level` others. -/
def Frame.FitsAt [Limits] (level : Nat) : Frame → Prop
  | .list items => Json.FitsAt level (.list items)
  | .dict entries key => Json.FitsAt level (.dict entries) ∧ key.isText = true

/-- Each open list or dictionary fits inside those around it. -/
def StackFits [Limits] : List Frame → Prop
  | [] => True
  | frame :: stack => frame.FitsAt stack.length ∧ StackFits stack

/-- What the stage holds fits inside `level` lists and dictionaries. -/
def Stage.FitsAt [Limits] (level : Nat) : Stage → Prop
  | .value => True
  | .firstItem => Json.FitsAt level (.list [])
  | .afterItem items => Json.FitsAt level (.list items)
  | .firstName => Json.FitsAt level (.dict [])
  | .name entries => Json.FitsAt level (.dict entries)
  | .colon entries key => Json.FitsAt level (.dict entries) ∧ key.isText = true
  | .afterEntry entries => Json.FitsAt level (.dict entries)
  | .done v => Json.FitsAt 0 v

theorem StackFits.length_le [Limits] {stack : List Frame} (hfits : StackFits stack) :
    stack.length ≤ Limits.reading := by
  cases stack with
  | nil => exact Nat.zero_le _
  | cons frame rest =>
      cases frame with
      | list items => exact hfits.1.lt_of_list
      | dict entries key => exact hfits.1.1.lt_of_dict

namespace Progress

section

variable [Limits]

/-- What is held while reading. -/
structure Fits (p : Progress) : Prop where
  stack : StackFits p.stack
  stage : p.stage.FitsAt p.stack.length

theorem fits_start : start.Fits := ⟨trivial, trivial⟩

theorem fits_deliver {v : Value} {stack : List Frame} (hstack : StackFits stack)
    (hv : FitsAt stack.length v) : (deliver v stack).Fits := by
  cases stack with
  | nil => exact ⟨trivial, hv⟩
  | cons frame rest =>
      cases frame with
      | list items => exact ⟨hstack.2, hstack.1.cons hv⟩
      | dict entries key => exact ⟨hstack.2, hstack.1.1.insert hstack.1.2 hv⟩

variable {token : Token} {position : Nat}

theorem fits_of_readValue {stack : List Frame} {q : Progress} (hstack : StackFits stack)
    (hjson : ∀ s, token = .scalar s → s.IsJson)
    (hread : readValue stack token position = .ok q) : q.Fits := by
  cases token with
  | scalar s =>
      cases hread
      exact fits_deliver hstack (fitsAt_scalar (hjson s rfl) hstack.length_le)
  | openList =>
      rw [readValue] at hread
      split at hread
      next => cases hread
      next hroom =>
        cases hread
        exact ⟨hstack, fitsAt_list (Nat.lt_of_not_le hroom) (by simp)⟩
  | openDict =>
      rw [readValue] at hread
      split at hread
      next => cases hread
      next hroom =>
        cases hread
        exact ⟨hstack, fitsAt_dict_nil (Nat.lt_of_not_le hroom)⟩
  | _ => cases hread

end

/-- Behind the name of an entry a colon is due. -/
theorem exists_colon_of_readName {stack : List Frame} {entries : Entries} {q : Progress}
    (hread : readName stack entries token position = .ok q) :
    ∃ key, key.isText = true ∧ q = ⟨stack, .colon entries key⟩ := by
  unfold readName at hread
  split at hread
  next key =>
    split at hread
    next hkey =>
      cases hread
      exact ⟨key, hkey, rfl⟩
    next => cases hread
  next => cases hread
  next => cases hread

variable [Limits]

theorem fits_of_readName {stack : List Frame} {entries : Entries} {q : Progress}
    (hstack : StackFits stack) (hentries : FitsAt stack.length (.dict entries))
    (hread : readName stack entries token position = .ok q) : q.Fits := by
  obtain ⟨key, hkey, rfl⟩ := exists_colon_of_readName hread
  exact ⟨hstack, hentries, hkey⟩

/-- What a token does to progress, one case for each thing that its stage lets happen. -/
inductive Steps (token : Token) (position : Nat) : Progress → Except StepFault Progress → Prop where
  | value {stack : List Frame} :
      Steps token position ⟨stack, .value⟩ (readValue stack token position)
  | firstItem {stack : List Frame} :
      Steps token position ⟨stack, .firstItem⟩ (readValue (.list [] :: stack) token position)
  | firstName {stack : List Frame} :
      Steps token position ⟨stack, .firstName⟩ (readName stack [] token position)
  | name {stack : List Frame} {entries : Entries} :
      Steps token position ⟨stack, .name entries⟩ (readName stack entries token position)
  | closeEmptyList {stack : List Frame} :
      Steps token position ⟨stack, .firstItem⟩ (.ok (deliver (.list []) stack))
  | closeList {stack : List Frame} {items : List Value} :
      Steps token position ⟨stack, .afterItem items⟩ (.ok (deliver (.list items.reverse) stack))
  | closeEmptyDict {stack : List Frame} :
      Steps token position ⟨stack, .firstName⟩ (.ok (deliver (.dict []) stack))
  | closeDict {stack : List Frame} {entries : Entries} :
      Steps token position ⟨stack, .afterEntry entries⟩ (.ok (deliver (.dict entries) stack))
  | nextItem {stack : List Frame} {items : List Value} :
      Steps token position ⟨stack, .afterItem items⟩ (.ok ⟨.list items :: stack, .value⟩)
  | nextName {stack : List Frame} {entries : Entries} :
      Steps token position ⟨stack, .afterEntry entries⟩ (.ok ⟨stack, .name entries⟩)
  | entry {stack : List Frame} {entries : Entries} {key : Scalar} :
      Steps token position ⟨stack, .colon entries key⟩ (.ok ⟨.dict entries key :: stack, .value⟩)
  | unexpected {p : Progress} {problem : Problem} :
      Steps token position p (.error (.problem problem position))

theorem steps_step (p : Progress) (token : Token) (position : Nat) :
    Steps token position p (p.step token position) := by
  obtain ⟨stack, stage⟩ := p
  cases stage with
  | value => exact .value
  | firstItem =>
      simp only [Progress.step]
      split
      next => exact .closeEmptyList
      next => exact .firstItem
  | afterItem items =>
      simp only [Progress.step]
      split
      next => exact .closeList
      next => exact .nextItem
      next => exact .unexpected
  | firstName =>
      simp only [Progress.step]
      split
      next => exact .closeEmptyDict
      next => exact .firstName
  | name entries => exact .name
  | colon entries key =>
      simp only [Progress.step]
      split
      next => exact .entry
      next => exact .unexpected
  | afterEntry entries =>
      simp only [Progress.step]
      split
      next => exact .closeDict
      next => exact .nextName
      next => exact .unexpected
  | done v => exact .unexpected

/-- What is held fits after one more token. -/
theorem Fits.step {p q : Progress} (hp : p.Fits) (hjson : ∀ s, token = .scalar s → s.IsJson)
    (hstep : p.step token position = .ok q) : q.Fits := by
  have hsteps := p.steps_step token position
  generalize p.step token position = result at hstep hsteps
  cases hsteps with
  | value => exact fits_of_readValue hp.stack hjson hstep
  | firstItem =>
      have hopen : StackFits (.list [] :: _) := ⟨hp.stage, hp.stack⟩
      exact fits_of_readValue hopen hjson hstep
  | firstName => exact fits_of_readName hp.stack hp.stage hstep
  | name => exact fits_of_readName hp.stack hp.stage hstep
  | closeEmptyList | closeEmptyDict | closeDict =>
      cases hstep
      exact fits_deliver hp.stack hp.stage
  | closeList =>
      cases hstep
      exact fits_deliver hp.stack (FitsAt.reverse hp.stage)
  | nextItem | entry =>
      cases hstep
      exact ⟨⟨hp.stage, hp.stack⟩, trivial⟩
  | nextName =>
      cases hstep
      exact ⟨hp.stack, hp.stage⟩
  | unexpected => cases hstep

/-- So it does at the end of the text. -/
theorem Fits.run {tokens : List (Token × Nat)} {p : Progress} {size : Nat} {v : Value}
    (hp : p.Fits) (hjson : ∀ entry ∈ tokens, ∀ s, entry.1 = .scalar s → s.IsJson)
    (hrun : p.run size tokens = .ok v) : FitsAt 0 v := by
  induction tokens generalizing p with
  | nil =>
      rw [Progress.run, Progress.finish] at hrun
      split at hrun
      next hstage =>
        cases hrun
        have hdone := hp.stage
        rwa [hstage] at hdone
      all_goals cases hrun
  | cons entry rest ih =>
      obtain ⟨hfirst, hrest⟩ := List.forall_mem_cons.1 hjson
      rw [Progress.run] at hrun
      split at hrun
      next q hstep => exact ih (hp.step hfirst hstep) hrest hrun
      next => cases hrun

end Progress

theorem isJson_of_readWord? {cs : List Char} {token : Token} {count : Nat} {s : Scalar}
    (hread : readWord? cs = some (token, count)) (htoken : token = .scalar s) : s.IsJson := by
  have hwords : ∀ entry ∈ words, entry.2.IsJson := by
    simp [words, Scalar.IsJson, Binary64.IsStored]
  rw [readWord?, Option.map_eq_some_iff] at hread
  obtain ⟨entry, hfind, heq⟩ := hread
  cases heq
  cases htoken
  exact hwords entry (List.mem_of_find?_eq_some hfind)

theorem isJson_of_readNumber? {cs : List Char} {token : Token} {count : Nat} {s : Scalar}
    (hread : readNumber? cs = some (token, count)) (htoken : token = .scalar s) : s.IsJson := by
  subst htoken
  unfold readNumber? at hread
  extract_lets sign whole at hread
  split at hread
  next => cases hread
  next =>
    split at hread
    next =>
      split at hread
      next hinteger =>
        obtain ⟨hs, _⟩ := Prod.mk.inj (Option.some.inj hread)
        cases hs
        exact Number.natAbs_lt_of_readInteger hinteger
      next => cases hread
      next => cases hread
    next =>
      obtain ⟨x, hdecimal, heq⟩ := Option.map_eq_some_iff.1 hread
      obtain ⟨hs, _⟩ := Prod.mk.inj heq
      cases hs
      exact Number.isStored_of_readDecimal? hdecimal

theorem isJson_of_readPlain {cs : List Char} {s : Scalar} (hread : (readPlain cs).1 = .scalar s) :
    s.IsJson := by
  rw [readPlain] at hread
  cases hword : readWord? cs with
  | some entry =>
      simp only [hword, Option.orElse_some] at hread
      exact isJson_of_readWord? hword hread
  | none =>
      simp only [hword, Option.orElse_none] at hread
      cases hnumber : readNumber? cs with
      | some entry =>
          simp only [hnumber] at hread
          exact isJson_of_readNumber? hnumber hread
      | none => simp [hnumber] at hread

/-- The scalars among the tokens of a text are those of JSON. -/
theorem isJson_of_mem_tokensFrom {cs : List Char} {position : Nat} :
    ∀ entry ∈ tokensFrom position cs, ∀ s, entry.1 = .scalar s → s.IsJson := by
  fun_induction tokensFrom position cs with
  | case1 => simp
  | case2 position c rest hspace ih => exact ih
  | case3 position rest read hread _ ih =>
      refine List.forall_mem_cons.2 ⟨?_, ih⟩
      rintro s ⟨⟩
      exact Scalar.isJson_ofPoints read.points
  | case4 => simp
  | case5 position c rest hspace hquote token hmark ih =>
      refine List.forall_mem_cons.2 ⟨?_, ih⟩
      rintro s rfl
      unfold mark? at hmark
      repeat' split at hmark
      all_goals simp at hmark
  | case6 position c rest hspace hquote hmark token more hplain ih =>
      refine List.forall_mem_cons.2 ⟨?_, ih⟩
      intro s hs
      exact isJson_of_readPlain (by rw [hplain]; exact hs)

theorem isJson_of_mem_restored {points : List Point} {tokens : List (Token × Nat)}
    (hjson : ∀ entry ∈ tokens, ∀ s, entry.1 = .scalar s → s.IsJson) :
    ∀ entry ∈ tokens.map (restoreToken points), ∀ s, entry.1 = .scalar s → s.IsJson := by
  rw [List.forall_mem_map]
  rintro ⟨token, position⟩ hmem s hs
  cases token with
  | scalar t =>
      cases hs
      split
      next => exact Scalar.isJson_ofPoints _
      next => exact hjson _ hmem t rfl
  | _ => cases hs

section

variable [Limits] {v : Value}

theorem fitsAt_of_readTokens {cs : List Char} {tokens : List (Token × Nat)}
    (hjson : ∀ entry ∈ tokens, ∀ s, entry.1 = .scalar s → s.IsJson)
    (hread : readTokens cs tokens = .ok v) : FitsAt 0 v := by
  rw [readTokens] at hread
  split at hread
  next w hrun =>
    cases hread
    exact Progress.fits_start.run hjson hrun
  all_goals cases hread

/-- What a text is read as is a JSON value within the limit of nesting. -/
theorem fitsAt_of_read {text : String} (hread : read text = .ok v) : FitsAt 0 v := by
  rw [read, readChars] at hread
  split at hread
  next => cases hread
  next => exact fitsAt_of_readTokens isJson_of_mem_tokensFrom hread

/-- So is what points are read as. -/
theorem fitsAt_of_readPoints {points : List Point} (hread : readPoints points = .ok v) :
    FitsAt 0 v := by
  simp only [readPoints] at hread
  split at hread
  next => cases hread
  next => exact fitsAt_of_readTokens (isJson_of_mem_restored isJson_of_mem_tokensFrom) hread

end

/-- A bracket that opens a list or a dictionary. -/
def Token.opens : Token → Bool
  | .openList => true
  | .openDict => true
  | _ => false

/-- How many lists and dictionaries a text opens. -/
def openings (text : String) : Nat :=
  (tokens text.toList).countP fun entry => entry.1.opens

namespace Progress

/-- The lists and dictionaries that are open, with the one that is about to get its parts. -/
def level (p : Progress) : Nat :=
  match p.stage with
  | .value => p.stack.length
  | .done _ => p.stack.length
  | _ => p.stack.length + 1

variable {token : Token} {position : Nat}

theorem level_deliver_le (v : Value) (stack : List Frame) :
    (deliver v stack).level ≤ stack.length := by
  cases stack with
  | nil => exact Nat.le_refl _
  | cons frame rest => cases frame <;> exact Nat.le_refl _

theorem level_of_readValue [Limits] {stack : List Frame} {q : Progress}
    (hread : readValue stack token position = .ok q) :
    q.level ≤ stack.length + if token.opens then 1 else 0 := by
  cases token with
  | scalar s =>
      cases hread
      exact level_deliver_le _ _
  | openList =>
      rw [readValue] at hread
      split at hread
      next => cases hread
      next =>
        cases hread
        exact Nat.le_refl _
  | openDict =>
      rw [readValue] at hread
      split at hread
      next => cases hread
      next =>
        cases hread
        exact Nat.le_refl _
  | _ => cases hread

theorem level_of_readName {stack : List Frame} {entries : Entries} {q : Progress}
    (hread : readName stack entries token position = .ok q) : q.level = stack.length + 1 := by
  obtain ⟨key, _, rfl⟩ := exists_colon_of_readName hread
  rfl

/-- A token opens one list or dictionary at most. -/
theorem level_of_step [Limits] {p q : Progress} (hstep : p.step token position = .ok q) :
    q.level ≤ p.level + if token.opens then 1 else 0 := by
  have hsteps := p.steps_step token position
  generalize p.step token position = result at hstep hsteps
  cases hsteps with
  | value => exact level_of_readValue hstep
  | firstItem => exact level_of_readValue hstep
  | firstName => exact level_of_readName hstep ▸ Nat.le_add_right _ _
  | name => exact level_of_readName hstep ▸ Nat.le_add_right _ _
  | closeEmptyList | closeList | closeEmptyDict | closeDict =>
      cases hstep
      exact Nat.le_add_right_of_le (Nat.le_succ_of_le (level_deliver_le _ _))
  | nextItem | nextName | entry =>
      cases hstep
      exact Nat.le_add_right _ _
  | unexpected => cases hstep

theorem le_length_of_readValue_tooDeep [Limits] {stack : List Frame}
    (hread : readValue stack token position = .error .tooDeep) :
    Limits.reading ≤ stack.length ∧ token.opens = true := by
  cases token with
  | openList =>
      rw [readValue] at hread
      split at hread
      next hfull => exact ⟨hfull, rfl⟩
      next => cases hread
  | openDict =>
      rw [readValue] at hread
      split at hread
      next hfull => exact ⟨hfull, rfl⟩
      next => cases hread
  | broken opens fault => cases fault <;> cases hread
  | _ => cases hread

theorem readName_ne_tooDeep {stack : List Frame} {entries : Entries} :
    readName stack entries token position ≠ .error .tooDeep := by
  unfold readName
  split
  next => split <;> simp
  next fault => cases fault <;> simp [StepFault.ofScalar]
  next => simp

theorem le_level_of_step_tooDeep [Limits] {p : Progress}
    (hstep : p.step token position = .error .tooDeep) :
    Limits.reading ≤ p.level ∧ token.opens = true := by
  have hsteps := p.steps_step token position
  generalize p.step token position = result at hstep hsteps
  cases hsteps with
  | value => exact le_length_of_readValue_tooDeep hstep
  | firstItem => exact le_length_of_readValue_tooDeep hstep
  | firstName => exact absurd hstep readName_ne_tooDeep
  | name => exact absurd hstep readName_ne_tooDeep
  | _ => cases hstep

theorem finish_ne_tooDeep (p : Progress) (position : Nat) :
    p.finish position ≠ .error .tooDeep := by
  unfold finish
  split <;> simp

/-- Reading gives up only after tokens that open more than the limit. -/
theorem lt_level_of_run_tooDeep [Limits] {tokens : List (Token × Nat)} {p : Progress} {size : Nat}
    (hrun : p.run size tokens = .error .tooDeep) :
    Limits.reading < p.level + tokens.countP fun entry => entry.1.opens := by
  induction tokens generalizing p with
  | nil => exact absurd hrun (finish_ne_tooDeep p size)
  | cons entry rest ih =>
      obtain ⟨token, position⟩ := entry
      rw [Progress.run] at hrun
      rw [List.countP_cons]
      split at hrun
      next q hstep =>
        have hlevel := level_of_step hstep
        have hlt := ih hrun
        dsimp only
        omega
      next fault hstep =>
        cases hrun
        obtain ⟨hfull, hopens⟩ := le_level_of_step_tooDeep hstep
        rw [if_pos hopens]
        omega

end Progress

theorem opens_restoreToken (points : List Point) (entry : Token × Nat) :
    (restoreToken points entry).1.opens = entry.1.opens := by
  obtain ⟨token, position⟩ := entry
  cases token <;> rfl

section

variable [Limits]

theorem lt_countP_of_readTokens_tooDeep {cs : List Char} {tokens : List (Token × Nat)}
    (hread : readTokens cs tokens = .error .tooDeep) :
    Limits.reading < tokens.countP fun entry => entry.1.opens := by
  rw [readTokens] at hread
  split at hread
  next => cases hread
  next => cases hread
  next => cases hread
  next hrun => simpa [Progress.level, Progress.start] using Progress.lt_level_of_run_tooDeep hrun

theorem lt_openings_of_read_tooDeep {text : String} (hread : read text = .error .tooDeep) :
    Limits.reading < openings text := by
  rw [read, readChars] at hread
  split at hread
  next => cases hread
  next => exact lt_countP_of_readTokens_tooDeep hread

theorem lt_openings_of_readPoints_tooDeep {text : Halved}
    (hread : readPoints text.points = .error .tooDeep) : Limits.reading < openings text.filled := by
  simp only [readPoints] at hread
  split at hread
  next => cases hread
  next =>
    have hlt := lt_countP_of_readTokens_tooDeep hread
    simpa [openings, Halved.filled, List.countP_map, Function.comp_def, opens_restoreToken]
      using hlt

end

end Json

end EventIntake
