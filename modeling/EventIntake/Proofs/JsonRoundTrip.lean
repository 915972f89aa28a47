/-
Reading what has been written.  The reader follows the tokens of a value into whatever is open
around it, and so it reads a written text as the value that has been written.
-/
import EventIntake.Json.Reader
import EventIntake.Proofs.JsonTokens
import EventIntake.Transform.Builtin

namespace EventIntake

namespace Json

namespace Progress

/-- The progress after some tokens, wherever they stand. -/
def advance [Limits] (p : Progress) : List Token → Option Progress
  | [] => some p
  | token :: rest =>
    match p.step token 0 with
    | .ok q => q.advance rest
    | .error _ => none

theorem readValue_ok [Limits] {stack : List Frame} {token : Token} {q : Progress} {position : Nat}
    (hread : readValue stack token 0 = .ok q) : readValue stack token position = .ok q := by
  cases token with
  | scalar s => exact hread
  | openList => exact hread
  | openDict => exact hread
  | broken opens fault => exact hread
  | _ => cases hread

theorem readName_ok {stack : List Frame} {entries : Entries} {token : Token} {q : Progress}
    {position : Nat} (hread : readName stack entries token 0 = .ok q) :
    readName stack entries token position = .ok q := by
  unfold readName at hread ⊢
  split at hread
  next other =>
    split at hread
    next hother =>
      rw [if_pos hother]
      exact hread
    next => cases hread
  next => cases hread
  next => cases hread

variable [Limits]

/-- A step that succeeds does so wherever its token stands. -/
theorem step_ok {p q : Progress} {token : Token} {position : Nat}
    (hstep : p.step token 0 = .ok q) : p.step token position = .ok q := by
  obtain ⟨stack, stage⟩ := p
  cases stage with
  | value => exact readValue_ok hstep
  | firstItem =>
      simp only [step] at hstep ⊢
      split at hstep
      next => exact hstep
      next => exact readValue_ok hstep
  | afterItem items => cases token <;> first | exact hstep | cases hstep
  | firstName =>
      simp only [step] at hstep ⊢
      split at hstep
      next => exact hstep
      next => exact readName_ok hstep
  | name entries => exact readName_ok hstep
  | colon entries key => cases token <;> first | exact hstep | cases hstep
  | afterEntry entries => cases token <;> first | exact hstep | cases hstep
  | done v => cases hstep

theorem run_of_advance {tokens : List (Token × Nat)} {p : Progress} {stack : List Frame}
    {v : Value} {size : Nat} (hadvance : p.advance (tokens.map Prod.fst) = some ⟨stack, .done v⟩) :
    p.run size tokens = .ok v := by
  induction tokens generalizing p with
  | nil =>
      cases hadvance
      rfl
  | cons entry rest ih =>
      obtain ⟨token, position⟩ := entry
      rw [List.map_cons, advance] at hadvance
      split at hadvance
      next q hstep =>
        rw [run, step_ok hstep]
        exact ih hadvance
      next => cases hadvance

/-- What a value starts with does not close the list before it. -/
theorem advance_firstItem (v : Value) (stack : List Frame) (more : List Token) :
    advance ⟨stack, .firstItem⟩ (v.tokens ++ more) =
      advance ⟨.list [] :: stack, .value⟩ (v.tokens ++ more) := by
  cases v with
  | scalar s => rfl
  | list items => cases items <;> rfl
  | dict entries =>
      cases entries with
      | nil => rfl
      | cons entry rest => rfl

theorem advance_openList {stack : List Frame} (hroom : stack.length < Limits.reading)
    (more : List Token) :
    advance ⟨stack, .value⟩ (.openList :: more) = advance ⟨stack, .firstItem⟩ more := by
  have hstep : step ⟨stack, .value⟩ .openList 0 = .ok ⟨stack, .firstItem⟩ :=
    if_neg (Nat.not_le.2 hroom)
  rw [advance, hstep]

theorem advance_openDict {stack : List Frame} (hroom : stack.length < Limits.reading)
    (more : List Token) :
    advance ⟨stack, .value⟩ (.openDict :: more) = advance ⟨stack, .firstName⟩ more := by
  have hstep : step ⟨stack, .value⟩ .openDict 0 = .ok ⟨stack, .firstName⟩ :=
    if_neg (Nat.not_le.2 hroom)
  rw [advance, hstep]

mutual

/-- The tokens of a value are read as the value, whatever is open around it. -/
theorem advance_tokens : {v : Value} → {stack : List Frame} → {more : List Token} →
    v.MadeOf Scalar.IsExact → stack.length + v.depth ≤ Limits.reading →
      advance ⟨stack, .value⟩ (v.tokens ++ more) = (deliver v stack).advance more
  | .scalar s, stack, more, _, _ => by
      rw [Value.tokens]
      rfl
  | .list [], stack, more, _, hdepth => by
      rw [Value.depth] at hdepth
      rw [Value.tokens, List.cons_append, advance_openList (by omega)]
      rfl
  | .dict [], stack, more, _, hdepth => by
      rw [Value.depth] at hdepth
      rw [Value.tokens, List.cons_append, advance_openDict (by omega)]
      rfl
  | .list (v :: rest), stack, more, hmade, hdepth => by
      rw [Value.MadeOf, Value.AllMadeOf] at hmade
      rw [Value.depth, Value.depthOfItems] at hdepth
      have hv : (Frame.list [] :: stack).length + v.depth ≤ Limits.reading := by
        rw [List.length_cons]
        omega
      rw [Value.tokens, List.cons_append, advance_openList (by omega), List.append_assoc,
        List.append_assoc, List.singleton_append, advance_firstItem, advance_tokens hmade.1 hv]
      exact advance_itemTokens hmade.2 (by omega)
  | .dict ((key, v) :: rest), stack, more, hmade, hdepth => by
      rw [Value.MadeOf, Entries.MadeOf] at hmade
      obtain ⟨hkey, hfresh, hvmade, hrest⟩ := hmade
      obtain ⟨name, rfl⟩ := hkey.exists_string
      rw [Value.depth, Value.depthOfEntries] at hdepth
      have hv : (Frame.dict [] (.string name) :: stack).length + v.depth ≤ Limits.reading := by
        rw [List.length_cons]
        omega
      have hothers : ∀ key ∈ rest.map Prod.fst,
          key ∉ ([(Scalar.string name, v)] : Entries).map Prod.fst := by
        intro key hkey hsame
        obtain rfl : key = .string name := List.mem_singleton.1 hsame
        exact hfresh hkey
      rw [Value.tokens, List.cons_append, advance_openDict (by omega), List.cons_append,
        List.cons_append, List.append_assoc, List.append_assoc, List.singleton_append]
      change advance ⟨.dict [] (.string name) :: stack, .value⟩ _ = _
      rw [advance_tokens hvmade hv]
      exact advance_entryTokens hrest hothers (by omega)

/-- The tokens of further items are read behind those before. -/
theorem advance_itemTokens : {rest : List Value} → {items : List Value} → {stack : List Frame} →
    {more : List Token} → Value.AllMadeOf Scalar.IsExact rest →
      stack.length + 1 + Value.depthOfItems rest ≤ Limits.reading →
        advance ⟨stack, .afterItem items⟩ (Value.itemTokens rest ++ .closeList :: more) =
          (deliver (.list (items.reverse ++ rest)) stack).advance more
  | [], items, stack, more, _, _ => by
      rw [Value.itemTokens, List.append_nil]
      rfl
  | v :: rest, items, stack, more, hmade, hdepth => by
      rw [Value.AllMadeOf] at hmade
      rw [Value.depthOfItems] at hdepth
      have hv : (Frame.list items :: stack).length + v.depth ≤ Limits.reading := by
        rw [List.length_cons]
        omega
      have hrest : advance ⟨stack, .afterItem (v :: items)⟩
          (Value.itemTokens rest ++ .closeList :: more) =
            (deliver (.list ((v :: items).reverse ++ rest)) stack).advance more :=
        advance_itemTokens hmade.2 (by omega)
      rw [Value.itemTokens, List.cons_append, List.append_assoc]
      change advance ⟨.list items :: stack, .value⟩ _ = _
      rw [advance_tokens hmade.1 hv]
      rw [List.reverse_cons, List.append_assoc, List.singleton_append] at hrest
      exact hrest

/-- The tokens of further entries are read behind those before. -/
theorem advance_entryTokens : {rest : Entries} → {entries : Entries} → {stack : List Frame} →
    {more : List Token} → Entries.MadeOf Scalar.IsExact rest →
      (∀ key ∈ rest.map Prod.fst, key ∉ entries.map Prod.fst) →
        stack.length + 1 + Value.depthOfEntries rest ≤ Limits.reading →
          advance ⟨stack, .afterEntry entries⟩ (Value.entryTokens rest ++ .closeDict :: more) =
            (deliver (.dict (entries ++ rest)) stack).advance more
  | [], entries, stack, more, _, _, _ => by
      rw [Value.entryTokens, List.append_nil]
      rfl
  | (key, v) :: rest, entries, stack, more, hmade, hfresh, hdepth => by
      rw [Entries.MadeOf] at hmade
      obtain ⟨hkey, hother, hvmade, hrest⟩ := hmade
      obtain ⟨name, rfl⟩ := hkey.exists_string
      rw [Value.depthOfEntries] at hdepth
      obtain ⟨hname, hlater⟩ := List.forall_mem_cons.1 hfresh
      have hv : (Frame.dict entries (.string name) :: stack).length + v.depth ≤ Limits.reading := by
        rw [List.length_cons]
        omega
      have hbefore : ∀ key ∈ rest.map Prod.fst,
          key ∉ (entries ++ [(Scalar.string name, v)]).map Prod.fst := by
        intro key hkey hsame
        rw [List.map_append, List.mem_append, List.map_singleton, List.mem_singleton] at hsame
        rcases hsame with hthere | rfl
        · exact hlater key hkey hthere
        · exact hother hkey
      rw [Value.entryTokens, List.cons_append, List.cons_append, List.cons_append,
        List.append_assoc]
      change advance ⟨.dict entries (.string name) :: stack, .value⟩ _ = _
      rw [advance_tokens hvmade hv, deliver, Entries.insert_of_not_mem rfl hname,
        advance_entryTokens hrest hbefore (by omega), List.append_assoc, List.singleton_append]

end

end Progress

/-- No written text begins with a mark of its byte order. -/
theorem head?_ne_byteOrderMark {cs : List Char} {v : Value} (hwrites : Writes cs v.tokens) :
    cs.head? ≠ some byteOrderMark := by
  intro hhead
  cases cs with
  | nil => cases hhead
  | cons c rest =>
      obtain rfl : c = byteOrderMark := by simpa using hhead
      have hplain : readPlain (byteOrderMark :: rest) = (.stray, 0) := rfl
      have hmark : mark? byteOrderMark = none := rfl
      have hstray : tokensFrom 0 (byteOrderMark :: rest) = (.stray, 0) :: tokensFrom 1 rest := by
        rw [tokensFrom, if_neg (by decide), if_neg (by decide), hmark, hplain]
        rfl
      obtain ⟨next, htokens⟩ := hwrites 0 [] ends_nil
      rw [List.append_nil, hstray, List.map_cons] at htokens
      cases v with
      | scalar s => cases htokens
      | list items => cases items <;> cases htokens
      | dict entries =>
          cases entries with
          | nil => cases htokens
          | cons entry more => cases htokens

/-- A text that has been written in a readable layout is read as the value that has been written. -/
theorem read_write [Limits] {layout : Layout} (hlayout : layout.IsReadable) {v : Value}
    {text : String}
    (hexact : v.MadeOf Scalar.IsExact) (hdepth : v.depth ≤ Limits.reading)
    (hwrite : layout.write v = .ok text) : read text = .ok v := by
  have hwrites : Writes text.toList v.tokens := Layout.writes_writeAt hlayout hexact hwrite
  obtain ⟨next, htokens⟩ := hwrites 0 [] ends_nil
  have hnone : tokensFrom next [] = [] := by rw [tokensFrom]
  rw [List.append_nil, hnone, List.map_nil, List.append_nil] at htokens
  have hadvance : Progress.start.advance ((tokens text.toList).map Prod.fst) =
      some ⟨[], .done v⟩ := by
    have hvalue : Progress.advance ⟨[], .value⟩ (v.tokens ++ []) =
        (Progress.deliver v []).advance [] :=
      Progress.advance_tokens hexact (by simpa using hdepth)
    rw [List.append_nil] at hvalue
    rw [tokens, htokens]
    exact hvalue
  rw [read, readChars, if_neg (head?_ne_byteOrderMark hwrites), readTokens,
    Progress.run_of_advance hadvance]

theorem isReadable_compact : compact.IsReadable :=
  ⟨⟨[], rfl, by simp⟩, ⟨[], rfl, by simp⟩⟩

/-- Every scalar that is read as it is written is written. -/
theorem exists_scalar (layout : Layout) {s : Scalar} (hexact : s.IsExact) :
    ∃ text : String, layout.scalar s = .ok text := by
  cases s with
  | null => exact ⟨_, rfl⟩
  | bool b => exact ⟨_, rfl⟩
  | int n => exact ⟨_, layout.scalar_int (Scalar.isTooLong_int_eq_false.2 hexact)⟩
  | string t => exact ⟨_, rfl⟩
  | halved t => cases hexact
  | float x => cases hexact
  | moment m => cases hexact
  | date d => cases hexact

end Json

open Transform in
/-- A value of truth values, texts and integers that are not too long, in lists and in dictionaries
by texts, has a text, unless it is nested too deeply; the text is read as the value, with all keys
in their order, and the value that has been read has the same text again. -/
theorem json_restored [Limits] {v : Value} (hexact : v.MadeOf Scalar.IsExact)
    (hwritten : v.depth ≤ Limits.writing) (hread : v.depth ≤ Limits.reading)
    (params others : Entries) :
    ∃ text, Builtin.run .jsonStringify params v = .ok (.string text) ∧
      Builtin.run .jsonParse others (.string text) = .ok v ∧
      (Builtin.run .jsonParse others (.string text)).bind (Builtin.run .jsonStringify params) =
        .ok (.string text) := by
  have hroom : 0 + v.depth ≤ Limits.writing := by rwa [Nat.zero_add]
  obtain ⟨text, hwrite⟩ :=
    Json.Layout.exists_writeAt (fun _ => Json.exists_scalar Json.compact) hexact hroom
  have hvalue : Json.read text = .ok v :=
    Json.read_write Json.isReadable_compact hexact hread hwrite
  have hstringify : Builtin.run .jsonStringify params v = .ok (.string text) := by
    rw [Builtin.run, Builtin.stringify, Json.Layout.write, hwrite]
  have hparse : Builtin.run .jsonParse others (.string text) = .ok v := by
    rw [Builtin.run, hvalue]
    rfl
  refine ⟨text, hstringify, hparse, ?_⟩
  rw [hparse]
  exact hstringify

namespace JsonWitness

local instance : Limits := .standard

open Transform

/-- Keys that are not in order, a quote, a backslash, a control character and a character of four
bytes, a long integer, and empty parts. -/
def value : Value :=
  .dict [
    (.string "z\"", .list [.null, .bool true, .int (-100000000000000000000), .list [], .dict []]),
    (.string "", .string "a\\\n\x01😀")]

def text : String :=
  "\x7b\"z\\\"\":[null,true,-100000000000000000000,[],\x7b\x7d],\"\":\"a\\\\\\n\\u0001😀\"\x7d"

theorem json_restored_with_escapes :
    value.MadeOf Scalar.IsExact ∧ value.depth ≤ Limits.writing ∧ value.depth ≤ Limits.reading ∧
      Builtin.run .jsonStringify [] value = .ok (.string text) ∧
      Builtin.run .jsonParse [] (.string text) = .ok value := by
  have hlong : (Scalar.int (-100000000000000000000)).IsExact := by
    rw [Scalar.IsExact]
    decide +kernel
  have hexact : value.MadeOf Scalar.IsExact := by
    simp only [value, Value.MadeOf, Value.AllMadeOf, Entries.MadeOf, hlong]
    simp [Scalar.IsExact]
  have hwritten : value.depth ≤ Limits.writing := by decide
  have hread : value.depth ≤ Limits.reading := by decide
  have hwrite : Builtin.run .jsonStringify [] value = .ok (.string text) := by
    have hquote : ∀ {s t : String},
        t.toList = '"' :: (s.toList.flatMap (Json.escapeChar false) ++ ['"']) →
          Json.quote false s = t :=
      fun htext => String.toList_inj.1 ((Json.toList_quote false _).trans htext.symm)
    have hkey : Json.quote false "z\"" = "\"z\\\"\"" := hquote (by decide +kernel)
    have hempty : Json.quote false "" = "\"\"" := hquote (by decide +kernel)
    have hescaped : Json.quote false "a\\\n\x01😀" = "\"a\\\\\\n\\u0001😀\"" :=
      hquote (by decide +kernel)
    have htext : Json.compact.write value = .ok text := by
      simp only [Json.Layout.write, value, Json.Layout.writeAt, Json.Layout.writeItems,
        Json.Layout.writeEntries, Json.Layout.key, Json.Layout.scalar, Json.compact, hkey, hempty,
        hescaped]
      decide +kernel
    rw [Builtin.run, Builtin.stringify, htext]
  obtain ⟨_, hgives, hrestored, _⟩ := json_restored hexact hwritten hread [] []
  rw [hwrite] at hgives
  cases hgives
  exact ⟨hexact, hwritten, hread, hwrite, hrestored⟩

end JsonWitness

end EventIntake
