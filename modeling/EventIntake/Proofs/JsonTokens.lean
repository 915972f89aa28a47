/-
The tokens of a text that has been written: those of the value, whatever layout it has been written
in.  A piece of a text has its tokens wherever it stands, but for a number, behind which nothing may
stand that could go on with it.
-/
import EventIntake.Json.Writer
import EventIntake.Proofs.Digits
import EventIntake.Proofs.JsonValue

namespace EventIntake

namespace Text

theorem hexValue?_hexDigit {n : Nat} (hn : n < 16) : hexValue? (hexDigit n) = some n := by
  have hall : ∀ m : Fin 16, hexValue? (hexDigit m) = some m.val := by decide
  exact hall ⟨n, hn⟩

theorem length_hexDigits (width n : Nat) : (hexDigits width n).length = width := by
  induction width generalizing n with
  | zero => rfl
  | succ width ih => rw [hexDigits, List.length_append, ih, List.length_singleton]

/-- Digits enough are read as the number that they write. -/
theorem hexNumber?_hexDigits {width n : Nat} (hn : n < Nat.pow 16 width) :
    hexNumber? (hexDigits width n) = some n := by
  induction width generalizing n with
  | zero =>
      obtain rfl : n = 0 := by simpa using hn
      rfl
  | succ width ih =>
      have hupper : n / 16 < Nat.pow 16 width :=
        Nat.div_lt_of_lt_mul (by rwa [Nat.pow_eq, Nat.pow_succ, Nat.mul_comm] at hn)
      have hupper := ih hupper
      rw [hexNumber?] at hupper
      rw [hexDigits, hexNumber?, List.foldl_append, hupper, List.foldl_cons, List.foldl_nil,
        hexValue?_hexDigit (Nat.mod_lt n (by decide))]
      have hsplit : 16 * (n / 16) + n % 16 = n := Nat.div_add_mod n 16
      simp [hsplit]

end Text

namespace Json

/-- What stands at the beginning of a text does not go on with a number. -/
def Ends (cs : List Char) : Prop :=
  ∀ c, cs.head? = some c → ¬ (Text.isAsciiDigit c = true ∨ c = '.' ∨ c = 'e' ∨ c = 'E')

theorem ends_nil : Ends [] := by simp [Ends]

theorem ends_cons {c : Char} {cs : List Char}
    (hc : ¬ (Text.isAsciiDigit c = true ∨ c = '.' ∨ c = 'e' ∨ c = 'E')) : Ends (c :: cs) := by
  simpa [Ends] using hc

theorem Ends.append {cs rest : List Char} (hcs : Ends cs) (hrest : Ends rest) :
    Ends (cs ++ rest) := by
  cases cs with
  | nil => exact hrest
  | cons c cs => exact hcs

/-- The tokens of a piece of a text, wherever it stands and whatever follows it. -/
def Opens (cs : List Char) (tokens : List Token) : Prop :=
  ∀ position rest, ∃ next, (tokensFrom position (cs ++ rest)).map Prod.fst =
    tokens ++ (tokensFrom next rest).map Prod.fst

/-- The tokens of a piece of a text, wherever it stands, if nothing that follows it goes on with a
number. -/
def Writes (cs : List Char) (tokens : List Token) : Prop :=
  ∀ position rest, Ends rest → ∃ next, (tokensFrom position (cs ++ rest)).map Prod.fst =
    tokens ++ (tokensFrom next rest).map Prod.fst

variable {cs ds : List Char} {tokens more : List Token}

theorem Opens.writes (hopens : Opens cs tokens) : Writes cs tokens :=
  fun position rest _ => hopens position rest

theorem opens_nil : Opens [] [] := fun position _ => ⟨position, rfl⟩

theorem Opens.append (hcs : Opens cs tokens) (hds : Opens ds more) :
    Opens (cs ++ ds) (tokens ++ more) := by
  intro position rest
  obtain ⟨middle, hmiddle⟩ := hcs position (ds ++ rest)
  obtain ⟨next, hnext⟩ := hds middle rest
  exact ⟨next, by rw [List.append_assoc, hmiddle, hnext, List.append_assoc]⟩

theorem Opens.append_writes (hcs : Opens cs tokens) (hds : Writes ds more) :
    Writes (cs ++ ds) (tokens ++ more) := by
  intro position rest hrest
  obtain ⟨middle, hmiddle⟩ := hcs position (ds ++ rest)
  obtain ⟨next, hnext⟩ := hds middle rest hrest
  exact ⟨next, by rw [List.append_assoc, hmiddle, hnext, List.append_assoc]⟩

theorem Writes.append (hcs : Writes cs tokens) (hends : Ends ds) (hds : Writes ds more) :
    Writes (cs ++ ds) (tokens ++ more) := by
  intro position rest hrest
  obtain ⟨middle, hmiddle⟩ := hcs position (ds ++ rest) (hends.append hrest)
  obtain ⟨next, hnext⟩ := hds middle rest hrest
  exact ⟨next, by rw [List.append_assoc, hmiddle, hnext, List.append_assoc]⟩

/-- Blanks have no tokens. -/
theorem opens_blanks (hblanks : ∀ c ∈ cs, isSpace c = true) : Opens cs [] := by
  induction cs with
  | nil => exact opens_nil
  | cons c cs ih =>
      obtain ⟨hc, hcs⟩ := List.forall_mem_cons.1 hblanks
      intro position rest
      obtain ⟨next, hnext⟩ := ih hcs (position + 1) rest
      refine ⟨next, ?_⟩
      rw [List.cons_append, tokensFrom, if_pos hc, hnext]

/-- A mark is a token. -/
theorem opens_mark {c : Char} {token : Token} (hmark : mark? c = some token)
    (hspace : isSpace c = false) (hquote : c ≠ '"') : Opens [c] [token] := by
  intro position rest
  refine ⟨position + 1, ?_⟩
  rw [List.cons_append, tokensFrom, hspace, if_neg Bool.false_ne_true, if_neg hquote, hmark]
  rfl

/-- A word or a number is a token. -/
theorem map_tokensFrom_plain {c : Char} {rest : List Char} {s : Scalar} (hmark : mark? c = none)
    (hspace : isSpace c = false) (hquote : c ≠ '"')
    (hplain : readPlain (c :: (cs ++ rest)) = (.scalar s, cs.length)) (position : Nat) :
    (tokensFrom position (c :: cs ++ rest)).map Prod.fst =
      [.scalar s] ++ (tokensFrom (position + 1 + cs.length) rest).map Prod.fst := by
  rw [List.cons_append, tokensFrom, hspace, if_neg Bool.false_ne_true, if_neg hquote, hmark,
    hplain]
  dsimp only
  rw [List.drop_left, List.map_cons]
  rfl

theorem opens_null : Opens "null".toList [.scalar .null] :=
  fun position _ => ⟨position + 1 + 3, map_tokensFrom_plain rfl rfl (by decide) rfl position⟩

theorem opens_bool (b : Bool) :
    Opens (if b then "true" else "false").toList [.scalar (.bool b)] := by
  intro position rest
  cases b with
  | true =>
      exact ⟨position + 1 + 3, map_tokensFrom_plain rfl rfl (by decide) rfl position⟩
  | false =>
      exact ⟨position + 1 + 4, map_tokensFrom_plain rfl rfl (by decide) rfl position⟩

theorem digitCount_append {rest : List Char} (hdigits : ∀ c ∈ cs, c.isDigit = true)
    (hrest : Ends rest) : digitCount (cs ++ rest) = cs.length := by
  have hnone : rest.takeWhile Text.isAsciiDigit = [] := by
    cases rest with
    | nil => rfl
    | cons c more =>
        have hc := hrest c rfl
        rw [not_or] at hc
        simp [hc.1]
  rw [digitCount, List.takeWhile_append_of_pos fun c hc =>
    Text.isAsciiDigit_iff.2 (hdigits c hc), hnone, List.append_nil]

theorem wholeCount_append (n : Nat) {rest : List Char} (hrest : Ends rest) :
    wholeCount (Nat.toDigits 10 n ++ rest) = (Nat.toDigits 10 n).length := by
  have hcount := digitCount_append (Number.isDigit_of_mem_toDigits (n := n)) hrest
  cases hdigits : Nat.toDigits 10 n with
  | nil => exact absurd hdigits Nat.toDigits_ne_nil
  | cons c more =>
      by_cases hzero : c = '0'
      · subst hzero
        obtain rfl := Number.eq_zero_of_toDigits hdigits
        rw [Nat.toDigits_zero] at hdigits
        cases hdigits
        rfl
      · rw [hdigits] at hcount
        rw [List.cons_append, wholeCount]
        · exact hcount
        · exact fun _ hhead => hzero (List.cons.inj hhead).1

theorem fractionCount_of_ends {rest : List Char} (hrest : Ends rest) : fractionCount rest = 0 := by
  unfold fractionCount
  split
  next => exact absurd (Or.inr (Or.inl rfl)) (hrest _ rfl)
  next => rfl

theorem exponentCount_of_ends {rest : List Char} (hrest : Ends rest) : exponentCount rest = 0 := by
  unfold exponentCount
  split
  next c more =>
    have hc : ¬ (c = 'e' ∨ c = 'E') := fun he => hrest c rfl (Or.inr (Or.inr he))
    rw [if_neg hc]
  next => rfl

theorem readNumber?_append {sign digits rest : List Char} {n : Int}
    (hsign : (if (sign ++ digits ++ rest).head? = some '-' then 1 else 0) = sign.length)
    (hsome : digits ≠ []) (hwhole : wholeCount (digits ++ rest) = digits.length)
    (hrest : Ends rest) (hread : Number.readInteger (sign ++ digits) = .ok n) :
    readNumber? (sign ++ digits ++ rest) = some (.scalar (.int n), (sign ++ digits).length) := by
  have hdigits : (sign ++ digits ++ rest).drop sign.length = digits ++ rest := by
    rw [List.append_assoc, List.drop_left]
  have hbehind : (sign ++ digits ++ rest).drop (sign.length + digits.length) = rest := by
    rw [← List.length_append, List.drop_left]
  have hnumber : (sign ++ digits ++ rest).take (sign.length + digits.length) = sign ++ digits := by
    rw [← List.length_append, List.take_left]
  have hcount : digits.length ≠ 0 := fun hzero => hsome (List.length_eq_zero_iff.1 hzero)
  rw [readNumber?]
  dsimp only
  rw [hsign, hdigits, hwhole, if_neg hcount, hbehind, fractionCount_of_ends hrest, Nat.add_zero,
    hbehind, exponentCount_of_ends hrest, if_pos rfl, Nat.add_zero, hnumber, hread,
    List.length_append]

/-- A written integer is read as a number. -/
theorem readNumber?_toString {n : Int} (hshort : n.natAbs < digitBound digitLimit)
    {rest : List Char} (hrest : Ends rest) : readNumber? ((toString n).toList ++ rest) =
      some (.scalar (.int n), (toString n).toList.length) := by
  have hread := Number.readInteger_toString hshort
  rw [Number.toList_toString] at hread ⊢
  refine readNumber?_append ?_ Nat.toDigits_ne_nil (wholeCount_append n.natAbs hrest) hrest hread
  by_cases hsign : n < 0
  · rw [if_pos hsign]
    rfl
  · rw [if_neg hsign, List.nil_append, if_neg]
    · rfl
    · cases hdigits : Nat.toDigits 10 n.natAbs with
      | nil => exact absurd hdigits Nat.toDigits_ne_nil
      | cons c more =>
          intro hminus
          obtain rfl : c = '-' := by simpa using hminus
          cases Number.isDigit_of_mem_toDigits '-' (hdigits ▸ List.mem_cons_self)

/-- A digit is none of some characters that are no digits. -/
theorem ne_of_isDigit {c d : Char} {marks : List Char} (hc : c.isDigit = true)
    (hmarks : marks.any Char.isDigit = false) (hd : d ∈ marks) : c ≠ d := by
  rintro rfl
  exact List.any_eq_false.1 hmarks c hd hc

/-- No word starts as a written integer does. -/
theorem readWord?_toString (n : Int) (rest : List Char) :
    readWord? ((toString n).toList ++ rest) = none := by
  rw [Number.toList_toString]
  cases hdigits : Nat.toDigits 10 n.natAbs with
  | nil => exact absurd hdigits Nat.toDigits_ne_nil
  | cons c more =>
      have hdigit : c.isDigit = true :=
        Number.isDigit_of_mem_toDigits c (hdigits ▸ List.mem_cons_self)
      have hother : ∀ d ∈ ['n', 't', 'f', 'N', 'I', '-'], ¬ d = c := fun d hd =>
        (ne_of_isDigit hdigit (by decide) hd).symm
      simp only [List.forall_mem_cons] at hother
      rw [readWord?, Option.map_eq_none_iff, List.find?_eq_none]
      by_cases hsign : n < 0
      · simp [hsign, words, hother]
      · simp [hsign, words, hother]

theorem mark?_of_isDigit {c : Char} (hdigit : c.isDigit = true) : mark? c = none := by
  have hother : ∀ d ∈ ['[', ']', ',', ':', Char.ofNat 0x7b, Char.ofNat 0x7d], ¬ c = d :=
    fun d hd => ne_of_isDigit hdigit (by decide) hd
  have hcode : ∀ d : Char, c.toNat = d.toNat ↔ c = d := fun d => Char.toNat_inj
  simp only [List.forall_mem_cons] at hother
  have hopen : ¬ c.toNat = 0x7b := (hcode (Char.ofNat 0x7b)).not.2 hother.2.2.2.2.1
  have hclose : ¬ c.toNat = 0x7d := (hcode (Char.ofNat 0x7d)).not.2 hother.2.2.2.2.2.1
  simp [mark?, hother, hopen, hclose]

theorem isSpace_of_isDigit {c : Char} (hdigit : c.isDigit = true) : isSpace c = false := by
  have hother : ∀ d ∈ [' ', '\t', '\n', '\r'], ¬ c = d :=
    fun d hd => ne_of_isDigit hdigit (by decide) hd
  simp only [List.forall_mem_cons] at hother
  simp [isSpace, hother]

theorem writes_int {n : Int} (hshort : n.natAbs < digitBound digitLimit) :
    Writes (toString n).toList [.scalar (.int n)] := by
  intro position rest hrest
  have hplain : readPlain ((toString n).toList ++ rest) =
      (.scalar (.int n), (toString n).toList.length - 1) := by
    rw [readPlain, readWord?_toString, Option.orElse_none, readNumber?_toString hshort hrest]
  have hhead : ∃ c cs, (toString n).toList = c :: cs ∧ mark? c = none ∧ isSpace c = false ∧
      c ≠ '"' := by
    rw [Number.toList_toString]
    by_cases hsign : n < 0
    · rw [if_pos hsign]
      exact ⟨'-', _, rfl, rfl, rfl, by decide⟩
    · rw [if_neg hsign, List.nil_append]
      cases hdigits : Nat.toDigits 10 n.natAbs with
      | nil => exact absurd hdigits Nat.toDigits_ne_nil
      | cons c more =>
          have hdigit : c.isDigit = true :=
            Number.isDigit_of_mem_toDigits c (hdigits ▸ List.mem_cons_self)
          exact ⟨c, more, rfl, mark?_of_isDigit hdigit, isSpace_of_isDigit hdigit,
            ne_of_isDigit hdigit rfl (List.mem_singleton_self _)⟩
  obtain ⟨c, cs, htext, hmark, hspace, hquote⟩ := hhead
  rw [htext] at hplain ⊢
  exact ⟨_, map_tokensFrom_plain hmark hspace hquote hplain position⟩

theorem toList_quote (asciiOnly : Bool) (s : String) :
    (quote asciiOnly s).toList = '"' :: (s.toList.flatMap (escapeChar asciiOnly) ++ ['"']) := by
  have hpush : ∀ (cs : List Char) (out : String),
      (cs.foldl String.push out).toList = out.toList ++ cs := by
    intro cs
    induction cs with
    | nil => simp
    | cons c cs ih => simp [ih]
  have hfold : ∀ (cs : List Char) (out : String),
      (cs.foldl (fun out c => (escapeChar asciiOnly c).foldl String.push out) out).toList =
        out.toList ++ cs.flatMap (escapeChar asciiOnly) := by
    intro cs
    induction cs with
    | nil => simp
    | cons c cs ih => simp [ih, hpush]
  rw [quote, String.toList_push, String.foldl_eq_foldl_toList, hfold]
  rfl

/-- What is read of a string from some place on, wherever this is. -/
def ReadsAs (start : Nat) (cs : List Char) (points : List Point) (rest : List Char) : Prop :=
  ∀ position, ∃ next, readString start position cs = .ok ⟨points, rest, next⟩

variable {start : Nat} {points : List Point} {tail rest : List Char}

theorem readsAs_end : ReadsAs start ('"' :: rest) [] rest :=
  fun position => ⟨position + 1, by rw [readString, if_pos rfl]⟩

theorem ReadsAs.plain (htail : ReadsAs start tail points rest) {c : Char} (hquote : c ≠ '"')
    (hescape : c ≠ '\\') (hcontrol : 0x20 ≤ c.toNat) :
    ReadsAs start (c :: tail) (.char c :: points) rest := by
  intro position
  obtain ⟨next, hnext⟩ := htail (position + 1)
  refine ⟨next, ?_⟩
  rw [readString, if_neg hquote, if_neg hescape, if_neg (by omega), hnext]

theorem ReadsAs.escape (htail : ReadsAs start tail points rest) {p : Point} {body : List Char}
    (hread : ∀ position, readEscape start position (body ++ tail) = .ok (p, body.length)) :
    ReadsAs start ('\\' :: body ++ tail) (p :: points) rest := by
  intro position
  obtain ⟨next, hnext⟩ := htail (position + 1 + body.length)
  refine ⟨next, ?_⟩
  rw [List.cons_append, readString, if_neg (by decide), if_pos rfl, hread]
  dsimp only
  rw [List.drop_left, hnext]

theorem readEscape_simple {c d : Char} (hsimple : simpleEscape? c = some d) (hu : c ≠ 'u')
    (position : Nat) (tail : List Char) :
    readEscape start position ([c] ++ tail) = .ok (.char d, [c].length) := by
  rw [List.singleton_append, readEscape, hsimple]
  · rfl
  · exact hu

theorem unit?_hexDigits {n : Nat} (hn : n < 0x10000) (htail : tail ≠ []) :
    unit? (Text.hexDigits 4 n ++ tail) = some (some n) := by
  have hlength := Text.length_hexDigits 4 n
  rw [unit?, List.drop_left' hlength, List.take_left' hlength, Text.hexNumber?_hexDigits hn]
  cases tail with
  | nil => exact absurd rfl htail
  | cons c more => rfl

/-- Characters are no halves of a pair. -/
theorem isScalar_toNat (c : Char) :
    c.toNat < 0xd800 ∨ (0xdfff < c.toNat ∧ c.toNat < 0x110000) := c.valid

theorem ofCode_toNat (c : Char) : Point.ofCode c.toNat = .char c := by
  have hscalar := isScalar_toNat c
  rw [Point.ofCode, dif_neg (by omega), Char.ofNat_toNat]

theorem readEscape_unit {c : Char} (hc : c.toNat < 0x10000) (htail : tail ≠ []) (position : Nat) :
    readEscape start position ('u' :: Text.hexDigits 4 c.toNat ++ tail) =
      .ok (.char c, ('u' :: Text.hexDigits 4 c.toNat).length) := by
  have hscalar := isScalar_toNat c
  have hhigh : isHighSurrogate c.toNat = false := by
    rw [isHighSurrogate, ← Bool.decide_and, decide_eq_false_iff_not]
    omega
  rw [List.cons_append, readEscape, unit?_hexDigits hc htail]
  dsimp only
  rw [hhigh, if_neg Bool.false_ne_true, ofCode_toNat, List.length_cons, Text.length_hexDigits]

theorem secondUnit?_unitEscape {n : Nat} (hn : n < 0x10000) (htail : tail ≠ []) :
    secondUnit? (unitEscape n ++ tail) = some (some n) := unit?_hexDigits hn htail

theorem readEscape_pair {c : Char} (hc : 0x10000 ≤ c.toNat) (htail : tail ≠ []) (position : Nat) :
    let n := c.toNat - 0x10000
    let body := 'u' :: Text.hexDigits 4 (0xd800 + n / 1024) ++ unitEscape (0xdc00 + n % 1024)
    readEscape start position (body ++ tail) = .ok (.char c, body.length) := by
  intro n body
  have hscalar := isScalar_toNat c
  have hn : n < 0x100000 := by omega
  have hupper : 0xd800 + n / 1024 < 0x10000 := by omega
  have hlower : 0xdc00 + n % 1024 < 0x10000 := by omega
  have hhigh : isHighSurrogate (0xd800 + n / 1024) = true := by
    rw [isHighSurrogate, ← Bool.decide_and, decide_eq_true_eq]
    omega
  have hlow : isLowSurrogate (0xdc00 + n % 1024) = true := by
    rw [isLowSurrogate, ← Bool.decide_and, decide_eq_true_eq]
    omega
  have hcode : 0x10000 + (0xd800 + n / 1024 - 0xd800) * 1024 + (0xdc00 + n % 1024 - 0xdc00) =
      c.toNat := by omega
  have hrest : unitEscape (0xdc00 + n % 1024) ++ tail ≠ [] := by simp [unitEscape]
  have hlength : body.length = 11 := by
    simp [body, unitEscape, Text.length_hexDigits]
  have hbody : body ++ tail = 'u' :: (Text.hexDigits 4 (0xd800 + n / 1024) ++
      (unitEscape (0xdc00 + n % 1024) ++ tail)) := by
    simp [body]
  rw [hbody, readEscape, unit?_hexDigits hupper hrest]
  dsimp only
  rw [hhigh, if_pos rfl, List.drop_left' (Text.length_hexDigits 4 _),
    secondUnit?_unitEscape hlower htail]
  dsimp only
  rw [hlow, if_pos rfl, hcode, ofCode_toNat, hlength]

theorem eq_ofNat_of_toNat {c : Char} {n : Nat} (hcode : c.toNat = n) : c = Char.ofNat n := by
  rw [← hcode, Char.ofNat_toNat]

/-- A character is read as it is written. -/
theorem ReadsAs.escapeChar (htail : ReadsAs start tail points rest) (hsome : tail ≠ [])
    (asciiOnly : Bool) (c : Char) :
    ReadsAs start (escapeChar asciiOnly c ++ tail) (.char c :: points) rest := by
  have hletter : ∀ d : Char, simpleEscape? d = some c → d ≠ 'u' →
      ReadsAs start ('\\' :: [d] ++ tail) (.char c :: points) rest := fun d hd hu =>
    htail.escape fun position => readEscape_simple hd hu position tail
  rw [Json.escapeChar]
  by_cases hmarked : c = '"' ∨ c = '\\'
  · rw [if_pos hmarked]
    refine hletter c ?_ ?_
    · rcases hmarked with rfl | rfl <;> rfl
    · rcases hmarked with rfl | rfl <;> decide
  rw [if_neg hmarked]
  rw [not_or] at hmarked
  by_cases hplain : 0x20 ≤ c.toNat ∧ (c.toNat ≤ 0x7e ∨ (!asciiOnly) = true)
  · rw [if_pos hplain]
    exact htail.plain hmarked.1 hmarked.2 hplain.1
  rw [if_neg hplain]
  by_cases hline : c = '\n'
  · subst hline
    exact hletter 'n' rfl (by decide)
  rw [if_neg hline]
  by_cases hreturn : c = '\r'
  · subst hreturn
    exact hletter 'r' rfl (by decide)
  rw [if_neg hreturn]
  by_cases htab : c = '\t'
  · subst htab
    exact hletter 't' rfl (by decide)
  rw [if_neg htab]
  by_cases hback : c.toNat = 8
  · rw [if_pos hback]
    obtain rfl := eq_ofNat_of_toNat hback
    exact hletter 'b' rfl (by decide)
  rw [if_neg hback]
  by_cases hfeed : c.toNat = 12
  · rw [if_pos hfeed]
    obtain rfl := eq_ofNat_of_toNat hfeed
    exact hletter 'f' rfl (by decide)
  rw [if_neg hfeed]
  by_cases hunit : c.toNat < 0x10000
  · rw [if_pos hunit]
    exact htail.escape fun position => readEscape_unit hunit hsome position
  · rw [if_neg hunit]
    exact htail.escape fun position => readEscape_pair (by omega) hsome position

/-- A text in quotes is a token. -/
theorem opens_quote (asciiOnly : Bool) (s : String) :
    Opens (quote asciiOnly s).toList [.scalar (.string s)] := by
  have hchars : ∀ (cs : List Char) (start : Nat) (rest : List Char),
      ReadsAs start (cs.flatMap (escapeChar asciiOnly) ++ '"' :: rest) (cs.map .char) rest := by
    intro cs start rest
    induction cs with
    | nil => exact readsAs_end
    | cons c cs ih =>
        rw [List.flatMap_cons, List.append_assoc]
        exact ih.escapeChar (by simp) asciiOnly c
  intro position rest
  obtain ⟨next, hnext⟩ := hchars s.toList position rest (position + 1)
  refine ⟨next, ?_⟩
  rw [toList_quote, List.cons_append, List.append_assoc, List.singleton_append, tokensFrom,
    if_neg (by decide), if_pos rfl]
  split
  next read hread =>
    rw [hnext] at hread
    cases hread
    simp only [Scalar.ofPoints_chars, String.ofList_toList]
    rfl
  next fault hfault =>
    rw [hnext] at hfault
    cases hfault

end Json

/-- A scalar that is read as it is written. -/
def Scalar.IsExact : Scalar → Prop
  | .null => True
  | .bool _ => True
  | .int n => n.natAbs < digitBound digitLimit
  | .string _ => True
  | _ => False

theorem Scalar.IsKey.exists_string {key : Scalar} (hkey : key.IsKey IsExact) :
    ∃ name, key = .string name := by
  cases key with
  | string name => exact ⟨name, rfl⟩
  | _ => cases hkey

mutual

/-- The tokens that a value is written with. -/
def Value.tokens : Value → List Json.Token
  | .scalar s => [.scalar s]
  | .list [] => [.openList, .closeList]
  | .list (v :: rest) => .openList :: (v.tokens ++ (Value.itemTokens rest ++ [.closeList]))
  | .dict [] => [.openDict, .closeDict]
  | .dict ((key, v) :: rest) =>
    .openDict :: .scalar key :: .colon :: (v.tokens ++ (Value.entryTokens rest ++ [.closeDict]))

/-- The tokens of further items. -/
def Value.itemTokens : List Value → List Json.Token
  | [] => []
  | v :: rest => .comma :: (v.tokens ++ Value.itemTokens rest)

/-- The tokens of further entries. -/
def Value.entryTokens : Entries → List Json.Token
  | [] => []
  | (key, v) :: rest => .comma :: .scalar key :: .colon :: (v.tokens ++ Value.entryTokens rest)

end

namespace Json

/-- A layout that puts blanks alone between the tokens. -/
structure Layout.IsReadable (layout : Layout) : Prop where
  item : ∃ blanks, layout.itemSeparator.toList = ',' :: blanks ∧ ∀ c ∈ blanks, isSpace c = true
  key : ∃ blanks, layout.keySeparator.toList = ':' :: blanks ∧ ∀ c ∈ blanks, isSpace c = true

theorem ends_blanks {cs : List Char} (hblanks : ∀ c ∈ cs, isSpace c = true) : Ends cs := by
  intro c hhead
  have hspace := hblanks c (List.mem_of_mem_head? hhead)
  simp only [isSpace, Bool.or_eq_true, beq_iff_eq] at hspace
  rcases hspace with ((rfl | rfl) | rfl) | rfl <;> decide

namespace Layout

variable {layout : Layout} {level : Nat}

theorem blanks_lineBreak (layout : Layout) (level : Nat) :
    ∀ c ∈ (layout.lineBreak level).toList, isSpace c = true := by
  unfold lineBreak
  cases layout.indent with
  | none => simp
  | some width =>
      rw [String.toList_ofList, List.forall_mem_cons]
      exact ⟨rfl, fun c hc => by rw [List.eq_of_mem_replicate hc]; rfl⟩

theorem opens_scalar {s : Scalar} {text : String} (hexact : s.IsExact)
    (hwrite : layout.scalar s = .ok text) : Writes text.toList [.scalar s] := by
  cases s with
  | null =>
      cases hwrite
      exact opens_null.writes
  | bool b =>
      cases hwrite
      exact (opens_bool b).writes
  | int n =>
      rw [layout.scalar_int (Scalar.isTooLong_int_eq_false.2 hexact)] at hwrite
      cases hwrite
      exact writes_int hexact
  | string t =>
      cases hwrite
      exact (opens_quote layout.asciiOnly t).writes
  | _ => cases hexact

theorem IsReadable.opens_item (hlayout : layout.IsReadable) :
    Opens layout.itemSeparator.toList [.comma] := by
  obtain ⟨blanks, hseparator, hblanks⟩ := hlayout.item
  rw [hseparator]
  exact (opens_mark rfl rfl (by decide)).append (opens_blanks hblanks)

theorem IsReadable.opens_key (hlayout : layout.IsReadable) :
    Opens layout.keySeparator.toList [.colon] := by
  obtain ⟨blanks, hseparator, hblanks⟩ := hlayout.key
  rw [hseparator]
  exact (opens_mark rfl rfl (by decide)).append (opens_blanks hblanks)

theorem IsReadable.ends_item (hlayout : layout.IsReadable) (rest : List Char) :
    Ends (layout.itemSeparator.toList ++ rest) := by
  obtain ⟨blanks, hseparator, _⟩ := hlayout.item
  rw [hseparator]
  exact ends_cons (by decide)

theorem opens_key_text {name text : String} (hwrite : layout.key (.string name) = .ok text) :
    Opens text.toList [.scalar (.string name)] := by
  cases hwrite
  exact opens_quote layout.asciiOnly name

section

variable [Limits]

/-- A list is written from its first item and the others. -/
theorem exists_of_writeAt_list {v : Value} {rest : List Value} {text : String}
    (hwrite : layout.writeAt level (.list (v :: rest)) = .ok text) :
    ∃ first others, layout.writeAt (level + 1) v = .ok first ∧
      layout.writeItems (level + 1) rest = .ok others ∧
      text = "[" ++ (layout.lineBreak (level + 1) ++ (first ++ (others ++
        (layout.lineBreak level ++ "]")))) := by
  rw [writeAt] at hwrite
  split at hwrite
  next => cases hwrite
  next =>
    obtain ⟨first, hfirst, hwrite⟩ := Except.bind_eq_ok_iff.1 hwrite
    obtain ⟨others, hothers, hwrite⟩ := Except.bind_eq_ok_iff.1 hwrite
    cases hwrite
    exact ⟨first, others, hfirst, hothers, rfl⟩

/-- A dictionary is written from its first key, its value and the others. -/
theorem exists_of_writeAt_dict {key : Scalar} {v : Value} {rest : Entries} {text : String}
    (hwrite : layout.writeAt level (.dict ((key, v) :: rest)) = .ok text) :
    ∃ given first others, layout.key key = .ok given ∧
      layout.writeAt (level + 1) v = .ok first ∧
      layout.writeEntries (level + 1) rest = .ok others ∧
      text = "\x7b" ++ (layout.lineBreak (level + 1) ++ (given ++ (layout.keySeparator ++
        (first ++ (others ++ (layout.lineBreak level ++ "\x7d")))))) := by
  rw [writeAt] at hwrite
  split at hwrite
  next => cases hwrite
  next =>
    obtain ⟨given, hgiven, hwrite⟩ := Except.bind_eq_ok_iff.1 hwrite
    obtain ⟨first, hfirst, hwrite⟩ := Except.bind_eq_ok_iff.1 hwrite
    obtain ⟨others, hothers, hwrite⟩ := Except.bind_eq_ok_iff.1 hwrite
    cases hwrite
    exact ⟨given, first, others, hgiven, hfirst, hothers, rfl⟩

theorem exists_of_writeItems_cons {v : Value} {rest : List Value} {text : String}
    (hwrite : layout.writeItems level (v :: rest) = .ok text) :
    ∃ first others, layout.writeAt level v = .ok first ∧
      layout.writeItems level rest = .ok others ∧
      text = layout.itemSeparator ++ (layout.lineBreak level ++ (first ++ others)) := by
  obtain ⟨first, hfirst, hwrite⟩ := Except.bind_eq_ok_iff.1 hwrite
  obtain ⟨others, hothers, hwrite⟩ := Except.bind_eq_ok_iff.1 hwrite
  cases hwrite
  exact ⟨first, others, hfirst, hothers, rfl⟩

theorem exists_of_writeEntries_cons {key : Scalar} {v : Value} {rest : Entries} {text : String}
    (hwrite : layout.writeEntries level ((key, v) :: rest) = .ok text) :
    ∃ given first others, layout.key key = .ok given ∧ layout.writeAt level v = .ok first ∧
      layout.writeEntries level rest = .ok others ∧
      text = layout.itemSeparator ++ (layout.lineBreak level ++ (given ++
        (layout.keySeparator ++ (first ++ others)))) := by
  obtain ⟨given, hgiven, hwrite⟩ := Except.bind_eq_ok_iff.1 hwrite
  obtain ⟨first, hfirst, hwrite⟩ := Except.bind_eq_ok_iff.1 hwrite
  obtain ⟨others, hothers, hwrite⟩ := Except.bind_eq_ok_iff.1 hwrite
  cases hwrite
  exact ⟨given, first, others, hgiven, hfirst, hothers, rfl⟩

theorem IsReadable.ends_writeItems (hlayout : layout.IsReadable) {items : List Value}
    {text : String} (hwrite : layout.writeItems level items = .ok text) : Ends text.toList := by
  cases items with
  | nil =>
      cases hwrite
      exact ends_nil
  | cons v rest =>
      obtain ⟨first, others, _, _, rfl⟩ := exists_of_writeItems_cons hwrite
      rw [String.toList_append]
      exact hlayout.ends_item _

theorem IsReadable.ends_writeEntries (hlayout : layout.IsReadable) {entries : Entries}
    {text : String} (hwrite : layout.writeEntries level entries = .ok text) :
    Ends text.toList := by
  cases entries with
  | nil =>
      cases hwrite
      exact ends_nil
  | cons entry rest =>
      obtain ⟨key, v⟩ := entry
      obtain ⟨given, first, others, _, _, _, rfl⟩ := exists_of_writeEntries_cons hwrite
      rw [String.toList_append]
      exact hlayout.ends_item _

end

/-- The end of a list or dictionary behind its parts. -/
theorem writes_close {cs close : List Char} {tokens : List Token} {token : Token}
    (hcs : Writes cs tokens) (hends : Ends cs) (hclose : Opens close [token])
    (hcloses : Ends close) (level : Nat) :
    Writes (cs ++ ((layout.lineBreak level).toList ++ close)) (tokens ++ [token]) ∧
      Ends (cs ++ ((layout.lineBreak level).toList ++ close)) := by
  have hblanks := layout.blanks_lineBreak level
  have hbreak : Ends ((layout.lineBreak level).toList ++ close) :=
    (ends_blanks hblanks).append hcloses
  exact ⟨hcs.append hbreak ((opens_blanks hblanks).append hclose).writes, hends.append hbreak⟩

section

variable [Limits]

mutual

/-- A value is written with its tokens. -/
theorem writes_writeAt (hlayout : layout.IsReadable) : {v : Value} → {level : Nat} →
    {text : String} → v.MadeOf Scalar.IsExact → layout.writeAt level v = .ok text →
      Writes text.toList v.tokens
  | .scalar s, level, text, hmade, hwrite => by
      rw [writeAt] at hwrite
      rw [Value.tokens]
      exact opens_scalar (Value.madeOf_scalar_iff.1 hmade) hwrite
  | .list [], level, text, _, hwrite => by
      rw [writeAt] at hwrite
      cases hwrite
      rw [Value.tokens]
      exact ((opens_mark rfl rfl (by decide)).append (opens_mark rfl rfl (by decide))).writes
  | .dict [], level, text, _, hwrite => by
      rw [writeAt] at hwrite
      cases hwrite
      rw [Value.tokens]
      exact ((opens_mark rfl rfl (by decide)).append (opens_mark rfl rfl (by decide))).writes
  | .list (v :: rest), level, text, hmade, hwrite => by
      rw [Value.MadeOf, Value.AllMadeOf] at hmade
      obtain ⟨first, others, hfirst, hothers, rfl⟩ := exists_of_writeAt_list hwrite
      have hclose : Opens ("]" : String).toList [.closeList] := opens_mark rfl rfl (by decide)
      obtain ⟨hbehind, hends⟩ := writes_close (writes_writeItems hlayout hmade.2 hothers)
        (hlayout.ends_writeItems hothers) hclose (ends_cons (by decide)) level
      have hparts := (writes_writeAt hlayout hmade.1 hfirst).append hends hbehind
      have hopen : Opens ("[" : String).toList [.openList] := opens_mark rfl rfl (by decide)
      rw [Value.tokens]
      simp only [String.toList_append]
      exact hopen.append_writes
        ((opens_blanks (layout.blanks_lineBreak (level + 1))).append_writes hparts)
  | .dict ((key, v) :: rest), level, text, hmade, hwrite => by
      rw [Value.MadeOf, Entries.MadeOf] at hmade
      obtain ⟨hkey, _, hv, hrest⟩ := hmade
      obtain ⟨name, rfl⟩ := hkey.exists_string
      obtain ⟨given, first, others, hgiven, hfirst, hothers, rfl⟩ := exists_of_writeAt_dict hwrite
      have hclose : Opens ("\x7d" : String).toList [.closeDict] := opens_mark rfl rfl (by decide)
      obtain ⟨hbehind, hends⟩ := writes_close (writes_writeEntries hlayout hrest hothers)
        (hlayout.ends_writeEntries hothers) hclose (ends_cons (by decide)) level
      have hparts := (writes_writeAt hlayout hv hfirst).append hends hbehind
      have hopen : Opens ("\x7b" : String).toList [.openDict] := opens_mark rfl rfl (by decide)
      rw [Value.tokens]
      simp only [String.toList_append]
      exact hopen.append_writes
        ((opens_blanks (layout.blanks_lineBreak (level + 1))).append_writes
          ((opens_key_text hgiven).append_writes (hlayout.opens_key.append_writes hparts)))

theorem writes_writeItems (hlayout : layout.IsReadable) : {items : List Value} → {level : Nat} →
    {text : String} → Value.AllMadeOf Scalar.IsExact items →
      layout.writeItems level items = .ok text → Writes text.toList (Value.itemTokens items)
  | [], _, _, _, hwrite => by
      cases hwrite
      exact opens_nil.writes
  | v :: rest, level, text, hmade, hwrite => by
      rw [Value.AllMadeOf] at hmade
      obtain ⟨first, others, hfirst, hothers, rfl⟩ := exists_of_writeItems_cons hwrite
      have hparts := (writes_writeAt hlayout hmade.1 hfirst).append
        (hlayout.ends_writeItems hothers) (writes_writeItems hlayout hmade.2 hothers)
      rw [String.toList_append, String.toList_append, String.toList_append, Value.itemTokens]
      exact hlayout.opens_item.append_writes
        ((opens_blanks (layout.blanks_lineBreak level)).append_writes hparts)

theorem writes_writeEntries (hlayout : layout.IsReadable) : {entries : Entries} → {level : Nat} →
    {text : String} → Entries.MadeOf Scalar.IsExact entries →
      layout.writeEntries level entries = .ok text →
        Writes text.toList (Value.entryTokens entries)
  | [], _, _, _, hwrite => by
      cases hwrite
      exact opens_nil.writes
  | (key, v) :: rest, level, text, hmade, hwrite => by
      rw [Entries.MadeOf] at hmade
      obtain ⟨hkey, _, hv, hrest⟩ := hmade
      obtain ⟨name, rfl⟩ := hkey.exists_string
      obtain ⟨given, first, others, hgiven, hfirst, hothers, rfl⟩ :=
        exists_of_writeEntries_cons hwrite
      have hparts := (writes_writeAt hlayout hv hfirst).append
        (hlayout.ends_writeEntries hothers) (writes_writeEntries hlayout hrest hothers)
      rw [String.toList_append, String.toList_append, String.toList_append, String.toList_append,
        String.toList_append, Value.entryTokens]
      exact hlayout.opens_item.append_writes
        ((opens_blanks (layout.blanks_lineBreak level)).append_writes
          ((opens_key_text hgiven).append_writes (hlayout.opens_key.append_writes hparts)))

end

end

end Layout

end Json

end EventIntake
