/-
Detection and payloads that have more.  A dictionary extends another one if it has an equal value
under each of its text keys, in any order and with any further keys.  No rule of a supported format
is lost by that, so the first one that holds comes no later.
-/
import EventIntake.Format.Catalog

namespace EventIntake

/-- What a number stands for is zero; what is no number is not. -/
def Exact.isZero : Exact → Bool
  | .fraction num _ => num == 0
  | _ => false

/-- A fraction has a denominator. -/
def Exact.IsProper : Exact → Prop
  | .fraction _ den => 0 < den
  | _ => True

theorem Exact.isZero_of_same {x y : Exact} (hx : x.IsProper) (hy : y.IsProper)
    (hsame : x.same y = true) : x.isZero = y.isZero := by
  cases x with
  | nan => cases hsame
  | infinite negative =>
      cases y with
      | fraction c d => cases hsame
      | infinite other => rfl
      | nan => rfl
  | fraction a b =>
      cases y with
      | infinite negative => cases hsame
      | nan => cases hsame
      | fraction c d =>
          have hb : (b : Int) ≠ 0 := Int.natCast_ne_zero.2 (Nat.ne_of_gt hx)
          have hd : (d : Int) ≠ 0 := Int.natCast_ne_zero.2 (Nat.ne_of_gt hy)
          have hcross : a * d = c * b := beq_iff_eq.1 hsame
          rw [isZero, isZero, Bool.eq_iff_iff, beq_iff_eq, beq_iff_eq]
          constructor
          · rintro rfl
            rw [Int.zero_mul, eq_comm, Int.mul_eq_zero] at hcross
            exact hcross.resolve_right hb
          · rintro rfl
            rw [Int.zero_mul, Int.mul_eq_zero] at hcross
            exact hcross.resolve_right hd

namespace Scalar

theorem isProper_of_quantity? {s : Scalar} {x : Exact} (hquantity : s.quantity? = some x) :
    x.IsProper := by
  cases s with
  | bool b => cases hquantity; exact Nat.one_pos
  | int n => cases hquantity; exact Nat.one_pos
  | float x =>
      cases hquantity
      cases x with
      | finite negative mantissa exponent => exact Nat.pow_pos (by decide)
      | infinite negative => trivial
      | nan => trivial
  | _ => cases hquantity

/-- A number counts as nothing exactly if it stands for zero. -/
theorem truthy_of_quantity? {s : Scalar} {x : Exact} (hquantity : s.quantity? = some x) :
    s.truthy = !x.isZero := by
  cases s with
  | bool b => cases hquantity; cases b <;> rfl
  | int n => cases hquantity; rfl
  | float x =>
      cases hquantity
      cases x with
      | finite negative mantissa exponent =>
          have hpower : Nat.pow 2 exponent.toNat ≠ 0 := Nat.ne_of_gt (Nat.pow_pos (by decide))
          have hproduct : mantissa * Nat.pow 2 exponent.toNat = 0 ↔ mantissa = 0 := by
            rw [Nat.mul_eq_zero]
            exact or_iff_left hpower
          have hzero : (mantissa == 0) = (mantissa * Nat.pow 2 exponent.toNat == 0) := by
            rw [Bool.eq_iff_iff, beq_iff_eq, beq_iff_eq, hproduct]
          rw [truthy, Binary64.isZero, hzero, Binary64.exact, Exact.isZero]
          generalize mantissa * Nat.pow 2 exponent.toNat = n
          cases negative <;> simp [Bool.beq_eq_decide_eq]
      | infinite negative => rfl
      | nan => rfl
  | _ => cases hquantity

theorem truthy_of_same {a b : Scalar} (hsame : a.same b = true) : a.truthy = b.truthy := by
  unfold same at hsame
  cases ha : a.quantity? with
  | some x =>
      cases hb : b.quantity? with
      | some y =>
          rw [ha, hb] at hsame
          rw [truthy_of_quantity? ha, truthy_of_quantity? hb,
            Exact.isZero_of_same (isProper_of_quantity? ha) (isProper_of_quantity? hb) hsame]
      | none => rw [ha, hb] at hsame; cases hsame
  | none =>
      cases hb : b.quantity? with
      | some y => rw [ha, hb] at hsame; cases hsame
      | none =>
          rw [ha, hb] at hsame
          dsimp only at hsame
          split at hsame
          next => rfl
          next => rw [beq_iff_eq.1 hsame]
          next => rfl
          next => rfl
          next => rfl
          next => cases hsame

/-- What is the same as a text is that text. -/
theorem eq_string_of_same {s : String} {key : Scalar} (hsame : (string s).same key = true) :
    key = .string s := by
  cases key with
  | string t => rw [beq_iff_eq.1 hsame]
  | _ => simp [same, quantity?] at hsame

end Scalar

namespace Value

/-- The values are one, or they are equal.  A value with something in it that is not a number is not
equal to itself. -/
def Agrees (v w : Value) : Prop := v = w ∨ v.same w = true

/-- A dictionary has what another one has, and maybe more: an equal value under each text key. -/
structure Extends (w v : Value) : Prop where
  isDict : w.isDict = true
  member? : ∀ key a, v.member? key = some a → ∃ b, w.member? key = some b ∧ a.Agrees b

theorem exists_get?_of_sameEntries {entries others : Entries}
    (hsame : sameEntries entries others = true) {key : String} {a : Value}
    (hget : Entries.get? (.string key) entries = some a) :
    ∃ b, Entries.get? (.string key) others = some b ∧ a.same b = true := by
  induction entries with
  | nil => cases hget
  | cons entry rest ih =>
      obtain ⟨k, v⟩ := entry
      rw [sameEntries, Bool.and_eq_true] at hsame
      obtain ⟨hfirst, hrest⟩ := hsame
      rw [Entries.get?, Scalar.same_string] at hget
      by_cases hkey : k = .string key
      · rw [if_pos (decide_eq_true hkey)] at hget
        cases hget
        rw [hkey] at hfirst
        split at hfirst
        next b hb => exact ⟨b, hb, hfirst⟩
        next => cases hfirst
      · rw [if_neg (by simpa using hkey)] at hget
        exact ih hrest hget

/-- A value that agrees with a dictionary extends it. -/
theorem Agrees.extends {v w : Value} (hagrees : v.Agrees w) (hdict : v.isDict = true) :
    w.Extends v := by
  rcases hagrees with rfl | hsame
  · exact ⟨hdict, fun _ a ha => ⟨a, ha, Or.inl rfl⟩⟩
  · cases v with
    | scalar s => cases hdict
    | list items => cases hdict
    | dict entries =>
        cases w with
        | scalar s => simp [same] at hsame
        | list items => simp [same] at hsame
        | dict others =>
            rw [same, Bool.and_eq_true] at hsame
            refine ⟨rfl, fun key a ha => ?_⟩
            obtain ⟨b, hb, hab⟩ := exists_get?_of_sameEntries hsame.2 ha
            exact ⟨b, hb, Or.inr hab⟩

theorem Agrees.isList {v w : Value} (hagrees : v.Agrees w) (hlist : v.isList = true) :
    w.isList = true := by
  rcases hagrees with rfl | hsame
  · exact hlist
  · cases v with
    | scalar s => cases hlist
    | dict entries => cases hlist
    | list items =>
        cases w with
        | list others => rfl
        | scalar s => simp [same] at hsame
        | dict others => simp [same] at hsame

/-- A list that agrees with one that has a first item has one too, which agrees with it. -/
theorem Agrees.exists_first {first : Value} {rest : List Value} {w : Value}
    (hagrees : (Value.list (first :: rest)).Agrees w) :
    ∃ other more, w = .list (other :: more) ∧ first.Agrees other := by
  rcases hagrees with rfl | hsame
  · exact ⟨first, rest, rfl, Or.inl rfl⟩
  · cases w with
    | scalar s => simp [same] at hsame
    | dict entries => simp [same] at hsame
    | list items =>
        rw [same] at hsame
        cases items with
        | nil => simp [sameItems] at hsame
        | cons other more =>
            rw [sameItems, Bool.and_eq_true] at hsame
            exact ⟨other, more, rfl, Or.inr hsame.1⟩

theorem isEmpty_of_sameItems {items others : List Value} (hsame : sameItems items others = true) :
    items.isEmpty = others.isEmpty := by
  cases items with
  | nil =>
      cases others with
      | nil => rfl
      | cons other more => simp [sameItems] at hsame
  | cons item rest =>
      cases others with
      | nil => simp [sameItems] at hsame
      | cons other more => rfl

theorem Agrees.truthy_eq {v w : Value} (hagrees : v.Agrees w) : v.truthy = w.truthy := by
  rcases hagrees with rfl | hsame
  · rfl
  · cases v with
    | scalar s =>
        cases w with
        | scalar t => rw [same] at hsame; exact Scalar.truthy_of_same hsame
        | list items => simp [same] at hsame
        | dict entries => simp [same] at hsame
    | list items =>
        cases w with
        | scalar t => simp [same] at hsame
        | dict entries => simp [same] at hsame
        | list others =>
            rw [same] at hsame
            rw [truthy, truthy, isEmpty_of_sameItems hsame]
    | dict entries =>
        cases w with
        | scalar t => simp [same] at hsame
        | list items => simp [same] at hsame
        | dict others =>
            rw [same, Bool.and_eq_true, beq_iff_eq] at hsame
            have hempty : entries = [] ↔ others = [] := by
              rw [← List.length_eq_zero_iff, hsame.1, List.length_eq_zero_iff]
            rw [truthy, truthy, Bool.eq_iff_iff]
            simp [hempty]

/-- A text agrees with nothing but itself. -/
theorem Agrees.eq_string {s : String} {w : Value} (hagrees : (Value.string s).Agrees w) :
    w = .string s := by
  rcases hagrees with rfl | hsame
  · rfl
  · cases w with
    | scalar t => rw [same] at hsame; rw [Scalar.eq_string_of_same hsame]
    | list items => simp [same] at hsame
    | dict entries => simp [same] at hsame

/-- Only a text is equal to a text. -/
theorem eq_string_of_same {v : Value} {s : String} (hsame : v.same (.string s) = true) :
    v = .string s := by
  cases v with
  | scalar t =>
      rw [same, Scalar.same_string, decide_eq_true_eq] at hsame
      rw [hsame]
  | list items => simp [same] at hsame
  | dict entries => simp [same] at hsame

end Value

namespace Detection

/-- The payloads that a rule holds for. -/
def Monotone (holds : Value → Bool) : Prop :=
  ∀ ⦃v w : Value⦄, w.Extends v → holds v = true → holds w = true

theorem monotone_isDict : Monotone Value.isDict := fun _ _ hextends _ => hextends.isDict

theorem monotone_always : Monotone fun _ => true := fun _ _ _ _ => rfl

theorem Monotone.and {first second : Value → Bool} (hfirst : Monotone first)
    (hsecond : Monotone second) : Monotone fun v => first v && second v := by
  intro v w hextends hholds
  rw [Bool.and_eq_true] at hholds ⊢
  exact ⟨hfirst hextends hholds.1, hsecond hextends hholds.2⟩

theorem isSome_of_extends {v w : Value} (hextends : w.Extends v) {key : String}
    (hsome : (v.member? key).isSome = true) : (w.member? key).isSome = true := by
  obtain ⟨a, ha⟩ := Option.isSome_iff_exists.1 hsome
  obtain ⟨b, hb, _⟩ := hextends.member? key a ha
  rw [hb, Option.isSome_some]

theorem monotone_hasAll (keys : List String) : Monotone (hasAll keys) := by
  intro v w hextends hholds
  rw [hasAll, Bool.and_eq_true, List.all_eq_true] at hholds ⊢
  exact ⟨hextends.isDict, fun key hkey => isSome_of_extends hextends (hholds.2 key hkey)⟩

theorem monotone_hasAny (keys : List String) : Monotone (hasAny keys) := by
  intro v w hextends hholds
  rw [hasAny, Bool.and_eq_true, List.any_eq_true] at hholds ⊢
  obtain ⟨key, hkey, hsome⟩ := hholds.2
  exact ⟨hextends.isDict, key, hkey, isSome_of_extends hextends hsome⟩

/-- What is asked of the value under a key is kept if it is kept by values that agree. -/
theorem monotone_shapeAt (key : String) {shape : Value → Bool}
    (hshape : ∀ a b : Value, a.Agrees b → shape a = true → shape b = true) :
    Monotone (shapeAt key shape) := by
  intro v w hextends hholds
  unfold shapeAt at hholds
  split at hholds
  next a ha =>
    obtain ⟨b, hb, hagrees⟩ := hextends.member? key a ha
    rw [shapeAt, hb]
    exact hshape a b hagrees hholds
  next => cases hholds

/-- A rule for dictionaries is kept by values that agree. -/
theorem Monotone.of_agrees {holds : Value → Bool} (hmonotone : Monotone holds)
    (hdict : ∀ a, holds a = true → a.isDict = true) (a b : Value) (hagrees : a.Agrees b)
    (hholds : holds a = true) : holds b = true :=
  hmonotone (hagrees.extends (hdict a hholds)) hholds

theorem textAt_eq (key expected : String) :
    textAt key expected = shapeAt key fun a => a.same (.string expected) := rfl

theorem listAt_eq (key : String) : listAt key = shapeAt key Value.isList := rfl

theorem monotone_textAt (key expected : String) : Monotone (textAt key expected) := by
  rw [textAt_eq]
  refine monotone_shapeAt key fun a b hagrees hsame => ?_
  rw [Value.eq_string_of_same hsame] at hagrees hsame
  rw [hagrees.eq_string, hsame]

theorem monotone_listAt (key : String) : Monotone (listAt key) := by
  rw [listAt_eq]
  exact monotone_shapeAt key fun a b hagrees hlist => hagrees.isList hlist

theorem isDict_of_hasAll {keys : List String} (a : Value) (hholds : hasAll keys a = true) :
    a.isDict = true := (Bool.and_eq_true _ _ ▸ hholds).1

theorem isDict_of_listAt {key : String} (a : Value) (hholds : listAt key a = true) :
    a.isDict = true := by
  cases a with
  | dict entries => rfl
  | scalar s => cases hholds
  | list items => cases hholds

/-- The first choice of a list of choices carries a change. -/
def changes (choices : Value) : Bool :=
  match choices with
  | .list (first :: _) =>
    match first.member? "delta" with
    | some delta => delta.truthy
    | none => false
  | _ => false

theorem firstChoiceChanges_eq : firstChoiceChanges = shapeAt "choices" changes := by
  funext v
  rw [firstChoiceChanges, shapeAt]
  cases v.member? "choices" with
  | none => rfl
  | some choices =>
      cases choices with
      | list items => cases items <;> rfl
      | scalar s => rfl
      | dict entries => rfl

theorem monotone_firstChoiceChanges : Monotone firstChoiceChanges := by
  rw [firstChoiceChanges_eq]
  refine monotone_shapeAt "choices" fun a b hagrees hchanges => ?_
  unfold changes at hchanges
  split at hchanges
  next first rest =>
    obtain ⟨other, more, rfl, hother⟩ := hagrees.exists_first
    split at hchanges
    next delta hdelta =>
      have hdict : first.isDict = true := by
        cases first with
        | dict entries => rfl
        | scalar s => cases hdelta
        | list items => cases hdelta
      obtain ⟨delta', hdelta', hagrees'⟩ := (hother.extends hdict).member? "delta" delta hdelta
      rw [hagrees'.truthy_eq] at hchanges
      simpa only [changes, hdelta'] using hchanges
    next => cases hchanges
  next => cases hchanges

/-- The value names what happened to a connection. -/
def isConnectionEvent (event : Value) : Bool :=
  match event with
  | .string name => connectionEvents.contains (Text.lower name)
  | _ => false

theorem namesConnectionEvent_eq : namesConnectionEvent = shapeAt "event" isConnectionEvent := by
  funext v
  rw [namesConnectionEvent, shapeAt]
  cases v.member? "event" with
  | none => rfl
  | some event =>
      cases event with
      | scalar s => cases s <;> rfl
      | list items => rfl
      | dict entries => rfl

theorem monotone_namesConnectionEvent : Monotone namesConnectionEvent := by
  rw [namesConnectionEvent_eq]
  refine monotone_shapeAt "event" fun a b hagrees hevent => ?_
  unfold isConnectionEvent at hevent
  split at hevent
  next name =>
    rw [hagrees.eq_string, isConnectionEvent]
    exact hevent
  next => cases hevent

/-- No rule of a format is lost in a payload that has more. -/
theorem monotone_rule (format : Format) :
    ∀ rule ∈ format.rules, Monotone rule.holds := by
  have hheader := monotone_shapeAt "payload"
    ((monotone_hasAll ["ChangeEventHeader"]).of_agrees isDict_of_hasAll)
  have hresults := monotone_shapeAt "d" ((monotone_listAt "results").of_agrees isDict_of_listAt)
  have hall := monotone_hasAll
  have hany := monotone_hasAny
  have htext := monotone_textAt
  have hlist := monotone_listAt
  cases format with
  | openai | azureOpenai =>
      simp [Format.rules, chatRules, hall, monotone_firstChoiceChanges]
  | anthropic => simp [Format.rules, messageRules, hall, htext]
  | googleAi => simp [Format.rules, candidateRules, hall]
  | awsBedrock =>
      simp [Format.rules, hostedRules, hall, hany, (hall ["message"]).and (hany _)]
  | github => simp [Format.rules, repositoryRules, hany, monotone_isDict]
  | stripe =>
      simp [Format.rules, paymentRules, (htext "object" "event").and (hall _), monotone_isDict]
  | slack =>
      simp [Format.rules, messengerRules, (hall ["challenge"]).and (htext _ _),
        (htext "type" "event_callback").and (hall _), hany, monotone_isDict]
  | webhook => simp [Format.rules, anyWebhookRules, monotone_always]
  | salesforce =>
      simp [Format.rules, changeHeaderRules, hheader, (hall ["totalSize"]).and (hlist _)]
  | sap => simp [Format.rules, cloudEventRules, hall, hresults, hlist]
  | dynamics => simp [Format.rules, executionRules, hall, hlist]
  | postgres | mysql | mongodb =>
      simp [Format.rules, databaseRules, hlist, hall, monotone_namesConnectionEvent]
  | oauth2 | saml | oidc | custom => simp [Format.rules]

theorem kind_ne_unknown (format : Format) : ∀ rule ∈ format.rules, rule.kind ≠ .unknown := by
  cases format <;> decide

/-- The kind of a payload is that of the first rule that holds, if there is one. -/
theorem detect_eq (rules : List DetectionRule) (v : Value) :
    detect rules v = ((rules[firstMatch rules v]?).map DetectionRule.kind).getD .unknown := by
  rw [detect, List.find?_eq_getElem?_findIdx, firstMatch]
  cases rules[rules.findIdx (·.holds v)]? <;> rfl

theorem detect_ne_unknown_iff (format : Format) (v : Value) :
    format.detect v ≠ .unknown ↔ firstMatch format.rules v < format.rules.length := by
  rw [Format.detect, detect_eq]
  by_cases hmatch : firstMatch format.rules v < format.rules.length
  · have hkind := kind_ne_unknown format _ (List.getElem_mem hmatch)
    simpa [List.getElem?_eq_getElem hmatch, hmatch] using hkind
  · simp [hmatch]

theorem firstMatch_le_of_extends (format : Format) {v w : Value} (hextends : w.Extends v) :
    firstMatch format.rules w ≤ firstMatch format.rules v :=
  List.findIdx_le_findIdx fun rule hrule hholds => monotone_rule format rule hrule hextends hholds

end Detection

/-- Looking a text up does not depend on the order of the entries, each of which has a key of its
own. -/
theorem Entries.get?_perm {entries shuffled : Entries} (hperm : shuffled.Perm entries)
    (hkeys : (shuffled.map Prod.fst).Nodup) (key : String) :
    get? (.string key) shuffled = get? (.string key) entries := by
  induction hperm with
  | nil => rfl
  | cons entry hrest ih =>
      obtain ⟨k, v⟩ := entry
      rw [List.map_cons, List.nodup_cons] at hkeys
      rw [get?, get?, ih hkeys.2]
  | swap first second rest =>
      obtain ⟨k, v⟩ := first
      obtain ⟨l, w⟩ := second
      have hdistinct : l ≠ k := by
        rintro rfl
        simp at hkeys
      by_cases hk : k = .string key
      · have hl : l ≠ .string key := by
          rintro rfl
          exact hdistinct hk.symm
        simp [get?, Scalar.same_string, hk, hl]
      · simp [get?, Scalar.same_string, hk]
  | trans hfirst hsecond ihfirst ihsecond =>
      rw [ihfirst hkeys, ihsecond ((hfirst.map Prod.fst).nodup_iff.1 hkeys)]

/-- Dictionaries with the same entries in different orders extend one another. -/
theorem Value.extends_of_perm {entries shuffled : Entries} (hperm : shuffled.Perm entries)
    (hkeys : (entries.map Prod.fst).Nodup) :
    (Value.dict shuffled).Extends (.dict entries) ∧
      (Value.dict entries).Extends (.dict shuffled) := by
  have hget := Entries.get?_perm hperm ((hperm.map Prod.fst).nodup_iff.2 hkeys)
  exact ⟨⟨rfl, fun key a ha => ⟨a, (hget key).trans ha, Or.inl rfl⟩⟩,
    ⟨rfl, fun key a ha => ⟨a, (hget key).symm.trans ha, Or.inl rfl⟩⟩⟩

/-- Payloads that extend one another are of one kind. -/
theorem Format.detect_eq_of_extends (format : Format) {v w : Value} (hmore : w.Extends v)
    (hless : v.Extends w) : format.detect w = format.detect v := by
  have hmatch := Nat.le_antisymm (Detection.firstMatch_le_of_extends format hmore)
    (Detection.firstMatch_le_of_extends format hless)
  rw [detect, detect, Detection.detect_eq, Detection.detect_eq, hmatch]

/-- In a payload that has more, the first rule that holds comes no later: a payload that is
recognized stays so, and its kind does not depend on the order of its keys, nor of those inside
equal values. -/
theorem detection_monotone (format : Format) {v w : Value} (hextends : w.Extends v) :
    Detection.firstMatch format.rules w ≤ Detection.firstMatch format.rules v ∧
    (format.detect v ≠ .unknown → format.detect w ≠ .unknown) ∧
    (v.Extends w → format.detect w = format.detect v) ∧
    ∀ entries shuffled : Entries, v = .dict entries → (entries.map Prod.fst).Nodup →
      shuffled.Perm entries → format.detect (.dict shuffled) = format.detect v := by
  have hmatch := Detection.firstMatch_le_of_extends format hextends
  refine ⟨hmatch, fun hknown => ?_, format.detect_eq_of_extends hextends, ?_⟩
  · rw [Detection.detect_ne_unknown_iff] at hknown ⊢
    exact Nat.lt_of_le_of_lt hmatch hknown
  · rintro entries shuffled rfl hkeys hperm
    obtain ⟨hmore, hless⟩ := Value.extends_of_perm hperm hkeys
    exact format.detect_eq_of_extends hmore hless

namespace DetectingWitness

/-- A chunk of an answer. -/
def chunk : Value :=
  .dict [(.string "choices", .list [.dict [(.string "delta", .int 1), (.string "index", .null)]])]

/-- The chunk with a key in front of it, the keys inside in another order, and another number that
counts as the same. -/
def answer : Value :=
  .dict [
    (.string "usage", .null),
    (.string "choices", .list [.dict [(.string "index", .null), (.string "delta", .bool true)]])]

theorem extends_chunk : answer.Extends chunk where
  isDict := rfl
  member? key a ha := by
    by_cases hkey : key = "choices"
    · subst hkey
      cases ha
      exact ⟨_, rfl, Or.inr (by with_unfolding_all rfl)⟩
    · simp [chunk, Value.member?, Entries.get?, Scalar.same_string, Ne.symm hkey] at ha

/-- A chunk becomes an answer when it also tells what has been used. -/
theorem detection_monotone_of_chunk :
    answer.Extends chunk ∧
    Detection.firstMatch Format.openai.rules chunk = 2 ∧
    Detection.firstMatch Format.openai.rules answer ≤ 2 ∧
    Format.openai.detect chunk ≠ .unknown ∧ Format.openai.detect answer ≠ .unknown := by
  have hchunk : Detection.firstMatch Format.openai.rules chunk = 2 := by decide +kernel
  have hknown : Format.openai.detect chunk ≠ .unknown := by decide +kernel
  obtain ⟨hmatch, hstays, _, _⟩ := detection_monotone .openai extends_chunk
  rw [hchunk] at hmatch
  exact ⟨extends_chunk, hchunk, hmatch, hknown, hstays hknown⟩

end DetectingWitness

end EventIntake
