/-
Values that JSON has: scalars of its kinds, lists, and dictionaries whose keys are texts, no two of
them alike.  Parts of such values, and values put together from them, are of this kind again.  They
can be written down to the limit of nesting, and a payload holds them as they are, but for floats
that are not finite.
-/
import EventIntake.Event.Envelope
import EventIntake.Json.Writer
import EventIntake.Proofs.Magnitudes
import EventIntake.Proofs.Nesting
import EventIntake.Proofs.Writing

namespace EventIntake

/-- A scalar that JSON texts hold: no moment, no date, and no integer of more digits than are
read. -/
def Scalar.IsJson : Scalar → Prop
  | .int n => n.natAbs < digitBound digitLimit
  | .float x => x.IsStored
  | .moment _ => False
  | .date _ => False
  | _ => True

/-- A scalar that payloads hold as it is: a float must be finite. -/
def Scalar.IsPortable : Scalar → Prop
  | .moment _ => False
  | .date _ => False
  | .float (.infinite _) => False
  | .float .nan => False
  | _ => True

/-- A key of a value that is made of scalars of a kind: a text, with halves of surrogate pairs only
if the kind has it. -/
def Scalar.IsKey (kind : Scalar → Prop) : Scalar → Prop
  | .string _ => True
  | .halved t => kind (.halved t)
  | _ => False

mutual

/-- The value is made of scalars of a kind, in lists and in dictionaries whose keys are different
texts. -/
def Value.MadeOf (kind : Scalar → Prop) : Value → Prop
  | .scalar s => kind s
  | .list items => Value.AllMadeOf kind items
  | .dict entries => Entries.MadeOf kind entries

/-- All items are made of scalars of a kind. -/
def Value.AllMadeOf (kind : Scalar → Prop) : List Value → Prop
  | [] => True
  | v :: rest => v.MadeOf kind ∧ Value.AllMadeOf kind rest

/-- The keys of the entries are different texts, and their values are made of scalars of a
kind. -/
def Entries.MadeOf (kind : Scalar → Prop) : Entries → Prop
  | [] => True
  | (key, v) :: rest =>
    key.IsKey kind ∧ key ∉ rest.map Prod.fst ∧ v.MadeOf kind ∧ Entries.MadeOf kind rest

end

variable {kind : Scalar → Prop}

@[simp] theorem Scalar.isKey_string (name : String) : (Scalar.string name).IsKey kind := trivial

theorem Scalar.IsKey.isText {key : Scalar} (hname : key.IsKey kind) : key.isText = true := by
  cases key with
  | string name => rfl
  | halved t => rfl
  | _ => cases hname

theorem Scalar.IsKey.mono {wider : Scalar → Prop} (hwider : ∀ s, kind s → wider s) {key : Scalar}
    (hname : key.IsKey kind) : key.IsKey wider := by
  cases key with
  | halved t => exact hwider _ hname
  | _ => exact hname

theorem Scalar.isKey_isJson_iff {key : Scalar} : key.IsKey IsJson ↔ key.isText = true := by
  cases key <;> simp [IsKey, IsJson, isText]

theorem Scalar.isJson_of_isText {s : Scalar} (htext : s.isText = true) : s.IsJson := by
  cases s <;> trivial

theorem Scalar.isJson_ofPoints (points : List Point) : (Scalar.ofPoints points).IsJson :=
  isJson_of_isText (isText_ofPoints points)

theorem Value.madeOf_scalar_iff {s : Scalar} : (Value.scalar s).MadeOf kind ↔ kind s := by
  rw [Value.MadeOf]

mutual

/-- What is made of scalars of a kind is made of those of a wider kind. -/
theorem Value.MadeOf.mono {wider : Scalar → Prop} (hwider : ∀ s, kind s → wider s) :
    {v : Value} → v.MadeOf kind → v.MadeOf wider
  | .scalar s, hmade => by
      rw [Value.MadeOf] at hmade ⊢
      exact hwider s hmade
  | .list items, hmade => by
      rw [Value.MadeOf] at hmade ⊢
      exact Value.AllMadeOf.mono hwider hmade
  | .dict entries, hmade => by
      rw [Value.MadeOf] at hmade ⊢
      exact Entries.MadeOf.mono hwider hmade

theorem Value.AllMadeOf.mono {wider : Scalar → Prop} (hwider : ∀ s, kind s → wider s) :
    {items : List Value} → Value.AllMadeOf kind items → Value.AllMadeOf wider items
  | [], _ => by
      rw [Value.AllMadeOf]
      trivial
  | v :: rest, hmade => by
      rw [Value.AllMadeOf] at hmade ⊢
      exact ⟨Value.MadeOf.mono hwider hmade.1, Value.AllMadeOf.mono hwider hmade.2⟩

theorem Entries.MadeOf.mono {wider : Scalar → Prop} (hwider : ∀ s, kind s → wider s) :
    {entries : Entries} → Entries.MadeOf kind entries → Entries.MadeOf wider entries
  | [], _ => by
      rw [Entries.MadeOf]
      trivial
  | (key, v) :: rest, hmade => by
      rw [Entries.MadeOf] at hmade ⊢
      obtain ⟨hname, hfresh, hv, hrest⟩ := hmade
      exact ⟨hname.mono hwider, hfresh, Value.MadeOf.mono hwider hv,
        Entries.MadeOf.mono hwider hrest⟩

end

theorem Scalar.IsJson.isTooLong {s : Scalar} (hs : s.IsJson) : s.isTooLong = false := by
  cases s with
  | int n => exact Scalar.isTooLong_int_eq_false.2 hs
  | _ => rfl

mutual

/-- The integers of JSON values can be told. -/
theorem Value.hasTooLong_eq_false : {v : Value} → v.MadeOf Scalar.IsJson → v.hasTooLong = false
  | .scalar s, hmade => by
      rw [Value.MadeOf] at hmade
      exact hmade.isTooLong
  | .list items, hmade => by
      rw [Value.MadeOf] at hmade
      exact Value.itemsTooLong_eq_false hmade
  | .dict entries, hmade => by
      rw [Value.MadeOf] at hmade
      exact Value.entriesTooLong_eq_false hmade

theorem Value.itemsTooLong_eq_false : {items : List Value} →
    Value.AllMadeOf Scalar.IsJson items → Value.itemsTooLong items = false
  | [], _ => rfl
  | v :: rest, hmade => by
      rw [Value.AllMadeOf] at hmade
      rw [Value.itemsTooLong, Value.hasTooLong_eq_false hmade.1,
        Value.itemsTooLong_eq_false hmade.2]
      rfl

theorem Value.entriesTooLong_eq_false : {entries : Entries} →
    Entries.MadeOf Scalar.IsJson entries → Value.entriesTooLong entries = false
  | [], _ => rfl
  | (key, v) :: rest, hmade => by
      rw [Entries.MadeOf] at hmade
      obtain ⟨hkey, _, hv, hrest⟩ := hmade
      rw [Value.entriesTooLong, Scalar.isTooLong_of_isText hkey.isText,
        Value.hasTooLong_eq_false hv, Value.entriesTooLong_eq_false hrest]
      rfl

end

theorem Value.madeOf_dict_iff {entries : Entries} :
    (Value.dict entries).MadeOf kind ↔ Entries.MadeOf kind entries := by
  rw [Value.MadeOf]

theorem Entries.madeOf_nil : Entries.MadeOf kind [] := by
  rw [Entries.MadeOf]
  trivial

theorem Value.allMadeOf_iff {items : List Value} :
    Value.AllMadeOf kind items ↔ ∀ v ∈ items, v.MadeOf kind := by
  induction items with
  | nil => simp [Value.AllMadeOf]
  | cons v rest ih => rw [Value.AllMadeOf, ih, List.forall_mem_cons]

namespace Entries

theorem MadeOf.get? {key : Scalar} {v : Value} {entries : Entries}
    (hmade : Entries.MadeOf kind entries) (hget : Entries.get? key entries = some v) :
    v.MadeOf kind := by
  induction entries with
  | nil => simp [Entries.get?] at hget
  | cons entry rest ih =>
      obtain ⟨other, w⟩ := entry
      rw [Entries.MadeOf] at hmade
      obtain ⟨_, _, hw, hrest⟩ := hmade
      rw [Entries.get?] at hget
      split at hget
      next =>
        cases hget
        exact hw
      next => exact ih hrest hget

theorem MadeOf.insert {key : Scalar} {v : Value} {entries : Entries}
    (hmade : Entries.MadeOf kind entries) (hname : key.IsKey kind) (hv : v.MadeOf kind) :
    Entries.MadeOf kind (Entries.insert key v entries) := by
  induction entries with
  | nil =>
      rw [Entries.insert, Entries.MadeOf]
      exact ⟨hname, by simp, hv, hmade⟩
  | cons entry rest ih =>
      obtain ⟨other, w⟩ := entry
      rw [Entries.MadeOf] at hmade
      obtain ⟨hother, hfresh, hw, hrest⟩ := hmade
      rw [Entries.insert, Scalar.same_text _ hname.isText]
      by_cases hkey : other = key
      · simp only [hkey, decide_true, ↓reduceIte]
        rw [Entries.MadeOf]
        exact ⟨hname, hkey ▸ hfresh, hv, hrest⟩
      · simp only [hkey, decide_false, Bool.false_eq_true, ↓reduceIte]
        rw [Entries.MadeOf]
        refine ⟨hother, ?_, hw, ih hrest⟩
        rw [Entries.keys_insert, List.mem_append, not_or]
        refine ⟨hfresh, ?_⟩
        split <;> simp [hkey]

theorem MadeOf.isKey {key : Scalar} {entries : Entries}
    (hmade : Entries.MadeOf kind entries) (hkey : key ∈ entries.map Prod.fst) :
    key.IsKey kind := by
  induction entries with
  | nil => cases hkey
  | cons entry rest ih =>
      rw [Entries.MadeOf] at hmade
      obtain ⟨hname, _, _, hrest⟩ := hmade
      rcases List.mem_cons.1 hkey with rfl | hlater
      · exact hname
      · exact ih hrest hlater

/-- Pairs whose keys are texts bring entries of different keys, whichever of them are alike. -/
theorem madeOf_ofPairs {pairs : List (Scalar × Value)}
    (hpairs : ∀ pair ∈ pairs, pair.1.IsKey kind ∧ pair.2.MadeOf kind) :
    Entries.MadeOf kind (Entries.ofPairs pairs) := by
  rw [Entries.ofPairs]
  refine List.foldlRecOn (motive := fun entries => Entries.MadeOf kind entries) pairs _
    madeOf_nil ?_
  rintro entries hmade ⟨key, v⟩ hpair
  obtain ⟨hname, hv⟩ := hpairs _ hpair
  exact hmade.insert hname hv

/-- Of different keys each brings an entry. -/
theorem MadeOf.ofPairs {entries : Entries} (hmade : Entries.MadeOf kind entries) :
    Entries.ofPairs entries = entries := by
  have hfold : ∀ before : Entries, (∀ key ∈ entries.map Prod.fst, key ∉ before.map Prod.fst) →
      entries.foldl (fun before entry => Entries.insert entry.1 entry.2 before) before =
        before ++ entries := by
    induction entries with
    | nil => simp
    | cons entry rest ih =>
        obtain ⟨key, v⟩ := entry
        rw [Entries.MadeOf] at hmade
        obtain ⟨hname, hfresh, _, hrest⟩ := hmade
        intro before hbefore
        obtain ⟨hfirst, hothers⟩ := List.forall_mem_cons.1 hbefore
        simp only [List.foldl_cons]
        rw [Entries.insert_of_not_mem hname.isText hfirst, ih hrest, List.append_assoc]
        · rfl
        · intro other hother
          rw [List.map_append, List.mem_append, not_or]
          refine ⟨hothers other hother, ?_⟩
          intro hsame
          rw [List.map_singleton, List.mem_singleton] at hsame
          rw [hsame] at hother
          exact hfresh hother
  exact hfold [] (by simp)

end Entries

namespace Value

theorem MadeOf.member? {key : String} {v w : Value} (hmade : v.MadeOf kind)
    (hmember : v.member? key = some w) : w.MadeOf kind := by
  cases v with
  | dict entries =>
      exact (Value.madeOf_dict_iff.1 hmade).get? hmember
  | _ => simp [Value.member?] at hmember

theorem MadeOf.child {v w : Value} {segment : String} (hmade : v.MadeOf kind)
    (hchild : Path.child v segment = .ok (some w)) : w.MadeOf kind := by
  cases v with
  | scalar s => simp [Path.child] at hchild
  | dict entries =>
      rw [Path.child, Except.ok.injEq] at hchild
      exact (Value.madeOf_dict_iff.1 hmade).get? hchild
  | list items =>
      rw [Path.child, Path.item] at hchild
      rw [Value.MadeOf, Value.allMadeOf_iff] at hmade
      split at hchild
      next =>
        split at hchild
        next =>
          rw [Except.ok.injEq] at hchild
          exact hmade w (List.mem_of_getElem? hchild)
        next => cases hchild
        next => cases hchild
      next => cases hchild

/-- What a path leads to in a value is made of the same. -/
theorem MadeOf.follow {v w : Value} {names : List String} (hmade : v.MadeOf kind)
    (hfollow : Path.follow v names = .ok (some w)) : w.MadeOf kind := by
  induction names generalizing v with
  | nil =>
      cases hfollow
      exact hmade
  | cons name rest ih =>
      rw [Path.follow] at hfollow
      split at hfollow
      next u hchild => exact ih (hmade.child hchild) hfollow
      next => cases hfollow
      next => cases hfollow

end Value

theorem Entries.MadeOf.below {key : String} {entries : Entries}
    (hmade : Entries.MadeOf kind entries) : Entries.MadeOf kind (Path.below key entries) := by
  rw [Path.below]
  split
  next inner hget =>
    have hinner := hmade.get? hget
    rwa [Value.MadeOf] at hinner
  next => exact Entries.madeOf_nil

/-- Putting in a value made of the same keeps what entries are made of. -/
theorem Entries.MadeOf.putAt {v : Value} {names : List String} {entries : Entries}
    (hmade : Entries.MadeOf kind entries) (hv : v.MadeOf kind) :
    Entries.MadeOf kind (Path.putAt v names entries) := by
  fun_induction Path.putAt v names entries with
  | case1 => exact hmade
  | case2 name entries => exact hmade.insert trivial hv
  | case3 name next tail entries ih =>
      exact hmade.insert trivial (Value.madeOf_dict_iff.2 (ih hmade.below))

namespace Json.Layout

variable {τ : Type} [Medium τ] {layout : Layout}

/-- A key is written if scalars of its kind are. -/
theorem exists_key (hkind : ∀ s, kind s → ∃ text : τ, layout.scalar s = .ok text) {key : Scalar}
    (hkey : key.IsKey kind) : ∃ text : τ, layout.key key = .ok text := by
  cases key with
  | string name => exact ⟨_, rfl⟩
  | halved t => exact hkind (.halved t) hkey
  | _ => cases hkey

variable [Limits]

mutual

/-- A value made of scalars that are written can be written, if its nesting has room. -/
theorem exists_writeAt (hkind : ∀ s, kind s → ∃ text : τ, layout.scalar s = .ok text) :
    {v : Value} → {level : Nat} → v.MadeOf kind → level + v.depth ≤ Limits.writing →
      ∃ text : τ, layout.writeAt level v = .ok text
  | .scalar s, _, hmade, _ => by
      rw [Value.MadeOf] at hmade
      rw [writeAt]
      exact hkind s hmade
  | .list [], _, _, _ => by
      rw [writeAt]
      exact ⟨_, rfl⟩
  | .dict [], _, _, _ => by
      rw [writeAt]
      exact ⟨_, rfl⟩
  | .list (v :: rest), level, hmade, hdepth => by
      rw [Value.MadeOf, Value.AllMadeOf] at hmade
      rw [Value.depth, Value.depthOfItems] at hdepth
      have hvroom : level + 1 + v.depth ≤ Limits.writing := by omega
      have hroom : level + 1 + Value.depthOfItems rest ≤ Limits.writing := by omega
      obtain ⟨first, hfirst⟩ := exists_writeAt hkind hmade.1 hvroom
      obtain ⟨others, hothers⟩ := exists_writeItems hkind hmade.2 hroom
      rw [writeAt, if_neg (by omega), hfirst, hothers]
      exact ⟨_, rfl⟩
  | .dict ((key, v) :: rest), level, hmade, hdepth => by
      rw [Value.MadeOf, Entries.MadeOf] at hmade
      obtain ⟨hkey, _, hv, hrest⟩ := hmade
      rw [Value.depth, Value.depthOfEntries] at hdepth
      have hvroom : level + 1 + v.depth ≤ Limits.writing := by omega
      have hroom : level + 1 + Value.depthOfEntries rest ≤ Limits.writing := by omega
      obtain ⟨name, hname⟩ := exists_key hkind hkey
      obtain ⟨first, hfirst⟩ := exists_writeAt hkind hv hvroom
      obtain ⟨others, hothers⟩ := exists_writeEntries hkind hrest hroom
      rw [writeAt, if_neg (by omega), hname, hfirst, hothers]
      exact ⟨_, rfl⟩

theorem exists_writeItems (hkind : ∀ s, kind s → ∃ text : τ, layout.scalar s = .ok text) :
    {items : List Value} → {level : Nat} → Value.AllMadeOf kind items →
      level + Value.depthOfItems items ≤ Limits.writing →
        ∃ text : τ, layout.writeItems level items = .ok text
  | [], _, _, _ => ⟨_, rfl⟩
  | v :: rest, level, hmade, hdepth => by
      rw [Value.AllMadeOf] at hmade
      rw [Value.depthOfItems] at hdepth
      have hvroom : level + v.depth ≤ Limits.writing := by omega
      have hroom : level + Value.depthOfItems rest ≤ Limits.writing := by omega
      obtain ⟨first, hfirst⟩ := exists_writeAt hkind hmade.1 hvroom
      obtain ⟨others, hothers⟩ := exists_writeItems hkind hmade.2 hroom
      rw [writeItems, hfirst, hothers]
      exact ⟨_, rfl⟩

theorem exists_writeEntries (hkind : ∀ s, kind s → ∃ text : τ, layout.scalar s = .ok text) :
    {entries : Entries} → {level : Nat} → Entries.MadeOf kind entries →
      level + Value.depthOfEntries entries ≤ Limits.writing →
        ∃ text : τ, layout.writeEntries level entries = .ok text
  | [], _, _, _ => ⟨_, rfl⟩
  | (key, v) :: rest, level, hmade, hdepth => by
      rw [Entries.MadeOf] at hmade
      obtain ⟨hkey, _, hv, hrest⟩ := hmade
      rw [Value.depthOfEntries] at hdepth
      have hvroom : level + v.depth ≤ Limits.writing := by omega
      have hroom : level + Value.depthOfEntries rest ≤ Limits.writing := by omega
      obtain ⟨name, hname⟩ := exists_key hkind hkey
      obtain ⟨first, hfirst⟩ := exists_writeAt hkind hv hvroom
      obtain ⟨others, hothers⟩ := exists_writeEntries hkind hrest hroom
      rw [writeEntries, hname, hfirst, hothers]
      exact ⟨_, rfl⟩

end

end Json.Layout

namespace Wire

theorem isPortable_scalar (s : Scalar) : (scalar s).IsPortable := by
  cases s with
  | float x => cases x <;> trivial
  | _ => trivial

theorem isKey_key (s : Scalar) : (key s).IsKey Scalar.IsPortable := by
  cases s <;> trivial

theorem key_of_isKey {s : Scalar} (hkey : s.IsKey kind) : key s = s := by
  cases s with
  | string name => rfl
  | halved t => rfl
  | _ => cases hkey

mutual

/-- What a payload holds is portable, whatever the value. -/
theorem madeOf_value : (v : Value) → (value v).MadeOf Scalar.IsPortable
  | .scalar s => by
      rw [value, Value.MadeOf]
      exact isPortable_scalar s
  | .list items => by
      rw [value, Value.MadeOf]
      exact allMadeOf_values items
  | .dict entries => by
      rw [value, Value.MadeOf]
      exact Entries.madeOf_ofPairs (madeOf_members entries)

theorem allMadeOf_values : (items : List Value) → Value.AllMadeOf Scalar.IsPortable (values items)
  | [] => by
      rw [values, Value.AllMadeOf]
      trivial
  | v :: rest => by
      rw [values, Value.AllMadeOf]
      exact ⟨madeOf_value v, allMadeOf_values rest⟩

theorem madeOf_members : (entries : Entries) → ∀ member ∈ members entries,
    member.1.IsKey Scalar.IsPortable ∧ member.2.MadeOf Scalar.IsPortable
  | [] => by
      rw [members]
      simp
  | (key, v) :: rest => by
      rw [members, List.forall_mem_cons]
      exact ⟨⟨isKey_key key, madeOf_value v⟩, madeOf_members rest⟩

end

/-- A payload has the keys of a JSON value. -/
theorem members_of_isJson {entries : Entries} (hmade : Entries.MadeOf Scalar.IsJson entries) :
    Entries.MadeOf Scalar.IsPortable (members entries) ∧
      (members entries).map Prod.fst = entries.map Prod.fst := by
  induction entries with
  | nil =>
      rw [members, Entries.MadeOf]
      exact ⟨trivial, rfl⟩
  | cons entry rest ih =>
      obtain ⟨key, v⟩ := entry
      rw [Entries.MadeOf] at hmade
      obtain ⟨hkey, hfresh, _, hrest⟩ := hmade
      obtain ⟨hothers, hkeys⟩ := ih hrest
      rw [members, Entries.MadeOf, hkeys, List.map_cons, hkeys, key_of_isKey hkey]
      exact ⟨⟨key_of_isKey hkey ▸ isKey_key key, hfresh, madeOf_value v, hothers⟩, rfl⟩

mutual

/-- A payload does not change the nesting of a JSON value. -/
theorem depth_value : {v : Value} → v.MadeOf Scalar.IsJson → (value v).depth = v.depth
  | .scalar s, _ => by rw [value, Value.depth, Value.depth]
  | .list items, hmade => by
      rw [Value.MadeOf] at hmade
      rw [value, Value.depth, Value.depth, depth_values hmade]
  | .dict entries, hmade => by
      rw [Value.MadeOf] at hmade
      rw [value, (members_of_isJson hmade).1.ofPairs, Value.depth, Value.depth, depth_members hmade]

theorem depth_values : {items : List Value} → Value.AllMadeOf Scalar.IsJson items →
    Value.depthOfItems (values items) = Value.depthOfItems items
  | [], _ => rfl
  | v :: rest, hmade => by
      rw [Value.AllMadeOf] at hmade
      rw [values, Value.depthOfItems, Value.depthOfItems, depth_value hmade.1,
        depth_values hmade.2]

theorem depth_members : {entries : Entries} → Entries.MadeOf Scalar.IsJson entries →
    Value.depthOfEntries (members entries) = Value.depthOfEntries entries
  | [], _ => rfl
  | (key, v) :: rest, hmade => by
      rw [Entries.MadeOf] at hmade
      obtain ⟨_, _, hv, hrest⟩ := hmade
      rw [members, Value.depthOfEntries, Value.depthOfEntries, depth_value hv,
        depth_members hrest]

end

mutual

/-- A payload holds portable values as they are. -/
theorem value_eq : {v : Value} → v.MadeOf Scalar.IsPortable → value v = v
  | .scalar s, hmade => by
      rw [Value.MadeOf] at hmade
      rw [value]
      cases s with
      | float x =>
          cases x with
          | finite negative significand exponent => rfl
          | infinite negative => cases hmade
          | nan => cases hmade
      | moment m => cases hmade
      | date d => cases hmade
      | _ => rfl
  | .list items, hmade => by
      rw [Value.MadeOf] at hmade
      rw [value, values_eq hmade]
  | .dict entries, hmade => by
      rw [Value.MadeOf] at hmade
      rw [value, members_eq hmade, hmade.ofPairs]

theorem values_eq : {items : List Value} → Value.AllMadeOf Scalar.IsPortable items →
    values items = items
  | [], _ => rfl
  | v :: rest, hmade => by
      rw [Value.AllMadeOf] at hmade
      rw [values, value_eq hmade.1, values_eq hmade.2]

theorem members_eq : {entries : Entries} → Entries.MadeOf Scalar.IsPortable entries →
    members entries = entries
  | [], _ => rfl
  | (key, v) :: rest, hmade => by
      rw [Entries.MadeOf] at hmade
      obtain ⟨hkey, _, hv, hrest⟩ := hmade
      rw [members, key_of_isKey hkey, value_eq hv, members_eq hrest]

end

end Wire

end EventIntake
