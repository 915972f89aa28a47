/-
Dotted paths of positions.  A position can be read off its dotted path as long as its keys are
names, which are texts that are neither empty nor hold a dot.
-/
import EventIntake.Proofs.Position
import Mathlib.Data.List.Nodup

namespace EventIntake

/-- A key that is one segment of a path: a text that is not empty and holds no dot. -/
def Scalar.IsName (key : Scalar) : Prop :=
  ∃ name : String, key = .string name ∧ name ≠ "" ∧ '.' ∉ name.toList

theorem Scalar.IsName.same_eq {key other : Scalar} (hname : other.IsName) :
    key.same other = decide (key = other) := by
  obtain ⟨name, rfl, _, _⟩ := hname
  exact Scalar.same_string key name

theorem Scalar.IsName.string_plain {key : Scalar} (hname : key.IsName) :
    Scalar.string key.plain = key := by
  obtain ⟨name, rfl, _, _⟩ := hname
  rfl

theorem Scalar.map_string_plain {keys : List Scalar} (hnames : ∀ key ∈ keys, key.IsName) :
    (keys.map Scalar.plain).map Scalar.string = keys := by
  rw [List.map_map]
  conv_rhs => rw [← List.map_id keys]
  exact List.map_congr_left fun key hkey => (hnames key hkey).string_plain

def Path.dotted (keys : List Scalar) : String := keys.foldl Path.extend ""

mutual

theorem Path.leavesAt_eq_map (path : String) : (v : Value) →
    Path.leavesAt path v = v.positions.map fun place => place.1.foldl Path.extend path
  | .dict entries => by
      rw [Path.leavesAt, Value.positions, Path.leavesBelow_eq_map path entries]
  | .list items => by simp [Path.leavesAt, Value.positions]
  | .scalar s => by simp [Path.leavesAt, Value.positions]

theorem Path.leavesBelow_eq_map (base : String) : (entries : Entries) →
    Path.leavesBelow base entries =
      (Entries.positions entries).map fun place => place.1.foldl Path.extend base
  | [] => by simp [Path.leavesBelow, Entries.positions]
  | (key, v) :: rest => by
      rw [Path.leavesBelow, Entries.positions, Path.leavesAt_eq_map (Path.extend base key) v,
        Path.leavesBelow_eq_map base rest, List.map_append, List.map_map]
      rfl

end

/-- The leaf paths of entries are the dotted paths of their leaf positions. -/
theorem Path.leaves_eq_map_dotted (entries : Entries) :
    Path.leaves entries "" = (Entries.positions entries).map (Path.dotted ·.1) := by
  rw [Path.leaves_eq_leavesBelow, Path.leavesBelow_eq_map]
  rfl

namespace Path

theorem segments_empty : segments "" = [] := by
  simp [segments, Text.splitChars]

theorem segments_append_dot (base name : String) :
    segments (base ++ "." ++ name) = segments base ++ segments name := by
  have hlist : (base ++ "." ++ name).toList = base.toList ++ '.' :: name.toList := by
    simp
  simp only [segments, hlist, Text.splitChars_append, List.filter_append, List.map_append]

theorem segments_of_name {name : String} (hne : name ≠ "") (hfree : '.' ∉ name.toList) :
    segments name = [name] := by
  have hlist : name.toList ≠ [] := by simpa using hne
  simp [segments, Text.splitChars_of_not_mem hfree, hlist]

/-- A name adds one segment, whatever the base. -/
theorem segments_extend {base : String} {key : Scalar} (hname : key.IsName) :
    segments (extend base key) = segments base ++ [key.plain] := by
  obtain ⟨name, rfl, hne, hfree⟩ := hname
  change segments (extend base (.string name)) = segments base ++ [name]
  rw [← segments_of_name hne hfree, extend]
  split
  next hempty =>
    have hbase : base = "" := by simpa using hempty
    rw [hbase, segments_empty, List.nil_append]
    rfl
  next => exact segments_append_dot base name

/-- Names come back from their dotted path. -/
theorem segments_dotted {keys : List Scalar} (hnames : ∀ key ∈ keys, key.IsName) :
    segments (dotted keys) = keys.map Scalar.plain := by
  have hfold : ∀ base : String,
      segments (keys.foldl extend base) = segments base ++ keys.map Scalar.plain := by
    induction keys with
    | nil => simp
    | cons key rest ih =>
        obtain ⟨hkey, hrest⟩ := List.forall_mem_cons.1 hnames
        intro base
        rw [List.foldl_cons, ih hrest, segments_extend hkey, List.map_cons, List.append_assoc,
          List.singleton_append]
  rw [dotted, hfold, segments_empty, List.nil_append]

end Path

/-- Different positions with names for keys have different dotted paths. -/
theorem Path.dotted_injOn {left right : List Scalar} (hleft : ∀ key ∈ left, key.IsName)
    (hright : ∀ key ∈ right, key.IsName) (heq : Path.dotted left = Path.dotted right) :
    left = right := by
  rw [← Scalar.map_string_plain hleft, ← Scalar.map_string_plain hright,
    ← Path.segments_dotted hleft, ← Path.segments_dotted hright, heq]

mutual

/-- The keys of the dictionaries in a value, as far as dictionaries lead to them, are names, and
none stands twice in one dictionary. -/
def Value.Named : Value → Prop
  | .dict entries => Entries.Named entries
  | .list _ => True
  | .scalar _ => True

/-- The keys of entries, and of the dictionaries that they lead to, are names, and none stands
twice in one dictionary. -/
def Entries.Named : Entries → Prop
  | [] => True
  | (key, v) :: rest =>
    key.IsName ∧ key ∉ rest.map Prod.fst ∧ v.Named ∧ Entries.Named rest

end

mutual

/-- An enumerated position is one: its keys are names, they lead to what stands there, and that
is no dictionary. -/
theorem Value.Named.of_mem_positions : {v : Value} → v.Named →
    ∀ {keys : List Scalar} {leaf : Value}, (keys, leaf) ∈ v.positions →
      (∀ key ∈ keys, key.IsName) ∧ Value.Reaches v keys leaf ∧ leaf.isDict = false
  | .dict _, hnamed, _, _, hmem => by
      rw [Value.Named] at hnamed
      rw [Value.positions] at hmem
      exact Entries.Named.of_mem_positions hnamed hmem
  | .list items, _, keys, leaf, hmem => by
      rw [Value.positions, List.mem_singleton] at hmem
      cases hmem
      exact ⟨by simp, .here _, rfl⟩
  | .scalar s, _, keys, leaf, hmem => by
      rw [Value.positions, List.mem_singleton] at hmem
      cases hmem
      exact ⟨by simp, .here _, rfl⟩

theorem Entries.Named.of_mem_positions : {entries : Entries} → Entries.Named entries →
    ∀ {keys : List Scalar} {leaf : Value}, (keys, leaf) ∈ Entries.positions entries →
      (∀ key ∈ keys, key.IsName) ∧ Entries.LeafAt entries keys leaf
  | [], _, _, _, hmem => by simp [Entries.positions] at hmem
  | (key, v) :: rest, hnamed, keys, leaf, hmem => by
      rw [Entries.Named] at hnamed
      obtain ⟨hname, hfresh, hv, hrest⟩ := hnamed
      rw [Entries.positions, List.mem_append] at hmem
      rcases hmem with hmem | hmem
      · obtain ⟨⟨tail, w⟩, htail, heq⟩ := List.mem_map.1 hmem
        cases heq
        obtain ⟨hnames, hreach, hleaf⟩ := Value.Named.of_mem_positions hv htail
        exact ⟨List.forall_mem_cons.2 ⟨hname, hnames⟩, .under (.here rest) hreach, hleaf⟩
      · obtain ⟨hnames, hreach, hleaf⟩ := Entries.Named.of_mem_positions hrest hmem
        refine ⟨hnames, ?_, hleaf⟩
        cases hreach with
        | here => simp [Value.isDict] at hleaf
        | under hholds hreach =>
            refine .under (.there ?_ hholds) hreach
            rw [(hnames _ List.mem_cons_self).same_eq, decide_eq_false_iff_not]
            rintro rfl
            exact hfresh hholds.mem_keys

end

mutual

theorem Value.Named.positions_nodup : {v : Value} → v.Named → (v.positions.map Prod.fst).Nodup
  | .dict _, hnamed => by
      rw [Value.Named] at hnamed
      rw [Value.positions]
      exact Entries.Named.positions_nodup hnamed
  | .list _, _ => by simp [Value.positions]
  | .scalar _, _ => by simp [Value.positions]

/-- No leaf position is enumerated twice. -/
theorem Entries.Named.positions_nodup : {entries : Entries} → Entries.Named entries →
    ((Entries.positions entries).map Prod.fst).Nodup
  | [], _ => by simp [Entries.positions]
  | (key, v) :: rest, hnamed => by
      rw [Entries.Named] at hnamed
      obtain ⟨_, hfresh, hv, hrest⟩ := hnamed
      have hcons : Function.Injective (List.cons key) := fun _ _ heq => (List.cons.inj heq).2
      have hhead := (Value.Named.positions_nodup hv).map hcons
      rw [List.map_map] at hhead
      rw [Entries.positions, List.map_append, List.map_map, List.nodup_append]
      refine ⟨hhead, Entries.Named.positions_nodup hrest, ?_⟩
      intro left hleft right hright heq
      obtain ⟨place, _, rfl⟩ := List.mem_map.1 hleft
      obtain ⟨other, hmem, rfl⟩ := List.mem_map.1 hright
      obtain ⟨_, hreach, _⟩ := Entries.Named.of_mem_positions hrest hmem
      change key :: place.1 = other.1 at heq
      rw [← heq] at hreach
      obtain ⟨_, hholds, _⟩ := Value.reaches_cons_iff.1 hreach
      exact hfresh hholds.mem_keys

end

namespace Entries.Named

variable {entries : Entries}

/-- Looking up the dotted path of a leaf position gives the leaf. -/
theorem find_dotted (hnamed : Entries.Named entries) {keys : List Scalar} {leaf : Value}
    (hmem : (keys, leaf) ∈ Entries.positions entries) :
    Path.find (.dict entries) (Path.dotted keys) = .ok (some leaf) := by
  obtain ⟨hnames, hreach, _⟩ := hnamed.of_mem_positions hmem
  rw [Path.find, Path.segments_dotted hnames]
  apply Value.Reaches.follow_eq
  rwa [Scalar.map_string_plain hnames]

/-- No leaf path is listed twice. -/
theorem leaves_nodup (hnamed : Entries.Named entries) : (Path.leaves entries "").Nodup := by
  have hkeys := hnamed.positions_nodup
  rw [Path.leaves_eq_map_dotted]
  refine List.Nodup.map_on ?_ (List.Nodup.of_map _ hkeys)
  rintro ⟨left, v⟩ hleft ⟨right, w⟩ hright heq
  have hsame : left = right := Path.dotted_injOn (hnamed.of_mem_positions hleft).1
    (hnamed.of_mem_positions hright).1 heq
  exact List.inj_on_of_nodup_map hkeys hleft hright hsame

end Entries.Named

end EventIntake
