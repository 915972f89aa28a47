/-
The walk through nested dictionaries.  It keeps a stack, and gives what a recursion over the
dictionaries gives; where keys are names, it lists each leaf once, by its keys with dots between
them.
-/
import EventIntake.Proofs.Dotted

namespace EventIntake

namespace Path

/-- Behind a base that is not empty each key follows on a dot. -/
theorem foldl_extend_eq_intercalate {base : String} (hbase : base ≠ "") (keys : List Scalar) :
    keys.foldl extend base = ".".intercalate (base :: keys.map Scalar.plain) := by
  induction keys generalizing base with
  | nil => rw [List.foldl_nil, List.map_nil, String.intercalate_singleton]
  | cons key rest ih =>
      have hextend : extend base key = base ++ "." ++ key.plain := by
        rw [extend, if_neg (by simpa using hbase)]
      have hlonger : extend base key ≠ "" := by
        rw [hextend]
        simp
      rw [List.foldl_cons, ih hlonger, hextend, List.map_cons, String.intercalate_cons_append,
        String.intercalate_cons_cons]

/-- The dotted path of names is the names with dots between them. -/
theorem dotted_eq_intercalate {keys : List Scalar} (hnames : ∀ key ∈ keys, key.IsName) :
    dotted keys = ".".intercalate (keys.map Scalar.plain) := by
  cases keys with
  | nil => rfl
  | cons key rest =>
      -- The first key stands without a dot, and is a base that is not empty for the others.
      obtain ⟨name, rfl, hne, _⟩ := hnames key List.mem_cons_self
      have hfirst : extend "" (.string name) = name := rfl
      rw [dotted, List.foldl_cons, hfirst, foldl_extend_eq_intercalate hne]
      rfl

end Path

theorem Entries.LeafAt.dotted_eq {entries : Entries} {keys : List Scalar} {leaf : Value}
    (hleaf : Entries.LeafAt entries keys leaf) (hnamed : Entries.Named entries) :
    Path.dotted keys = ".".intercalate (keys.map Scalar.plain) :=
  Path.dotted_eq_intercalate (hnamed.of_mem_positions hleaf.mem_positions).1

/-- The walk over a stack of dictionaries gives the leaf paths that the recursion gives, in the same
order and below any base.  Where all keys are names, no path is listed twice; the listed paths are
those of the leaf positions, their keys with dots between them; and each leads to its leaf. -/
theorem walk_lists_leaves (entries : Entries) :
    (∀ base, Path.leaves entries base = Path.leavesBelow base entries) ∧
      (Entries.Named entries →
        (Path.leaves entries "").Nodup ∧
        (∀ path, path ∈ Path.leaves entries "" ↔ ∃ keys leaf, Entries.LeafAt entries keys leaf ∧
          path = ".".intercalate (keys.map Scalar.plain)) ∧
        ∀ keys leaf, Entries.LeafAt entries keys leaf →
          Path.find (.dict entries) (".".intercalate (keys.map Scalar.plain)) =
            .ok (some leaf)) := by
  refine ⟨Path.leaves_eq_leavesBelow entries, fun hnamed => ⟨hnamed.leaves_nodup, ?_, ?_⟩⟩
  · intro path
    rw [Path.leaves_eq_map_dotted, List.mem_map]
    constructor
    · rintro ⟨⟨keys, leaf⟩, hmem, rfl⟩
      have hleaf := (hnamed.of_mem_positions hmem).2
      exact ⟨keys, leaf, hleaf, hleaf.dotted_eq hnamed⟩
    · rintro ⟨keys, leaf, hleaf, rfl⟩
      exact ⟨(keys, leaf), hleaf.mem_positions, hleaf.dotted_eq hnamed⟩
  · intro keys leaf hleaf
    rw [← hleaf.dotted_eq hnamed]
    exact hnamed.find_dotted hleaf.mem_positions

namespace LeafPathsWitness

/-- The walk leaves `a` for `b` with a leaf of `a` still to come. -/
def payload : Entries :=
  [(.string "a", .dict [(.string "b", .dict [(.string "c", .null)]),
      (.string "d", .list [.dict [(.string "x", .int 1)]])]),
    (.string "e", .dict []), (.string "f", .bool true)]

theorem walk_lists_leaves_of_three :
    Path.leaves payload "in" = ["in.a.b.c", "in.a.d", "in.f"] ∧ Entries.Named payload ∧
      (Path.leaves payload "").Nodup ∧ "a.b.c" ∈ Path.leaves payload "" ∧
      Entries.LeafAt payload [.string "a", .string "b", .string "c"] .null ∧
      Path.find (.dict payload) "a.b.c" = .ok (some .null) := by
  have hnamed : Entries.Named payload := by
    simp [payload, Entries.Named, Value.Named, Scalar.IsName]
  have hleaf : Entries.LeafAt payload [.string "a", .string "b", .string "c"] .null :=
    ⟨.under (.here _) (.under (.here _) (.under (.here _) (.here _))), rfl⟩
  obtain ⟨hwalk, hnames⟩ := walk_lists_leaves payload
  obtain ⟨hnodup, hlisted, hfind⟩ := hnames hnamed
  exact ⟨hwalk "in", hnamed, hnodup, (hlisted _).2 ⟨_, _, hleaf, rfl⟩, hleaf, hfind _ _ hleaf⟩

end LeafPathsWitness

end EventIntake
