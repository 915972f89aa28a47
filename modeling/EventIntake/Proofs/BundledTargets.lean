/-
What the bundled tables bring to the targets that checks look at: the messages of a request, the
counters of a response, and the identifier and the type of a payment event.  Each comes from fields
of the payload that are named here, and no other row of the table writes above, at or below it.
-/
import EventIntake.Format.Catalog
import EventIntake.Proofs.BundledTable
import EventIntake.Proofs.Landing

namespace EventIntake

namespace Format

/-- Where a payload has the messages of a request. -/
def messageField : Format → String
  | .googleAi => "contents"
  | _ => "messages"

/-- The counters of a response, each with the fields of a payload that tell it.  Of several the last
one counts that is there. -/
def counterFields : Format → List (String × List String)
  | .openai | .azureOpenai => [
    ("prompt_tokens", ["usage.prompt_tokens"]),
    ("completion_tokens", ["usage.completion_tokens"]),
    ("total_tokens", ["usage.total_tokens"])]
  | .anthropic => [
    ("prompt_tokens", ["usage.input_tokens"]),
    ("completion_tokens", ["usage.output_tokens"]),
    ("total_tokens", [])]
  | .googleAi => [
    ("prompt_tokens", ["usageMetadata.promptTokenCount"]),
    ("completion_tokens", ["usageMetadata.candidatesTokenCount"]),
    ("total_tokens", ["usageMetadata.totalTokenCount"])]
  | .awsBedrock => [
    ("prompt_tokens", ["usage.input_tokens", "prompt_token_count"]),
    ("completion_tokens", ["usage.output_tokens", "generation_token_count"]),
    ("total_tokens", [])]
  | _ => []

end Format

namespace Bundled

/-- The pieces of a path that count. -/
def pieces (cs : List Char) : List (List Char) :=
  (Text.splitChars '.' cs).filter (!·.isEmpty)

theorem segments_ofList (cs : List Char) :
    Path.segments (String.ofList cs) = (pieces cs).map String.ofList := by
  rw [Path.segments, String.toList_ofList, pieces]

/-- No piece of the path is a row of digits, and there is one. -/
def namesKeys (cs : List Char) : Bool :=
  !(pieces cs).isEmpty && (pieces cs).all (!·.all Text.isDigit)

theorem namesKeys_ofList {cs : List Char} (hkeys : namesKeys cs = true) :
    Path.NamesKeys (String.ofList cs) := by
  rw [namesKeys, Bool.and_eq_true, List.all_eq_true] at hkeys
  rw [Path.NamesKeys, segments_ofList, List.forall_mem_map]
  refine ⟨by simpa using hkeys.1, fun piece hpiece => ?_⟩
  rw [String.toList_ofList]
  simpa using hkeys.2 piece hpiece

/-- A path of one piece leads to a member. -/
theorem at?_ofList {cs : List Char} (hkeys : namesKeys cs = true) (hname : pieces cs = [cs])
    (v : Value) : DataCheck.at? v (String.ofList cs) = v.member? (String.ofList cs) := by
  have hsegments : Path.segments (String.ofList cs) = [String.ofList cs] := by
    rw [segments_ofList, hname]
    rfl
  have hkey := (namesKeys_ofList hkeys).2
  rw [hsegments, List.forall_mem_singleton] at hkey
  exact DataCheck.at?_eq_member? hkey hsegments v

/-- The pieces of one of two paths begin with those of the other. -/
def related (left right : List Char) : Bool :=
  (pieces left).isPrefixOf (pieces right) || (pieces right).isPrefixOf (pieces left)

theorem not_related_ofList {left right : List Char} (hfree : related left right = false) :
    ¬ Path.Related (Path.keys (String.ofList left)) (Path.keys (String.ofList right)) := by
  have hinjective : Function.Injective (Scalar.string ∘ String.ofList) := by
    intro xs ys hsame
    exact String.ofList_injective (Scalar.string.inj hsame)
  rw [related, Bool.or_eq_false_iff] at hfree
  simp only [Path.Related, Path.keys, segments_ofList, List.map_map]
  rw [List.prefix_map_iff_of_injective hinjective, List.prefix_map_iff_of_injective hinjective,
    ← List.isPrefixOf_iff_prefix, ← List.isPrefixOf_iff_prefix]
  simp [hfree]

/-- The values write rows that bring some fields of a payload to a target. -/
def Feeds (target : String) (values : List Value) (fields : List String) : Prop :=
  ∃ table, Row.readAll values = .ok table ∧ Row.Feed target table fields

namespace Feeds

section

variable {source other target : List Char} {rest : List Value} {fields : List String}

theorem done (hkeys : namesKeys target = true) : Feeds (String.ofList target) [] [] :=
  ⟨[], rfl, .done (namesKeys_ofList hkeys)⟩

theorem cons {v : Value} {row : Row} {more : List String} (hread : Row.read v = .ok row)
    (hrow : ∀ table, Row.Feed (String.ofList target) table fields →
      Row.Feed (String.ofList target) (row :: table) more)
    (hrest : Feeds (String.ofList target) rest fields) :
    Feeds (String.ofList target) (v :: rest) more := by
  obtain ⟨table, hreadAll, hfeed⟩ := hrest
  refine ⟨row :: table, ?_, hrow table hfeed⟩
  rw [Row.readAll, hread, hreadAll]
  rfl

theorem copy_move (hsource : namesKeys source = true)
    (hrest : Feeds (String.ofList target) rest fields) :
    Feeds (String.ofList target)
      (move (String.ofList source) (String.ofList target) :: rest)
      (String.ofList source :: fields) :=
  hrest.cons rfl fun _ hfeed => .copy rfl rfl (namesKeys_ofList hsource) hfeed

theorem copy_need (hsource : namesKeys source = true)
    (hrest : Feeds (String.ofList target) rest fields) :
    Feeds (String.ofList target)
      (need (String.ofList source) (String.ofList target) :: rest)
      (String.ofList source :: fields) :=
  hrest.cons rfl fun _ hfeed => .copy rfl rfl (namesKeys_ofList hsource) hfeed

variable {text transformation : String}

theorem beside_move (hfree : related other target = false)
    (hrest : Feeds (String.ofList target) rest fields) :
    Feeds (String.ofList target) (move text (String.ofList other) :: rest) fields :=
  hrest.cons rfl fun _ hfeed => .beside (not_related_ofList hfree) hfeed

theorem beside_need (hfree : related other target = false)
    (hrest : Feeds (String.ofList target) rest fields) :
    Feeds (String.ofList target) (need text (String.ofList other) :: rest) fields :=
  hrest.cons rfl fun _ hfeed => .beside (not_related_ofList hfree) hfeed

theorem beside_change (hfree : related other target = false)
    (hrest : Feeds (String.ofList target) rest fields) :
    Feeds (String.ofList target) (change text (String.ofList other) transformation :: rest)
      fields :=
  hrest.cons rfl fun _ hfeed => .beside (not_related_ofList hfree) hfeed

end

end Feeds

/-- What the tables bring to the targets of the checks: in the formats of language models to the
messages and the counters, and in the payment format to the identifier and the type. -/
theorem feeds_targets (format : Format) :
    (format.family = .llm → Feeds "messages" (parts format).flatten [format.messageField]) ∧
      (∀ counter ∈ format.counterFields,
        Feeds s!"response.usage.{counter.1}" (parts format).flatten counter.2) ∧
      (format = .stripe → Feeds "event.id" (parts format).flatten ["id"] ∧
        Feeds "event.type" (parts format).flatten ["type"]) := by
  have hprompt : toString "response.usage." ++ toString "prompt_tokens" =
      "response.usage.prompt_tokens" := rfl
  have hcompletion : toString "response.usage." ++ toString "completion_tokens" =
      "response.usage.completion_tokens" := rfl
  have htotal : toString "response.usage." ++ toString "total_tokens" =
      "response.usage.total_tokens" := rfl
  cases format
  all_goals
    simp only [Format.family, Format.messageField, Format.counterFields, reduceCtorEq,
      false_implies, true_implies, List.forall_mem_cons, List.not_mem_nil, implies_true, and_true,
      true_and, hprompt, hcompletion, htotal, parts, chatRows, hostedChatRows, messageRows,
      candidateRows, hostedModelRows, paymentRows, List.flatten_cons, List.flatten_nil,
      List.append_nil, List.cons_append, List.nil_append]
  all_goals
    repeat' apply And.intro
  -- The rows go one by one: each writes beside the target, or copies to it.
  all_goals
    repeat first
      | with_reducible refine .beside_move (by decide +kernel) ?_
      | with_reducible refine .beside_need (by decide +kernel) ?_
      | with_reducible refine .beside_change (by decide +kernel) ?_
      | with_reducible refine .copy_move (by decide +kernel) ?_
      | with_reducible refine .copy_need (by decide +kernel) ?_
      | exact .done (by decide +kernel)

/-- What the values of a format's table bring to a target, the table brings there. -/
theorem Feeds.feed {format : Format} {table : List Row} {target : String} {fields : List String}
    (hfeeds : Feeds target (parts format).flatten fields)
    (htable : Profile.table profiles (.string format.name) = .ok table) :
    Row.Feed target table fields := by
  obtain ⟨read, hread, hfeed⟩ := hfeeds
  rw [Profile.table, resolve_profiles] at htable
  obtain rfl : table = read := Except.ok.inj (htable.symm.trans hread)
  exact hfeed

end Bundled

end EventIntake
