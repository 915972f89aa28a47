/-
The mapping tables that come with the program.  Each format has one: the rows of its profile behind
those of the profile that it extends, or no rows where the format has no profile.  All rows are
gentle.
-/
import EventIntake.Format.Basic
import EventIntake.Mapping.Bundled
import EventIntake.Proofs.JsonMapping

namespace EventIntake

namespace Bundled

/-- The rows of each profile that a format's table is made of, the most basic one first. -/
def parts : Format → List (List Value)
  | .openai => [chatRows]
  | .azureOpenai => [chatRows, hostedChatRows]
  | .anthropic => [messageRows]
  | .googleAi => [candidateRows]
  | .awsBedrock => [hostedModelRows]
  | .github => [repositoryRows]
  | .stripe => [paymentRows]
  | .slack => [messengerRows]
  | .webhook => [anyWebhookRows]
  | .salesforce => [changeHeaderRows]
  | .sap => [cloudEventRows]
  | .dynamics => [executionRows]
  | .postgres => [databaseRows, postgresRows]
  | .mysql => [databaseRows, mysqlRows]
  | .mongodb => [databaseRows, mongodbRows]
  | .oauth2 | .saml | .oidc | .custom => []

/-- The rows of a format's table are found by its name. -/
theorem resolve_profiles (format : Format) :
    Profile.resolve profiles (.string format.name) = .ok (parts format).flatten := by
  cases format <;> rfl

def allRows : List (List Value) := [
  chatRows, hostedChatRows, messageRows, candidateRows, hostedModelRows, repositoryRows,
  paymentRows, messengerRows, anyWebhookRows, changeHeaderRows, cloudEventRows, executionRows,
  databaseRows, postgresRows, mysqlRows, mongodbRows]

theorem parts_subset (format : Format) : parts format ⊆ allRows := by
  cases format <;> simp [parts, allRows]

end Bundled

/-- A value that writes a gentle row. -/
def Value.WritesGentle (v : Value) : Prop := ∃ row, Row.read v = .ok row ∧ row.IsGentle

namespace Bundled

/-- The parts of a path between its points are sure. -/
def sureParts (cs : List Char) : Bool :=
  (Text.splitChars '.' cs).all fun part =>
    !part.all Text.isDigit || (Number.readInteger part).toBool

theorem all_isSure_segments {cs : List Char} (hparts : sureParts cs = true) :
    (Path.segments (String.ofList cs)).all Path.isSure = true := by
  rw [Path.segments, String.toList_ofList, List.all_map, List.all_eq_true]
  intro part hpart
  have hsure := List.all_eq_true.1 hparts part (List.mem_filter.1 hpart).1
  rwa [Function.comp_apply, Path.isSure, String.toList_ofList]

section

variable {source : List Char} {target transformation : String}

theorem writesGentle_move (hparts : sureParts source = true) :
    (move (String.ofList source) target).WritesGentle := by
  have hsteady : none ∈ Row.steadyNames := by decide
  exact ⟨_, rfl, rfl, all_isSure_segments hparts, hsteady⟩

theorem writesGentle_need (hparts : sureParts source = true) :
    (need (String.ofList source) target).WritesGentle := by
  have hsteady : none ∈ Row.steadyNames := by decide
  exact ⟨_, rfl, rfl, all_isSure_segments hparts, hsteady⟩

theorem writesGentle_change (hparts : sureParts source = true)
    (hsteady : some transformation ∈ Row.steadyNames) :
    (change (String.ofList source) target transformation).WritesGentle :=
  ⟨_, rfl, rfl, all_isSure_segments hparts, hsteady⟩

end

theorem writesGentle_of_mem : ∀ rows ∈ allRows, ∀ v ∈ rows, v.WritesGentle := by
  simp only [allRows, chatRows, hostedChatRows, messageRows, candidateRows, hostedModelRows,
    repositoryRows, paymentRows, messengerRows, anyWebhookRows, changeHeaderRows, cloudEventRows,
    executionRows, databaseRows, postgresRows, mysqlRows, mongodbRows, List.forall_mem_cons]
  repeat' apply And.intro
  all_goals
    first
    | exact writesGentle_move rfl
    | exact writesGentle_need rfl
    | exact writesGentle_change rfl (by decide)
    | simp

end Bundled

/-- Values write a table of rows with some property exactly if each of them writes such a row. -/
theorem Row.exists_readAll_iff {holds : Row → Prop} {values : List Value} :
    (∃ table, Row.readAll values = .ok table ∧ ∀ row ∈ table, holds row) ↔
      ∀ v ∈ values, ∃ row, Row.read v = .ok row ∧ holds row := by
  induction values with
  | nil => simp [Row.readAll]
  | cons v rest ih =>
      rw [List.forall_mem_cons, ← ih]
      constructor
      · rintro ⟨table, hread, htable⟩
        obtain ⟨row, hrow, hrest⟩ := Except.bind_eq_ok_iff.1 hread
        obtain ⟨others, hothers, hcons⟩ := Except.bind_eq_ok_iff.1 hrest
        cases hcons
        obtain ⟨hfirst, hlater⟩ := List.forall_mem_cons.1 htable
        exact ⟨⟨row, hrow, hfirst⟩, others, hothers, hlater⟩
      · rintro ⟨⟨row, hrow, hfirst⟩, others, hothers, hlater⟩
        refine ⟨row :: others, ?_, List.forall_mem_cons.2 ⟨hfirst, hlater⟩⟩
        rw [Row.readAll, hrow, hothers]
        rfl

/-- Each format has a bundled table, and its rows are gentle. -/
theorem Bundled.exists_table (format : Format) :
    ∃ table, Profile.table Bundled.profiles (.string format.name) = .ok table ∧
      ∀ row ∈ table, row.IsGentle := by
  have hvalues : ∀ v ∈ (parts format).flatten, v.WritesGentle := by
    intro v hv
    obtain ⟨rows, hrows, hv⟩ := List.mem_flatten.1 hv
    exact writesGentle_of_mem rows (parts_subset format hrows) v hv
  obtain ⟨table, hreadAll, htable⟩ := Row.exists_readAll_iff.2 hvalues
  refine ⟨table, ?_, htable⟩
  rw [Profile.table, resolve_profiles]
  exact hreadAll

end EventIntake
