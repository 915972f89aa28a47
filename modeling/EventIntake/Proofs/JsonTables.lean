/-
Mapping tables as JSON, which is part of YAML: a file in which they are written so is loaded as the
tables, by a parser that reads JSON.
-/
import EventIntake.Proofs.BundledTable
import EventIntake.Proofs.KeptCounters
import EventIntake.Proofs.Loading

namespace EventIntake

/-- A parser of texts that are JSON. -/
def Json.parser [Limits] : Yaml.Parser where
  read cs := (Json.read (String.ofList cs)).mapError fun fault => .malformed fault.message
  readBroken _ _ := none

namespace Profiles

variable [Limits]

/-- The bytes of a file in which tables are written as JSON. -/
def jsonBytes (tables : Profiles) : List UInt8 :=
  Text.Utf8.encode ((Json.pretty.write (.dict tables)).toOption.getD "").toList

/-- Tables of truth values, texts and integers are loaded from a file in which they are written. -/
theorem ofFile_of_jsonBytes {files : Files} {path : String} {tables : Profiles}
    (hexact : (Value.dict tables).MadeOf Scalar.IsExact)
    (hdepth : (Value.dict tables).depth ≤ 256)
    (hbytes : files.read path = .ok tables.jsonBytes) :
    ofFile Json.parser files path = .ok tables := by
  have hroom : 0 + (Value.dict tables).depth ≤ Limits.writing := by
    rw [Nat.zero_add]
    exact Nat.le_trans hdepth Limits.le_writing
  have hread : (Value.dict tables).depth ≤ Limits.reading :=
    Nat.le_trans hdepth Limits.le_reading
  obtain ⟨text, hwrite⟩ :=
    Json.Layout.exists_writeAt (fun _ => Json.exists_scalar Json.pretty) hexact hroom
  have hjson : tables.jsonBytes = Text.Utf8.encode text.toList := by
    rw [jsonBytes, Json.Layout.write, hwrite]
    rfl
  have hplain := Json.Layout.return_not_mem_writeAt Json.isPlain_pretty hexact hwrite
  have hparsed : Json.parser.read text.toList = .ok (.dict tables) := by
    change (Json.read (String.ofList text.toList)).mapError _ = _
    rw [String.ofList_toList, Json.read_write Json.isReadable_pretty hexact hread hwrite]
    rfl
  rw [hjson] at hbytes
  rw [ofFile_of_read hbytes (Text.Utf8.decode_encode text.toList),
    Text.plainLines_of_not_mem hplain, ofParsed_eq_ok_iff, hparsed]

end Profiles

namespace Bundled

variable {source target transformation : String}

theorem madeOf_move : (move source target).MadeOf Scalar.IsExact := by
  simp [move, Value.record, Value.MadeOf, Entries.MadeOf, Scalar.IsExact]

theorem madeOf_need : (need source target).MadeOf Scalar.IsExact := by
  simp [need, Value.record, Value.MadeOf, Entries.MadeOf, Scalar.IsExact]

theorem madeOf_change : (change source target transformation).MadeOf Scalar.IsExact := by
  simp [change, Value.record, Value.MadeOf, Entries.MadeOf, Scalar.IsExact]

theorem madeOf_of_mem : ∀ rows ∈ allRows, Value.AllMadeOf Scalar.IsExact rows := by
  simp only [allRows, chatRows, hostedChatRows, messageRows, candidateRows, hostedModelRows,
    repositoryRows, paymentRows, messengerRows, anyWebhookRows, changeHeaderRows, cloudEventRows,
    executionRows, databaseRows, postgresRows, mysqlRows, mongodbRows, List.forall_mem_cons,
    Value.AllMadeOf, madeOf_move, madeOf_need, madeOf_change]
  simp

/-- The tables that come with the program are made of texts and truth values. -/
theorem madeOf_profiles : (Value.dict profiles).MadeOf Scalar.IsExact := by
  have hrows := madeOf_of_mem
  simp only [allRows, List.forall_mem_cons] at hrows
  simp [profiles, profile, extension, Value.record, Value.MadeOf, Entries.MadeOf, Scalar.IsExact,
    hrows]

end Bundled

end EventIntake
