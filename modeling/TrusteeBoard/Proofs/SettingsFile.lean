import TrusteeBoard.Proofs.Names
import TrusteeBoard.Proofs.Toml.Document
import TrusteeBoard.Settings.File

/-!
# Settings survive their file

Settings whose map size fits the integers of the format are written as a file, whatever characters
are in their texts, and read back from it as they were if they are valid; else the fault is reported
(`Settings.fileText_roundTrip`). No default stands in for a value, since every field is written: a
threshold rule with a count as a table of its own after the other lines.
-/

namespace TrusteeBoard

open Toml

theorem Toml.readWord32_integer (n : UInt32) :
    UInt32.ofNat <$> readNat 0x100000000 (.integer n.toNat) = some n := by
  have := n.toNat_lt
  rw [readNat, if_pos (by omega)]
  exact congrArg some UInt32.ofNat_toNat

theorem Toml.readWord64_integer (n : UInt64) :
    UInt64.ofNat <$> readNat 0x10000000000000000 (.integer n.toNat) = some n := by
  have := n.toNat_lt
  rw [readNat, if_pos (by omega)]
  exact congrArg some UInt64.ofNat_toNat

namespace ThresholdRule

/-- The line of a rule without a count. -/
def fileLines : ThresholdRule → List Line
  | .simpleMajority => [.ofString "threshold_rule" "simple_majority"]
  | .unanimous => [.ofString "threshold_rule" "unanimous"]
  | .atLeast _ => []

/-- The table of a rule with a count. -/
def fileTables : ThresholdRule → List Table
  | .atLeast count => [⟨"threshold_rule", [.ofNat "at_least" count.toNat]⟩]
  | _ => []

/-- The value of a rule, be it in a line or a table. -/
def fileValue : ThresholdRule → Toml
  | .simpleMajority => .text "simple_majority"
  | .unanimous => .text "unanimous"
  | .atLeast count => .table .header [("at_least", .integer count.toNat)]

theorem ofToml?_fileValue (rule : ThresholdRule) :
    ofToml? rule.fileValue = some rule := by
  cases rule with
  | simpleMajority => rfl
  | unanimous => rfl
  | atLeast count =>
    simp only [ofToml?, fileValue, readCase]
    rw [readWord32_integer]
    rfl

theorem readsBack_fileLines (rule : ThresholdRule) : ∀ l ∈ rule.fileLines, l.ReadsBack := by
  have key : IsBare "threshold_rule" := by decide
  cases rule with
  | simpleMajority | unanimous => exact List.forall_mem_singleton.2 (Line.readsBack_ofString key _)
  | atLeast count => nofun

theorem readsBack_fileTables (rule : ThresholdRule) : ∀ t ∈ rule.fileTables, t.ReadsBack := by
  cases rule with
  | simpleMajority | unanimous => nofun
  | atLeast count =>
    have small : count.toNat < 0x8000000000000000 := by
      have := count.toNat_lt
      omega
    have key : IsBare "threshold_rule" := by decide
    have line := Line.readsBack_ofNat (by decide : IsBare "at_least") small
    exact List.forall_mem_singleton.2 ⟨key, List.forall_mem_singleton.2 line⟩

theorem nodup_fileTables (rule : ThresholdRule) :
    ∀ t ∈ rule.fileTables, (t.lines.map Line.key).Nodup := by
  cases rule with
  | simpleMajority | unanimous => nofun
  | atLeast count => exact List.forall_mem_singleton.2 (by simp)

end ThresholdRule

namespace Settings

/-- The lines of a settings file before its table. -/
def fileLines (s : Settings) : List Line :=
  [.ofString "data_dir" s.dataDir,
    .ofString "governed_account" s.governedAccount.toString,
    .ofString "treasury_symbol" s.treasurySymbol.toString,
    .ofString "ballot_prefix" s.ballotPrefix,
    .ofString "tie_policy" s.tiePolicy.caseName] ++
  s.thresholdRule.fileLines ++
  [.ofNat "max_candidates" s.maxCandidates.toNat,
    .ofString "log_format" s.logFormat,
    .ofString "log_level" s.logLevel,
    .ofNat "map_size_mb" s.mapSizeMb.toNat]

theorem lines_eq_written (s : Settings) : s.lines =
    s.fileLines.flatMap Line.written ++ s.thresholdRule.fileTables.flatMap Table.written := by
  unfold lines fileLines
  cases s.thresholdRule <;> simp [ThresholdRule.fileLines, ThresholdRule.fileTables, ruleLine,
    ruleTable, stringLine, numberLine, Line.written, Table.written, Line.ofString, Line.ofNat]

theorem readsBack_fileLines {s : Settings} (fits : s.mapSizeMb.toNat < 0x8000000000000000) :
    ∀ l ∈ s.fileLines, l.ReadsBack := by
  have count : s.maxCandidates.toNat < 0x8000000000000000 := by
    have := s.maxCandidates.toNat_lt
    omega
  have text {key : String} (bare : IsBare key) (value : String) :=
    Line.readsBack_ofString bare value
  have rule := s.thresholdRule.readsBack_fileLines
  simp only [fileLines, List.forall_mem_append, List.forall_mem_cons]
  exact ⟨⟨⟨text (by decide) _, text (by decide) _, text (by decide) _, text (by decide) _,
    text (by decide) _, nofun⟩, rule⟩, Line.readsBack_ofNat (by decide) count, text (by decide) _,
    text (by decide) _, Line.readsBack_ofNat (by decide) fits, nofun⟩

/-- The entries of a settings file in the order of lines and tables. -/
def fileEntries (s : Settings) : Entries :=
  s.fileLines.map Line.entry ++ s.thresholdRule.fileTables.map Table.entry

theorem nodup_keys (s : Settings) :
    (s.fileLines.map Line.key ++ s.thresholdRule.fileTables.map Table.key).Nodup := by
  unfold fileLines
  cases s.thresholdRule <;>
    simp [ThresholdRule.fileLines, ThresholdRule.fileTables, Line.ofString, Line.ofNat]

/-- The fields and their values. -/
def fields (s : Settings) : Entries :=
  [("data_dir", .text s.dataDir), ("governed_account", .text s.governedAccount.toString),
    ("treasury_symbol", .text s.treasurySymbol.toString), ("ballot_prefix", .text s.ballotPrefix),
    ("tie_policy", .text s.tiePolicy.caseName), ("threshold_rule", s.thresholdRule.fileValue),
    ("max_candidates", .integer s.maxCandidates.toNat), ("log_format", .text s.logFormat),
    ("log_level", .text s.logLevel), ("map_size_mb", .integer s.mapSizeMb.toNat)]

theorem fields_subset (s : Settings) : s.fields ⊆ s.fileEntries := by
  unfold fields fileEntries fileLines
  cases s.thresholdRule <;>
    simp [ThresholdRule.fileLines, ThresholdRule.fileTables, ThresholdRule.fileValue, Line.entry,
      Table.entry, Line.ofString, Line.ofNat]

/-- No field is lost, and so no default is taken. -/
theorem defaulted_fileEntries (s : Settings) {α : Type} (key : String) (value : Toml)
    (read : Toml → Option α) {a : α} (written : (key, value) ∈ s.fields)
    (back : read value = some a) (default : α) :
    s.fileEntries.defaulted key read default = some a := by
  have keys : (s.fileEntries.map Prod.fst).Nodup := by
    rw [fileEntries, List.map_append, List.map_map, List.map_map]
    exact s.nodup_keys
  rw [Entries.defaulted, Entries.find?_of_mem keys (s.fields_subset written)]
  exact back

theorem ofEntries?_fileEntries (s : Settings) : ofEntries? s.fileEntries = some s := by
  have text (key value : String) (h : (key, .text value) ∈ s.fields) :=
    s.defaulted_fileEntries key (.text value) readText h rfl
  have dataDir := text "data_dir" s.dataDir (by simp [fields])
  have account := s.defaulted_fileEntries "governed_account" (.text s.governedAccount.toString)
    (fun v => readText v >>= Account.ofString?) (by simp [fields])
    s.governedAccount.ofString?_toString
  have symbol := s.defaulted_fileEntries "treasury_symbol" (.text s.treasurySymbol.toString)
    (fun v => readText v >>= TreasurySymbol.ofString?) (by simp [fields])
    s.treasurySymbol.ofString?_toString
  have ballotPrefix := text "ballot_prefix" s.ballotPrefix (by simp [fields])
  have policy := s.defaulted_fileEntries "tie_policy" (.text s.tiePolicy.caseName) TiePolicy.ofToml?
    (by simp [fields]) (by cases s.tiePolicy <;> rfl : _ = some s.tiePolicy)
  have rule := s.defaulted_fileEntries "threshold_rule" s.thresholdRule.fileValue
    ThresholdRule.ofToml? (by simp [fields]) s.thresholdRule.ofToml?_fileValue
  have candidates := s.defaulted_fileEntries "max_candidates" (.integer s.maxCandidates.toNat)
    (fun v => UInt32.ofNat <$> readNat 0x100000000 v) (by simp [fields])
    (readWord32_integer s.maxCandidates)
  have format := text "log_format" s.logFormat (by simp [fields])
  have level := text "log_level" s.logLevel (by simp [fields])
  have size := s.defaulted_fileEntries "map_size_mb" (.integer s.mapSizeMb.toNat)
    (fun v => UInt64.ofNat <$> readNat 0x10000000000000000 v) (by simp [fields])
    (readWord64_integer s.mapSizeMb)
  simp only [ofEntries?, dataDir, account, symbol, ballotPrefix, policy, rule, candidates, format,
    level, size]
  rfl

/-- A settings file is read as the settings it was written from if they are valid, and refused for
their fault otherwise. -/
theorem fileText_roundTrip (s : Settings) (fits : s.mapSizeMb.toNat < 0x8000000000000000) :
    ∃ text, s.fileText = .ok text ∧ (s.validate = .ok () → ofFileText text = .ok s) ∧
      (s.validate ≠ .ok () →
        ∃ fault, s.fault? = some fault ∧ ofFileText text = .error (.invalid fault)) := by
  have written : s.fileText = .ok (String.ofList s.lines) := if_pos fits
  have parsed : Toml.parse? (String.ofList s.lines) = some s.fileEntries := by
    rw [lines_eq_written]
    exact parse?_written (readsBack_fileLines fits) s.thresholdRule.readsBack_fileTables
      s.nodup_keys s.thresholdRule.nodup_fileTables
  have read : ofFileText (String.ofList s.lines) = (s.validate >>= fun _ => .ok s) := by
    have entries : (Toml.parse? (String.ofList s.lines) >>= ofEntries?) = some s := by
      rw [parsed]
      exact s.ofEntries?_fileEntries
    rw [ofFileText, entries]
    rfl
  refine ⟨_, written, fun valid => ?_, fun faulty => ?_⟩
  · rw [read, valid]
    rfl
  · unfold validate at read faulty
    cases h : s.fault? with
    | none => exact absurd (by rw [h]) faulty
    | some fault =>
      refine ⟨fault, rfl, ?_⟩
      rw [read, h]
      rfl

/-- Settings whose texts take each way to write a string. -/
def awkward : Settings :=
  { dataDir := "a \"b\" c\\d", ballotPrefix := "line\nline ''' \"\"\"", logLevel := "\x07\x7f\r\n",
    thresholdRule := .atLeast 3 }

theorem fileText_roundTrip_awkward :
    (∃ text, awkward.fileText = .ok text ∧ ofFileText text = .ok awkward) ∧
      ∃ text, { awkward with ballotPrefix := "" }.fileText = .ok text ∧
        ofFileText text = .error (.invalid "ballot_prefix must not be empty") := by
  constructor
  · obtain ⟨text, written, valid, -⟩ := fileText_roundTrip awkward (by decide)
    exact ⟨text, written, valid rfl⟩
  · obtain ⟨text, written, -, faulty⟩ :=
      fileText_roundTrip { awkward with ballotPrefix := "" } (by decide)
    obtain ⟨fault, found, refused⟩ := faulty (by nofun)
    cases found
    exact ⟨text, written, refused⟩

end Settings

end TrusteeBoard
