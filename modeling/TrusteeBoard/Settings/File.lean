import TrusteeBoard.Json.Values
import TrusteeBoard.Toml.Parser
import TrusteeBoard.Toml.Reader
import TrusteeBoard.Toml.Text

/-!
# The settings file

Settings are kept in a TOML file. `Settings.ofFileText` reads and validates one; every key is
optional. `Settings.fileText` writes all of them.
-/

namespace TrusteeBoard

/-- Why settings are not read from a file or written to one. -/
inductive SettingsError where
  /-- The text is no TOML, or a value is not of its field's type. -/
  | malformed
  /-- A number does not fit the file format. -/
  | unwritable
  /-- The settings have a fault, as `Settings.fault?` says. -/
  | invalid (fault : String)
  deriving DecidableEq, Repr

def SettingsError.message : SettingsError → String
  | .malformed => "invalid settings: malformed file"
  | .unwritable => "failed to serialize settings: number out of range"
  | .invalid fault => s!"invalid settings: {fault}"

open Toml

def TiePolicy.ofToml? (value : Toml) : Option TiePolicy :=
  readPlainCase ofCaseName? value

def ThresholdRule.ofToml? (value : Toml) : Option ThresholdRule :=
  match readCase value with
  | some ("at_least", some count) => .atLeast <$> UInt32.ofNat <$> readNat 0x100000000 count
  | _ => readPlainCase ofCaseName? value

namespace Settings

/-- Passes settings without fault. -/
def validate (s : Settings) : Except SettingsError Unit :=
  match s.fault? with
  | some fault => .error (.invalid fault)
  | none => .ok ()

/-! ### Reading -/

/-- The settings of a table of entries, not validated. -/
def ofEntries? (entries : Entries) : Option Settings := do
  let default : Settings := {}
  return {
    dataDir := ← entries.defaulted "data_dir" readText default.dataDir
    governedAccount := ← entries.defaulted "governed_account"
      (fun v => readText v >>= Account.ofString?) default.governedAccount
    treasurySymbol := ← entries.defaulted "treasury_symbol"
      (fun v => readText v >>= TreasurySymbol.ofString?) default.treasurySymbol
    ballotPrefix := ← entries.defaulted "ballot_prefix" readText default.ballotPrefix
    tiePolicy := ← entries.defaulted "tie_policy" TiePolicy.ofToml? default.tiePolicy
    thresholdRule :=
      ← entries.defaulted "threshold_rule" ThresholdRule.ofToml? default.thresholdRule
    maxCandidates := ← entries.defaulted "max_candidates"
      (fun v => UInt32.ofNat <$> readNat 0x100000000 v) default.maxCandidates
    logFormat := ← entries.defaulted "log_format" readText default.logFormat
    logLevel := ← entries.defaulted "log_level" readText default.logLevel
    mapSizeMb := ← entries.defaulted "map_size_mb"
      (fun v => UInt64.ofNat <$> readNat 0x10000000000000000 v) default.mapSizeMb }

/-- The settings of a file, validated. -/
def ofFileText (text : String) : Except SettingsError Settings := do
  let some s := Toml.parse? text >>= ofEntries? | throw .malformed
  s.validate
  return s

/-! ### Writing -/

def stringLine (key value : String) : List Char :=
  lineText key (stringText value.toList)

def numberLine (key : String) (value : Nat) : List Char :=
  lineText key (Nat.toDigits 10 value)

/-- The line of a threshold rule among the other settings; a rule with a count has none. -/
def ruleLine : ThresholdRule → List Char
  | .simpleMajority => stringLine "threshold_rule" "simple_majority"
  | .unanimous => stringLine "threshold_rule" "unanimous"
  | .atLeast _ => []

/-- The table of a threshold rule with a count, after all other settings. -/
def ruleTable : ThresholdRule → List Char
  | .atLeast count => headerText "threshold_rule" ++ numberLine "at_least" count.toNat
  | _ => []

def lines (s : Settings) : List Char :=
  stringLine "data_dir" s.dataDir ++
  stringLine "governed_account" s.governedAccount.toString ++
  stringLine "treasury_symbol" s.treasurySymbol.toString ++
  stringLine "ballot_prefix" s.ballotPrefix ++
  stringLine "tie_policy" s.tiePolicy.caseName ++
  ruleLine s.thresholdRule ++
  numberLine "max_candidates" s.maxCandidates.toNat ++
  stringLine "log_format" s.logFormat ++
  stringLine "log_level" s.logLevel ++
  numberLine "map_size_mb" s.mapSizeMb.toNat ++
  ruleTable s.thresholdRule

/-- The text of a settings file. A map size beyond the integers of the format cannot be written. -/
def fileText (s : Settings) : Except SettingsError String :=
  if s.mapSizeMb.toNat < 0x8000000000000000 then .ok (String.ofList s.lines) else .error .unwritable

end Settings

end TrusteeBoard
