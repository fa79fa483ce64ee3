import TrusteeBoard.Authority
import TrusteeBoard.Outcome
import TrusteeBoard.Text.Quoted

/-!
# Settings

The settings of the process that carries out the operations. They are apart from the governance
record, which only its publisher changes. `Settings.validate` gives the first fault.
-/

namespace TrusteeBoard

namespace Settings

/-- The account `tf`. -/
def defaultAccount : Account := ⟨['t', 'f'], rfl⟩

/-- The treasury `TFVT`. -/
def defaultSymbol : TreasurySymbol := ⟨['T', 'F', 'V', 'T'], rfl⟩

end Settings

/-- Settings of a deployment. The defaults make an empty settings file valid. -/
structure Settings where
  /-- Directory of the store. -/
  dataDir : String := "./tfgov_data"
  /-- The account whose signing authority follows the board. -/
  governedAccount : Account := Settings.defaultAccount
  /-- The treasury whose holdings weight the ballots. -/
  treasurySymbol : TreasurySymbol := Settings.defaultSymbol
  ballotPrefix : String := "tfboard"
  tiePolicy : TiePolicy := .excludeTied
  thresholdRule : ThresholdRule := .simpleMajority
  /-- Bound on the registered candidates of an election. -/
  maxCandidates : UInt32 := 64
  logFormat : String := "human"
  logLevel : String := "info"
  /-- Size of the store's map in MiB. -/
  mapSizeMb : UInt64 := 64
  deriving DecidableEq

/-- Formats of log lines. -/
inductive LogFormat where
  | human
  | json
  deriving DecidableEq, Repr

namespace LogFormat

instance : ToString LogFormat where
  toString
    | .human => "human"
    | .json => "json"

def unknownMessage (field raw : String) : String :=
  s!"unknown {field} {Text.quoted raw}, expected \"human\" or \"json\""

/-- Reads the name of a format in any case of its letters. -/
def parse (raw : String) : Except String LogFormat :=
  match String.ofList (raw.toList.map Char.toLower) with
  | "human" => .ok .human
  | "json" => .ok .json
  | _ => .error (unknownMessage "log format" raw)

end LogFormat

namespace Settings

/-- What is wrong with the settings, the first fault first. -/
def fault? (s : Settings) : Option String :=
  if s.ballotPrefix = "" then some "ballot_prefix must not be empty"
  else if s.maxCandidates = 0 then some "max_candidates must be positive"
  else if s.mapSizeMb = 0 then some "map_size_mb must be positive"
  else if s.logFormat = "human" ∨ s.logFormat = "json" then none
  else some (LogFormat.unknownMessage "log_format" s.logFormat)

/-- The map size in bytes, at most the largest 64-bit word. -/
def mapSizeBytes (s : Settings) : UInt64 :=
  UInt64.ofNat (min (s.mapSizeMb.toNat * 1048576) 0xFFFFFFFFFFFFFFFF)

/-- The name of the ballot of the `n`th election. -/
def ballotName (s : Settings) (n : UInt64) : String :=
  s!"{s.ballotPrefix}.{n}"

end Settings

end TrusteeBoard
