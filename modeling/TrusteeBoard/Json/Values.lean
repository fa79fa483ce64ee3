import TrusteeBoard.Board
import TrusteeBoard.Config.Update
import TrusteeBoard.Election
import TrusteeBoard.Json.Parser
import TrusteeBoard.Json.Reader
import TrusteeBoard.Settings

/-!
# Exchanged values in JSON

How each exchanged value is written in JSON and read back. Records are objects of their fields in a
fixed order, names and symbols are strings, and a case without content is its name.
-/

namespace TrusteeBoard

open Json

/-! ### Names and numbers -/

def Account.toJson (a : Account) : Json := .str a.toString

def Account.ofJson? (j : Json) : Option Account := do ofString? (← readString j)

def TreasurySymbol.toJson (s : TreasurySymbol) : Json := .str s.toString

def TreasurySymbol.ofJson? (j : Json) : Option TreasurySymbol := do ofString? (← readString j)

def readWord16 (j : Json) : Option UInt16 := UInt16.ofNat <$> readNat 0x10000 j

def readWord32 (j : Json) : Option UInt32 := UInt32.ofNat <$> readNat 0x100000000 j

def readWord64 (j : Json) : Option UInt64 := UInt64.ofNat <$> readNat 0x10000000000000000 j

def Timestamp.toJson (t : Timestamp) : Json := .nat t.secs.toNat

def Timestamp.ofJson? (j : Json) : Option Timestamp := mk <$> readWord64 j

def BallotId.toJson (b : BallotId) : Json := .nat b.number.toNat

def BallotId.ofJson? (j : Json) : Option BallotId := mk <$> readWord64 j

def Weight.toJson (w : Weight) : Json := .nat w.toNat

def Weight.ofJson? (j : Json) : Option Weight :=
  BitVec.ofNat 128 <$> readNat 0x100000000000000000000000000000000 j

/-! ### Cases -/

namespace Phase

def caseName : Phase → String
  | .idle => "Idle"
  | .nominating => "Nominating"
  | .voting => "Voting"
  | .resolving => "Resolving"

def ofCaseName? : String → Option Phase
  | "Idle" => some .idle
  | "Nominating" => some .nominating
  | "Voting" => some .voting
  | "Resolving" => some .resolving
  | _ => none

def toJson (p : Phase) : Json := .str p.caseName

def ofJson? (j : Json) : Option Phase := readPlainCase ofCaseName? j

end Phase

namespace TiePolicy

def caseName : TiePolicy → String
  | .excludeTied => "exclude_tied"
  | .boundaryOnly => "boundary_only"

def ofCaseName? : String → Option TiePolicy
  | "exclude_tied" => some .excludeTied
  | "boundary_only" => some .boundaryOnly
  | _ => none

def toJson (p : TiePolicy) : Json := .str p.caseName

def ofJson? (j : Json) : Option TiePolicy := readPlainCase ofCaseName? j

end TiePolicy

namespace ThresholdRule

/-- The rules without a count, by name. -/
def ofCaseName? : String → Option ThresholdRule
  | "simple_majority" => some .simpleMajority
  | "unanimous" => some .unanimous
  | _ => none

def toJson : ThresholdRule → Json
  | .simpleMajority => .str "simple_majority"
  | .unanimous => .str "unanimous"
  | .atLeast count => .record [("at_least", .nat count.toNat)]

def ofJson? (j : Json) : Option ThresholdRule :=
  match readCase j with
  | some ("at_least", some count) => .atLeast <$> readWord32 count
  | _ => readPlainCase ofCaseName? j

end ThresholdRule

def ElectionKind.caseName : ElectionKind → String
  | .term => "term"
  | .vacancy => "vacancy"

/-! ### Records -/

namespace Config

def toJson (c : Config) : Json :=
  .record
    [ ("publisher", c.publisher.toJson),
      ("max_board_seats", .nat c.maxSeats.toNat),
      ("open_seats", .nat c.openSeats.toNat),
      ("holder_quorum_divisor", .nat c.holderQuorumDivisor.toNat),
      ("board_quorum_divisor", .nat c.boardQuorumDivisor.toNat),
      ("issue_duration", .nat c.votingSpan.toNat),
      ("start_delay", .nat c.startDelay.toNat),
      ("leaderboard_duration", .nat c.leaderboardSpan.toNat),
      ("election_frequency", .nat c.termSpan.toNat),
      ("last_board_election_time", c.lastElectionAt.toJson),
      ("active_election_min_start_time", c.votingOpensAt.toJson),
      ("open_election_id", .orNull BallotId.toJson c.openBallot),
      ("is_active_election", .bool c.electionActive),
      ("phase", c.phase.toJson),
      ("is_term_election", .bool c.termElection),
      ("elections_held", .nat c.electionsHeld.toNat) ]

def ofJson? : Json → Option Config := readRecord do
  return {
    publisher := ← required "publisher" Account.ofJson?
    maxSeats := ← required "max_board_seats" readWord32
    openSeats := ← required "open_seats" readWord32
    holderQuorumDivisor := ← required "holder_quorum_divisor" readWord32
    boardQuorumDivisor := ← required "board_quorum_divisor" readWord32
    votingSpan := ← required "issue_duration" readWord64
    startDelay := ← required "start_delay" readWord64
    leaderboardSpan := ← required "leaderboard_duration" readWord64
    termSpan := ← required "election_frequency" readWord64
    lastElectionAt := ← required "last_board_election_time" Timestamp.ofJson?
    votingOpensAt := ← required "active_election_min_start_time" Timestamp.ofJson?
    openBallot := ← nullable "open_election_id" BallotId.ofJson?
    electionActive := ← required "is_active_election" readBool
    phase := ← required "phase" Phase.ofJson?
    termElection := ← required "is_term_election" readBool
    electionsHeld := ← required "elections_held" readWord64 }

end Config

namespace Config.Update

def toJson (u : Update) : Json :=
  .record
    [ ("max_board_seats", .nat u.maxSeats.toNat),
      ("holder_quorum_divisor", .nat u.holderQuorumDivisor.toNat),
      ("board_quorum_divisor", .nat u.boardQuorumDivisor.toNat),
      ("issue_duration", .nat u.votingSpan.toNat),
      ("start_delay", .nat u.startDelay.toNat),
      ("leaderboard_duration", .nat u.leaderboardSpan.toNat),
      ("election_frequency", .nat u.termSpan.toNat) ]

def ofJson? : Json → Option Update := readRecord do
  return {
    maxSeats := ← required "max_board_seats" readWord32
    holderQuorumDivisor := ← required "holder_quorum_divisor" readWord32
    boardQuorumDivisor := ← required "board_quorum_divisor" readWord32
    votingSpan := ← required "issue_duration" readWord64
    startDelay := ← required "start_delay" readWord64
    leaderboardSpan := ← required "leaderboard_duration" readWord64
    termSpan := ← required "election_frequency" readWord64 }

end Config.Update

def Nominee.toJson (n : Nominee) : Json :=
  .record
    [ ("name", n.name.toJson),
      ("nominated_by", n.nominatedBy.toJson),
      ("nominated_at", n.nominatedAt.toJson) ]

def Nominee.ofJson? : Json → Option Nominee := readRecord do
  return {
    name := ← required "name" Account.ofJson?
    nominatedBy := ← required "nominated_by" Account.ofJson?
    nominatedAt := ← required "nominated_at" Timestamp.ofJson? }

def Candidate.toJson (c : Candidate) : Json :=
  .record [("name", c.name.toJson), ("registered_at", c.registeredAt.toJson)]

def Candidate.ofJson? : Json → Option Candidate := readRecord do
  return {
    name := ← required "name" Account.ofJson?
    registeredAt := ← required "registered_at" Timestamp.ofJson? }

def Member.toJson (m : Member) : Json :=
  .record [("name", m.name.toJson), ("seated_at", m.seatedAt.toJson)]

def Member.ofJson? : Json → Option Member := readRecord do
  return {
    name := ← required "name" Account.ofJson?
    seatedAt := ← required "seated_at" Timestamp.ofJson? }

def Tally.toJson (t : Tally) : Json :=
  .record
    [ ("per_option_weight",
        .record (t.weights.entries.map fun e => (e.1.toString, e.2.toJson))),
      ("total_raw_weight", t.totalWeight.toJson),
      ("total_voters", .nat t.voters.toNat) ]

/-- A weight given twice for an option is the later one. -/
def Tally.ofJson? : Json → Option Tally := readRecord do
  return {
    weights := OrderedMap.ofList
      (← defaulted "per_option_weight" (readMembers Account.ofString? Weight.ofJson?) [])
    totalWeight := ← required "total_raw_weight" Weight.ofJson?
    voters := ← defaulted "total_voters" readWord32 0 }

def Signer.toJson (s : Signer) : Json :=
  .record
    [ ("actor", s.actor.toJson),
      ("permission", .str s.permission),
      ("weight", .nat s.weight.toNat) ]

def Signer.ofJson? : Json → Option Signer := readRecord do
  return {
    actor := ← required "actor" Account.ofJson?
    permission := ← required "permission" readString
    weight := ← required "weight" readWord16 }

def Authority.toJson (a : Authority) : Json :=
  .record
    [("threshold", .nat a.threshold.toNat), ("accounts", .list Signer.toJson a.signers)]

def Authority.ofJson? : Json → Option Authority := readRecord do
  return {
    threshold := ← required "threshold" readWord32
    signers := ← required "accounts" (readList Signer.ofJson?) }

namespace Settings

def toJson (s : Settings) : Json :=
  .record
    [ ("data_dir", .str s.dataDir),
      ("governed_account", s.governedAccount.toJson),
      ("treasury_symbol", s.treasurySymbol.toJson),
      ("ballot_prefix", .str s.ballotPrefix),
      ("tie_policy", s.tiePolicy.toJson),
      ("threshold_rule", s.thresholdRule.toJson),
      ("max_candidates", .nat s.maxCandidates.toNat),
      ("log_format", .str s.logFormat),
      ("log_level", .str s.logLevel),
      ("map_size_mb", .nat s.mapSizeMb.toNat) ]

/-- Every field has its default; nothing is validated. -/
def ofJson? : Json → Option Settings := readRecord do
  let default : Settings := {}
  return {
    dataDir := ← defaulted "data_dir" readString default.dataDir
    governedAccount :=
      ← defaulted "governed_account" Account.ofJson? default.governedAccount
    treasurySymbol :=
      ← defaulted "treasury_symbol" TreasurySymbol.ofJson? default.treasurySymbol
    ballotPrefix := ← defaulted "ballot_prefix" readString default.ballotPrefix
    tiePolicy := ← defaulted "tie_policy" TiePolicy.ofJson? default.tiePolicy
    thresholdRule := ← defaulted "threshold_rule" ThresholdRule.ofJson? default.thresholdRule
    maxCandidates := ← defaulted "max_candidates" readWord32 default.maxCandidates
    logFormat := ← defaulted "log_format" readString default.logFormat
    logLevel := ← defaulted "log_level" readString default.logLevel
    mapSizeMb := ← defaulted "map_size_mb" readWord64 default.mapSizeMb }

end Settings

/-! ### Reports, which are only written -/

/-- The members of an outcome besides its tag. -/
def Outcome.details : Outcome → List (String × Json)
  | .pass winners => [("winners", .list Account.toJson winners)]
  | .fail turnout quorum => [("turnout", turnout.toJson), ("quorum", quorum.toJson)]
  | .tie winners tied =>
    [("winners", .list Account.toJson winners), ("tied", .list Account.toJson tied)]
  | .count => []

def Outcome.toJson (o : Outcome) : Json := .record (("status", .str o.tag) :: o.details)

def ElectionReport.toJson (r : ElectionReport) : Json :=
  .record
    [ ("ballot", r.ballot.toJson),
      ("kind", .str r.kind.caseName),
      ("outcome", r.outcome.toJson),
      ("seated", .list Account.toJson r.seated),
      ("unseated", .list Account.toJson r.unseated),
      ("open_seats", .nat r.openSeats.toNat) ]

end TrusteeBoard
