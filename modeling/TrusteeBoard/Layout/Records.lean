import TrusteeBoard.Config.Update
import TrusteeBoard.Layout.Basic
import TrusteeBoard.Settings
import TrusteeBoard.Store.Change

/-!
# Layouts of the exchanged records

The fields of a record follow each other in a fixed order. A name is laid out as its text, and text
that is no name is not read.
-/

namespace TrusteeBoard

open Layout

def Account.layout : Layout Account := string.refine ofString? toString

def TreasurySymbol.layout : Layout TreasurySymbol := string.refine ofString? toString

def Timestamp.layout : Layout Timestamp := word64.iso mk secs

def BallotId.layout : Layout BallotId := word64.iso mk number

def Phase.layout : Layout Phase := cases [.idle, .nominating, .voting, .resolving]

def TiePolicy.layout : Layout TiePolicy := cases [.excludeTied, .boundaryOnly]

/-- The index of the rule, and the count of a rule that has one. -/
def ThresholdRule.layout : Layout ThresholdRule where
  write
    | .simpleMajority => word32.write 0
    | .unanimous => word32.write 1
    | .atLeast count => word32.write 2 ++ word32.write count
  read bytes := do
    let (index, bytes) ← word32.read bytes
    if index = 0 then return (.simpleMajority, bytes)
    else if index = 1 then return (.unanimous, bytes)
    else if index = 2 then
      let (count, bytes) ← word32.read bytes
      return (.atLeast count, bytes)
    else none

def Config.layout : Layout Config :=
  (Account.layout.seq <| word32.seq <| word32.seq <| word32.seq <| word32.seq <| word64.seq <|
    word64.seq <| word64.seq <| word64.seq <| Timestamp.layout.seq <| Timestamp.layout.seq <|
    BallotId.layout.option.seq <| bool.seq <| Phase.layout.seq <| bool.seq word64).iso
    (fun (publisher, maxSeats, openSeats, holderQuorumDivisor, boardQuorumDivisor, votingSpan,
        startDelay, leaderboardSpan, termSpan, lastElectionAt, votingOpensAt, openBallot,
        electionActive, phase, termElection, electionsHeld) =>
      { publisher, maxSeats, openSeats, holderQuorumDivisor, boardQuorumDivisor, votingSpan,
        startDelay, leaderboardSpan, termSpan, lastElectionAt, votingOpensAt, openBallot,
        electionActive, phase, termElection, electionsHeld })
    fun c =>
      (c.publisher, c.maxSeats, c.openSeats, c.holderQuorumDivisor, c.boardQuorumDivisor,
        c.votingSpan, c.startDelay, c.leaderboardSpan, c.termSpan, c.lastElectionAt,
        c.votingOpensAt, c.openBallot, c.electionActive, c.phase, c.termElection,
        c.electionsHeld)

def Config.Update.layout : Layout Config.Update :=
  (word32.seq <| word32.seq <| word32.seq <| word64.seq <| word64.seq <| word64.seq word64).iso
    (fun (maxSeats, holderQuorumDivisor, boardQuorumDivisor, votingSpan, startDelay,
        leaderboardSpan, termSpan) =>
      { maxSeats, holderQuorumDivisor, boardQuorumDivisor, votingSpan, startDelay,
        leaderboardSpan, termSpan })
    fun u =>
      (u.maxSeats, u.holderQuorumDivisor, u.boardQuorumDivisor, u.votingSpan, u.startDelay,
        u.leaderboardSpan, u.termSpan)

def Nominee.layout : Layout Nominee :=
  (Account.layout.seq <| Account.layout.seq Timestamp.layout).iso
    (fun (name, nominatedBy, nominatedAt) => ⟨name, nominatedBy, nominatedAt⟩)
    fun n => (n.name, n.nominatedBy, n.nominatedAt)

def Candidate.layout : Layout Candidate :=
  (Account.layout.seq Timestamp.layout).iso (fun (name, registeredAt) => ⟨name, registeredAt⟩)
    fun c => (c.name, c.registeredAt)

def Member.layout : Layout Member :=
  (Account.layout.seq Timestamp.layout).iso (fun (name, seatedAt) => ⟨name, seatedAt⟩)
    fun m => (m.name, m.seatedAt)

/-- Of two weights for one option the later is read. -/
def Tally.layout : Layout Tally :=
  ((Account.layout.seq word128).list.seq <| word128.seq word32).iso
    (fun (weights, totalWeight, voters) => ⟨OrderedMap.ofList weights, totalWeight, voters⟩)
    fun t => (t.weights.entries, t.totalWeight, t.voters)

def Signer.layout : Layout Signer :=
  (Account.layout.seq <| string.seq word16).iso
    (fun (actor, permission, weight) => ⟨actor, permission, weight⟩)
    fun s => (s.actor, s.permission, s.weight)

def Authority.layout : Layout Authority :=
  (word32.seq Signer.layout.list).iso (fun (threshold, signers) => ⟨threshold, signers⟩)
    fun a => (a.threshold, a.signers)

def Settings.layout : Layout Settings :=
  (string.seq <| Account.layout.seq <| TreasurySymbol.layout.seq <| string.seq <|
    TiePolicy.layout.seq <| ThresholdRule.layout.seq <| word32.seq <| string.seq <|
    string.seq word64).iso
    (fun (dataDir, governedAccount, treasurySymbol, ballotPrefix, tiePolicy, thresholdRule,
        maxCandidates, logFormat, logLevel, mapSizeMb) =>
      { dataDir, governedAccount, treasurySymbol, ballotPrefix, tiePolicy, thresholdRule,
        maxCandidates, logFormat, logLevel, mapSizeMb })
    fun s =>
      (s.dataDir, s.governedAccount, s.treasurySymbol, s.ballotPrefix, s.tiePolicy,
        s.thresholdRule, s.maxCandidates, s.logFormat, s.logLevel, s.mapSizeMb)

end TrusteeBoard
