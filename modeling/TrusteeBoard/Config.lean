import TrusteeBoard.Account
import TrusteeBoard.Timestamp

/-!
# The governance record

`Config` is the one record a deployment keeps of its seats, quorum divisors and durations and of the
election in flight. `Config.IsConsistent` is what every stored record satisfies: no more open seats
than seats, and a ballot reference exactly while an election is active, which is exactly outside
`Phase.idle`.
-/

namespace TrusteeBoard

/-- Where the election cycle stands. -/
inductive Phase where
  | idle
  | nominating
  | voting
  | resolving
  deriving DecidableEq, Repr, Inhabited

instance : ToString Phase where
  toString
    | .idle => "idle"
    | .nominating => "nominating"
    | .voting => "voting"
    | .resolving => "resolving"

/-- The governance record of a deployment. Spans are in seconds. -/
structure Config where
  /-- The account that may change the record and seat the first board. -/
  publisher : Account
  maxSeats : UInt32 := 12
  /-- Seats vacant, or up for the open election. -/
  openSeats : UInt32 := 12
  /-- A quorum is the whole eligible weight divided by this. -/
  holderQuorumDivisor : UInt32 := 5
  boardQuorumDivisor : UInt32 := 2
  votingSpan : UInt64 := 2000000
  /-- Time between the opening of an election and the start of voting. -/
  startDelay : UInt64 := 1200
  leaderboardSpan : UInt64 := 2000000
  /-- The term of a board. -/
  termSpan : UInt64 := 14515200
  lastElectionAt : Timestamp := .epoch
  /-- Start of voting in the open election. -/
  votingOpensAt : Timestamp := .epoch
  openBallot : Option BallotId := none
  electionActive : Bool := false
  phase : Phase := .idle
  /-- Whether the open election contests every seat. -/
  termElection : Bool := false
  electionsHeld : UInt64 := 0
  deriving DecidableEq

namespace Config

/-- The end of voting in the open election. -/
def votingClosesAt (c : Config) : Timestamp :=
  c.votingOpensAt.plus c.votingSpan

/-- The end of the current board's term. -/
def termExpiresAt (c : Config) : Timestamp :=
  c.lastElectionAt.plus c.termSpan

def isTermExpired (c : Config) (now : Timestamp) : Bool :=
  c.lastElectionAt.hasExpired c.termSpan now

structure IsConsistent (c : Config) : Prop where
  openSeats_le : c.openSeats ≤ c.maxSeats
  active_iff_ballot : c.electionActive = c.openBallot.isSome
  idle_iff_inactive : decide (c.phase = .idle) ≠ c.electionActive

instance (c : Config) : Decidable c.IsConsistent :=
  decidable_of_iff
    (c.openSeats ≤ c.maxSeats ∧ c.electionActive = c.openBallot.isSome ∧
      decide (c.phase = .idle) ≠ c.electionActive)
    ⟨fun h => ⟨h.1, h.2.1, h.2.2⟩, fun h => ⟨h.1, h.2, h.3⟩⟩

end Config

end TrusteeBoard
