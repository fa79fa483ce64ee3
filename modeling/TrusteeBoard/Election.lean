import TrusteeBoard.Outcome
import TrusteeBoard.Refusal
import TrusteeBoard.Saturating

/-!
# The election cycle

The steps idle, nominating, voting, resolving and back to idle, as functions of the governance
record. A step checks the phase and the time window first and either refuses or answers with the
record after it.
-/

namespace TrusteeBoard

/-- Why an election is held. -/
inductive ElectionKind where
  /-- The term of the board is over; every seat is contested. -/
  | term
  /-- Seats are vacant within the term; only those are contested. -/
  | vacancy
  deriving DecidableEq, Repr

/-- An election about to be opened. -/
structure ElectionPlan where
  kind : ElectionKind
  seats : UInt32
  votingOpensAt : Timestamp
  votingClosesAt : Timestamp
  deriving DecidableEq, Repr

/-- The result of a completed election. -/
structure ElectionReport where
  ballot : BallotId
  kind : ElectionKind
  outcome : Outcome
  seated : List Account
  unseated : List Account
  openSeats : UInt32
  deriving DecidableEq

namespace Config

def electionKind (c : Config) : ElectionKind :=
  if c.termElection then .term else .vacancy

/-- The ballot of the open election. -/
def activeBallot (c : Config) : Except Refusal BallotId :=
  match c.electionActive, c.openBallot with
  | true, some ballot => .ok ballot
  | _, _ => .error (.state .noActiveElection)

def expectPhase (c : Config) (expected : Phase) : Except Refusal Unit :=
  if c.phase = expected then .ok () else .error (.state (.wrongPhase expected c.phase))

/-- The election that may open now: for all seats once the term is over, else for the open ones. -/
def planElection (c : Config) (now : Timestamp) : Except Refusal ElectionPlan := do
  if let some ballot := c.openBallot then
    throw (.state (.alreadyActive ballot))
  c.expectPhase .idle
  let opens := now.plus c.startDelay
  let closes := opens.plus c.votingSpan
  if c.isTermExpired now then
    return ⟨.term, c.maxSeats, opens, closes⟩
  else if 0 < c.openSeats then
    return ⟨.vacancy, c.openSeats, opens, closes⟩
  else
    throw (.state (.electionNotDue c.termExpiresAt))

/-- The record once the planned election has its ballot. -/
def openElection (c : Config) (plan : ElectionPlan) (ballot : BallotId) : Config :=
  { c with
    votingOpensAt := plan.votingOpensAt
    openBallot := some ballot
    electionActive := true
    phase := .nominating
    termElection := plan.kind = .term
    openSeats := plan.seats
    electionsHeld := c.electionsHeld + 1 }

/-- The open ballot, while candidates may register: nominating, and before voting may start. -/
def candidacyBallot (c : Config) (now : Timestamp) : Except Refusal BallotId := do
  let ballot ← c.activeBallot
  c.expectPhase .nominating
  if c.votingOpensAt ≤ now then
    throw (.state (.candidacyClosed c.votingOpensAt))
  return ballot

/-- The open ballot, while candidates may withdraw: until voting closes. -/
def withdrawalBallot (c : Config) (now : Timestamp) : Except Refusal BallotId := do
  let ballot ← c.activeBallot
  if c.votingClosesAt ≤ now then
    throw (.state (.votingClosed c.votingClosesAt))
  return ballot

/-- From nominating to voting, from the start of the window on. -/
def beginVoting (c : Config) (now : Timestamp) : Except Refusal (BallotId × Config) := do
  let ballot ← c.activeBallot
  c.expectPhase .nominating
  if now < c.votingOpensAt then
    throw (.state (.tooEarly now c.votingOpensAt))
  return (ballot, { c with phase := .voting })

/-- From voting to resolving, from the end of the window on. -/
def beginResolving (c : Config) (now : Timestamp) : Except Refusal (BallotId × Config) := do
  let ballot ← c.activeBallot
  c.expectPhase .voting
  if now < c.votingClosesAt then
    throw (.state (.tooEarly now c.votingClosesAt))
  return (ballot, { c with phase := .resolving })

/-- Back to idle, with `seated` new members on a board that now has `boardSize`. -/
def finishElection (c : Config) (now : Timestamp) (seated boardSize : UInt32) : Config :=
  let free := floorSub32 c.maxSeats boardSize
  { c with
    openSeats := if c.termElection then free else min (floorSub32 c.openSeats seated) free
    lastElectionAt := now
    openBallot := none
    electionActive := false
    termElection := false
    phase := .idle }

/-- The record after a member leaves within the term. -/
def noteVacancy (c : Config) : Config :=
  { c with openSeats := min (c.openSeats + 1) c.maxSeats }

end Config

end TrusteeBoard
