import TrusteeBoard.Board
import TrusteeBoard.Candidacy
import TrusteeBoard.Config.Update
import TrusteeBoard.Election
import TrusteeBoard.Settings

/-!
# Operations

The operations of the governance engine, each a `Program`. All have the same shape: read the
persisted state, check authority, phase and window, ask the collaborators, and store one list of
changes at the end. When that last write fails, calls made before it are taken back where the
collaborator allows. `Operation.program` gathers the eleven operations that write.
-/

namespace TrusteeBoard

open Program

variable (settings : Settings)

/-! ### The governance record -/

/-- Sets the parameters. The first call makes `caller` the publisher, later ones must come from the
publisher. -/
def setConfig (caller : Account) (update : Config.Update) : Program Config := do
  let current ←
    match ← config with
    | some c =>
      if c.publisher ≠ caller then
        refuse (.unauthorized c.publisher)
      pure c
    | none => pure { publisher := caller }
  authorize caller
  if current.electionActive then
    refuse (.state .electionInProgress)
  let boardSize ← memberCount
  ofExcept (update.validate boardSize)
  let updated := update.applyTo current boardSize
  apply [.putConfig updated]
  return updated

/-! ### Candidacy -/

def nominate (nominee nominator : Account) : Program Unit := do
  authorize nominator
  unless ← accountExists nominee do
    refuse (.notFound .account nominee)
  let time ← now
  let termExpired := (← config).any (·.isTermExpired time)
  apply (← Candidacy.nomination nominee nominator time termExpired)

/-- Drops a nominee, with the authority of the nominee or, once there is one, the publisher. -/
def unnominate (nominee : Account) : Program Nominee := do
  match ← config with
  | some c => authorizeEither nominee c.publisher
  | none => authorize nominee
  let (record, changes) ← Candidacy.unnomination nominee
  apply changes
  return record

/-- Registers a nominee as an option on the open ballot. -/
def addCandidate (candidate : Account) : Program Unit := do
  authorize candidate
  let c ← requireConfig
  let time ← now
  let ballot ← ofExcept (c.candidacyBallot time)
  let changes ← Candidacy.registration candidate time settings.maxCandidates
  addOption ballot candidate
  match ← call (.apply changes) with
  | .ok () => return
  | .error e =>
    let _ ← call (.removeOption ballot candidate)
    refuse (.store e)

/-- Withdraws a candidate, with the authority of the candidate or the publisher. Once voting has
started the option stays on the ballot; its votes are ignored when the election is resolved. -/
def removeCandidate (candidate : Account) : Program Unit := do
  let c ← requireConfig
  authorizeEither candidate c.publisher
  let ballot ← ofExcept (c.withdrawalBallot (← now))
  let changes ← Candidacy.withdrawal candidate
  let optional := c.phase = .nominating
  if optional then
    removeOption ballot candidate
  match ← call (.apply changes) with
  | .ok () => return
  | .error e =>
    if optional then
      let _ ← call (.addOption ballot candidate)
    refuse (.store e)

/-! ### The election cycle -/

/-- Opens an election when the term is over or a seat is vacant. -/
def makeElection (holder : Account) : Program BallotId := do
  authorize holder
  let c ← requireConfig
  let plan ← ofExcept (c.planElection (← now))
  let ballot ← openBallot (settings.ballotName (c.electionsHeld + 1)) settings.treasurySymbol []
    plan.votingOpensAt plan.votingClosesAt
  apply [.clearCandidates, .putConfig (c.openElection plan ballot)]
  return ballot

/-- Opens the ballot for voting. -/
def startElection (holder : Account) : Program BallotId := do
  authorize holder
  let c ← requireConfig
  let (ballot, voting) ← ofExcept (c.beginVoting (← now))
  openVoting ballot
  apply [.putConfig voting]
  return ballot

/-- The board after an election: the winners on a cleared board if the term is over and anyone won,
else the old board with the winners added while there are seats. -/
def Board.afterElection (before : Board) (kind : ElectionKind) (winners : List Account) :
    Except Refusal Board :=
  let start := if kind = .term ∧ winners ≠ [] then before.clear else before
  seatAll start winners
where
  seatAll (board : Board) : List Account → Except Refusal Board
    | [] => .ok board
    | winner :: rest =>
      if board.contains winner then seatAll board rest
      else if board.vacancies = 0 then .ok board
      else do seatAll (← board.seat winner) rest

/-- Closes the election: resolves the tally, seats the winners, pushes the authority of the new
board and returns to idle. -/
def endElection (holder : Account) : Program ElectionReport := do
  authorize holder
  let stored ← requireConfig
  let time ← now
  let (ballot, c) ← ofExcept (stored.beginResolving time)
  let kind := c.electionKind
  let tally ← tally ballot
  let candidates ← Candidacy.names
  let outcome := Contest.outcome
    { tally, candidates, seats := c.openSeats, quorumDivisor := c.holderQuorumDivisor,
      tiePolicy := settings.tiePolicy }
  let before ← Board.load c.maxSeats
  let after ← ofExcept (before.afterElection kind outcome.winners)
  let seated := UInt32.ofNat (after.without before).length
  let finished := c.finishElection time seated after.size
  let change := RosterChange.between settings.governedAccount settings.thresholdRule
    finished.publisher before after (Candidacy.resolution candidates ++ [.putConfig finished]) time
  let committed ← change.commit
  return { ballot, kind, outcome, seated := committed.seated, unseated := committed.unseated,
           openSeats := finished.openSeats }

/-! ### The board -/

/-- Takes a member off the board within the term. -/
def leaveBoard (member : Account) : Program Committed := do
  let c ← requireConfig
  let before ← Board.load c.maxSeats
  let after ← ofExcept (before.unseat member)
  let vacated := c.noteVacancy
  let time ← now
  (RosterChange.between settings.governedAccount settings.thresholdRule vacated.publisher
    before after [.putConfig vacated] time).commit

/-- Removal of a member by the board's own authority. -/
def removeMember (member : Account) : Program Committed := do
  authorize settings.governedAccount
  leaveBoard settings member

/-- Resignation of a member. -/
def resign (member : Account) : Program Committed := do
  authorize member
  leaveBoard settings member

/-- Seats `members` in turn, dropping the nominations of those who are nominees. -/
def seatFounders (board : Board) (changes : List Change) :
    List Account → Program (Board × List Change)
  | [] => return (board, changes)
  | name :: rest => do
    unless ← accountExists name do
      refuse (.notFound .account name)
    let board ← ofExcept (board.seat name)
    if ← isNominee name then
      seatFounders board (changes ++ [.dropNominee name]) rest
    else
      seatFounders board changes rest

/-- Seats an initial board and starts its term: by the publisher, on an empty board, outside an
election. -/
def seatBoard (members : List Account) : Program Committed := do
  let c ← requireConfig
  authorize c.publisher
  if c.electionActive then
    refuse (.state .electionInProgress)
  let before ← Board.load c.maxSeats
  unless before.isEmpty do
    refuse (.state (.boardNotEmpty before.size))
  let (after, dropped) ← seatFounders before [] members
  let time ← now
  let seated := { c with openSeats := after.vacancies, lastElectionAt := time }
  (RosterChange.between settings.governedAccount settings.thresholdRule seated.publisher
    before after (dropped ++ [.putConfig seated]) time).commit

/-! ### Queries -/

/-- The phase of the cycle, idle while there is no record. -/
def currentPhase : Program Phase := do
  return ((← config).map (·.phase)).getD .idle

def isTermExpired : Program Bool := do
  return (← requireConfig).isTermExpired (← now)

/-- The authority that the stored board implies. -/
def impliedAuthority : Program Authority := do
  let c ← requireConfig
  let board ← Board.load c.maxSeats
  return settings.thresholdRule.authorityOver c.publisher board.members.keys

/-! ### All operations -/

/-- An operation that writes, with its arguments. -/
inductive Operation where
  | setConfig (caller : Account) (update : Config.Update)
  | nominate (nominee nominator : Account)
  | unnominate (nominee : Account)
  | addCandidate (candidate : Account)
  | removeCandidate (candidate : Account)
  | makeElection (holder : Account)
  | startElection (holder : Account)
  | endElection (holder : Account)
  | removeMember (member : Account)
  | resign (member : Account)
  | seatBoard (members : List Account)
  deriving DecidableEq

/-- What a successful operation answers. -/
inductive Receipt where
  | done
  | config (config : Config)
  | nominee (nominee : Nominee)
  | ballot (ballot : BallotId)
  | report (report : ElectionReport)
  | committed (committed : Committed)
  deriving DecidableEq

namespace Operation

/-- The program of an operation. -/
def program : Operation → Program Receipt
  | .setConfig caller update => return .config (← TrusteeBoard.setConfig caller update)
  | .nominate nominee nominator => do
    TrusteeBoard.nominate nominee nominator
    return .done
  | .unnominate nominee => return .nominee (← TrusteeBoard.unnominate nominee)
  | .addCandidate candidate => do
    TrusteeBoard.addCandidate settings candidate
    return .done
  | .removeCandidate candidate => do
    TrusteeBoard.removeCandidate candidate
    return .done
  | .makeElection holder => return .ballot (← TrusteeBoard.makeElection settings holder)
  | .startElection holder => return .ballot (← TrusteeBoard.startElection holder)
  | .endElection holder => return .report (← TrusteeBoard.endElection settings holder)
  | .removeMember member => return .committed (← TrusteeBoard.removeMember settings member)
  | .resign member => return .committed (← TrusteeBoard.resign settings member)
  | .seatBoard members => return .committed (← TrusteeBoard.seatBoard settings members)

end Operation

end TrusteeBoard
