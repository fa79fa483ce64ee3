import TrusteeBoard.Refusal
import TrusteeBoard.Tally

/-!
# A ballot service in memory

Ballots are numbered from one. Options change until voting is open, and a ballot without a tally
reads as the empty tally. When told so, the service fails the next call.
-/

namespace TrusteeBoard

/-- A ballot as the service keeps it. -/
structure Ballot where
  name : String
  treasury : TreasurySymbol
  options : OrderedSet Account
  begins : Timestamp
  ends : Timestamp
  votingOpen : Bool := false
  tally : Option Tally := none
  deriving DecidableEq

/-- The state of a ballot service. -/
structure BallotService where
  lastNumber : UInt64 := 0
  ballots : OrderedMap BallotId Ballot := .empty
  failNextCall : Bool := false
  deriving DecidableEq

namespace BallotService

/-- The newest ballot. -/
def latest (s : BallotService) : Option (BallotId × Ballot) :=
  s.ballots.entries.getLast?

/-- Sets the tally of a ballot, if there is one of that number. -/
def setTally (s : BallotService) (ballot : BallotId) (tally : Tally) : BallotService :=
  match s.ballots.find? ballot with
  | some b => { s with ballots := s.ballots.insert ballot { b with tally := some tally } }
  | none => s

/-- Carries out a call unless it is to fail. -/
def guarded {α : Type} (s : BallotService)
    (call : BallotService → Except BallotError α × BallotService) :
    Except BallotError α × BallotService :=
  if s.failNextCall then (.error (.other "injected failure"), { s with failNextCall := false })
  else call s

/-- Carries out a call on a ballot, which it may change. -/
def withBallot {α : Type} (s : BallotService) (ballot : BallotId)
    (call : Ballot → Except BallotError (α × Ballot)) : Except BallotError α × BallotService :=
  s.guarded fun s =>
    match s.ballots.find? ballot with
    | none => (.error (.notFound ballot), s)
    | some b =>
      match call b with
      | .ok (a, b) => (.ok a, { s with ballots := s.ballots.insert ballot b })
      | .error e => (.error e, s)

def openBallot (s : BallotService) (name : String) (treasury : TreasurySymbol)
    (options : List Account) (begins ends : Timestamp) :
    Except BallotError BallotId × BallotService :=
  s.guarded fun s =>
    let ballot : BallotId := ⟨s.lastNumber + 1⟩
    (.ok ballot,
      { s with
        lastNumber := ballot.number
        ballots := s.ballots.insert ballot
          { name, treasury, options := OrderedSet.ofList options, begins, ends } })

def addOption (s : BallotService) (ballot : BallotId) (option : Account) :
    Except BallotError Unit × BallotService :=
  s.withBallot ballot fun b =>
    if b.votingOpen then .error (.rejected ballot "voting already open")
    else if b.options.contains option then .error (.rejected ballot "duplicate option")
    else .ok ((), { b with options := b.options.insert option () })

def removeOption (s : BallotService) (ballot : BallotId) (option : Account) :
    Except BallotError Unit × BallotService :=
  s.withBallot ballot fun b =>
    if b.votingOpen then .error (.rejected ballot "voting already open")
    else if b.options.contains option then .ok ((), { b with options := b.options.erase option })
    else .error (.rejected ballot "unknown option")

def openVoting (s : BallotService) (ballot : BallotId) : Except BallotError Unit × BallotService :=
  s.withBallot ballot fun b => .ok ((), { b with votingOpen := true })

def tally (s : BallotService) (ballot : BallotId) : Except BallotError Tally × BallotService :=
  s.withBallot ballot fun b => .ok (b.tally.getD {}, b)

end BallotService

end TrusteeBoard
