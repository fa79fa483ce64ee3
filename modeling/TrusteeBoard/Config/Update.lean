import TrusteeBoard.Refusal
import TrusteeBoard.Saturating

/-!
# Updates of the governance record

A `Config.Update` holds the parameters that the publisher may change between elections. It is
validated against the size of the seated board, and applying it recomputes the open seats.
-/

namespace TrusteeBoard

/-- New parameters for the governance record. -/
structure Config.Update where
  maxSeats : UInt32 := 12
  holderQuorumDivisor : UInt32 := 5
  boardQuorumDivisor : UInt32 := 2
  votingSpan : UInt64 := 2000000
  startDelay : UInt64 := 1200
  leaderboardSpan : UInt64 := 2000000
  termSpan : UInt64 := 14515200
  deriving DecidableEq

namespace Config.Update

/-- What is wrong with the update over a board of `boardSize`, the first fault first. -/
def fault? (u : Update) (boardSize : UInt32) : Option String :=
  if u.maxSeats = 0 then some "max_board_seats must be positive"
  else if u.maxSeats < boardSize then
    some s!"max_board_seats {u.maxSeats} is below the {boardSize} seated members"
  else if u.holderQuorumDivisor = 0 then some "holder_quorum_divisor must be positive"
  else if u.boardQuorumDivisor = 0 then some "board_quorum_divisor must be positive"
  else if u.votingSpan = 0 then some "issue_duration must be positive"
  else if u.termSpan = 0 then some "election_frequency must be positive"
  else none

def validate (u : Update) (boardSize : UInt32) : Except Refusal Unit :=
  match u.fault? boardSize with
  | some reason => .error (.invalidConfig reason)
  | none => .ok ()

/-- The record with the new parameters; every seat without a member is open. -/
def applyTo (u : Update) (c : Config) (boardSize : UInt32) : Config :=
  { c with
    maxSeats := u.maxSeats
    openSeats := floorSub32 u.maxSeats boardSize
    holderQuorumDivisor := u.holderQuorumDivisor
    boardQuorumDivisor := u.boardQuorumDivisor
    votingSpan := u.votingSpan
    startDelay := u.startDelay
    leaderboardSpan := u.leaderboardSpan
    termSpan := u.termSpan }

end Config.Update

end TrusteeBoard
