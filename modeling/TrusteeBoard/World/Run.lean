import TrusteeBoard.Operation
import TrusteeBoard.World.Basic

/-!
# Runs

What happens in a world between operations: time passes, calls carry other authority, tallies come
in, faults are planted. A run is a list of such events and of operations, in any order; an operation
that is refused leaves the world as its calls left it.
-/

namespace TrusteeBoard

/-- A step of a run. -/
inductive Event where
  | advance (span : UInt64)
  | setClock (time : Timestamp)
  /-- The calls that follow carry the authority of these accounts only. -/
  | signAs (names : List Account)
  | addAccounts (names : List Account)
  | setTally (ballot : BallotId) (tally : Tally)
  | failNextPush
  | failNextBallotCall
  | plant (fault : Fault)
  | clearFaults
  | perform (operation : Operation)
  deriving DecidableEq

namespace World

variable {σ : Type} [Store σ] (settings : Settings)

/-- The world after one event. -/
def after (w : World σ) : Event → World σ
  | .advance span => { w with host := w.host.advance span }
  | .setClock time => { w with host := { w.host with clock := time } }
  | .signAs names => { w with host := w.host.signedBy names }
  | .addAccounts names => { w with host := w.host.addAccounts names }
  | .setTally ballot tally => { w with ballots := w.ballots.setTally ballot tally }
  | .failNextPush => { w with host := { w.host with failNextPush := true } }
  | .failNextBallotCall => { w with ballots := { w.ballots with failNextCall := true } }
  | .plant fault => { w with faults := w.faults ++ [fault] }
  | .clearFaults => { w with faults := [] }
  | .perform operation => (w.perform (operation.program settings)).2

/-- The world after a run. -/
def afterAll (w : World σ) (events : List Event) : World σ :=
  events.foldl (after settings) w

end World

end TrusteeBoard
