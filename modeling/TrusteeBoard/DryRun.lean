import TrusteeBoard.Json.Values

/-!
# Dry runs

Resolves a tally apart from any store: every option of the tally counts as a registered candidate.
-/

namespace TrusteeBoard

/-- The contest of a tally alone. -/
def Tally.contest (t : Tally) (seats quorumDivisor : UInt32) (tiePolicy : TiePolicy) : Contest where
  tally := t
  candidates := t.weights.keys
  seats
  quorumDivisor
  tiePolicy

/-- The quorum and the outcome of a contest. -/
def Contest.toJson (c : Contest) : Json :=
  .record [("quorum", c.quorum.toJson), ("outcome", c.outcome.toJson)]

end TrusteeBoard
