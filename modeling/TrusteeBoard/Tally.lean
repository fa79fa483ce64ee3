import TrusteeBoard.Account
import TrusteeBoard.OrderedMap

/-!
# Tallies

A tally is what the ballot service reports of a closed ballot: a weight per option, the whole
eligible weight and the number of voters. Weights are 128-bit amounts; `Weight.plus` saturates.
-/

namespace TrusteeBoard

/-- An amount of voting weight. -/
abbrev Weight : Type := BitVec 128

/-- The sum of two weights, or the largest weight when the sum is out of range. -/
def Weight.plus (v w : Weight) : Weight :=
  BitVec.ofNat 128 (min (v.toNat + w.toNat) 0xFFFFFFFFFFFFFFFFFFFFFFFFFFFFFFFF)

theorem Weight.toNat_plus (v w : Weight) :
    (Weight.plus v w).toNat = min (v.toNat + w.toNat) 0xFFFFFFFFFFFFFFFFFFFFFFFFFFFFFFFF := by
  simp only [Weight.plus, BitVec.toNat_ofNat]
  omega

/-- The final count of a ballot. -/
structure Tally where
  weights : OrderedMap Account Weight := .empty
  totalWeight : Weight := 0
  voters : UInt32 := 0
  deriving DecidableEq

/-- Weight cast for an option, zero when it received none. -/
def Tally.weightOf (t : Tally) (option : Account) : Weight :=
  (t.weights.find? option).getD 0

/-- Weight needed for a quorum: the given share of the whole, all of it when the divisor is zero. -/
def requiredQuorum (total : Weight) (divisor : UInt32) : Weight :=
  if divisor = 0 then total else BitVec.ofNat 128 (total.toNat / divisor.toNat)

end TrusteeBoard
