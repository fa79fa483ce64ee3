import TrusteeBoard.Account
import TrusteeBoard.OrderedMap

/-!
# Signing authorities

An `Authority` is a weighted list of signers with a threshold. `ThresholdRule.authorityOver` builds
the one that a board implies: its members in ascending order with weight one each, or a fallback
signer when there are none.
-/

namespace TrusteeBoard

/-- One signer of an authority. -/
structure Signer where
  actor : Account
  permission : String
  weight : UInt16
  deriving DecidableEq

/-- Signers with weights, and the weight that has to sign. -/
structure Authority where
  threshold : UInt32
  signers : List Signer
  deriving DecidableEq

namespace Authority

def actors (a : Authority) : List Account :=
  a.signers.map (·.actor)

/-- The weight of a list of signers. -/
def weightOf (signers : List Signer) : UInt32 :=
  (signers.map fun s => s.weight.toUInt32).foldr (· + ·) 0

def totalWeight (a : Authority) : UInt32 :=
  weightOf a.signers

/-- Whether the signers can reach the threshold, which has to be positive. -/
def IsSatisfiable (a : Authority) : Prop :=
  0 < a.threshold ∧ a.threshold ≤ a.totalWeight

instance (a : Authority) : Decidable a.IsSatisfiable :=
  inferInstanceAs (Decidable (_ ∧ _))

/-- Whether the signers among `accounts` reach the threshold. -/
def IsSatisfiedBy (a : Authority) (accounts : List Account) : Prop :=
  a.threshold ≤ weightOf (a.signers.filter fun s => s.actor ∈ accounts)

instance (a : Authority) (accounts : List Account) : Decidable (a.IsSatisfiedBy accounts) :=
  inferInstanceAs (Decidable (_ ≤ _))

end Authority

/-- How many of equally weighted signers have to sign. -/
inductive ThresholdRule where
  /-- More than half of them. -/
  | simpleMajority
  | unanimous
  /-- A fixed count, at least one and at most all of them. -/
  | atLeast (count : UInt32)
  deriving DecidableEq, Repr, Inhabited

namespace ThresholdRule

/-- The threshold for a number of signers, which is taken modulo `2 ^ 32`. -/
def thresholdFor (rule : ThresholdRule) (signers : UInt64) : UInt32 :=
  let n := signers.toUInt32
  match rule with
  | .simpleMajority => n / 2 + 1
  | .unanimous => max n 1
  | .atLeast count => max 1 (min count (max n 1))

/-- A signer of weight one. -/
def signer (actor : Account) : Signer :=
  ⟨actor, "active", 1⟩

/-- The authority of a roster; `fallback` signs alone for an empty one. -/
def authorityOver (rule : ThresholdRule) (fallback : Account) (members : List Account) :
    Authority :=
  match (OrderedSet.ofList members).keys with
  | [] => ⟨1, [signer fallback]⟩
  | roster => ⟨rule.thresholdFor (UInt64.ofNat roster.length), roster.map signer⟩

end ThresholdRule

end TrusteeBoard
