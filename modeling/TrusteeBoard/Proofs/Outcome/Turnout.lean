import Mathlib.Algebra.BigOperators.Group.Finset.Basic
import Mathlib.Algebra.GroupWithZero.Nat
import TrusteeBoard.Outcome
import TrusteeBoard.Proofs.OrderedMap

/-!
# The turnout in exact arithmetic

`Contest.turnout` adds 128-bit weights and stops at the largest one. `Contest.cast` is the sum as a
natural number. A quorum is a 128-bit weight too, so both sums compare alike with zero and with the
quorum (`turnout_eq_zero_iff`, `turnout_lt_quorum_iff`).
-/

namespace TrusteeBoard

theorem Weight.toNat_foldl_plus (weights : List Weight) (start : Weight) :
    (weights.foldl Weight.plus start).toNat =
      min (start.toNat + (weights.map BitVec.toNat).sum) 0xFFFFFFFFFFFFFFFFFFFFFFFFFFFFFFFF := by
  induction weights generalizing start with
  | nil =>
    have := start.isLt
    simp only [List.foldl_nil, List.map_nil, List.sum_nil]
    omega
  | cons w rest ih =>
    rw [List.foldl_cons, ih, Weight.toNat_plus, List.map_cons, List.sum_cons]
    omega

namespace Contest

/-- The distinct registered candidates. -/
def registered (c : Contest) : Finset Account :=
  c.candidates.toFinset

/-- The weight cast for the registered candidates, as a natural number. -/
def cast (c : Contest) : Nat :=
  ∑ a ∈ c.registered, (c.tally.weightOf a).toNat

variable (c : Contest)

theorem mem_registered {a : Account} :
    a ∈ (OrderedSet.ofList c.candidates).keys ↔ a ∈ c.registered := by
  simp [registered]

theorem toNat_turnout :
    c.turnout.toNat = min c.cast 0xFFFFFFFFFFFFFFFFFFFFFFFFFFFFFFFF := by
  have keys : (OrderedSet.ofList c.candidates).keys.toFinset = c.registered := by
    ext a
    rw [List.mem_toFinset, mem_registered]
  have sum : c.cast = ((c.standings.map (·.2)).map BitVec.toNat).sum := by
    rw [cast, ← keys, List.sum_toFinset _ (OrderedMap.nodup_keys _), standings, List.map_map,
      List.map_map]
    rfl
  rw [turnout, Weight.toNat_foldl_plus, ← sum]
  simp

theorem turnout_eq_zero_iff : c.turnout = 0 ↔ c.cast = 0 := by
  rw [← BitVec.toNat_inj, toNat_turnout]
  simp

theorem turnout_lt_quorum_iff : c.turnout < c.quorum ↔ c.cast < c.quorum.toNat := by
  have := c.quorum.isLt
  rw [BitVec.lt_def, toNat_turnout]
  omega

end Contest

end TrusteeBoard
