import TrusteeBoard.Proofs.Outcome.Allocation

/-!
# The verdict of an election

Nothing to count, the quorum missed, or seats to fill: which of these it is, an outcome decides by
weights of 128 bits, whose sum stops at the largest of them. Sums and quotients of natural numbers
would decide the same (`Contest.outcome_verdict`).
-/

namespace TrusteeBoard.Contest

variable (c : Contest)

/-- The quorum as a natural number: the given share of the whole weight rounded down, or all of it
when the divisor is zero. -/
def exactQuorum (c : Contest) : Nat :=
  if c.quorumDivisor = 0 then c.tally.totalWeight.toNat
  else c.tally.totalWeight.toNat / c.quorumDivisor.toNat

theorem toNat_quorum : c.quorum.toNat = c.exactQuorum := by
  unfold quorum requiredQuorum exactQuorum
  split
  · rfl
  · have share : c.tally.totalWeight.toNat / c.quorumDivisor.toNat < 2 ^ 128 :=
      (Nat.div_le_self _ _).trans_lt c.tally.totalWeight.isLt
    rw [BitVec.toNat_ofNat, Nat.mod_eq_of_lt share]

theorem outcome_eq_count (uncast : c.cast = 0) : c.outcome = .count := by
  rw [outcome, if_pos (c.turnout_eq_zero_iff.2 uncast)]

theorem outcome_eq_fail (hcast : 0 < c.cast) (short : c.cast < c.exactQuorum) :
    c.outcome = .fail c.turnout c.quorum := by
  have counted : c.turnout ≠ 0 := fun zero => hcast.ne' (c.turnout_eq_zero_iff.1 zero)
  have missed : c.turnout < c.quorum := by rwa [turnout_lt_quorum_iff, toNat_quorum]
  rw [outcome, if_neg counted, if_pos missed]

theorem tag_of_quorum (hcast : 0 < c.cast) (reached : c.exactQuorum ≤ c.cast) :
    c.outcome.tag = "PASS" ∨ c.outcome.tag = "TIE" := by
  rw [c.outcome_eq hcast (by rwa [toNat_quorum])]
  split
  · exact .inl rfl
  · exact .inr rfl

/-- The turnout of an election that fails is below a weight, so it has not been cut off. -/
theorem toNat_turnout_of_short (short : c.cast < c.exactQuorum) : c.turnout.toNat = c.cast := by
  have quorum := c.quorum.isLt
  rw [toNat_quorum] at quorum
  rw [toNat_turnout]
  omega

/-- An outcome is what natural numbers decide: with no weight cast for a registered candidate there
is nothing to count, below the quorum the election fails and reports the exact turnout and quorum,
and from the quorum on seats are filled. -/
theorem outcome_verdict :
    (c.outcome.tag = "COUNT" ↔ c.cast = 0) ∧
    (c.outcome.tag = "FAIL" ↔ 0 < c.cast ∧ c.cast < c.exactQuorum) ∧
    (∀ turnout quorum, c.outcome = .fail turnout quorum ↔
      0 < c.cast ∧ c.cast < c.exactQuorum ∧ turnout.toNat = c.cast ∧
        quorum.toNat = c.exactQuorum) ∧
    (c.outcome.tag = "PASS" ∨ c.outcome.tag = "TIE" ↔ 0 < c.cast ∧ c.exactQuorum ≤ c.cast) := by
  rcases Nat.eq_zero_or_pos c.cast with uncast | hcast
  · rw [c.outcome_eq_count uncast]
    simp [Outcome.tag, uncast]
  rcases Nat.lt_or_ge c.cast c.exactQuorum with short | reached
  · have turnout := c.toNat_turnout_of_short short
    have quorum := c.toNat_quorum
    rw [c.outcome_eq_fail hcast short]
    refine ⟨?_, ?_, fun t q => ?_, ?_⟩
    · simp [Outcome.tag, hcast.ne']
    · simp [Outcome.tag, hcast, short]
    · rw [Outcome.fail.injEq, ← turnout, ← quorum, BitVec.toNat_inj, BitVec.toNat_inj, turnout,
        quorum, eq_comm, eq_comm (a := c.quorum)]
      simp only [hcast, short, true_and]
    · simp [Outcome.tag, short]
  · have filled := c.tag_of_quorum hcast reached
    have tags : c.outcome.tag ≠ "COUNT" ∧ c.outcome.tag ≠ "FAIL" := by
      rcases filled with pass | tie
      · simp [pass]
      · simp [tie]
    refine ⟨iff_of_false tags.1 hcast.ne', iff_of_false tags.2 fun h => ?_, fun t q => ?_,
      iff_of_true filled ⟨hcast, reached⟩⟩
    · exact reached.not_gt h.2
    · refine iff_of_false (fun fails => tags.2 ?_) fun h => reached.not_gt h.2.1
      rw [fails]
      rfl

end TrusteeBoard.Contest
