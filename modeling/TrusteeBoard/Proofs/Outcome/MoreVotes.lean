import Mathlib.Algebra.Order.BigOperators.Group.Finset
import TrusteeBoard.Proofs.Outcome.Allocation

/-!
# More votes

More votes for one candidate can only add to the turnout, and they leave every other candidate
where it was. So a winner who gets more votes still has the quorum, has no more contenders above it
than before, and unless it has drawn level with one of them it is level with nobody: it wins again
(`Contest.mem_winners_of_more_votes`).
-/

namespace TrusteeBoard.Contest

open Sample

variable (c : Contest) {a b : Account} {w : Weight}

/-- The contest in which the weight of one option is another. -/
def reweigh (c : Contest) (a : Account) (w : Weight) : Contest :=
  { c with tally.weights := c.tally.weights.insert a w }

theorem weightOf_reweigh :
    (c.reweigh a w).tally.weightOf b = if b = a then w else c.tally.weightOf b := by
  unfold reweigh Tally.weightOf
  rw [OrderedMap.find?_insert]
  split <;> rfl

theorem weightOf_le_reweigh (more : c.tally.weightOf a ≤ w) :
    c.tally.weightOf b ≤ (c.reweigh a w).tally.weightOf b := by
  rw [weightOf_reweigh]
  split
  · next same => rwa [same]
  · exact BitVec.le_refl _

theorem cast_le_reweigh (more : c.tally.weightOf a ≤ w) : c.cast ≤ (c.reweigh a w).cast :=
  Finset.sum_le_sum fun _ _ => c.weightOf_le_reweigh more

theorem contenders_reweigh (counted : a ∈ c.contenders) (more : c.tally.weightOf a ≤ w) :
    (c.reweigh a w).contenders = c.contenders := by
  have voted : w ≠ 0 := by
    rintro rfl
    exact (Finset.mem_filter.1 counted).2 (BitVec.le_zero_iff.1 more)
  refine Finset.filter_congr fun b _ => ?_
  rw [weightOf_reweigh]
  split
  · next same =>
    rw [same]
    exact iff_of_true voted (Finset.mem_filter.1 counted).2
  · rfl

/-- Nobody comes to stand above a contender that gets more votes. -/
theorem above_reweigh_le (counted : a ∈ c.contenders) (more : c.tally.weightOf a ≤ w) :
    (c.reweigh a w).above a ≤ c.above a := by
  unfold above
  rw [c.contenders_reweigh counted more]
  refine Finset.card_le_card fun b hb => ?_
  obtain ⟨contends, ahead⟩ := Finset.mem_filter.1 hb
  rw [weightOf_reweigh, weightOf_reweigh, if_pos rfl] at ahead
  split at ahead
  · exact (BitVec.lt_irrefl w ahead).elim
  · exact Finset.mem_filter.2 ⟨contends, Nat.lt_of_le_of_lt more ahead⟩

theorem level_reweigh (counted : a ∈ c.contenders) (more : c.tally.weightOf a ≤ w)
    (alone : ∀ b ∈ c.candidates, b ≠ a → c.tally.weightOf b ≠ w) :
    (c.reweigh a w).level a = 1 := by
  unfold level
  rw [c.contenders_reweigh counted more, Finset.card_eq_one]
  refine ⟨a, Finset.eq_singleton_iff_unique_mem.2
    ⟨Finset.mem_filter.2 ⟨counted, rfl⟩, fun b hb => ?_⟩⟩
  obtain ⟨contends, level⟩ := Finset.mem_filter.1 hb
  have registered : b ∈ c.candidates := List.mem_toFinset.1 (Finset.mem_filter.1 contends).1
  by_contra other
  rw [weightOf_reweigh, weightOf_reweigh, if_pos rfl, if_neg other] at level
  exact alone b registered other level

/-- More votes never cost a winner the seat unless they make it level with another candidate. -/
theorem mem_winners_of_more_votes (won : a ∈ c.outcome.winners) (more : c.tally.weightOf a ≤ w)
    (alone : ∀ b ∈ c.candidates, b ≠ a → c.tally.weightOf b ≠ w) :
    a ∈ (c.reweigh a w).outcome.winners := by
  have reached : 0 < c.cast ∧ c.quorum.toNat ≤ c.cast := by
    by_contra missed
    rw [(c.winners_and_tied_of_no_quorum missed).1] at won
    exact List.not_mem_nil won
  rw [(c.winners_and_tied_of_quorum reached.1 reached.2).1, c.mem_seating_iff.1] at won
  obtain ⟨counted, within, -⟩ := won
  have cast := c.cast_le_reweigh more
  rw [((c.reweigh a w).winners_and_tied_of_quorum (reached.1.trans_le cast)
    (reached.2.trans cast)).1, (c.reweigh a w).mem_seating_iff.1, c.contenders_reweigh counted more,
    c.level_reweigh counted more alone]
  exact ⟨counted, (c.above_reweigh_le counted more).trans_lt within, rfl⟩

/-- With all the weight there can be, which the turnout cannot count beside that of the others, the
clear winner is still one, also when every tied group is excluded. -/
theorem mem_winners_of_more_votes_saturated :
    let all : Weight := BitVec.allOnes 128
    bob ∈ straddling.outcome.winners ∧ straddling.tally.weightOf bob ≤ all ∧
      (∀ b ∈ straddling.candidates, b ≠ bob → straddling.tally.weightOf b ≠ all) ∧
      bob ∈ (straddling.reweigh bob all).outcome.winners ∧
      bob ∈ (({ straddling with tiePolicy := .excludeTied } : Contest).reweigh bob
        all).outcome.winners := by
  intro all
  have won (policy : TiePolicy) :
      bob ∈ ({ straddling with tiePolicy := policy } : Contest).outcome.winners := by
    cases policy <;>
      rw [(winners_and_tied_of_quorum _ (by decide +kernel) (by decide +kernel)).1,
        (mem_seating_iff _).1] <;>
      decide +kernel
  have more : straddling.tally.weightOf bob ≤ all := by decide +kernel
  have alone : ∀ b ∈ straddling.candidates, b ≠ bob → straddling.tally.weightOf b ≠ all := by
    decide +kernel
  exact ⟨won .boundaryOnly, more, alone,
    straddling.mem_winners_of_more_votes (won .boundaryOnly) more alone,
    ({ straddling with tiePolicy := .excludeTied } : Contest).mem_winners_of_more_votes
      (won .excludeTied) more alone⟩

end TrusteeBoard.Contest
