import TrusteeBoard.Proofs.Outcome.Ranking

/-!
# The votes that count

Of a tally and a list of candidates, an outcome sees only the votes for registered candidates
(`Contest.votes`): they determine the ranking, since it is in a strict order, and the turnout, to
which a weight of zero adds nothing (`Contest.outcome_congr`).
-/

namespace TrusteeBoard.Contest

variable {c c' : Contest}

/-- The registered candidates with weight, each with that weight. -/
def votes (c : Contest) : Finset (Account × Weight) :=
  (c.registered.image fun a => (a, c.tally.weightOf a)).filter fun x => x.2 ≠ 0

theorem mem_votes {x : Account × Weight} :
    x ∈ c.votes ↔ x.1 ∈ c.registered ∧ x.2 = c.tally.weightOf x.1 ∧ x.2 ≠ 0 := by
  obtain ⟨a, w⟩ := x
  simp only [votes, Finset.mem_filter, Finset.mem_image, Prod.mk.injEq]
  constructor
  · rintro ⟨⟨_, ha, rfl, rfl⟩, cast⟩
    exact ⟨ha, rfl, cast⟩
  · rintro ⟨ha, rfl, cast⟩
    exact ⟨⟨a, ha, rfl, rfl⟩, cast⟩

/-! ### What is read off the votes -/

theorem mem_ranking_iff_mem_votes {x : Account × Weight} : x ∈ c.ranking ↔ x ∈ c.votes := by
  rw [mem_ranking, mem_votes, contenders, Finset.mem_filter, and_assoc]
  refine and_congr_right fun _ => ?_
  constructor
  · rintro ⟨cast, weight⟩
    exact ⟨weight, weight ▸ cast⟩
  · rintro ⟨weight, cast⟩
    exact ⟨weight ▸ cast, weight⟩

theorem nodup_ranking : c.ranking.Nodup :=
  .of_map (·.1) (c.flatten_groups ▸ c.nodup_flatten_groups)

theorem ranksBefore_antisymm {x y : Account × Weight} (hxy : ranksBefore x y = true)
    (hyx : ranksBefore y x = true) : x = y := by
  rw [ranksBefore_iff] at hxy hyx
  rcases hxy with below | ⟨same, before⟩
  · rcases hyx with above | ⟨same, -⟩
    · exact (BitVec.lt_asymm below above).elim
    · exact (BitVec.ne_of_lt below same).elim
  · rcases hyx with above | ⟨-, after⟩
    · exact (BitVec.ne_of_lt above same).elim
    · exact Prod.ext (Std.LawfulEqOrd.eq_of_compare (Std.OrientedCmp.isLE_antisymm before after)) same

/-- The ranking is the one way to put the votes in order. -/
theorem ranking_congr (votes : c'.votes = c.votes) : c'.ranking = c.ranking := by
  have perm : c'.ranking.Perm c.ranking :=
    (List.perm_ext_iff_of_nodup nodup_ranking nodup_ranking).2 fun x => by
      rw [mem_ranking_iff_mem_votes, mem_ranking_iff_mem_votes, votes]
  exact perm.eq_of_pairwise (fun x y _ _ => ranksBefore_antisymm)
    (List.pairwise_mergeSort ranksBefore_trans ranksBefore_total _)
    (List.pairwise_mergeSort ranksBefore_trans ranksBefore_total _)

theorem cast_eq_sum_votes : c.cast = ∑ x ∈ c.votes, x.2.toNat := by
  have named : Set.InjOn (fun a => (a, c.tally.weightOf a)) c.registered :=
    fun a _ b _ same => (Prod.mk.inj same).1
  have weightless : ∀ x ∈ c.registered.image fun a => (a, c.tally.weightOf a),
      x.2.toNat ≠ 0 → x.2 ≠ 0 := fun x _ cast zero => cast (by rw [zero]; rfl)
  rw [votes, Finset.sum_filter_of_ne weightless, Finset.sum_image named]
  rfl

theorem turnout_congr (votes : c'.votes = c.votes) : c'.turnout = c.turnout := by
  refine BitVec.eq_of_toNat_eq ?_
  rw [toNat_turnout, toNat_turnout, cast_eq_sum_votes, cast_eq_sum_votes, votes]

/-- Contests with the same votes and the same terms have the same outcome. -/
theorem outcome_congr (votes : c'.votes = c.votes)
    (total : c'.tally.totalWeight = c.tally.totalWeight) (seats : c'.seats = c.seats)
    (divisor : c'.quorumDivisor = c.quorumDivisor) (policy : c'.tiePolicy = c.tiePolicy) :
    c'.outcome = c.outcome := by
  unfold outcome quorum groups
  rw [turnout_congr votes, ranking_congr votes, total, seats, divisor, policy]

end TrusteeBoard.Contest
