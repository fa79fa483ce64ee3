import TrusteeBoard.Proofs.Outcome.Allocation

/-!
# More seats

The walk over the groups of the ranking goes further when there are more seats, and until it would
have stopped it seats whom it would have seated (`Contest.allocate_of_more_seats`): what more seats change
is only a group that reached past the last seat, after which nobody was seated any more. So more
seats never cost a winner (`Contest.winners_of_more_seats`).
-/

namespace TrusteeBoard.Contest

open Sample

variable {policy : TiePolicy} {fewer more rank size : Nat} {groups : List (List Account)}

/-- A group that is excluded from more seats is excluded from fewer. -/
theorem excluded_of_le (h : fewer ≤ more) (hex : excluded policy more rank size = true) :
    excluded policy fewer rank size = true := by
  cases policy with
  | excludeTied => exact hex
  | boundaryOnly =>
    simp only [excluded, Bool.and_eq_true, decide_eq_true_eq] at hex ⊢
    omega

theorem allocate_full {seats : Nat} (full : seats ≤ rank) :
    allocate policy seats rank groups = ([], []) := by
  cases groups with
  | nil => rfl
  | cons g rest => rw [allocate, if_pos full]

/-- With more seats nobody loses a seat or a place before others; when every tied group is excluded,
the same holds of the excluded contenders. -/
theorem allocate_of_more_seats (h : fewer ≤ more) :
    (allocate policy fewer rank groups).1 <+: (allocate policy more rank groups).1 ∧
      (policy = .excludeTied →
        (allocate policy fewer rank groups).2 <+: (allocate policy more rank groups).2) := by
  induction groups generalizing rank with
  | nil => exact ⟨List.prefix_rfl, fun _ => List.prefix_rfl⟩
  | cons g rest ih =>
    obtain ⟨seated, tied⟩ := @ih (rank + g.length)
    by_cases full : fewer ≤ rank
    · rw [allocate_full full]
      exact ⟨List.nil_prefix, fun _ => List.nil_prefix⟩
    have begins : ¬more ≤ rank := fun beyond => full (h.trans beyond)
    rw [allocate, allocate, if_neg full, if_neg begins]
    cases hmore : excluded policy more rank g.length with
    | true =>
      simp only [excluded_of_le h hmore, if_true]
      exact ⟨seated, fun all => (List.prefix_append_right_inj g).2 (tied all)⟩
    | false =>
      cases hfewer : excluded policy fewer rank g.length with
      | false =>
        simp only [Bool.false_eq_true, if_false]
        exact ⟨(List.prefix_append_right_inj g).2 seated, tied⟩
      | true =>
        -- the group reaches past the last of the fewer seats, so nobody follows it there
        cases policy with
        | excludeTied => cases hmore.symm.trans hfewer
        | boundaryOnly =>
          have past : fewer ≤ rank + g.length := by
            simp only [excluded, Bool.and_eq_true, decide_eq_true_eq] at hfewer
            omega
          rw [allocate_full past]
          refine ⟨List.nil_prefix, fun all => ?_⟩
          cases all

/-- More seats never cost a winner: those for fewer seats come first, in the same order. When every
tied group is excluded, the excluded contenders come first as well. -/
theorem winners_of_more_seats (c : Contest) {more : UInt32} (h : c.seats ≤ more) :
    c.outcome.winners <+: ({ c with seats := more } : Contest).outcome.winners ∧
      (c.tiePolicy = .excludeTied →
        c.outcome.tied <+: ({ c with seats := more } : Contest).outcome.tied) := by
  by_cases reached : 0 < c.cast ∧ c.quorum.toNat ≤ c.cast
  · obtain ⟨winners, tied⟩ := c.winners_and_tied_of_quorum reached.1 reached.2
    obtain ⟨winners', tied'⟩ :=
      ({ c with seats := more } : Contest).winners_and_tied_of_quorum reached.1 reached.2
    rw [winners, tied, winners', tied']
    exact allocate_of_more_seats (UInt32.le_iff_toNat_le.1 h)
  · obtain ⟨winners, tied⟩ := c.winners_and_tied_of_no_quorum reached
    rw [winners, tied]
    exact ⟨List.nil_prefix, fun _ => List.nil_prefix⟩

/-- With a fourth seat, the group that reached past the third one is seated after the clear winner,
or is excluded as before if every tied group is. -/
theorem winners_of_more_seats_straddling :
    straddling.seats ≤ 4 ∧
      straddling.outcome.winners <+:
        ({ straddling with seats := 4 } : Contest).outcome.winners ∧
      ({ straddling with tiePolicy := .excludeTied } : Contest).outcome.tied <+:
        ({ straddling with tiePolicy := .excludeTied, seats := 4 } : Contest).outcome.tied := by
  have more : straddling.seats ≤ 4 := by decide
  exact ⟨more, (straddling.winners_of_more_seats more).1,
    (({ straddling with tiePolicy := .excludeTied } : Contest).winners_of_more_seats more).2 rfl⟩

end TrusteeBoard.Contest
