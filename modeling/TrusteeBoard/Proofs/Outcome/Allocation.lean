import TrusteeBoard.Proofs.Outcome.Ranking
import TrusteeBoard.Proofs.Sample

/-!
# The allocation of seats

`Contest.allocate` walks the groups of the ranking and lets each one take its ranks, seated or
excluded (`mem_allocate_iff`). Together with the place of a group in the ranking this counts for
each contender who is above and who is level (`outcome_allocates`).
-/

namespace TrusteeBoard.Contest

open Sample

/-! ### The walk over the groups -/

variable {policy : TiePolicy} {seats rank : Nat} {groups : List (List Account)} {a : Account}

theorem exists_append_cons_eq {α : Type} {x : α} {l : List α} {P : List α → α → Prop} :
    (∃ pre y post, x :: l = pre ++ y :: post ∧ P pre y) ↔
      P [] x ∨ ∃ pre y post, l = pre ++ y :: post ∧ P (x :: pre) y := by
  constructor
  · rintro ⟨_ | ⟨z, pre⟩, y, post, h, hP⟩
    · cases h
      exact .inl hP
    · cases h
      exact .inr ⟨pre, y, post, rfl, hP⟩
  · rintro (hP | ⟨pre, y, post, rfl, hP⟩)
    · exact ⟨[], x, l, rfl, hP⟩
    · exact ⟨x :: pre, y, post, rfl, hP⟩

/-- A group is seated or excluded by the rank at which it begins, and by its size. -/
theorem mem_allocate_iff :
    (a ∈ (allocate policy seats rank groups).1 ↔ ∃ pre g post, groups = pre ++ g :: post ∧
      a ∈ g ∧ rank + pre.flatten.length < seats ∧
      excluded policy seats (rank + pre.flatten.length) g.length = false) ∧
    (a ∈ (allocate policy seats rank groups).2 ↔ ∃ pre g post, groups = pre ++ g :: post ∧
      a ∈ g ∧ rank + pre.flatten.length < seats ∧
      excluded policy seats (rank + pre.flatten.length) g.length = true) := by
  induction groups generalizing rank with
  | nil => simp [allocate]
  | cons g rest ih =>
    rw [exists_append_cons_eq, exists_append_cons_eq, allocate]
    by_cases full : seats ≤ rank
    · have : ∀ n, ¬rank + n < seats := fun n => by omega
      simp [full, this]
    · have begins : rank + ([] : List (List Account)).flatten.length < seats := by simpa using full
      simp only [List.flatten_cons, List.length_append, ← Nat.add_assoc, ← ih, begins]
      cases h : excluded policy seats rank g.length <;> simp [full, h]

theorem allocate_sublist :
    (allocate policy seats rank groups).1.Sublist groups.flatten ∧
      (allocate policy seats rank groups).2.Sublist groups.flatten := by
  induction groups generalizing rank with
  | nil => simp [allocate]
  | cons g rest ih =>
    obtain ⟨seated, tied⟩ := @ih (rank + g.length)
    rw [allocate, List.flatten_cons]
    split
    · exact ⟨List.nil_sublist _, List.nil_sublist _⟩
    · dsimp only
      split
      · exact ⟨seated.trans (List.sublist_append_right _ _), (List.Sublist.refl g).append tied⟩
      · exact ⟨(List.Sublist.refl g).append seated, tied.trans (List.sublist_append_right _ _)⟩

/-- A group that is seated ends within the seats. -/
theorem add_length_le_of_not_excluded {size : Nat} (h : rank < seats)
    (hex : excluded policy seats rank size = false) : rank + size ≤ seats := by
  rcases Nat.lt_or_ge 1 size with hsize | hsize
  · cases policy <;> simp [excluded, hsize] at hex
    exact hex
  · omega

theorem length_allocate_le : (allocate policy seats rank groups).1.length ≤ seats - rank := by
  induction groups generalizing rank with
  | nil => simp [allocate]
  | cons g rest ih =>
    have later := @ih (rank + g.length)
    rw [allocate]
    split
    · simp
    · next free =>
      dsimp only
      split
      · exact later.trans (by omega)
      · next seated =>
        have := add_length_le_of_not_excluded (by omega) (Bool.eq_false_iff.2 seated)
        rw [List.length_append]
        omega

/-! ### Outcomes -/

variable (c : Contest)

/-- The winners and the excluded contenders when the quorum is met. -/
def seating (c : Contest) : List Account × List Account :=
  allocate c.tiePolicy c.seats.toNat 0 c.groups

theorem outcome_eq (hcast : 0 < c.cast) (hquorum : c.quorum.toNat ≤ c.cast) :
    c.outcome = if c.seating.2 = [] then .pass c.seating.1 else .tie c.seating.1 c.seating.2 := by
  have hcount : c.turnout ≠ 0 := by
    rw [Ne, turnout_eq_zero_iff]
    omega
  have hfail : ¬c.turnout < c.quorum := by
    rw [turnout_lt_quorum_iff]
    omega
  rw [outcome, if_neg hcount, if_neg hfail, ← seating]
  rcases c.seating with ⟨winners, _ | ⟨a, tied⟩⟩ <;> rfl

theorem winners_and_tied_of_quorum (hcast : 0 < c.cast) (hquorum : c.quorum.toNat ≤ c.cast) :
    c.outcome.winners = c.seating.1 ∧ c.outcome.tied = c.seating.2 := by
  rw [c.outcome_eq hcast hquorum]
  split
  · next none => exact ⟨rfl, none.symm⟩
  · exact ⟨rfl, rfl⟩

theorem winners_and_tied_of_no_quorum (missed : ¬(0 < c.cast ∧ c.quorum.toNat ≤ c.cast)) :
    c.outcome.winners = [] ∧ c.outcome.tied = [] := by
  rw [outcome]
  split
  · exact ⟨rfl, rfl⟩
  · next counted =>
    split
    · exact ⟨rfl, rfl⟩
    · next enough =>
      rw [turnout_eq_zero_iff] at counted
      rw [turnout_lt_quorum_iff] at enough
      exact (missed ⟨Nat.pos_of_ne_zero counted, Nat.not_lt.1 enough⟩).elim

theorem mem_seating_iff {a : Account} :
    (a ∈ c.seating.1 ↔ a ∈ c.contenders ∧ c.above a < c.seats.toNat ∧
      excluded c.tiePolicy c.seats.toNat (c.above a) (c.level a) = false) ∧
    (a ∈ c.seating.2 ↔ a ∈ c.contenders ∧ c.above a < c.seats.toNat ∧
      excluded c.tiePolicy c.seats.toNat (c.above a) (c.level a) = true) := by
  have place (b : Bool) : (∃ pre g post, c.groups = pre ++ g :: post ∧ a ∈ g ∧
      0 + pre.flatten.length < c.seats.toNat ∧
      excluded c.tiePolicy c.seats.toNat (0 + pre.flatten.length) g.length = b) ↔
      a ∈ c.contenders ∧ c.above a < c.seats.toNat ∧
        excluded c.tiePolicy c.seats.toNat (c.above a) (c.level a) = b := by
    simp only [Nat.zero_add]
    constructor
    · rintro ⟨pre, g, post, h, ha, hseats, hex⟩
      rw [c.length_flatten_before h ha] at hseats hex
      rw [c.length_group h ha] at hex
      exact ⟨c.mem_flatten_groups.1 (List.mem_flatten.2 ⟨g, by simp [h], ha⟩), hseats, hex⟩
    · rintro ⟨hmem, hseats, hex⟩
      obtain ⟨g, hg, ha⟩ := List.mem_flatten.1 (c.mem_flatten_groups.2 hmem)
      obtain ⟨pre, post, h⟩ := List.append_of_mem hg
      rw [← c.length_flatten_before h ha] at hseats hex
      rw [← c.length_group h ha] at hex
      exact ⟨pre, g, post, h, ha, hseats, hex⟩
  exact ⟨mem_allocate_iff.1.trans (place false), mem_allocate_iff.2.trans (place true)⟩

theorem level_pos {a : Account} (h : a ∈ c.contenders) : 0 < c.level a :=
  Finset.card_pos.2 ⟨a, Finset.mem_filter.2 ⟨h, rfl⟩⟩

/-- Only an election that meets the quorum has winners. -/
theorem quorum_le_of_winners (h : c.outcome.winners ≠ []) :
    c.quorum.toNat ≤ c.cast ∧ c.outcome.winners = c.seating.1 := by
  by_cases reached : 0 < c.cast ∧ c.quorum.toNat ≤ c.cast
  · exact ⟨reached.2, (c.winners_and_tied_of_quorum reached.1 reached.2).1⟩
  · exact (h (c.winners_and_tied_of_no_quorum reached).1).elim

theorem mem_contenders_of_mem_winners {a : Account} (h : a ∈ c.outcome.winners) :
    a ∈ c.contenders := by
  rw [(c.quorum_le_of_winners (List.ne_nil_of_mem h)).2] at h
  exact (c.mem_seating_iff.1.1 h).1

theorem length_winners_le : c.outcome.winners.length ≤ c.seats.toNat := by
  by_cases h : c.outcome.winners = []
  · simp [h]
  · rw [(c.quorum_le_of_winners h).2]
    exact length_allocate_le

/-- When the quorum is met, a contender is seated or excluded by the number of contenders above and
level with it. -/
theorem outcome_allocates (hcast : 0 < c.cast) (hquorum : c.quorum.toNat ≤ c.cast) :
    (∀ a, a ∈ c.outcome.winners ↔ a ∈ c.contenders ∧ c.above a < c.seats.toNat ∧
      (c.level a = 1 ∨ c.tiePolicy = .boundaryOnly ∧ c.above a + c.level a ≤ c.seats.toNat)) ∧
    (∀ a, a ∈ c.outcome.tied ↔ a ∈ c.contenders ∧ c.above a < c.seats.toNat ∧ 1 < c.level a ∧
      (c.tiePolicy = .excludeTied ∨ c.seats.toNat < c.above a + c.level a)) ∧
    c.outcome.winners.Nodup ∧ c.outcome.tied.Nodup ∧
    c.outcome.winners.Pairwise c.Outranks ∧ c.outcome.tied.Pairwise c.Outranks ∧
    c.outcome.winners.length ≤ c.seats.toNat ∧
    c.outcome.tag = if c.outcome.tied = [] then "PASS" else "TIE" := by
  have winners : c.outcome.winners = c.seating.1 := by
    rw [c.outcome_eq hcast hquorum]
    split <;> rfl
  have tied : c.outcome.tied = c.seating.2 := by
    rw [c.outcome_eq hcast hquorum]
    split
    · next none => exact none.symm
    · rfl
  obtain ⟨seatedSub, tiedSub⟩ : c.seating.1.Sublist _ ∧ c.seating.2.Sublist _ := allocate_sublist
  rw [winners, tied]
  refine ⟨fun a => ?_, fun a => ?_, c.nodup_flatten_groups.sublist seatedSub,
    c.nodup_flatten_groups.sublist tiedSub, c.flatten_groups_pairwise.sublist seatedSub,
    c.flatten_groups_pairwise.sublist tiedSub, length_allocate_le, ?_⟩
  · rw [c.mem_seating_iff.1]
    refine and_congr_right fun hmem => and_congr_right fun _ => ?_
    have := c.level_pos hmem
    cases c.tiePolicy <;> simp [excluded] <;> omega
  · rw [c.mem_seating_iff.2]
    refine and_congr_right fun _ => and_congr_right fun _ => ?_
    cases c.tiePolicy <;> simp [excluded]
  · rw [c.outcome_eq hcast hquorum]
    split <;> rfl

theorem outcome_allocates_straddling : bob ∈ straddling.outcome.winners ∧
    alice ∈ straddling.outcome.tied ∧ carol ∈ straddling.outcome.tied := by
  obtain ⟨winners, tied, -⟩ := straddling.outcome_allocates (by decide +kernel) (by decide +kernel)
  exact ⟨(winners _).2 (by decide +kernel), (tied _).2 (by decide +kernel),
    (tied _).2 (by decide +kernel)⟩

end TrusteeBoard.Contest
