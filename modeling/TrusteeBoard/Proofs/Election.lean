import TrusteeBoard.Config.Update
import TrusteeBoard.Election

/-!
# The election cycle, step by step

For each step of the cycle and for updates of the record: when it succeeds, and with which result.
-/

namespace TrusteeBoard

theorem bind_eq_ok_iff {α β : Type} {x : Except Refusal α} {f : α → Except Refusal β} {b : β} :
    x >>= f = .ok b ↔ ∃ a, x = .ok a ∧ f a = .ok b := by
  cases x with
  | ok a => exact ⟨fun h => ⟨a, rfl, h⟩, fun ⟨_, rfl, h⟩ => h⟩
  | error e => exact ⟨nofun, nofun⟩

theorem pure_eq_ok_iff {α : Type} {a b : α} : (pure a : Except Refusal α) = .ok b ↔ a = b :=
  Except.ok.injEq a b ▸ Iff.rfl

theorem ite_throw_eq_ok_iff {α : Type} {p : Prop} [Decidable p] {e : Refusal}
    {f : Unit → Except Refusal α} {x : Except Refusal α} {a : α} :
    (if p then throw e >>= f else x) = .ok a ↔ ¬p ∧ x = .ok a := by
  split
  · next h => exact ⟨nofun, fun ⟨hn, _⟩ => absurd h hn⟩
  · next h => simp [h]

namespace Timestamp

/-- The last point in time. -/
def last : Timestamp :=
  ⟨0xFFFFFFFFFFFFFFFF⟩

theorem le_last (t : Timestamp) : t ≤ last :=
  UInt64.le_iff_toNat_le.2 (Nat.le_of_lt_succ t.secs.toNat_lt)

theorem toNat_plus (t : Timestamp) (span : UInt64) :
    (t.plus span).secs.toNat = min (t.secs.toNat + span.toNat) last.secs.toNat :=
  toNat_capAdd t.secs span

end Timestamp

namespace Config

variable {c : Config} {now : Timestamp} {ballot : BallotId}

theorem activeBallot_eq_ok_iff :
    c.activeBallot = .ok ballot ↔ c.electionActive = true ∧ c.openBallot = some ballot := by
  unfold activeBallot
  split
  · next hactive hballot => simp [hactive, hballot]
  · next h =>
    simp only [reduceCtorEq, false_iff]
    rintro ⟨hactive, hballot⟩
    exact h ballot hactive hballot

theorem expectPhase_eq_ok_iff {expected : Phase} {u : Unit} :
    c.expectPhase expected = .ok u ↔ c.phase = expected := by
  unfold expectPhase
  split <;> simp_all

theorem isTermExpired_iff : c.isTermExpired now = true ↔ c.termExpiresAt ≤ now :=
  decide_eq_true_iff

theorem planElection_eq_ok_iff {plan : ElectionPlan} : c.planElection now = .ok plan ↔
    c.openBallot = none ∧ c.phase = .idle ∧
      plan.votingOpensAt = now.plus c.startDelay ∧
      plan.votingClosesAt = (now.plus c.startDelay).plus c.votingSpan ∧
      (c.isTermExpired now = true ∧ plan.kind = .term ∧ plan.seats = c.maxSeats ∨
        c.isTermExpired now = false ∧ 0 < c.openSeats ∧ plan.kind = .vacancy ∧
          plan.seats = c.openSeats) := by
  obtain ⟨kind, seats, opens, closes⟩ := plan
  unfold planElection
  cases hballot : c.openBallot with
  | some ballot => exact ⟨nofun, fun h => nomatch h.1⟩
  | none =>
    simp only [bind_eq_ok_iff, expectPhase_eq_ok_iff, exists_const, true_and]
    refine and_congr_right fun _ => ?_
    by_cases hexpired : c.isTermExpired now = true
    · simp [hexpired, pure_eq_ok_iff]
      constructor
      · rintro ⟨rfl, rfl, rfl, rfl⟩
        exact ⟨rfl, rfl, rfl, rfl⟩
      · rintro ⟨rfl, rfl, rfl, rfl⟩
        exact ⟨rfl, rfl, rfl, rfl⟩
    · by_cases hopen : 0 < c.openSeats
      · simp [hexpired, hopen, pure_eq_ok_iff]
        constructor
        · rintro ⟨rfl, rfl, rfl, rfl⟩
          exact ⟨rfl, rfl, rfl, rfl⟩
        · rintro ⟨rfl, rfl, rfl, rfl⟩
          exact ⟨rfl, rfl, rfl, rfl⟩
      · simp [hexpired, hopen]

/-- The window in the record is the planned one. -/
theorem votingClosesAt_openElection {plan : ElectionPlan} (planned : c.planElection now = .ok plan)
    (ballot : BallotId) : (c.openElection plan ballot).votingClosesAt = plan.votingClosesAt := by
  obtain ⟨-, -, opens, closes, -⟩ := planElection_eq_ok_iff.1 planned
  rw [closes, ← opens]
  rfl

theorem candidacyBallot_eq_ok_iff : c.candidacyBallot now = .ok ballot ↔
    c.electionActive = true ∧ c.openBallot = some ballot ∧ c.phase = .nominating ∧
      ¬c.votingOpensAt ≤ now := by
  rw [← and_assoc, ← activeBallot_eq_ok_iff]
  unfold candidacyBallot
  simp only [bind_eq_ok_iff, expectPhase_eq_ok_iff, ite_throw_eq_ok_iff, pure_eq_ok_iff]
  constructor
  · rintro ⟨_, hballot, _, hphase, hnow, rfl⟩
    exact ⟨hballot, hphase, hnow⟩
  · rintro ⟨hballot, hphase, hnow⟩
    exact ⟨ballot, hballot, (), hphase, hnow, rfl⟩

theorem withdrawalBallot_eq_ok_iff : c.withdrawalBallot now = .ok ballot ↔
    c.electionActive = true ∧ c.openBallot = some ballot ∧ ¬c.votingClosesAt ≤ now := by
  rw [← and_assoc, ← activeBallot_eq_ok_iff]
  unfold withdrawalBallot
  simp only [bind_eq_ok_iff, ite_throw_eq_ok_iff, pure_eq_ok_iff]
  constructor
  · rintro ⟨_, hballot, hnow, rfl⟩
    exact ⟨hballot, hnow⟩
  · rintro ⟨hballot, hnow⟩
    exact ⟨ballot, hballot, hnow, rfl⟩

theorem beginVoting_eq_ok_iff {voting : Config} : c.beginVoting now = .ok (ballot, voting) ↔
    c.electionActive = true ∧ c.openBallot = some ballot ∧ c.phase = .nominating ∧
      ¬now < c.votingOpensAt ∧ voting = { c with phase := .voting } := by
  rw [← and_assoc, ← activeBallot_eq_ok_iff]
  unfold beginVoting
  simp only [bind_eq_ok_iff, expectPhase_eq_ok_iff, ite_throw_eq_ok_iff, pure_eq_ok_iff,
    Prod.mk.injEq]
  constructor
  · rintro ⟨_, hballot, _, hphase, hnow, rfl, rfl⟩
    exact ⟨hballot, hphase, hnow, rfl⟩
  · rintro ⟨hballot, hphase, hnow, rfl⟩
    exact ⟨ballot, hballot, (), hphase, hnow, rfl, rfl⟩

theorem beginResolving_eq_ok_iff {resolving : Config} :
    c.beginResolving now = .ok (ballot, resolving) ↔
      c.electionActive = true ∧ c.openBallot = some ballot ∧ c.phase = .voting ∧
        ¬now < c.votingClosesAt ∧ resolving = { c with phase := .resolving } := by
  rw [← and_assoc, ← activeBallot_eq_ok_iff]
  unfold beginResolving
  simp only [bind_eq_ok_iff, expectPhase_eq_ok_iff, ite_throw_eq_ok_iff, pure_eq_ok_iff,
    Prod.mk.injEq]
  constructor
  · rintro ⟨_, hballot, _, hphase, hnow, rfl, rfl⟩
    exact ⟨hballot, hphase, hnow, rfl⟩
  · rintro ⟨hballot, hphase, hnow, rfl⟩
    exact ⟨ballot, hballot, (), hphase, hnow, rfl, rfl⟩

theorem openSeats_finishElection_le (c : Config) (gained size : UInt32) :
    (c.finishElection now gained size).openSeats ≤ c.maxSeats := by
  have free := floorSub32_le c.maxSeats size
  show (if c.termElection then floorSub32 c.maxSeats size
    else min (floorSub32 c.openSeats gained) (floorSub32 c.maxSeats size)) ≤ c.maxSeats
  split
  · exact free
  · exact UInt32.le_trans (min32_le_right _ _) free

theorem Update.fault?_eq_none_iff {u : Update} {boardSize : UInt32} :
    u.fault? boardSize = none ↔ u.maxSeats ≠ 0 ∧ ¬u.maxSeats < boardSize ∧
      u.holderQuorumDivisor ≠ 0 ∧ u.boardQuorumDivisor ≠ 0 ∧ u.votingSpan ≠ 0 ∧ u.termSpan ≠ 0 := by
  unfold fault?
  repeat' split
  all_goals simp_all

end Config

end TrusteeBoard
