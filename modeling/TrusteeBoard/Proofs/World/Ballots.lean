import TrusteeBoard.Proofs.Operation.Deed
import TrusteeBoard.Proofs.World.Answer

/-!
# Ballots behind a program

`Ballots.Serves m xs m'` says that a service with the ballots `m` may have taken part in the
exchanges `xs` and then has the ballots `m'`: it changes a ballot only where it answers that it has,
and only if the ballot allows it (`Ballots.Allows`). The service in memory is one (`run_ballots`).
-/

namespace TrusteeBoard

/-- The ballots of a service. -/
abbrev Ballots : Type := OrderedMap BallotId Ballot

namespace Ballots

/-- The ballots with one of them changed, if it is there. -/
def edit (m : Ballots) (ballot : BallotId) (f : Ballot → Ballot) : Ballots :=
  match m.find? ballot with
  | some b => m.insert ballot (f b)
  | none => m

/-- A change that the exchange reports can be made to the ballots. -/
def Allows (m : Ballots) : Exchange → Prop
  | ⟨.addOption ballot option, .ok _⟩ => ∃ b, m.find? ballot = some b ∧ option ∉ b.options.keys
  | ⟨.removeOption ballot option, .ok _⟩ => ∃ b, m.find? ballot = some b ∧ option ∈ b.options.keys
  | ⟨.openVoting ballot, .ok _⟩ => ∃ b, m.find? ballot = some b
  | _ => True

/-- The ballots after one exchange. -/
def afterExchange (m : Ballots) : Exchange → Ballots
  | ⟨.openBallot name treasury options begins ends, .ok ballot⟩ =>
    m.insert ballot { name, treasury, options := OrderedSet.ofList options, begins, ends }
  | ⟨.addOption ballot option, .ok _⟩ =>
    m.edit ballot fun b => { b with options := b.options.insert option () }
  | ⟨.removeOption ballot option, .ok _⟩ =>
    m.edit ballot fun b => { b with options := b.options.erase option }
  | ⟨.openVoting ballot, .ok _⟩ => m.edit ballot fun b => { b with votingOpen := true }
  | _ => m

/-- Exchanges with a service that has the ballots `m` before and `m'` after them. -/
def Serves (m : Ballots) : List Exchange → Ballots → Prop
  | [], m' => m' = m
  | x :: xs, m' => m.Allows x ∧ (m.afterExchange x).Serves xs m'

variable {m m' : Ballots} {ballot : BallotId} {b : Ballot}

theorem find?_edit (m : Ballots) (ballot other : BallotId) (f : Ballot → Ballot) :
    (m.edit ballot f).find? other =
      if other = ballot then (m.find? ballot).map f else m.find? other := by
  unfold edit
  split
  · next b found => rw [OrderedMap.find?_insert, found, Option.map_some]
  · next missing =>
    split
    · next same => rw [same, missing, Option.map_none]
    · rfl

theorem edit_edit (m : Ballots) (ballot : BallotId) (f g : Ballot → Ballot) :
    (m.edit ballot f).edit ballot g = m.edit ballot fun b => g (f b) := by
  refine OrderedMap.ext_find? fun other => ?_
  rw [find?_edit, find?_edit, find?_edit, find?_edit, if_pos rfl, Option.map_map]
  split <;> rfl

theorem find?_edit_of_find? (found : m.find? ballot = some b) (f : Ballot → Ballot) :
    (m.edit ballot f).find? ballot = some (f b) := by
  rw [find?_edit, if_pos rfl, found, Option.map_some]

theorem edit_of_find? (found : m.find? ballot = some b) (f : Ballot → Ballot) :
    m.edit ballot f = m.insert ballot (f b) := by
  simp [edit, found]

theorem keys_edit (m : Ballots) (ballot : BallotId) (f : Ballot → Ballot) :
    (m.edit ballot f).keys = m.keys := by
  unfold edit
  split
  · next b found =>
    refine OrderedMap.keys_ext fun other => ?_
    rw [OrderedMap.mem_keys_insert, or_iff_right_of_imp]
    rintro rfl
    exact OrderedMap.mem_keys_iff.2 ⟨b, found⟩
  · rfl

/-- An edit that changes nothing about the ballot. -/
theorem edit_eq_self {f : Ballot → Ballot} (h : ∀ b, m.find? ballot = some b → f b = b) :
    m.edit ballot f = m := by
  cases found : m.find? ballot with
  | none => simp [edit, found]
  | some b => rw [edit_of_find? found, h b found, OrderedMap.insert_of_find? found]

theorem serves_append_iff {xs ys : List Exchange} :
    m.Serves (xs ++ ys) m' ↔ ∃ n : Ballots, m.Serves xs n ∧ n.Serves ys m' := by
  induction xs generalizing m with
  | nil => simp [Serves]
  | cons x xs ih => simp [Serves, ih, and_assoc]

theorem afterExchange_of_not_changesBallot {x : Exchange} (h : ¬x.ChangesBallot) :
    m.afterExchange x = m := by
  obtain ⟨c, a⟩ := x
  cases c with
  | openBallot | addOption | removeOption | openVoting =>
    cases a with
    | ok u => exact (h trivial).elim
    | error e => rfl
  | _ => rfl

theorem Serves.of_spared {xs : List Exchange} (h : m.Serves xs m')
    (spared : ∀ x ∈ xs, ¬x.ChangesBallot) : m' = m := by
  induction xs with
  | nil => exact h
  | cons x xs ih =>
    obtain ⟨-, rest⟩ := h
    rw [afterExchange_of_not_changesBallot (spared x List.mem_cons_self)] at rest
    exact ih rest fun y hy => spared y (List.mem_cons_of_mem _ hy)

/-! ### The service in memory -/

/-- An exchange with a service that has the ballots `m` before and `m'` after it. -/
def Served (m : Ballots) (x : Exchange) (m' : Ballots) : Prop :=
  m.Allows x ∧ m' = m.afterExchange x

end Ballots

namespace BallotService

open Ballots

variable {α : Type}

/-- A call on a ballot fails and leaves the ballots, or it changes a ballot that is there. -/
theorem withBallot_cases (s : BallotService) (ballot : BallotId)
    (call : Ballot → Except BallotError (α × Ballot)) :
    (∃ e s', s.withBallot ballot call = (.error e, s') ∧ s'.ballots = s.ballots) ∨
    ∃ a b b' s', s.ballots.find? ballot = some b ∧ call b = .ok (a, b') ∧
      s.withBallot ballot call = (.ok a, s') ∧ s'.ballots = s.ballots.insert ballot b' := by
  unfold withBallot guarded
  split
  · exact .inl ⟨_, _, rfl, rfl⟩
  · dsimp only
    split
    · exact .inl ⟨_, _, rfl, rfl⟩
    · next b found =>
      split
      · next a b' done => exact .inr ⟨a, b, b', _, found, done, rfl, rfl⟩
      · exact .inl ⟨_, _, rfl, rfl⟩

theorem openBallot_served (s : BallotService) (name : String) (treasury : TreasurySymbol)
    (options : List Account) (begins ends : Timestamp) :
    Served s.ballots ⟨.openBallot name treasury options begins ends,
      (s.openBallot name treasury options begins ends).1⟩
      (s.openBallot name treasury options begins ends).2.ballots := by
  unfold openBallot guarded
  split <;> exact ⟨trivial, rfl⟩

theorem addOption_served (s : BallotService) (ballot : BallotId) (option : Account) :
    Served s.ballots ⟨.addOption ballot option, (s.addOption ballot option).1⟩
      (s.addOption ballot option).2.ballots := by
  unfold addOption
  rcases s.withBallot_cases ballot _ with ⟨e, s', outcome, same⟩ |
    ⟨u, b, b', s', found, done, outcome, changed⟩
  · rw [outcome]
    exact ⟨trivial, same⟩
  · rw [outcome]
    split at done
    · cases done
    · split at done
      · cases done
      · next fresh =>
        cases done
        rw [OrderedMap.contains_iff] at fresh
        refine ⟨⟨b, found, fresh⟩, changed.trans ?_⟩
        exact (edit_of_find? found fun b => { b with options := b.options.insert option () }).symm

theorem removeOption_served (s : BallotService) (ballot : BallotId) (option : Account) :
    Served s.ballots ⟨.removeOption ballot option, (s.removeOption ballot option).1⟩
      (s.removeOption ballot option).2.ballots := by
  unfold removeOption
  rcases s.withBallot_cases ballot _ with ⟨e, s', outcome, same⟩ |
    ⟨u, b, b', s', found, done, outcome, changed⟩
  · rw [outcome]
    exact ⟨trivial, same⟩
  · rw [outcome]
    split at done
    · cases done
    · split at done
      · next listed =>
        cases done
        rw [OrderedMap.contains_iff] at listed
        refine ⟨⟨b, found, listed⟩, changed.trans ?_⟩
        exact (edit_of_find? found fun b => { b with options := b.options.erase option }).symm
      · cases done

theorem openVoting_served (s : BallotService) (ballot : BallotId) :
    Served s.ballots ⟨.openVoting ballot, (s.openVoting ballot).1⟩
      (s.openVoting ballot).2.ballots := by
  unfold openVoting
  rcases s.withBallot_cases ballot _ with ⟨e, s', outcome, same⟩ |
    ⟨u, b, b', s', found, done, outcome, changed⟩
  · rw [outcome]
    exact ⟨trivial, same⟩
  · rw [outcome]
    cases done
    refine ⟨⟨b, found⟩, changed.trans ?_⟩
    exact (edit_of_find? found fun b => { b with votingOpen := true }).symm

/-- Reading a tally writes the ballot back as it was. -/
theorem tally_served (s : BallotService) (ballot : BallotId) :
    Served s.ballots ⟨.tally ballot, (s.tally ballot).1⟩ (s.tally ballot).2.ballots := by
  unfold tally
  rcases s.withBallot_cases ballot _ with ⟨e, s', outcome, same⟩ |
    ⟨t, b, b', s', found, done, outcome, changed⟩
  · rw [outcome]
    exact ⟨trivial, same⟩
  · rw [outcome]
    cases done
    exact ⟨trivial, changed.trans (OrderedMap.insert_of_find? found)⟩

theorem setTally_ballots (s : BallotService) (ballot : BallotId) (tally : Tally) :
    (s.setTally ballot tally).ballots =
      edit s.ballots ballot fun b => { b with tally := some tally } := by
  unfold setTally edit
  cases s.ballots.find? ballot <;> rfl

end BallotService

namespace World

open Ballots

variable {σ : Type} [Store σ]

theorem failing_ballots {c : Call} {failure : Failure} {a : c.Answer}
    (h : c.failing failure = some a) (m : Ballots) : Served m ⟨c, a⟩ m := by
  cases c <;> cases failure <;> simp [Call.failing] at h <;> subst h <;> exact ⟨trivial, rfl⟩

theorem respond_ballots (c : Call) (w : World σ) :
    Served w.ballots.ballots ⟨c, (w.respond c).1⟩ (w.respond c).2.ballots.ballots := by
  cases c with
  | openBallot name treasury options begins ends =>
    exact w.ballots.openBallot_served name treasury options begins ends
  | addOption ballot option => exact w.ballots.addOption_served ballot option
  | removeOption ballot option => exact w.ballots.removeOption_served ballot option
  | openVoting ballot => exact w.ballots.openVoting_served ballot
  | tally ballot => exact w.ballots.tally_served ballot
  | _ => exact ⟨trivial, rfl⟩

theorem answer_ballots (c : Call) (w : World σ) :
    Served w.ballots.ballots ⟨c, (answer c w).1⟩ (answer c w).2.ballots.ballots := by
  obtain ⟨faults, ⟨failure, a, hf, h⟩ | h⟩ := answer_eq c w
  · rw [h]
    exact failing_ballots hf _
  · rw [h]
    exact respond_ballots c w

theorem run_ballots {α : Type} (p : Program α) (w : World σ) :
    Ballots.Serves w.ballots.ballots (p.exchanges answer w)
      (p.run answer w).2.ballots.ballots := by
  induction p generalizing w with
  | done result => rfl
  | ask c next ih =>
    obtain ⟨allowed, after⟩ := answer_ballots c w
    have rest := ih (answer c w).1 (answer c w).2
    rw [after] at rest
    exact ⟨allowed, rest⟩

/-- As long as no ballot changes, a tally that is reported is that of the ballot at the start. -/
theorem tally_of_exchanges {α : Type} {p : Program α} {w : World σ} {ballot : BallotId}
    {tally : Tally} (counted : ⟨.tally ballot, .ok tally⟩ ∈ p.exchanges answer w)
    (spared : ∀ x ∈ p.exchanges answer w, ¬x.ChangesBallot) :
    ∃ b, w.ballots.ballots.find? ballot = some b ∧ tally = b.tally.getD {} := by
  induction p generalizing w with
  | done result => cases counted
  | ask c next ih =>
    rw [Program.exchanges_ask] at counted spared
    obtain ⟨first, rest⟩ := List.forall_mem_cons.1 spared
    rcases List.mem_cons.1 counted with now | later
    · obtain ⟨faults, ⟨failure, a, failed, answered⟩ | answered⟩ := answer_eq c w
      · rw [answered] at now
        cases now
        cases failure <;> cases failed
      · rw [answered] at now
        obtain ⟨rfl, told⟩ := Exchange.mk.inj now
        have told : (w.ballots.tally ballot).1 = .ok tally := (eq_of_heq told).symm
        unfold BallotService.tally at told
        rcases w.ballots.withBallot_cases ballot _ with ⟨e, s', outcome, -⟩ |
          ⟨t, b, b', s', found, read, outcome, -⟩
        · rw [outcome] at told
          cases told
        · rw [outcome] at told
          cases told
          cases read
          exact ⟨b, found, rfl⟩
    · obtain ⟨-, same⟩ := answer_ballots c w
      rw [afterExchange_of_not_changesBallot first] at same
      rw [← same]
      exact ih _ later rest

end World

end TrusteeBoard
