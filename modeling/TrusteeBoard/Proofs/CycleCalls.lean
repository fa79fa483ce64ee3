import TrusteeBoard.Proofs.Election
import TrusteeBoard.Proofs.Sample

/-!
# Calls of the election cycle

The calls that operations make on the governance record, on any consistent record, be it one that
operations reach or not. A refused call leaves the record. Any other leaves a consistent one with
the same parameters, and the phase goes on by one at most, except that an election may be finished
in any phase (`Config.perform_sound`). An election is opened by a plan made for the record.
-/

namespace TrusteeBoard

/-- The calls of the election cycle. -/
inductive CycleCall where
  | plan (now : Timestamp)
  | checkCandidacy (now : Timestamp)
  | checkWithdrawal (now : Timestamp)
  | openElection (plan : ElectionPlan) (ballot : BallotId)
  | beginVoting (now : Timestamp)
  | beginResolving (now : Timestamp)
  | finishElection (now : Timestamp) (seated boardSize : UInt32)
  | noteVacancy

/-- What a call answers with. -/
inductive CycleAnswer where
  | planned (plan : ElectionPlan)
  | ballot (ballot : BallotId)
  | done

namespace Config

/-- The answer with the record of a step, or the refusal with the old record. -/
def move (c : Config) :
    Except Refusal (BallotId × Config) → Except Refusal CycleAnswer × Config
  | .ok (ballot, next) => (.ok (.ballot ballot), next)
  | .error refusal => (.error refusal, c)

/-- The answer to a call and the record after it. -/
def perform (c : Config) : CycleCall → Except Refusal CycleAnswer × Config
  | .plan now => (.planned <$> c.planElection now, c)
  | .checkCandidacy now => (.ballot <$> c.candidacyBallot now, c)
  | .checkWithdrawal now => (.ballot <$> c.withdrawalBallot now, c)
  | .openElection plan ballot => (.ok .done, c.openElection plan ballot)
  | .beginVoting now => c.move (c.beginVoting now)
  | .beginResolving now => c.move (c.beginResolving now)
  | .finishElection now seated boardSize => (.ok .done, c.finishElection now seated boardSize)
  | .noteVacancy => (.ok .done, c.noteVacancy)

/-- An election is opened as planned on the record. -/
def Allows (c : Config) : CycleCall → Prop
  | .openElection plan _ => ∃ now, c.planElection now = .ok plan
  | _ => True

/-- The same but for the cycle: only seats open, times, ballot, phase and counts may differ. -/
structure SameParameters (c c' : Config) : Prop where
  publisher : c'.publisher = c.publisher
  maxSeats : c'.maxSeats = c.maxSeats
  holderQuorumDivisor : c'.holderQuorumDivisor = c.holderQuorumDivisor
  boardQuorumDivisor : c'.boardQuorumDivisor = c.boardQuorumDivisor
  votingSpan : c'.votingSpan = c.votingSpan
  startDelay : c'.startDelay = c.startDelay
  leaderboardSpan : c'.leaderboardSpan = c.leaderboardSpan
  termSpan : c'.termSpan = c.termSpan

end Config

/-- The phases in turn. -/
inductive Phase.Next : Phase → Phase → Prop
  | idle : Next .idle .nominating
  | nominating : Next .nominating .voting
  | voting : Next .voting .resolving
  | resolving : Next .resolving .idle

/-- How a call may move the phase. -/
def CycleCall.Moves (call : CycleCall) (before after : Phase) : Prop :=
  match call with
  | .finishElection .. => after = .idle
  | _ => after = before ∨ before.Next after

namespace Config

variable {c c' : Config} {call : CycleCall} {now : Timestamp}

/-! ### One call -/

/-- What a call does that is not refused. -/
inductive Performs (c : Config) : CycleCall → Config → Prop
  | plan (now : Timestamp) : Performs c (.plan now) c
  | checkCandidacy (now : Timestamp) : Performs c (.checkCandidacy now) c
  | checkWithdrawal (now : Timestamp) : Performs c (.checkWithdrawal now) c
  | openElection (plan : ElectionPlan) (ballot : BallotId) :
    Performs c (.openElection plan ballot) (c.openElection plan ballot)
  | beginVoting (now : Timestamp) (active : c.electionActive = true)
    (phase : c.phase = .nominating) : Performs c (.beginVoting now) { c with phase := .voting }
  | beginResolving (now : Timestamp) (active : c.electionActive = true)
    (phase : c.phase = .voting) : Performs c (.beginResolving now) { c with phase := .resolving }
  | finishElection (now : Timestamp) (seated boardSize : UInt32) :
    Performs c (.finishElection now seated boardSize) (c.finishElection now seated boardSize)
  | noteVacancy : Performs c .noteVacancy c.noteVacancy

theorem move_of_ok {step : Except Refusal (BallotId × Config)} {answer : CycleAnswer}
    (h : (c.move step).1 = .ok answer) : ∃ ballot, step = .ok (ballot, (c.move step).2) := by
  cases step with
  | error => cases h
  | ok step => exact ⟨step.1, rfl⟩

theorem move_of_error {step : Except Refusal (BallotId × Config)} {refusal : Refusal}
    (h : (c.move step).1 = .error refusal) : (c.move step).2 = c := by
  cases step with
  | error => rfl
  | ok step => cases h

theorem performs_of_ok {answer : CycleAnswer} (h : (c.perform call).1 = .ok answer) :
    c.Performs call (c.perform call).2 := by
  cases call with
  | plan now => exact .plan now
  | checkCandidacy now => exact .checkCandidacy now
  | checkWithdrawal now => exact .checkWithdrawal now
  | openElection plan ballot => exact .openElection plan ballot
  | beginVoting now =>
    obtain ⟨ballot, begun⟩ := move_of_ok h
    obtain ⟨active, -, phase, -, next⟩ := beginVoting_eq_ok_iff.1 begun
    rw [perform, next]
    exact .beginVoting now active phase
  | beginResolving now =>
    obtain ⟨ballot, begun⟩ := move_of_ok h
    obtain ⟨active, -, phase, -, next⟩ := beginResolving_eq_ok_iff.1 begun
    rw [perform, next]
    exact .beginResolving now active phase
  | finishElection now seated boardSize => exact .finishElection now seated boardSize
  | noteVacancy => exact .noteVacancy

theorem perform_of_error {refusal : Refusal} (h : (c.perform call).1 = .error refusal) :
    (c.perform call).2 = c := by
  cases call with
  | plan | checkCandidacy | checkWithdrawal => rfl
  | beginVoting | beginResolving => exact move_of_error h
  | openElection | finishElection | noteVacancy => cases h

theorem IsConsistent.begin (h : c.IsConsistent) (active : c.electionActive = true) {phase : Phase}
    (busy : phase ≠ .idle) : { c with phase }.IsConsistent :=
  ⟨h.openSeats_le, h.active_iff_ballot, by simp [active, busy]⟩

theorem IsConsistent.openElection (h : c.IsConsistent) {plan : ElectionPlan}
    (planned : c.planElection now = .ok plan) (ballot : BallotId) :
    (c.openElection plan ballot).IsConsistent := by
  refine ⟨?_, rfl, by simp [Config.openElection]⟩
  show plan.seats ≤ c.maxSeats
  obtain ⟨-, -, -, -, ⟨-, -, seats⟩ | ⟨-, -, -, seats⟩⟩ := planElection_eq_ok_iff.1 planned
  · rw [seats]
    exact UInt32.le_refl _
  · rw [seats]
    exact h.openSeats_le

theorem isConsistent_finishElection (c : Config) (now : Timestamp) (seated boardSize : UInt32) :
    (c.finishElection now seated boardSize).IsConsistent :=
  ⟨c.openSeats_finishElection_le seated boardSize, rfl, by simp [finishElection]⟩

theorem IsConsistent.noteVacancy (h : c.IsConsistent) : c.noteVacancy.IsConsistent :=
  ⟨min32_le_right _ _, h.active_iff_ballot, h.idle_iff_inactive⟩

theorem IsConsistent.performs (h : c.IsConsistent) (allowed : c.Allows call)
    (step : c.Performs call c') : c'.IsConsistent := by
  cases step with
  | plan | checkCandidacy | checkWithdrawal => exact h
  | openElection plan ballot =>
    obtain ⟨now, planned⟩ := allowed
    exact h.openElection planned ballot
  | beginVoting now active phase => exact h.begin active nofun
  | beginResolving now active phase => exact h.begin active nofun
  | finishElection now seated boardSize => exact c.isConsistent_finishElection now seated boardSize
  | noteVacancy => exact h.noteVacancy

theorem Performs.sameParameters (step : c.Performs call c') : c.SameParameters c' := by
  cases step <;> exact ⟨rfl, rfl, rfl, rfl, rfl, rfl, rfl, rfl⟩

theorem Performs.moves (allowed : c.Allows call) (step : c.Performs call c') :
    call.Moves c.phase c'.phase := by
  cases step with
  | plan | checkCandidacy | checkWithdrawal | noteVacancy => exact .inl rfl
  | openElection plan ballot =>
    obtain ⟨now, planned⟩ := allowed
    have idle := (planElection_eq_ok_iff.1 planned).2.1
    rw [idle]
    exact .inr .idle
  | beginVoting now active phase =>
    rw [phase]
    exact .inr .nominating
  | beginResolving now active phase =>
    rw [phase]
    exact .inr .voting
  | finishElection now seated boardSize => rfl

/-- On a consistent record every call is refused without a change or leaves a consistent record with
the same parameters, one phase on at most; finishing an election always ends in the idle phase. -/
theorem perform_sound (consistent : c.IsConsistent) (allowed : c.Allows call) :
    (∀ refusal, (c.perform call).1 = .error refusal → (c.perform call).2 = c) ∧
      ∀ answer, (c.perform call).1 = .ok answer →
        (c.perform call).2.IsConsistent ∧ c.SameParameters (c.perform call).2 ∧
          call.Moves c.phase (c.perform call).2.phase := by
  refine ⟨fun refusal refused => perform_of_error refused, fun answer answered => ?_⟩
  have step := performs_of_ok answered
  exact ⟨consistent.performs allowed step, step.sameParameters, step.moves allowed⟩

/-- A due term election opens, and voting does not begin on a record without one. -/
theorem perform_sound_due :
    let c : Config := { publisher := Sample.publisher }
    let opening : CycleCall := .openElection ⟨.term, 12, ⟨20001200⟩, ⟨22001200⟩⟩ ⟨7⟩
    (c.perform opening).2.IsConsistent ∧ opening.Moves c.phase (c.perform opening).2.phase ∧
      (c.perform (.beginVoting ⟨5⟩)).2 = c := by
  intro c opening
  have consistent : c.IsConsistent := by decide
  have due : c.Allows opening := ⟨⟨20000000⟩, planElection_eq_ok_iff.2
    ⟨rfl, rfl, by decide, by decide, .inl ⟨by decide, rfl, rfl⟩⟩⟩
  have early : c.Allows (.beginVoting ⟨5⟩) := trivial
  obtain ⟨again, -, moves⟩ := (perform_sound consistent due).2 .done rfl
  exact ⟨again, moves, (perform_sound consistent early).1 _ rfl⟩

/-! ### Many calls -/

theorem SameParameters.trans {c'' : Config} (h : c.SameParameters c') (h' : c'.SameParameters c'') :
    c.SameParameters c'' where
  publisher := h'.publisher.trans h.publisher
  maxSeats := h'.maxSeats.trans h.maxSeats
  holderQuorumDivisor := h'.holderQuorumDivisor.trans h.holderQuorumDivisor
  boardQuorumDivisor := h'.boardQuorumDivisor.trans h.boardQuorumDivisor
  votingSpan := h'.votingSpan.trans h.votingSpan
  startDelay := h'.startDelay.trans h.startDelay
  leaderboardSpan := h'.leaderboardSpan.trans h.leaderboardSpan
  termSpan := h'.termSpan.trans h.termSpan

/-- A record that calls lead to, refused or not. -/
inductive Reaches (c : Config) : Config → Prop
  | start : Reaches c c
  | call {c' : Config} {call : CycleCall} (before : Reaches c c') (allowed : c'.Allows call) :
    Reaches c (c'.perform call).2

/-- No calls lead away from the consistent records with the same parameters. -/
theorem Reaches.isConsistent (h : c.Reaches c') (consistent : c.IsConsistent) :
    c'.IsConsistent ∧ c.SameParameters c' := by
  induction h with
  | start => exact ⟨consistent, rfl, rfl, rfl, rfl, rfl, rfl, rfl, rfl⟩
  | @call c' call before allowed ih =>
    obtain ⟨consistent, same⟩ := ih
    cases answered : (c'.perform call).1 with
    | error refusal =>
      rw [perform_of_error answered]
      exact ⟨consistent, same⟩
    | ok answer =>
      have step := performs_of_ok answered
      exact ⟨consistent.performs allowed step, same.trans step.sameParameters⟩

end Config

end TrusteeBoard
