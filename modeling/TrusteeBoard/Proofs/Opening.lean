import TrusteeBoard.Proofs.Operation.Succeeds
import TrusteeBoard.Proofs.Seats
import TrusteeBoard.Proofs.World.Signers

/-!
# Opening an election

An election is due when the term is over or a seat has no member. The record does not know the
members and decides from the open seats it counts, which is the same because the count is exact
after every history. So an election opens whenever it is due, for the seats it should contest, and
is refused with the end of the term otherwise (`History.election_opens`).
-/

namespace TrusteeBoard

open Program Sample

variable {settings : Settings} {r r' : Records} {c : Config} {time : Timestamp}
  {xs : List Exchange} {holder : Account}

/-! ### Plans -/

namespace Config

/-- The term is over, or there are seats without a member. -/
def IsDue (c : Config) (seated : Nat) (time : Timestamp) : Prop :=
  c.termExpiresAt ≤ time ∨ seated < c.maxSeats.toNat

/-- The record `opened` has an election open that `c` may open at the time `time` beside `seated`
members. -/
structure Contests (opened c : Config) (seated : Nat) (time : Timestamp) : Prop where
  phase : opened.phase = .nominating
  term : c.termExpiresAt ≤ time →
    opened.electionKind = .term ∧ opened.openSeats = c.maxSeats
  vacancy : ¬c.termExpiresAt ≤ time →
    opened.electionKind = .vacancy ∧ opened.openSeats.toNat = c.maxSeats.toNat - seated

variable {seated : Nat}

/-- The open seats say whether a seat has no member. -/
theorem Balanced.openSeats_pos_iff (h : c.Balanced seated) (idle : c.phase = .idle) :
    0 < c.openSeats ↔ seated < c.maxSeats.toNat := by
  have exact := h.openSeats_add (h.inactive idle).2
  rw [UInt32.lt_iff_toNat_lt, UInt32.toNat_zero]
  omega

/-- An election that is due is planned for the seats it should contest, another is refused. -/
theorem Balanced.planElection_cases (h : c.Balanced seated) (idle : c.phase = .idle)
    (time : Timestamp) :
    (c.IsDue seated time ∧ ∃ plan, c.planElection time = .ok plan ∧
      ∀ ballot, (c.openElection plan ballot).Contests c seated time) ∨
    (¬c.IsDue seated time ∧
      c.planElection time = .error (.state (.electionNotDue c.termExpiresAt))) := by
  obtain ⟨noBallot, noTerm⟩ := h.inactive idle
  have exact := h.openSeats_add noTerm
  have counted := h.openSeats_pos_iff idle
  let opens := time.plus c.startDelay
  by_cases expired : c.termExpiresAt ≤ time
  · have planned : c.planElection time =
        .ok ⟨.term, c.maxSeats, opens, opens.plus c.votingSpan⟩ := planElection_eq_ok_iff.2
      ⟨noBallot, idle, rfl, rfl, .inl ⟨isTermExpired_iff.2 expired, rfl, rfl⟩⟩
    exact .inl ⟨.inl expired, _, planned, fun ballot =>
      ⟨rfl, fun _ => ⟨rfl, rfl⟩, fun early => absurd expired early⟩⟩
  · have running : c.isTermExpired time = false := by
      rw [Bool.eq_false_iff, Ne, isTermExpired_iff]
      exact expired
    by_cases free : 0 < c.openSeats
    · have planned : c.planElection time =
          .ok ⟨.vacancy, c.openSeats, opens, opens.plus c.votingSpan⟩ := planElection_eq_ok_iff.2
        ⟨noBallot, idle, rfl, rfl, .inr ⟨running, free, rfl, rfl⟩⟩
      refine .inl ⟨.inr (counted.1 free), _, planned, fun ballot =>
        ⟨rfl, fun late => absurd late expired, fun _ => ⟨rfl, ?_⟩⟩⟩
      show c.openSeats.toNat = c.maxSeats.toNat - seated
      omega
    · refine .inr ⟨fun due => due.elim expired fun vacant => free (counted.2 vacant), ?_⟩
      unfold planElection
      simp only [noBallot, expectPhase, if_pos idle, running, if_neg free]
      rfl

end Config

/-! ### The operation -/

/-- An opening of an election in which no collaborator fails does what the record plans for the
time. Where it plans nothing, nothing but questions is asked. -/
theorem makeElection_path {result : Except Refusal BallotId}
    (path : (makeElection settings holder).Path xs result) (faithful : ∀ x ∈ xs, x.Faithful r)
    (stored : r.config = some c) : ∃ time, ⟨.now, time⟩ ∈ xs ∧
      match c.planElection time with
      | .error e => result = .error e ∧ ∀ x ∈ xs, x.call.IsQuery
      | .ok plan => ∃ ballot, result = .ok ballot ∧
        ⟨.openBallot (settings.ballotName (c.electionsHeld + 1)) settings.treasurySymbol []
          plan.votingOpensAt plan.votingClosesAt, .ok ballot⟩ ∈ xs ∧
        ⟨.apply [.clearCandidates, .putConfig (c.openElection plan ballot)], .ok ()⟩ ∈ xs := by
  obtain ⟨_, ys, _, -, signed, reading, rfl⟩ :=
    (succeeds_authorize (fun _ => id) holder).split path faithful
  obtain ⟨current, zs, _, same, read, asking, rfl⟩ :=
    (succeeds_requireConfig (fun _ => id) stored).split reading
      fun x hx => faithful x (by simp [hx])
  subst current
  obtain ⟨time, _, rest, -, asked, planning, rfl⟩ := succeeds_now.split asking
    fun x hx => faithful x (by simp [hx])
  obtain rfl := path_now_iff.1 asked
  have queries : ∀ x ∈ ys ++ (zs ++ [⟨.now, time⟩]), x.call.IsQuery := by
    simp only [List.forall_mem_append, List.forall_mem_singleton]
    exact ⟨fun x => (onlyAsks_authorize holder).of_mem signed,
      fun x => onlyAsks_requireConfig.of_mem read, trivial⟩
  refine ⟨time, by simp, ?_⟩
  cases planned : c.planElection time with
  | error e =>
    rw [planned] at planning
    obtain ⟨rfl, rfl⟩ := path_done_iff.1 planning
    exact ⟨rfl, by simpa using queries⟩
  | ok plan =>
    rw [planned] at planning
    obtain ⟨ballot, _, _, -, opened, writing, rfl⟩ :=
      (succeeds_openBallot (fun _ => id) _ _ _ _ _).split planning
        fun x hx => faithful x (by simp [hx])
    obtain ⟨_, _, _, -, written, ending, rfl⟩ :=
      (succeeds_apply (fun _ => id) _).split writing fun x hx => faithful x (by simp [hx])
    obtain ⟨rfl, rfl⟩ := path_pure_iff.1 ending
    obtain rfl := path_openBallot_ok_iff.1 opened
    obtain rfl := path_apply_ok_iff.1 written
    exact ⟨ballot, rfl, by simp, by simp⟩

/-- After every history, whoever signs opens an election that is due, on a ballot for the seats it
contests, unless a collaborator fails. If none is due, no ballot is opened and nothing changes, and
the refusal names the end of the term. -/
theorem History.election_opens {es : List Entry} (past : History es r)
    (countable : ∀ e ∈ es, e.operation.KeepsSeatsCountable) (stored : r.config = some c)
    (idle : c.phase = .idle) {result : Except Refusal Receipt}
    (path : ((Operation.makeElection holder).program settings).Path xs result)
    (serves : r.Serves xs r') (unfailed : ∀ x ∈ xs, x.failed = false) :
    ∃ time, ⟨.now, time⟩ ∈ xs ∧
      ((∃ receipt, result = .ok receipt) ↔ c.IsDue r.members.size time) ∧
      (∀ receipt, result = .ok receipt → ∃ ballot opened, receipt = .ballot ballot ∧
        ⟨.openBallot (settings.ballotName (c.electionsHeld + 1)) settings.treasurySymbol []
          opened.votingOpensAt opened.votingClosesAt, .ok ballot⟩ ∈ xs ∧
        r'.config = some opened ∧ opened.openBallot = some ballot ∧
        opened.Contests c r.members.size time) ∧
      ∀ refusal, result = .error refusal →
        refusal = .state (.electionNotDue c.termExpiresAt) ∧ r' = r ∧
          ∀ x ∈ xs, x.call.IsQuery := by
  have balanced := (past.balanced countable).config stored
  have last := (Operation.makeElection holder).writesLast settings
  have faithful : ∀ x ∈ xs, x.Faithful r := fun x hx =>
    ⟨serves.tells path last x hx, unfailed x hx⟩
  obtain ⟨made, path', outcome⟩ := path_bind_pure_iff.1 path
  obtain ⟨time, asked, course⟩ := makeElection_path path' faithful stored
  refine ⟨time, asked, ?_⟩
  rcases balanced.planElection_cases idle time with ⟨due, plan, planned, contests⟩ | ⟨early, none⟩
  · rw [planned] at course
    obtain ⟨ballot, rfl, opened, written⟩ := course
    subst outcome
    rw [← Config.votingClosesAt_openElection planned ballot] at opened
    have after := (serves.of_ok path last).2 _ written
    refine ⟨iff_of_true ⟨_, rfl⟩ due, fun receipt done => ?_, nofun⟩
    cases done
    exact ⟨ballot, _, rfl, opened, by rw [after]; rfl, rfl, contests ballot⟩
  · rw [none] at course
    obtain ⟨rfl, queries⟩ := course
    subst outcome
    refine ⟨iff_of_false nofun early, nofun, fun refusal refused => ?_⟩
    cases refused
    exact ⟨rfl, serves.of_error path last, queries⟩

/-- Two of twelve seats have a member within the term. An election opens for the other ten. -/
theorem History.election_opens_handover :
    let w := world.afterAll {} handover
    let e := w.entry {} (.makeElection carol)
    ∃ c ballot opened, w.store.records.config = some c ∧ c.phase = .idle ∧
      (∀ x ∈ e.exchanges, x.failed = false) ∧ e.result = .ok (.ballot ballot) ∧
      (w.after {} (.perform (.makeElection carol))).store.records.config = some opened ∧
      opened.openBallot = some ballot ∧ opened.electionKind = .vacancy ∧
      opened.openSeats.toNat = 10 := by
  intro w e
  have past : History (world.entries {} handover) w.store.records :=
    World.history_of_empty rfl handover
  have countable : ∀ e ∈ world.entries {} handover, e.operation.KeepsSeatsCountable := by
    decide +kernel
  have ready : w.store.records.config.any fun c => decide (c.phase = .idle) &&
      decide (w.host.clock < c.termExpiresAt) && decide (c.maxSeats = 12) := by
    decide +kernel
  obtain ⟨c, stored, ⟨idle, running⟩, seats⟩ := by
    simpa only [Option.any_eq_true, Bool.and_eq_true, decide_eq_true_eq] using ready
  have unfailed : ∀ x ∈ e.exchanges, x.failed = false := by decide +kernel
  have members : w.store.records.members.size = 2 := by decide +kernel
  obtain ⟨time, asked, opens, done, -⟩ := past.election_opens countable stored idle
    (w.entry_path _) (w.entry_serves _) unfailed
  obtain rfl := World.now_of_exchanges asked
  rw [members] at opens done
  obtain ⟨receipt, did⟩ := opens.2 (.inr (by rw [seats]; decide))
  obtain ⟨ballot, opened, rfl, -, after, balloted, contests⟩ := done receipt did
  obtain ⟨kind, contested⟩ := contests.vacancy (UInt64.not_le.2 running)
  rw [seats] at contested
  exact ⟨c, ballot, opened, stored, idle, unfailed, did, after, balloted, kind, contested⟩

end TrusteeBoard
