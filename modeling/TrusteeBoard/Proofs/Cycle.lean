import TrusteeBoard.Proofs.Campaign
import TrusteeBoard.Proofs.Sample
import TrusteeBoard.Proofs.World.Elections

/-!
# The cycle of elections

The turns of a history are the openings of elections, the starts of voting and the closings that
succeeded, each with the ballot it answered with. They come in this order, election after election
(`Turn.cycle`), and every operation that depends on an election keeps to the voting window of its
ballot (`Entry.KeepsWindow`). Both rest on the one record that the operations read and write back:
`Config.InCycle` says how it stands to the turns so far, and each operation keeps it so. It counts
the elections in 64 bits, and starts again when they are used up (`electionsHeld_runs_over`).
-/

namespace TrusteeBoard

open Sample

/-- A step of the election cycle that succeeded, with the ballot in its receipt. -/
inductive Turn where
  | opened (ballot : Option BallotId)
  | started (ballot : Option BallotId)
  | closed (ballot : Option BallotId)
  deriving DecidableEq

/-- The turns of one election, in order. -/
def Turn.cycle (ballot : BallotId) : List Turn :=
  [.opened ballot, .started ballot, .closed ballot]

def Turn.isOpening : Turn → Bool
  | .opened _ => true
  | _ => false

/-- The ballot that a receipt names. -/
def Receipt.named : Receipt → Option BallotId
  | .ballot opened => some opened
  | .report closed => some closed.ballot
  | _ => none

/-- The turn that an operation makes if it succeeds. -/
def Operation.turn : Operation → Option BallotId → Option Turn
  | .makeElection _, ballot => some (.opened ballot)
  | .startElection _, ballot => some (.started ballot)
  | .endElection _, ballot => some (.closed ballot)
  | _, _ => none

/-- The turn that an operation made. -/
def Entry.turn? (e : Entry) : Option Turn :=
  match e.result with
  | .ok receipt => e.operation.turn receipt.named
  | .error _ => none

/-- The turns of a history, the oldest first. -/
def turns (es : List Entry) : List Turn :=
  es.filterMap Entry.turn?

namespace Campaign

/-- The ballot was opened for voting until `ends`. -/
def EndsAt (k : Campaign) (ends : Timestamp) : Prop :=
  ∃ name treasury,
    ⟨.openBallot name treasury [] k.begins ends, .ok k.ballot⟩ ∈ k.opening.exchanges

/-- Voting has not been started since the opening. -/
def Unstarted (k : Campaign) : Prop :=
  ∀ e ∈ k.since, ∀ holder, ¬e.Did (.startElection holder)

end Campaign

/-- What an operation that succeeds after the history `es` has to do with elections. Voting starts
and ends not before its time, candidates register before voting may start and withdraw before it
ends, and the parameters and the first board are set between elections. -/
structure Entry.KeepsWindow (es : List Entry) (e : Entry) : Prop where
  starts : ∀ holder, e.Did (.startElection holder) → ∃ (k : Campaign) (time : Timestamp),
    k.OpenAfter es ∧ ⟨.now, time⟩ ∈ e.exchanges ∧ k.begins ≤ time
  closes : ∀ holder, e.Did (.endElection holder) → ∃ (k : Campaign) (ends time : Timestamp),
    k.OpenAfter es ∧ k.EndsAt ends ∧ ⟨.now, time⟩ ∈ e.exchanges ∧ ends ≤ time
  registers : ∀ name, e.Did (.addCandidate name) → ∃ (k : Campaign) (time : Timestamp),
    k.OpenAfter es ∧ k.Unstarted ∧ ⟨.now, time⟩ ∈ e.exchanges ∧ time < k.begins
  withdraws : ∀ name, e.Did (.removeCandidate name) → ∃ (k : Campaign) (ends time : Timestamp),
    k.OpenAfter es ∧ k.EndsAt ends ∧ ⟨.now, time⟩ ∈ e.exchanges ∧ time < ends
  configures : ∀ caller update, e.Did (.setConfig caller update) → ¬∃ k : Campaign, k.OpenAfter es
  founds : ∀ members, e.Did (.seatBoard members) → ¬∃ k : Campaign, k.OpenAfter es

variable {es : List Entry} {e : Entry} {r r' : Records} {c c' : Config} {k : Campaign}

/-! ### Turns -/

theorem turns_append (es es' : List Entry) : turns (es ++ es') = turns es ++ turns es' :=
  List.filterMap_append

theorem turns_concat_of_turn? {turn : Turn} (h : e.turn? = some turn) :
    turns (es ++ [e]) = turns es ++ [turn] := by
  rw [turns_append]
  simp [turns, h]

theorem turns_concat_of_none (h : e.turn? = none) : turns (es ++ [e]) = turns es := by
  rw [turns_append]
  simp [turns, h]

theorem Entry.turn?_eq {op : Operation} {receipt : Receipt} (did : e.operation = op)
    (done : e.result = .ok receipt) : e.turn? = op.turn receipt.named := by
  unfold turn?
  rw [did, done]

theorem Entry.turn?_of_error {refusal : Refusal} (refused : e.result = .error refusal) :
    e.turn? = none := by
  unfold turn?
  rw [refused]

theorem Entry.not_turnsElection_of_turn? (h : e.turn? = none) : ¬e.TurnsElection := by
  rintro ⟨holder, ⟨did, receipt, done⟩ | ⟨did, receipt, done⟩⟩ <;>
    rw [turn?_eq did done] at h <;> cases h

theorem Entry.not_starts_of_turn? (h : e.turn? = none) (holder : Account) :
    ¬e.Did (.startElection holder) := by
  rintro ⟨did, receipt, done⟩
  rw [turn?_eq did done] at h
  cases h

/-- Between elections none is open: the last turn closed one. -/
theorem not_openAfter_of_turns {past : List BallotId} (h : turns es = past.flatMap Turn.cycle) :
    ¬∃ k : Campaign, k.OpenAfter es := by
  rintro ⟨k, openAfter⟩
  obtain ⟨holder, did, receipt, done⟩ := openAfter.opened
  have opening : k.opening.turn? = some (.opened receipt.named) := Entry.turn?_eq did done
  have only : ∀ turn ∈ turns k.since, ∃ ballot, turn = .started ballot := by
    intro turn hturn
    obtain ⟨e, he, hturn⟩ := List.mem_filterMap.1 hturn
    have lasting := openAfter.lasting e he
    cases done : e.result with
    | error refusal => cases (Entry.turn?_of_error done).symm.trans hturn
    | ok receipt =>
      cases did : e.operation with
      | makeElection => exact (lasting ⟨_, .inl ⟨did, receipt, done⟩⟩).elim
      | endElection => exact (lasting ⟨_, .inr ⟨did, receipt, done⟩⟩).elim
      | startElection =>
        exact ⟨_, Option.some.inj (hturn.symm.trans (Entry.turn?_eq did done))⟩
      | _ => cases hturn.symm.trans (Entry.turn?_eq did done)
  have split : turns es = turns k.before ++ .opened receipt.named :: turns k.since := by
    rw [openAfter.entries, turns_append]
    simp [turns, opening]
  have notClosed : ∀ ballot, (turns es).getLast? ≠ some (.closed ballot) := by
    intro ballot last
    rw [split, List.getLast?_append_of_ne_nil _ (by simp)] at last
    rcases List.mem_cons.1 (List.mem_of_getLast? last) with same | later
    · cases same
    · obtain ⟨_, same⟩ := only _ later
      cases same
  cases past using List.reverseRecOn with
  | nil =>
    rw [split] at h
    simp at h
  | append_singleton past ballot =>
    refine notClosed ballot ?_
    rw [h, List.flatMap_append]
    simp [Turn.cycle]

/-! ### The record and the turns -/

/-- The campaign is the election that the record refers to as active: its ballot and its window are
those of the record, and the phase says which turns were made. -/
structure Campaign.Current (k : Campaign) (es : List Entry) (c : Config) : Prop where
  openAfter : k.OpenAfter es
  ballot : c.openBallot = some k.ballot
  begins : c.votingOpensAt = k.begins
  ends : k.EndsAt c.votingClosesAt
  stage : ∃ past : List BallotId,
    (c.phase = .nominating ∧ k.Unstarted ∧
      turns es = past.flatMap Turn.cycle ++ [.opened k.ballot]) ∨
    (c.phase = .voting ∧
      turns es = past.flatMap Turn.cycle ++ [.opened k.ballot, .started k.ballot])

/-- The record counts the openings. It is inactive between elections, and while it is active one is
under way. -/
structure Config.InCycle (c : Config) (es : List Entry) : Prop where
  held : c.electionsHeld = UInt64.ofNat ((turns es).countP Turn.isOpening)
  between : c.electionActive = false → ∃ past : List BallotId, turns es = past.flatMap Turn.cycle
  during : c.electionActive = true → ∃ k : Campaign, k.Current es c

/-- There is a record in the cycle, or there has been no turn. -/
def Records.InCycle (r : Records) (es : List Entry) : Prop :=
  match r.config with
  | none => turns es = []
  | some c => c.InCycle es

/-- The records agree on the election in flight. -/
structure Config.SameElection (c c' : Config) : Prop where
  active : c'.electionActive = c.electionActive
  ballot : c'.openBallot = c.openBallot
  begins : c'.votingOpensAt = c.votingOpensAt
  ends : c'.votingClosesAt = c.votingClosesAt
  phase : c'.phase = c.phase
  held : c'.electionsHeld = c.electionsHeld

theorem Config.SameElection.refl (c : Config) : c.SameElection c :=
  ⟨rfl, rfl, rfl, rfl, rfl, rfl⟩

theorem Records.inCycle_of_config (configured : r.config = some c) :
    r.InCycle es ↔ c.InCycle es := by
  unfold InCycle
  rw [configured]

theorem Campaign.Current.extend (h : k.Current es c) (same : c.SameElection c')
    (idle : e.turn? = none) : (k.extend e).Current (es ++ [e]) c' where
  openAfter := h.openAfter.extend (Entry.not_turnsElection_of_turn? idle)
  ballot := same.ballot.trans h.ballot
  begins := same.begins.trans h.begins
  ends := same.ends ▸ h.ends
  stage := by
    obtain ⟨past, ⟨phase, unstarted, made⟩ | ⟨phase, made⟩⟩ := h.stage
    · refine ⟨past, .inl ⟨same.phase.trans phase, fun x hx => ?_, ?_⟩⟩
      · rcases List.mem_append.1 hx with hx | hx
        · exact unstarted x hx
        · rw [List.mem_singleton.1 hx]
          exact Entry.not_starts_of_turn? idle
      · exact (turns_concat_of_none idle).trans made
    · exact ⟨past, .inr ⟨same.phase.trans phase, (turns_concat_of_none idle).trans made⟩⟩

/-- An operation that is no turn leaves the record in the cycle. -/
theorem Config.InCycle.extend (h : c.InCycle es) (same : c.SameElection c')
    (idle : e.turn? = none) : c'.InCycle (es ++ [e]) where
  held := by
    rw [same.held, turns_concat_of_none idle]
    exact h.held
  between inactive := by
    rw [turns_concat_of_none idle]
    exact h.between (same.active.symm.trans inactive)
  during active := by
    obtain ⟨k, current⟩ := h.during (same.active.symm.trans active)
    exact ⟨k.extend e, current.extend same idle⟩

theorem Records.InCycle.extend (h : r.InCycle es) (same : r'.config = r.config)
    (idle : e.turn? = none) : r'.InCycle (es ++ [e]) := by
  unfold Records.InCycle at h ⊢
  rw [same]
  cases configured : r.config with
  | none =>
    rw [configured] at h
    exact (turns_concat_of_none idle).trans h
  | some c =>
    rw [configured] at h
    exact Config.InCycle.extend h (.refl c) idle

/-! ### Turns of the record -/

theorem Config.InCycle.open (h : c.InCycle es) {time : Timestamp} {plan : ElectionPlan}
    {ballot : BallotId} {holder : Account} (planned : c.planElection time = .ok plan)
    (did : e.operation = .makeElection holder) (done : e.result = .ok (.ballot ballot))
    (opened : ∃ name treasury, ⟨.openBallot name treasury [] plan.votingOpensAt plan.votingClosesAt,
      .ok ballot⟩ ∈ e.exchanges) : (c.openElection plan ballot).InCycle (es ++ [e]) := by
  obtain ⟨unopened, -, opens, closes, -⟩ := planElection_eq_ok_iff.1 planned
  have inactive : c.electionActive = false := by
    rw [← Bool.not_eq_true]
    intro active
    obtain ⟨k, current⟩ := h.during active
    cases unopened.symm.trans current.ballot
  obtain ⟨past, made⟩ := h.between inactive
  have turn : turns (es ++ [e]) = turns es ++ [.opened ballot] :=
    turns_concat_of_turn? (Entry.turn?_eq did done)
  refine ⟨?_, fun hne => by simp [openElection] at hne, fun _ => ?_⟩
  · show c.electionsHeld + 1 = _
    rw [turn, h.held, List.countP_append, UInt64.ofNat_add]
    rfl
  · refine ⟨⟨es, e, [], ballot, plan.votingOpensAt⟩, ?_, rfl, rfl, ?_, past, .inl ⟨rfl, ?_, ?_⟩⟩
    · obtain ⟨name, treasury, opened⟩ := opened
      exact ⟨rfl, ⟨holder, did, _, done⟩, ⟨name, treasury, _, opened⟩, by simp⟩
    · have ends : (c.openElection plan ballot).votingClosesAt = plan.votingClosesAt := by
        rw [closes, ← opens]
        rfl
      rwa [ends]
    · simp [Campaign.Unstarted]
    · rw [turn, made]

theorem Config.InCycle.start (h : c.InCycle es) {time : Timestamp} {ballot : BallotId}
    {voting : Config} {holder : Account} (begun : c.beginVoting time = .ok (ballot, voting))
    (did : e.operation = .startElection holder) (done : e.result = .ok (.ballot ballot)) :
    voting.InCycle (es ++ [e]) := by
  obtain ⟨active, opened, nominating, -, rfl⟩ := beginVoting_eq_ok_iff.1 begun
  obtain ⟨k, current⟩ := h.during active
  have turn : turns (es ++ [e]) = turns es ++ [.started ballot] :=
    turns_concat_of_turn? (Entry.turn?_eq did done)
  obtain rfl : ballot = k.ballot := Option.some.inj (opened.symm.trans current.ballot)
  have lasts : ¬e.TurnsElection := by
    rintro ⟨_, ⟨other, -⟩ | ⟨other, -⟩⟩ <;> cases did.symm.trans other
  refine ⟨?_, fun inactive => ?_, fun _ => ⟨k.extend e, current.openAfter.extend lasts,
    current.ballot, current.begins, current.ends, ?_⟩⟩
  · show c.electionsHeld = _
    rw [turn, h.held, List.countP_append]
    rfl
  · cases active.symm.trans inactive
  · obtain ⟨past, ⟨-, -, made⟩ | ⟨voting, -⟩⟩ := current.stage
    · refine ⟨past, .inr ⟨rfl, ?_⟩⟩
      rw [turn, made, List.append_assoc]
      rfl
    · cases nominating.symm.trans voting

theorem Config.InCycle.close (h : c.InCycle es) {time : Timestamp} {ballot : BallotId}
    {resolving finished : Config} {holder : Account} {report : ElectionReport}
    (begun : c.beginResolving time = .ok (ballot, resolving))
    (inactive : finished.electionActive = false) (held : finished.electionsHeld = c.electionsHeld)
    (did : e.operation = .endElection holder) (done : e.result = .ok (.report report))
    (same : report.ballot = ballot) : finished.InCycle (es ++ [e]) := by
  obtain ⟨active, opened, voting, -, -⟩ := beginResolving_eq_ok_iff.1 begun
  obtain ⟨k, current⟩ := h.during active
  obtain rfl : ballot = k.ballot := Option.some.inj (opened.symm.trans current.ballot)
  have turn : turns (es ++ [e]) = turns es ++ [.closed k.ballot] := by
    rw [turns_concat_of_turn? (Entry.turn?_eq did done), ← same]
    rfl
  refine ⟨?_, fun _ => ?_, fun active => ?_⟩
  · rw [turn, held, h.held, List.countP_append]
    rfl
  · obtain ⟨past, ⟨nominating, -⟩ | ⟨-, made⟩⟩ := current.stage
    · cases voting.symm.trans nominating
    · refine ⟨past ++ [k.ballot], ?_⟩
      rw [turn, made, List.flatMap_append, List.append_assoc]
      rfl
  · cases inactive.symm.trans active

theorem inCycle_of_step (h : r.InCycle es) {receipt : Receipt} (done : e.result = .ok receipt)
    (step : Step e.settings r e.exchanges e.operation receipt r') : r'.InCycle (es ++ [e]) := by
  generalize hop : e.operation = op at step
  have turn := Entry.turn?_eq hop done
  cases step with
  | @setConfig caller update current₀ current owned signed inactive sound =>
    rw [Records.inCycle_of_config rfl]
    cases configured : r.config with
    | none =>
      rw [configured] at current
      subst current
      rw [Records.InCycle, configured] at h
      refine ⟨?_, fun _ => ⟨[], ?_⟩, nofun⟩
      · rw [turns_concat_of_none turn, h]
        rfl
      · rw [turns_concat_of_none turn, h]
        rfl
    | some c =>
      rw [configured] at current
      obtain rfl : current₀ = c := current
      rw [Records.inCycle_of_config configured] at h
      refine ⟨?_, fun _ => ?_, fun active => ?_⟩
      · rw [turns_concat_of_none turn]
        exact h.held
      · rw [turns_concat_of_none turn]
        exact h.between inactive
      · cases inactive.symm.trans active
  | nominate | unnominate | addCandidate | removeCandidate => exact h.extend rfl turn
  | @makeElection holder c plan ballot time signed configured asked planned opened =>
    rw [Records.inCycle_of_config configured] at h
    rw [Records.inCycle_of_config rfl]
    exact h.open planned hop done ⟨_, _, opened⟩
  | @startElection holder c voting ballot time signed configured asked begun opened =>
    rw [Records.inCycle_of_config configured] at h
    rw [Records.inCycle_of_config rfl]
    exact h.start begun hop done
  | roster prepared pushed =>
    cases prepared with
    | removeMember signed configured left asked | resign signed configured left asked =>
      rw [Records.inCycle_of_config configured] at h
      rw [Records.inCycle_of_config (Records.config_after_rosterChange ..)]
      exact h.extend ⟨rfl, rfl, rfl, rfl, rfl, rfl⟩ turn
    | endElection signed configured asked begun counted elected closed =>
      rw [Records.inCycle_of_config configured] at h
      rw [Records.inCycle_of_config ((Records.config_after_rosterChange ..).trans
        (Records.config_after_append ..))]
      subst closed
      refine h.close begun rfl ?_ hop done rfl
      obtain ⟨-, -, -, -, rfl⟩ := Config.beginResolving_eq_ok_iff.1 begun
      rfl
    | seatBoard configured signed inactive vacant known seated asked =>
      rw [Records.inCycle_of_config configured] at h
      rw [Records.inCycle_of_config ((Records.config_after_rosterChange ..).trans
        (Records.config_after_append ..))]
      exact h.extend ⟨rfl, rfl, rfl, rfl, rfl, rfl⟩ turn

/-- After every history the record stands to the turns as the cycle says. -/
theorem History.inCycle (h : History es r) : r.InCycle es :=
  h.by_steps (I := fun es r => r.InCycle es) rfl
    (fun before refused => before.extend rfl (Entry.turn?_of_error refused))
    fun _ before done step => inCycle_of_step before done step

/-! ### Windows -/

/-- The record lets an operation succeed only in its window. -/
theorem Records.InCycle.keepsWindow (h : r.InCycle es)
    (path : (e.operation.program e.settings).Path e.exchanges e.result)
    (serves : r.Serves e.exchanges r') : e.KeepsWindow es := by
  have step {op : Operation} (did : e.Did op) :
      ∃ receipt, Step e.settings r e.exchanges op receipt r' := by
    obtain ⟨rfl, receipt, done⟩ := did
    rw [done] at path
    exact ⟨receipt, step_of_path path serves⟩
  have current {c : Config} (configured : r.config = some c) (active : c.electionActive = true) :
      ∃ k : Campaign, k.Current es c :=
    ((inCycle_of_config configured).1 h).during active
  have idle (still : ∀ c, r.config = some c → c.electionActive = false) :
      ¬∃ k : Campaign, k.OpenAfter es := by
    unfold Records.InCycle at h
    split at h
    · have none : turns es = [].flatMap Turn.cycle := h
      exact not_openAfter_of_turns none
    · next c configured =>
      obtain ⟨past, made⟩ := h.between (still c configured)
      exact not_openAfter_of_turns made
  constructor
  · intro holder did
    obtain ⟨receipt, step⟩ := step did
    cases step with
    | startElection signed configured asked begun opened =>
      obtain ⟨active, -, -, started, -⟩ := Config.beginVoting_eq_ok_iff.1 begun
      obtain ⟨k, current⟩ := current configured active
      exact ⟨k, _, current.openAfter, asked, current.begins ▸ UInt64.not_lt.1 started⟩
    | roster prepared => cases prepared
  · intro holder did
    obtain ⟨receipt, step⟩ := step did
    cases step with
    | roster prepared =>
      cases prepared with
      | endElection signed configured asked begun counted elected closed =>
        obtain ⟨active, -, -, ended, -⟩ := Config.beginResolving_eq_ok_iff.1 begun
        obtain ⟨k, current⟩ := current configured active
        exact ⟨k, _, _, current.openAfter, current.ends, asked, UInt64.not_lt.1 ended⟩
  · intro name did
    obtain ⟨receipt, step⟩ := step did
    cases step with
    | addCandidate signed configured asked window listed unregistered room added =>
      obtain ⟨active, -, nominating, early⟩ := Config.candidacyBallot_eq_ok_iff.1 window
      obtain ⟨k, current⟩ := current configured active
      refine ⟨k, _, current.openAfter, ?_, asked, current.begins ▸ UInt64.not_le.1 early⟩
      obtain ⟨past, ⟨-, unstarted, -⟩ | ⟨voting, -⟩⟩ := current.stage
      · exact unstarted
      · cases nominating.symm.trans voting
    | roster prepared => cases prepared
  · intro name did
    obtain ⟨receipt, step⟩ := step did
    cases step with
    | removeCandidate configured signed asked window registered removed =>
      obtain ⟨active, -, early⟩ := Config.withdrawalBallot_eq_ok_iff.1 window
      obtain ⟨k, current⟩ := current configured active
      exact ⟨k, _, _, current.openAfter, current.ends, asked, UInt64.not_le.1 early⟩
    | roster prepared => cases prepared
  · intro caller update did
    obtain ⟨receipt, step⟩ := step did
    cases step with
    | setConfig current owned signed inactive sound =>
      refine idle fun c configured => ?_
      rw [configured] at current
      cases current
      exact inactive
    | roster prepared => cases prepared
  · intro members did
    obtain ⟨receipt, step⟩ := step did
    cases step with
    | roster prepared =>
      cases prepared with
      | seatBoard configured signed inactive vacant known seated asked =>
        refine idle fun c stored => ?_
        cases configured.symm.trans stored
        exact inactive

/-- In every history the turns go through cycle after cycle, the last of which may be unfinished,
every operation keeps to the window of the election that is open before it, and the record counts
the elections. -/
theorem History.keeps_cycle (h : History es r) :
    (∃ ballots : List BallotId, turns es <+: ballots.flatMap Turn.cycle) ∧
      (∀ before e later, es = before ++ e :: later → e.KeepsWindow before) ∧
      (r.config.elim 0 (·.electionsHeld) = UInt64.ofNat ((turns es).countP Turn.isOpening)) := by
  have now := h.inCycle
  refine ⟨?_, fun before e later split => ?_, ?_⟩
  · unfold Records.InCycle at now
    split at now
    · exact ⟨[], now ▸ List.nil_prefix⟩
    · next c configured =>
      by_cases active : c.electionActive = true
      · obtain ⟨k, current⟩ := now.during active
        obtain ⟨past, made⟩ := current.stage
        refine ⟨past ++ [k.ballot], ?_⟩
        rw [List.flatMap_append, List.flatMap_singleton]
        obtain ⟨-, -, made⟩ | ⟨-, made⟩ := made
        · exact ⟨_, by rw [made, List.append_assoc]; rfl⟩
        · exact ⟨_, by rw [made, List.append_assoc]; rfl⟩
      · obtain ⟨past, made⟩ := now.between (Bool.eq_false_iff.2 active)
        exact ⟨past, made ▸ List.prefix_rfl⟩
  · rw [split] at h
    obtain ⟨r₀, r₁, past, path, serves⟩ := h.exists_perform
    exact past.inCycle.keepsWindow path serves
  · unfold Records.InCycle at now
    split at now
    · next unset =>
      rw [unset, now]
      rfl
    · next c configured =>
      rw [configured]
      exact now.held

/-- A succession is one whole cycle. -/
theorem History.keeps_cycle_succession :
    let es := world.entries {} (succession ++ [.perform (.endElection carol)])
    turns es = Turn.cycle ⟨1⟩ ∧
      (∃ ballots : List BallotId, turns es <+: ballots.flatMap Turn.cycle) ∧
      ∀ before e later, es = before ++ e :: later → e.KeepsWindow before := by
  intro es
  have past : History es _ :=
    World.history_of_empty rfl (succession ++ [.perform (.endElection carol)])
  have keeps := past.keeps_cycle
  exact ⟨by decide +kernel, keeps.1, keeps.2.1⟩

/-! ### The count of elections -/

def Event.opensElection : Event → Bool
  | .perform (.makeElection _) => true
  | _ => false

/-- Where every operation succeeds, as many elections are opened as operations ask for. -/
theorem World.countP_isOpening_of_completes {settings : Settings} {w : World MemoryStore}
    {events : List Event} {goal : World MemoryStore → Prop}
    (completes : w.Completes settings events goal) :
    (turns (w.entries settings events)).countP Turn.isOpening =
      events.countP Event.opensElection := by
  refine List.countP_filterMap.trans ?_
  have done := completes.1
  clear completes
  induction events generalizing w with
  | nil => rfl
  | cons event rest ih =>
    cases event with
    | perform op =>
      obtain ⟨⟨receipt, first⟩, others⟩ := List.forall_mem_cons.1 done
      rw [entries, List.countP_cons, List.countP_cons, ih others, Entry.turn?_eq rfl first]
      cases op <;> rfl
    | _ => exact ih done

/-- The parameters are set and elections are held one after the other. -/
def wholeElections (n : ℕ) : List Event :=
  [.perform (.setConfig publisher {})] ++ (List.replicate n (World.wholeElection carol)).flatten

theorem completes_wholeElections (n : ℕ) :
    world.Completes {} (wholeElections n) fun w => w.Calm ∧ w.Settled := by
  have begins : world.Completes {} [.perform (.setConfig publisher {})] fun w =>
      w.Calm ∧ w.Settled :=
    ⟨List.forall_mem_singleton.2 ⟨_, rfl⟩, ⟨rfl, rfl, rfl, rfl⟩, _, rfl, rfl, rfl⟩
  exact World.completes_append begins fun _ ready =>
    World.completes_replicate_wholeElection ready.1 ready.2 n

theorem countP_opensElection_wholeElections (n : ℕ) :
    (wholeElections n).countP Event.opensElection = n := by
  have single : (World.wholeElection carol).countP Event.opensElection = 1 := rfl
  have founding : [Event.perform (.setConfig publisher {})].countP Event.opensElection = 0 := rfl
  rw [wholeElections, List.countP_append, List.countP_flatten, List.map_replicate, single, founding,
    List.sum_replicate_nat, Nat.mul_one, Nat.zero_add]

theorem electionsHeld_wholeElections (n : ℕ) :
    (turns (world.entries {} (wholeElections n))).countP Turn.isOpening = n ∧
      ∃ c, (world.afterAll {} (wholeElections n)).store.records.config = some c ∧
        c.electionsHeld = UInt64.ofNat n := by
  have completes := completes_wholeElections n
  have opened : (turns (world.entries {} (wholeElections n))).countP Turn.isOpening = n :=
    (World.countP_isOpening_of_completes completes).trans (countP_opensElection_wholeElections n)
  obtain ⟨c, stored, -⟩ := completes.2.2
  have past : History (world.entries {} (wholeElections n))
      (world.afterAll {} (wholeElections n)).store.records := World.history_of_empty rfl _
  have cycle : c.InCycle (world.entries {} (wholeElections n)) :=
    (Records.inCycle_of_config stored).1 past.inCycle
  exact ⟨opened, c, stored, cycle.held.trans (by rw [opened])⟩

/-- The count in the record has 64 bits. After `2 ^ 64` elections it is zero again. -/
theorem electionsHeld_runs_over :
    let events := wholeElections (2 ^ 64)
    (turns (world.entries {} events)).countP Turn.isOpening = 2 ^ 64 ∧
      ∃ c, (world.afterAll {} events).store.records.config = some c ∧ c.electionsHeld = 0 :=
  electionsHeld_wholeElections (2 ^ 64)

end TrusteeBoard
