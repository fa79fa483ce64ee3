import TrusteeBoard.Proofs.Quorum
import TrusteeBoard.Proofs.World.Calm

/-!
# Elections in calm worlds

In a calm world the operations of an election succeed where the record allows them. Nothing else can
be wrong: winners are seated only where there are seats (`Board.exists_afterElection`), and the
authority of a board that has changed can be satisfied (`isSatisfiable_of_isMembershipChange`). So
an election whose ballot is there can be closed (`Closable.completes`), and where none is left
another one can be held (`completes_wholeElection`).
-/

namespace TrusteeBoard

open Program

/-! ### Seating does not fail -/

namespace Board

/-- Where a seat is free, whoever has none can be seated. The board then has a size, also as a
word. -/
theorem exists_seat {b : Board} {name : Account} (fresh : b.contains name = false)
    (free : b.vacancies ≠ 0) : ∃ b', b.seat name = .ok b' ∧ b'.size ≠ 0 := by
  have unseated : name ∉ b.members.keys := by
    rw [← contains_iff, fresh]
    exact Bool.false_ne_true
  have below : b.size.toNat < b.maxSeats.toNat :=
    Nat.not_le.1 (mt vacancies_eq_zero_iff.2 free)
  have bound := b.maxSeats.toNat_lt
  have next : (b.size + 1).toNat = b.size.toNat + 1 := by
    rw [UInt32.toNat_add, UInt32.toNat_one]
    omega
  have room : ¬b.maxSeats < b.size + 1 := by
    rw [UInt32.lt_iff_toNat_lt, next]
    omega
  refine ⟨_, seat_eq_ok_iff.2 ⟨unseated, room, rfl⟩, fun zero => ?_⟩
  have size : UInt32.ofNat (b.members.insert name ()).size = b.size + 1 := by
    rw [OrderedMap.size_insert_of_notMem unseated, UInt32.ofNat_add]
    rfl
  rw [← size, show UInt32.ofNat (b.members.insert name ()).size = 0 from zero] at next
  cases next

/-- Winners are seated while there are seats. Either nobody is seated or the board has a size. -/
theorem exists_seatAll (b : Board) (winners : List Account) : ∃ b',
    afterElection.seatAll b winners = .ok b' ∧ (b' = b ∨ b'.size ≠ 0) := by
  induction winners generalizing b with
  | nil => exact ⟨b, rfl, .inl rfl⟩
  | cons winner rest ih =>
    rw [afterElection.seatAll]
    split
    · exact ih b
    · next fresh =>
      split
      · exact ⟨b, rfl, .inl rfl⟩
      · next free =>
        obtain ⟨next, seated, sized⟩ := exists_seat (Bool.eq_false_iff.2 fresh) free
        rw [seated]
        obtain ⟨b', seatsRest, unchanged | nonzero⟩ := ih next
        · exact ⟨b', seatsRest, .inr (unchanged ▸ sized)⟩
        · exact ⟨b', seatsRest, .inr nonzero⟩

theorem exists_afterElection (b : Board) (kind : ElectionKind) (winners : List Account) : ∃ b',
    b.afterElection kind winners = .ok b' ∧ (b' = b ∨ b'.members.keys = [] ∨ b'.size ≠ 0) := by
  obtain ⟨b', seated, unchanged | nonzero⟩ :=
    exists_seatAll (if kind = .term ∧ winners ≠ [] then b.clear else b) winners
  · refine ⟨b', seated, ?_⟩
    rw [unchanged]
    split
    · exact .inr (.inl rfl)
    · exact .inl rfl
  · exact ⟨b', seated, .inr (.inr nonzero)⟩

end Board

/-! ### Authorities that can be satisfied -/

/-- An authority is pushed for a board that has changed, which is empty or has a size. -/
theorem isSatisfiable_of_isMembershipChange {settings : Settings} {r : Records} {c : Config}
    {after : Board} {changes : List Change} {time : Timestamp}
    (h : after = r.board c.maxSeats ∨ after.members.keys = [] ∨ after.size ≠ 0)
    (moves : (r.rosterChange settings c after changes time).isMembershipChange = true) :
    (r.rosterChange settings c after changes time).next.IsSatisfiable := by
  rcases h with same | sized
  · have stays : (r.rosterChange settings c after changes time).isMembershipChange = false :=
      RosterChange.isMembershipChange_between_eq_false_iff.2 (by rw [same])
    cases stays.symm.trans moves
  · exact settings.thresholdRule.isSatisfiable_authorityOver c.publisher sized

/-! ### The last operations of an election -/

namespace World

variable (settings : Settings)

/-- A calm world with an active election whose ballot is there and over, and in which the account
signs. -/
structure Closable (w : World MemoryStore) (holder : Account) (c : Config) : Prop where
  calm : w.Calm
  signed : holder ∈ w.host.callers.keys
  stored : w.store.records.config = some c
  active : c.electionActive = true
  balloted : ∃ ballot, c.openBallot = some ballot ∧ ballot ∈ w.ballots.ballots.keys
  due : c.votingClosesAt ≤ w.host.clock

/-- A calm world with an active election whose ballot is there, and in which the account signs. -/
structure Open (w : World MemoryStore) (holder : Account) (c : Config) : Prop where
  calm : w.Calm
  signed : holder ∈ w.host.callers.keys
  stored : w.store.records.config = some c
  active : c.electionActive = true
  balloted : ∃ ballot, c.openBallot = some ballot ∧ ballot ∈ w.ballots.ballots.keys

/-- No election is left in the records. -/
def Settled (w : World MemoryStore) : Prop :=
  ∃ c, w.store.records.config = some c ∧ c.phase = .idle ∧ c.openBallot = none

/-- What is left to do about an election in the phase: to start the voting unless it has been
started, and to close it after reports to the ballot service. -/
def remainder (phase : Phase) (holder : Account) (reports : List (BallotId × Tally)) : List Event :=
  (if phase = .nominating then [.perform (.startElection holder)] else []) ++
    (reports.map (fun report => .setTally report.1 report.2) ++ [.perform (.endElection holder)])

variable {settings} {w : World MemoryStore} {holder : Account} {c : Config}

theorem Closable.isOpen (h : w.Closable holder c) : w.Open holder c :=
  ⟨h.calm, h.signed, h.stored, h.active, h.balloted⟩

theorem Open.closable (h : w.Open holder c) (due : c.votingClosesAt ≤ w.host.clock) :
    w.Closable holder c :=
  ⟨h.calm, h.signed, h.stored, h.active, h.balloted, due⟩

/-- The time may be set at will. -/
theorem Open.setClock (h : w.Open holder c) (time : Timestamp) :
    (w.after settings (.setClock time)).Open holder c :=
  ⟨h.calm.with_host h.calm.host, h.signed, h.stored, h.active, h.balloted⟩

theorem votingOpensAt_le (c : Config) : c.votingOpensAt ≤ c.votingClosesAt := by
  refine UInt64.le_iff_toNat_le.2 ?_
  show _ ≤ (capAdd c.votingOpensAt.secs c.votingSpan).toNat
  rw [toNat_capAdd]
  have := c.votingOpensAt.secs.toNat_lt
  omega

/-- A planned election can be opened. -/
theorem yields_makeElection (calm : w.Calm) (signed : holder ∈ w.host.callers.keys)
    (stored : w.store.records.config = some c) {plan : ElectionPlan}
    (planned : c.planElection w.host.clock = .ok plan) :
    w.Yields ((Operation.makeElection holder).program settings) fun _ w' =>
      ∃ ballot, w'.Open holder (c.openElection plan ballot) ∧ w'.host = w.host := by
  refine Yields.andThen Receipt.ballot ?_
  refine (reads_authorize calm signed).query fun past => ?_
  refine (reads_requireConfig (calm.with_history past) stored).query fun past => ?_
  refine (reads_now (calm.with_history past)).query fun past => ?_
  refine (reads_ofExcept planned).query fun past => ?_
  refine (yields_openBallot (calm.with_history past) _ _ [] _ _).bind ?_
  rintro ballot w' ⟨calm, sameHost, -, opened⟩
  refine (yields_apply calm [.clearCandidates, .putConfig (c.openElection plan ballot)]).bind ?_
  rintro _ w'' ⟨calm', sameHost', sameBallots, after⟩
  refine yields_pure ⟨ballot, ⟨calm', ?_, ?_, rfl, ballot, rfl, ?_⟩, sameHost'.trans sameHost⟩
  · rw [sameHost', sameHost]
    exact signed
  · rw [after]
    rfl
  · rwa [sameBallots]

/-- The voting can be started from the beginning of the window on. -/
theorem Open.yields_startElection (h : w.Open holder c) (nominating : c.phase = .nominating)
    (opens : c.votingOpensAt ≤ w.host.clock) :
    w.Yields ((Operation.startElection holder).program settings) fun _ w' =>
      w'.Open holder { c with phase := .voting } ∧ w'.host = w.host := by
  obtain ⟨ballot, opened, found⟩ := h.balloted
  have begun : c.beginVoting w.host.clock = .ok (ballot, { c with phase := .voting }) :=
    Config.beginVoting_eq_ok_iff.2 ⟨h.active, opened, nominating, UInt64.not_lt.2 opens, rfl⟩
  refine Yields.andThen Receipt.ballot ?_
  refine (reads_authorize h.calm h.signed).query fun past => ?_
  refine (reads_requireConfig (h.calm.with_history past) h.stored).query fun past => ?_
  refine (reads_now (h.calm.with_history past)).query fun past => ?_
  refine (reads_ofExcept begun).query fun past => ?_
  refine (yields_openVoting (h.calm.with_history past) found).bind ?_
  rintro _ w' ⟨calm, sameHost, -, stays⟩
  refine (yields_apply calm [.putConfig { c with phase := .voting }]).bind ?_
  rintro _ w'' ⟨calm', sameHost', sameBallots, after⟩
  refine yields_pure ⟨⟨calm', ?_, ?_, h.active, ⟨ballot, opened, ?_⟩⟩, sameHost'.trans sameHost⟩
  · rw [sameHost', sameHost]
    exact h.signed
  · rw [after]
    rfl
  · rwa [sameBallots]

theorem Closable.yields_startElection (h : w.Closable holder c)
    (nominating : c.phase = .nominating) :
    w.Yields ((Operation.startElection holder).program settings) fun _ w' =>
      w'.Closable holder { c with phase := .voting } := by
  refine (h.isOpen.yields_startElection nominating
    (UInt64.le_trans (votingOpensAt_le c) h.due)).mono ?_
  rintro _ w' ⟨voting, sameHost⟩
  exact voting.closable (sameHost ▸ h.due)

theorem Closable.yields_endElection (h : w.Closable holder c) (voting : c.phase = .voting) :
    w.Yields ((Operation.endElection holder).program settings) fun _ w' =>
      w'.Calm ∧ w'.Settled := by
  obtain ⟨ballot, opened, present⟩ := h.balloted
  obtain ⟨bal, found⟩ := OrderedMap.mem_keys_iff.1 present
  have begun : c.beginResolving w.host.clock = .ok (ballot, { c with phase := .resolving }) :=
    Config.beginResolving_eq_ok_iff.2 ⟨h.active, opened, voting, UInt64.not_lt.2 h.due, rfl⟩
  obtain ⟨after, elected, sized⟩ := (w.store.records.board c.maxSeats).exists_afterElection
    ({ c with phase := .resolving } : Config).electionKind
    (w.store.records.contest settings { c with phase := .resolving }
      (bal.tally.getD {})).outcome.winners
  refine (Yields.andThen Receipt.report ?_).calm h.calm
  refine (reads_authorize h.calm h.signed).query fun past => ?_
  refine (reads_requireConfig (h.calm.with_history past) h.stored).query fun past => ?_
  refine (reads_now (h.calm.with_history past)).query fun past => ?_
  refine (reads_ofExcept begun).query fun past => ?_
  refine (reads_tally (h.calm.with_history past) found).query fun past => ?_
  refine (reads_names (h.calm.with_history past)).query fun past => ?_
  refine (reads_load (h.calm.with_history past) c.maxSeats).query fun past => ?_
  refine (reads_ofExcept elected).query fun past => ?_
  refine (yields_commit (h.calm.with_history past) (w.store.records.rosterChange settings
    { c with phase := .resolving } after _ _)
      (isSatisfiable_of_isMembershipChange sized)).bind ?_
  rintro _ w' stored
  have finished := congrArg Records.config stored
  rw [Records.config_after_rosterChange, Records.config_after_append] at finished
  exact yields_pure ⟨_, finished, rfl, rfl⟩

theorem Closable.setTally (h : w.Closable holder c) (ballot : BallotId) (tally : Tally) :
    (w.after settings (.setTally ballot tally)).Closable holder c := by
  obtain ⟨opened, active, present⟩ := h.balloted
  have quiet : (w.ballots.setTally ballot tally).failNextCall = false := by
    unfold BallotService.setTally
    split <;> exact h.calm.ballots
  have lasting : Lasting settings fun w : World MemoryStore => opened ∈ w.ballots.ballots.keys :=
    lasting_ballot opened
  exact ⟨⟨h.calm.faults, h.calm.host, quiet, h.calm.store⟩, h.signed, h.stored, h.active,
    ⟨opened, active, lasting.between nofun present⟩, h.due⟩

theorem Closable.completes_counting (h : w.Closable holder c) (voting : c.phase = .voting)
    (reports : List (BallotId × Tally)) :
    w.Completes settings (reports.map (fun report => .setTally report.1 report.2) ++
      [.perform (.endElection holder)]) fun w' => w'.Calm ∧ w'.Settled := by
  induction reports generalizing w with
  | nil => exact .perform (h.yields_endElection voting) fun _ _ closed => completes_nil closed
  | cons report rest ih => exact ih (h.setTally report.1 report.2)

theorem Closable.completes (h : w.Closable holder c)
    (phase : c.phase = .nominating ∨ c.phase = .voting) (reports : List (BallotId × Tally)) :
    w.Completes settings (remainder c.phase holder reports) fun w' => w'.Calm ∧ w'.Settled := by
  unfold remainder
  rcases phase with nominating | voting
  · rw [if_pos nominating]
    exact .perform (h.yields_startElection nominating) fun _ _ started =>
      started.completes_counting rfl reports
  · rw [if_neg (by rw [voting]; exact nofun)]
    exact h.completes_counting voting reports

/-! ### Whole elections -/

/-- An election from its opening to its closing. All of it happens at the last point in time, when
every term is over and every window is open and over. -/
def wholeElection (holder : Account) : List Event :=
  [.signAs [holder], .setClock .last, .perform (.makeElection holder)] ++
    remainder .nominating holder []

theorem completes_wholeElection (calm : w.Calm) (settled : w.Settled) :
    w.Completes settings (wholeElection holder) fun w' => w'.Calm ∧ w'.Settled := by
  obtain ⟨c, stored, idle, unopened⟩ := settled
  have planned : c.planElection .last = .ok ⟨.term, c.maxSeats, Timestamp.last.plus c.startDelay,
      (Timestamp.last.plus c.startDelay).plus c.votingSpan⟩ :=
    Config.planElection_eq_ok_iff.2 ⟨unopened, idle, rfl, rfl,
      .inl ⟨Config.isTermExpired_iff.2 (Timestamp.le_last _), rfl, rfl⟩⟩
  have ready : ((w.after settings (.signAs [holder])).after settings (.setClock .last)).Calm :=
    calm.with_host calm.host
  have signed : holder ∈ (OrderedSet.ofList [holder]).keys :=
    OrderedSet.mem_keys_ofList.2 (List.mem_singleton.2 rfl)
  refine .signAs (.setClock (.perform (yields_makeElection ready signed stored planned) ?_))
  rintro _ w' ⟨ballot, opened, sameHost⟩
  refine (opened.closable ?_).completes (.inl rfl) []
  rw [sameHost]
  exact Timestamp.le_last _

/-- Elections can be held one after the other. -/
theorem completes_replicate_wholeElection (calm : w.Calm) (settled : w.Settled) (n : ℕ) :
    w.Completes settings (List.replicate n (wholeElection holder)).flatten fun w' =>
      w'.Calm ∧ w'.Settled := by
  induction n generalizing w with
  | zero => exact completes_nil ⟨calm, settled⟩
  | succ n ih =>
    rw [List.replicate_succ, List.flatten_cons]
    exact completes_append (completes_wholeElection calm settled) fun w' after =>
      ih after.1 after.2

end World

end TrusteeBoard
