import TrusteeBoard.Proofs.BallotMirror
import TrusteeBoard.Proofs.World.Calm
import TrusteeBoard.Proofs.World.Signers

/-!
# Withdrawal

A registered candidate can withdraw until voting closes, with one exception. A start of voting whose
write fails leaves the ballot open for voting while the record still says nominating
(`Entry.StallsStart`), and then the ballot service rejects every withdrawal until the start has been
made again (`World.withdrawal_available`). Nothing else opens the ballot of an election that is
nominating (`Records.Prompt`).
-/

namespace TrusteeBoard

open Program Sample

/-! ### Ballots open for voting -/

/-- The exchange opened the ballot. -/
def Exchange.Opens (ballot : BallotId) : Exchange → Prop
  | ⟨.openBallot _ _ _ _ _, .ok opened⟩ => opened = ballot
  | _ => False

namespace Ballots

variable {m m' : Ballots} {ballot : BallotId}

/-- The ballot is open for voting. -/
def VotingOpen (m : Ballots) (ballot : BallotId) : Prop :=
  ∃ b, m.find? ballot = some b ∧ b.votingOpen = true

/-- An edit opens no ballot for voting unless the edited one. -/
theorem VotingOpen.of_edit {edited : BallotId} {f : Ballot → Ballot}
    (h : (m.edit edited f).VotingOpen ballot) : ballot = edited ∨ m.VotingOpen ballot := by
  obtain ⟨b, found, votes⟩ := h
  rw [find?_edit] at found
  split at found
  · next same => exact .inl same
  · exact .inr ⟨b, found, votes⟩

theorem VotingOpen.of_edit_keeps {edited : BallotId} {f : Ballot → Ballot}
    (h : (m.edit edited f).VotingOpen ballot) (keeps : ∀ b, (f b).votingOpen = b.votingOpen) :
    m.VotingOpen ballot := by
  obtain ⟨b, found, votes⟩ := h
  rw [find?_edit] at found
  split at found
  · next same =>
    subst same
    obtain ⟨b', found', rfl⟩ := Option.map_eq_some_iff.1 found
    exact ⟨b', found', (keeps b').symm.trans votes⟩
  · exact ⟨b, found, votes⟩

/-- Only the call for it opens a ballot for voting, and a ballot just opened is not. -/
theorem VotingOpen.of_afterExchange {x : Exchange} (h : (m.afterExchange x).VotingOpen ballot) :
    x = ⟨.openVoting ballot, .ok ()⟩ ∨ m.VotingOpen ballot ∧ ¬x.Opens ballot := by
  obtain ⟨c, a⟩ := x
  cases c with
  | openBallot name treasury options begins ends =>
    cases a with
    | error e => exact .inr ⟨h, id⟩
    | ok opened =>
      obtain ⟨b, found, votes⟩ := h
      change (m.insert opened _).find? ballot = _ at found
      rw [OrderedMap.find?_insert] at found
      split at found
      · cases found
        cases votes
      · next other => exact .inr ⟨⟨b, found, votes⟩, fun same => other same.symm⟩
  | addOption | removeOption =>
    cases a with
    | error e => exact .inr ⟨h, id⟩
    | ok u => exact .inr ⟨h.of_edit_keeps fun _ => rfl, id⟩
  | openVoting voted =>
    cases a with
    | error e => exact .inr ⟨h, id⟩
    | ok u =>
      rcases h.of_edit with rfl | before
      · exact .inl rfl
      · exact .inr ⟨before, id⟩
  | _ => exact .inr ⟨h, id⟩

theorem VotingOpen.of_serves {xs : List Exchange} (h : m'.VotingOpen ballot)
    (serves : m.Serves xs m') : ⟨.openVoting ballot, .ok ()⟩ ∈ xs ∨
      m.VotingOpen ballot ∧ ∀ x ∈ xs, ¬x.Opens ballot := by
  induction xs generalizing m with
  | nil =>
    obtain rfl : m' = m := serves
    exact .inr ⟨h, by simp⟩
  | cons x xs ih =>
    obtain ⟨-, rest⟩ := serves
    rcases ih rest with voted | ⟨before, unopened⟩
    · exact .inl (List.mem_cons_of_mem _ voted)
    · rcases before.of_afterExchange with rfl | ⟨before, unopened'⟩
      · exact .inl List.mem_cons_self
      · exact .inr ⟨before, List.forall_mem_cons.2 ⟨unopened', unopened⟩⟩

end Ballots

/-! ### Starts that were not recorded -/

/-- The entry opened the ballot for voting, but could not write that voting has started. -/
structure Entry.StallsStart (e : Entry) (ballot : BallotId) : Prop where
  starts : ∃ holder, e.operation = .startElection holder
  voted : ⟨.openVoting ballot, .ok ()⟩ ∈ e.exchanges
  unwritten : ∃ x ∈ e.exchanges, x.isFailedWrite = true

namespace Records

variable {settings : Settings} {r r' : Records} {xs : List Exchange} {op : Operation}
  {receipt : Receipt}

/-- While nominating, the ballot is not open for voting unless a start of voting could not be
written. -/
def Prompt (r : Records) (m : Ballots) (es : List Entry) : Prop :=
  ∀ c ballot, r.config = some c → c.electionActive = true → c.phase = .nominating →
    c.openBallot = some ballot → m.VotingOpen ballot → ∃ e ∈ es, e.StallsStart ballot

/-- The last operation of an election that is nominating has not started the voting. It has opened
the election, or the election was nominating before. -/
theorem nominating_of_step (step : Step settings r xs op receipt r') {c : Config}
    {ballot : BallotId} (configured : r'.config = some c) (active : c.electionActive = true)
    (nominating : c.phase = .nominating) (opened : c.openBallot = some ballot) :
    (¬∃ holder, op = .startElection holder) ∧ ((∃ x ∈ xs, x.Opens ballot) ∨
      ∃ c, r.config = some c ∧ c.electionActive = true ∧ c.phase = .nominating ∧
        c.openBallot = some ballot) := by
  cases step with
  | setConfig current owned signed inactive sound =>
    cases configured
    cases inactive.symm.trans active
  | nominate | unnominate | addCandidate | removeCandidate =>
    exact ⟨nofun, .inr ⟨c, configured, active, nominating, opened⟩⟩
  | makeElection signed configured' asked planned opened' =>
    cases configured
    cases opened
    exact ⟨nofun, .inl ⟨_, opened', rfl⟩⟩
  | startElection signed configured' asked begun opened' =>
    obtain ⟨-, -, -, -, rfl⟩ := Config.beginVoting_eq_ok_iff.1 begun
    cases configured
    cases nominating
  | roster prepared pushed =>
    cases prepared with
    | removeMember signed configured' left asked | resign signed configured' left asked =>
      rw [Records.config_after_rosterChange] at configured
      cases configured
      exact ⟨nofun, .inr ⟨_, configured', active, nominating, opened⟩⟩
    | endElection signed configured' asked begun counted elected closed =>
      rw [Records.config_after_rosterChange, Records.config_after_append] at configured
      subst closed
      cases configured
      cases active
    | seatBoard configured' signed inactive vacant known seated asked =>
      rw [Records.config_after_rosterChange, Records.config_after_append] at configured
      cases configured
      cases inactive.symm.trans active

end Records

/-- A refusal after a ballot was changed comes from a failed write. -/
theorem exists_failedWrite {settings : Settings} {op : Operation} {xs : List Exchange} {e : Refusal}
    (path : (op.program settings).Path xs (.error e)) {x : Exchange} (hx : x ∈ xs)
    (changes : x.ChangesBallot) : ∃ y ∈ xs, y.isFailedWrite = true := by
  have unstored := path.unstored_of_error (op.writesLast settings)
  cases ballotPath_of_path path with
  | spared spared => exact (spared x hx changes).elim
  | @done ys zs deed written undo queries prepared course =>
    cases course with
    | stored => exact (unstored ⟨.apply written, .ok ()⟩ (by simp) trivial).elim
    | kept failure => exact ⟨⟨.apply written, .error failure⟩, by simp, rfl⟩
    | takenBack failure answer => exact ⟨⟨.apply written, .error failure⟩, by simp, rfl⟩

theorem Operation.starts_of_mayAsk {op : Operation} {ballot : BallotId}
    (may : op.MayAsk (.openVoting ballot)) : ∃ holder, op = .startElection holder := by
  cases op <;> first | exact may.elim | exact ⟨_, rfl⟩

namespace Records

variable {r r' : Records} {m m' : Ballots} {es : List Entry} {e : Entry}

theorem Prompt.of_path (h : r.Prompt m es)
    (path : (e.operation.program e.settings).Path e.exchanges e.result)
    (serves : r.Serves e.exchanges r') (service : m.Serves e.exchanges m') :
    r'.Prompt m' (es ++ [e]) := by
  intro c ballot configured active nominating opened votes
  have starts (voted : ⟨.openVoting ballot, .ok ()⟩ ∈ e.exchanges) :=
    Operation.starts_of_mayAsk ((e.operation.onlyAsks e.settings).of_mem path voted)
  have carry (before : ∃ e' ∈ es, e'.StallsStart ballot) :
      ∃ e' ∈ es ++ [e], e'.StallsStart ballot :=
    before.imp fun _ => And.imp_left (List.mem_append_left _)
  cases result : e.result with
  | error refusal =>
    rw [result] at path
    rw [serves.of_error path (e.operation.writesLast e.settings)] at configured
    rcases votes.of_serves service with voted | ⟨before, -⟩
    · exact ⟨e, by simp, starts voted, voted, exists_failedWrite path voted trivial⟩
    · exact carry (h c ballot configured active nominating opened before)
  | ok receipt =>
    rw [result] at path
    obtain ⟨unstarted, source⟩ :=
      nominating_of_step (step_of_path path serves) configured active nominating opened
    obtain ⟨before, unopened⟩ :=
      (votes.of_serves service).resolve_left fun voted => unstarted (starts voted)
    rcases source with ⟨x, hx, opens⟩ | ⟨c', configured', active', nominating', opened'⟩
    · exact (unopened x hx opens).elim
    · exact carry (h c' ballot configured' active' nominating' opened' before)

end Records

namespace World

variable {settings : Settings} {w : World MemoryStore}

theorem prompt_afterAll {es : List Entry} (h : w.store.records.Prompt w.ballots.ballots es)
    (events : List Event) : (w.afterAll settings events).store.records.Prompt
      (w.afterAll settings events).ballots.ballots (es ++ w.entries settings events) := by
  induction events generalizing w es with
  | nil => simpa [entries, afterAll] using h
  | cons event rest ih =>
    cases event with
    | perform op =>
      have next := h.of_path (e := w.entry settings op) (w.entry_path op) (w.entry_serves op)
        (run_ballots _ w)
      rw [entries, List.append_cons]
      exact ih next
    | setTally ballot tally =>
      refine ih fun c other configured active nominating opened votes => ?_
      change Ballots.VotingOpen (w.ballots.setTally ballot tally).ballots other at votes
      rw [BallotService.setTally_ballots] at votes
      exact h c other configured active nominating opened (votes.of_edit_keeps fun _ => rfl)
    | _ => exact ih h

/-! ### Withdrawing -/

theorem reads_authorizeEither (calm : w.Calm) {first second : Account}
    (signed : first ∈ w.host.callers.keys ∨ second ∈ w.host.callers.keys) :
    w.Reads (authorizeEither first second) () := by
  unfold Reads
  rw [perform_authorizeEither calm.faults]
  by_cases granted : w.host.callers.contains first = true
  · rw [if_pos granted]
    exact ⟨_, rfl⟩
  · have other := signed.resolve_left fun h => granted (OrderedMap.contains_iff.2 h)
    rw [if_neg granted, if_pos (OrderedMap.contains_iff.2 other)]
    exact ⟨_, rfl⟩

theorem reads_withdrawal (calm : w.Calm) {candidate : Account}
    (registered : candidate ∈ w.store.records.candidates.keys) :
    w.Reads (Candidacy.withdrawal candidate) [.dropCandidate candidate] := by
  refine (reads_isCandidate calm candidate).bind fun history => ?_
  rw [OrderedMap.contains_iff.2 registered]
  exact ⟨history, rfl⟩

/-- An option of a ballot that is not open for voting is removed. -/
theorem yields_removeOption (calm : w.Calm) {ballot : BallotId} {b : Ballot} {option : Account}
    (found : w.ballots.ballots.find? ballot = some b) (closed : ¬b.votingOpen = true)
    (listed : option ∈ b.options.keys) : w.Yields (removeOption ballot option) fun _ w' =>
      w'.Calm ∧ w'.store = w.store := by
  have answered : w.ballots.removeOption ballot option = (.ok (), { w.ballots with
      ballots := w.ballots.ballots.insert ballot { b with options := b.options.erase option } }) :=
    withBallot_of_find? calm.ballots found
      ((if_neg closed).trans (if_pos (OrderedMap.contains_iff.2 listed)))
  refine (yields_call calm (.removeOption ballot option)).bind ?_
  rintro answer w' ⟨calm', history, rfl, rfl⟩
  show Yields _ (ofBallots (w.ballots.removeOption ballot option).1) _
  rw [answered]
  exact yields_pure ⟨calm', rfl⟩

/-- A ballot that is open for voting keeps its options. -/
theorem perform_removeOption_of_open (calm : w.Calm) {ballot : BallotId} {b : Ballot}
    (found : w.ballots.ballots.find? ballot = some b) (votes : b.votingOpen = true)
    (option : Account) : (w.perform (removeOption ballot option)).1 =
      .error (.ballots (.rejected ballot "voting already open")) := by
  have answered : (w.ballots.removeOption ballot option).1 =
      .error (.rejected ballot "voting already open") := by
    rw [BallotService.removeOption, withBallot_of_calm calm.ballots, found]
    dsimp only
    rw [if_pos votes]
  rw [removeOption, perform_call_bind calm.faults]
  show (perform (ofBallots (w.ballots.removeOption ballot option).1) _).1 = _
  rw [answered]
  rfl

/-- A calm world with an active election before the end of its window, the ballot of which mirrors
the candidates. The candidate is registered, and either it or the publisher signs. -/
structure Withdrawable (w : World MemoryStore) (candidate : Account) (c : Config)
    (ballot : BallotId) (b : Ballot) : Prop where
  calm : w.Calm
  signed : candidate ∈ w.host.callers.keys ∨ c.publisher ∈ w.host.callers.keys
  stored : w.store.records.config = some c
  window : c.withdrawalBallot w.host.clock = .ok ballot
  found : w.ballots.ballots.find? ballot = some b
  mirrors : b.Mirrors c w.store.records.candidates.keys
  registered : candidate ∈ w.store.records.candidates.keys

variable {candidate : Account} {c : Config} {ballot : BallotId} {b : Ballot}

theorem Withdrawable.yields (h : w.Withdrawable candidate c ballot b)
    (free : c.phase = .nominating → ¬b.votingOpen = true) :
    w.Yields (removeCandidate candidate) fun _ w' =>
      w'.store.records = w.store.records.after [.dropCandidate candidate] := by
  refine (reads_requireConfig h.calm h.stored).query fun past => ?_
  refine (reads_authorizeEither (h.calm.with_history past) h.signed).query fun past => ?_
  refine (reads_now (h.calm.with_history past)).query fun past => ?_
  refine (reads_ofExcept h.window).query fun past => ?_
  refine (reads_withdrawal (h.calm.with_history past) h.registered).query fun past => ?_
  dsimp only
  split
  · next nominating =>
    have listed : candidate ∈ b.options.keys := by
      rw [h.mirrors.nominating nominating]
      exact h.registered
    refine (yields_removeOption (h.calm.with_history past) h.found (free nominating)
      listed).bind ?_
    rintro _ w' ⟨calm, same⟩
    refine (yields_write calm [.dropCandidate candidate]).bind ?_
    rintro _ w'' ⟨rfl, -, -, -, after⟩
    exact yields_pure (after.trans (by rw [same]))
  · refine (yields_write (h.calm.with_history past) [.dropCandidate candidate]).bind ?_
    rintro _ w' ⟨rfl, -, -, -, after⟩
    exact yields_pure after

theorem Withdrawable.refused (h : w.Withdrawable candidate c ballot b)
    (nominating : c.phase = .nominating) (votes : b.votingOpen = true) :
    (w.perform (removeCandidate candidate)).1 =
      .error (.ballots (.rejected ballot "voting already open")) := by
  refine (reads_requireConfig h.calm h.stored).result fun past => ?_
  refine (reads_authorizeEither (h.calm.with_history past) h.signed).result fun past => ?_
  refine (reads_now (h.calm.with_history past)).result fun past => ?_
  refine (reads_ofExcept h.window).result fun past => ?_
  refine (reads_withdrawal (h.calm.with_history past) h.registered).result fun past => ?_
  dsimp only
  rw [if_pos nominating]
  exact run_bind_of_error
    (perform_removeOption_of_open (h.calm.with_history past) h.found votes candidate)

variable (settings) in
/-- After every run from an empty store in which no call that takes a deed back is rejected, and
once pending failures are cleared, a registered candidate can be withdrawn until voting closes, by
the candidate or by the publisher, unless a start of voting could not be written and the ballot is
therefore open while the record still says nominating. -/
theorem withdrawal_available (empty : w.store.records = {}) (events : List Event)
    (compensated : ∀ e ∈ w.entries settings events, Compensated e.exchanges)
    (stored : (w.afterAll settings events).store.records.config = some c)
    (active : c.electionActive = true)
    (early : (w.afterAll settings events).host.clock < c.votingClosesAt)
    (registered : candidate ∈ (w.afterAll settings events).store.records.candidates.keys)
    (signed : candidate ∈ (w.afterAll settings events).host.callers.keys ∨
      c.publisher ∈ (w.afterAll settings events).host.callers.keys) :
    let ready := (w.afterAll settings events).recovered
    let outcome := ready.perform ((Operation.removeCandidate candidate).program settings)
    ∃ ballot b, c.openBallot = some ballot ∧ ready.ballots.ballots.find? ballot = some b ∧
      if c.phase = .nominating ∧ b.votingOpen = true then
        (∃ e ∈ w.entries settings events, e.StallsStart ballot) ∧
          outcome.1 = .error (.ballots (.rejected ballot "voting already open")) ∧
          outcome.2.store.records = ready.store.records
      else
        outcome.1 = .ok .done ∧ outcome.2.store.records =
          { ready.store.records with
            candidates := ready.store.records.candidates.erase candidate } := by
  intro ready outcome
  obtain ⟨ballot, b, opened, found, mirrors⟩ :=
    ballot_mirrors_registry settings empty events compensated stored active
  have withdrawable : ready.Withdrawable candidate c ballot b :=
    { calm := ⟨rfl, rfl, rfl, rfl⟩
      signed, stored, found, mirrors, registered
      window := Config.withdrawalBallot_eq_ok_iff.2 ⟨active, opened, UInt64.not_le.2 early⟩ }
  refine ⟨ballot, b, opened, found, ?_⟩
  split
  · next stalled =>
    obtain ⟨nominating, votes⟩ := stalled
    have prompt : (w.afterAll settings events).store.records.Prompt
        (w.afterAll settings events).ballots.ballots (w.entries settings events) := by
      have start : w.store.records.Prompt w.ballots.ballots [] := by
        rw [empty]
        exact nofun
      exact prompt_afterAll start events
    have refused : outcome.1 = .error (.ballots (.rejected ballot "voting already open")) :=
      run_bind_of_error (withdrawable.refused nominating votes)
    exact ⟨prompt c ballot stored active nominating opened ⟨b, found, votes⟩, refused,
      (run_serves _ ready).of_error (path_perform refused) (Operation.writesLast settings _)⟩
  · next free =>
    obtain ⟨u, after, run, written⟩ :=
      withdrawable.yields fun nominating votes => free ⟨nominating, votes⟩
    have done : outcome = (.ok .done, after) := run_bind run fun _ => pure Receipt.done
    rw [done]
    exact ⟨rfl, written⟩

/-- Alice, whose second attempt to register has gone through, can withdraw. -/
theorem withdrawal_available_brokenRegistration :
    let ready := (world.afterAll {} brokenRegistration).recovered
    alice ∈ ready.store.records.candidates.keys ∧
      (ready.perform ((Operation.removeCandidate alice).program {})).1 = .ok .done := by
  intro ready
  have compensated : ∀ e ∈ world.entries {} brokenRegistration, Compensated e.exchanges := by
    decide +kernel
  have registered : alice ∈ ready.store.records.candidates.keys := by decide +kernel
  have signed : alice ∈ ready.host.callers.keys := by decide +kernel
  have underway : ready.store.records.config.any fun c =>
      c.electionActive && decide (ready.host.clock < c.votingClosesAt) := by
    decide +kernel
  have closed : ∀ e ∈ ready.ballots.ballots.entries, e.2.votingOpen = false := by decide +kernel
  obtain ⟨c, stored, underway⟩ := (Option.any_eq_true _ _).1 underway
  rw [Bool.and_eq_true, decide_eq_true_iff] at underway
  obtain ⟨ballot, b, -, found, available⟩ := withdrawal_available {} (w := world) rfl
    brokenRegistration compensated stored underway.1 underway.2 registered (.inl signed)
  have free : ¬(c.phase = .nominating ∧ b.votingOpen = true) := fun stalled => by
    cases (closed _ (OrderedMap.find?_eq_some_iff.1 found)).symm.trans stalled.2
  rw [if_neg free] at available
  exact ⟨registered, available.1⟩

/-- While the start of voting has not been recorded, alice cannot withdraw, although voting closes
only later and nothing fails any more. -/
theorem stalled_start_blocks_withdrawal :
    let w := world.afterAll {} stalledStart
    (∀ e ∈ world.entries {} stalledStart, Compensated e.exchanges) ∧
      (∃ c, w.store.records.config = some c ∧ c.electionActive = true ∧
        w.host.clock < c.votingClosesAt) ∧
      alice ∈ w.store.records.candidates.keys ∧ alice ∈ w.host.callers.keys ∧
      (w.recovered.perform ((Operation.removeCandidate alice).program {})).1 =
        .error (.ballots (.rejected ⟨1⟩ "voting already open")) := by
  intro w
  have underway : w.store.records.config.any fun c =>
      c.electionActive && decide (w.host.clock < c.votingClosesAt) := by
    decide +kernel
  obtain ⟨c, stored, underway⟩ := (Option.any_eq_true _ _).1 underway
  rw [Bool.and_eq_true, decide_eq_true_iff] at underway
  exact ⟨by decide +kernel, ⟨c, stored, underway⟩, by decide +kernel, by decide +kernel,
    by decide +kernel⟩

end World

end TrusteeBoard
