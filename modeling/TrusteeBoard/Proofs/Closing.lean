import TrusteeBoard.Proofs.Completion
import TrusteeBoard.Proofs.Incumbents
import TrusteeBoard.Proofs.Operation.Succeeds
import TrusteeBoard.Proofs.World.Signers

/-!
# Closing an election

What the end of an election makes of the records, and what it reports and pushes, is gathered in
`Closes`. Winners never outnumber the seats that are theirs, whoever has resigned since the election
was opened (`Records.Balanced.room`), so that all of them are on the board after it, and the end of
an election that is due is not refused unless a collaborator fails (`History.election_closes`).
-/

namespace TrusteeBoard

open Program Sample

variable {settings : Settings} {r r' : Records} {c : Config} {tally : Tally} {time : Timestamp}
  {xs : List Exchange} {es : List Entry}

/-- A closed election has no more winners than there are seats for them, beside the members unless
these are replaced. -/
theorem Records.Balanced.room (h : r.Balanced) (stored : r.config = some c)
    (within : c.openSeats ≤ c.maxSeats) (tally : Tally) :
    (if c.electionKind = .term ∧ (r.contest settings c tally).outcome.winners ≠ [] then 0
      else r.members.size) + (r.contest settings c tally).outcome.winners.length ≤
      c.maxSeats.toNat := by
  split
  · rw [Nat.zero_add]
    exact length_winners_le settings r within tally
  · next joined =>
    cases term : c.termElection with
    | true =>
      have lost : (r.contest settings c tally).outcome.winners = [] := by
        by_contra won
        exact joined ⟨if_pos term, won⟩
      rw [lost]
      exact (h.config stored).seated_le
    | false =>
      have few : (r.contest settings c tally).outcome.winners.length ≤ c.openSeats.toNat :=
        Contest.length_winners_le _
      have free := (h.config stored).openSeats_add term
      omega

/-! ### The records after it -/

namespace Records

variable {after : Board} {changes : List Change}

variable (settings) in
/-- A roster change leaves the records of those who stay and gives new ones to those who come. -/
theorem find?_members_after_rosterChange (filed : r.Filed) (c : Config) (after : Board)
    (keeps : ∀ change ∈ changes, ¬change.IsMembership) (time : Timestamp) (name : Account) :
    (r.after (r.rosterChange settings c after changes time).changes).members.find? name =
      if name ∈ after.members.keys then
        if name ∈ r.members.keys then r.members.find? name else some ⟨name, time⟩
      else none := by
  rw [rosterChange, find?_members_after_between (keys_board filed c.maxSeats).symm keeps,
    keys_board filed]

end Records

/-- Whether the call is a push. -/
def Exchange.isPush : Exchange → Bool
  | ⟨.setAuthority _ _, _⟩ => true
  | _ => false

theorem Exchange.isPush_eq_false {x : Exchange} (h : ¬x.call.IsPush) : x.isPush = false := by
  obtain ⟨c, a⟩ := x
  cases c <;> first | rfl | exact (h trivial).elim

theorem RosterChange.push_eq (change : RosterChange) : change.push =
    if change.seated = [] ∧ change.unseated = [] then []
    else [⟨.setAuthority change.account change.next, .ok ()⟩] := by
  rw [push]
  by_cases still : change.seated = [] ∧ change.unseated = []
  · rw [if_pos still, isMembershipChange_eq_false_iff.2 still, if_neg Bool.false_ne_true]
  · have moves : change.isMembershipChange = true := by
      by_contra stays
      exact still (isMembershipChange_eq_false_iff.1 (Bool.eq_false_iff.2 stays))
    rw [if_neg still, if_pos moves]

theorem RosterChange.filter_isPush_push (change : RosterChange) (changes : List Change) :
    (change.push ++ [(⟨.apply changes, .ok ()⟩ : Exchange)]).filter (·.isPush) = change.push := by
  rw [push]
  split <;> rfl

variable (settings) in
/-- The end of an election that the record `c` has opened: what comes of it at the time `time` with
the tally `tally`, what was pushed on the way, and which records are left. -/
structure Closes (r : Records) (c : Config) (tally : Tally) (time : Timestamp)
    (xs : List Exchange) (report : ElectionReport) (r' : Records) : Prop where
  ballot : c.openBallot = some report.ballot
  kind : report.kind = c.electionKind
  outcome : report.outcome = (r.contest settings c tally).outcome
  /-- The winners are the board if it was replaced, and else join it. -/
  board : ∀ name, name ∈ r'.members.keys ↔
    if report.kind = .term ∧ report.outcome.winners ≠ [] then name ∈ report.outcome.winners
    else name ∈ r.members.keys ∨ name ∈ report.outcome.winners
  kept : ∀ name ∈ r'.members.keys, name ∈ r.members.keys →
    r'.members.find? name = r.members.find? name
  gained : ∀ name ∈ r'.members.keys, name ∉ r.members.keys →
    r'.members.find? name = some ⟨name, time⟩
  candidates : r'.candidates = .empty
  nominees : ∀ name, r'.nominees.find? name =
    if name ∈ r.candidates.keys then none else r.nominees.find? name
  openSeats : report.openSeats.toNat + r'.members.size = c.maxSeats.toNat
  record : r'.config = some
    { c with
      openSeats := report.openSeats
      lastElectionAt := time
      openBallot := none
      electionActive := false
      termElection := false
      phase := .idle }
  /-- In the order of names, as keys are. -/
  seated : report.seated = r'.members.keys.filter (· ∉ r.members.keys)
  unseated : report.unseated = r.members.keys.filter (· ∉ r'.members.keys)
  /-- The authority of the new board is pushed once if the board has changed. -/
  pushes : xs.filter (·.isPush) =
    if report.seated = [] ∧ report.unseated = [] then []
    else [⟨.setAuthority settings.governedAccount
      (settings.thresholdRule.authorityOver c.publisher r'.members.keys), .ok ()⟩]

/-- The roster change that closes an election with the board `after`. -/
theorem closes_of_elected (past : History es r) (balanced : r.Balanced) (stored : r.config = some c)
    {ballot : BallotId} {finished : Config} {after : Board}
    (begun : c.beginResolving time = .ok (ballot, { c with phase := .resolving }))
    (elected : (r.board c.maxSeats).afterElection c.electionKind
      (r.contest settings c tally).outcome.winners = .ok after)
    (closed : finished = Config.finishElection { c with phase := .resolving } time
      (UInt32.ofNat (after.without (r.board c.maxSeats)).length) after.size)
    {change : RosterChange} (edits : change = r.rosterChange settings c after
      (Candidacy.resolution r.candidateNames ++ [.putConfig finished]) time)
    (pushed : xs.filter (·.isPush) = change.push) :
    Closes settings r c tally time xs
      { ballot, kind := c.electionKind, outcome := (r.contest settings c tally).outcome,
        seated := change.seated, unseated := change.unseated, openSeats := finished.openSeats }
      (r.after change.changes) := by
  have filed := past.filed
  have opened := (Config.beginResolving_eq_ok_iff.1 begun).2.1
  have reset : finished =
      { c with
        openSeats := finished.openSeats
        lastElectionAt := time
        openBallot := none
        electionActive := false
        termElection := false
        phase := .idle } := by
    rw [closed]
    rfl
  have keeps := resolution_keeps r.candidateNames finished
  have before := Records.keys_board filed c.maxSeats
  have keys : (r.after change.changes).members.keys = after.members.keys := by
    rw [edits, Records.keys_members_after_rosterChange settings filed c after keeps]
  have found (name : Account) : (r.after change.changes).members.find? name =
      if name ∈ after.members.keys then
        if name ∈ r.members.keys then r.members.find? name else some ⟨name, time⟩
      else none := by
    rw [edits, Records.find?_members_after_rosterChange settings filed c after keeps]
  have record : (r.after change.changes).config = some finished := by
    rw [edits, Records.config_after_rosterChange, Records.config_after_append]
  have settled : (r.after change.changes).Balanced := by
    rw [edits]
    refine .of_rosterChange filed keeps (r.config_after_append _ _) ?_
    rw [closed]
    exact balanced_end filed balanced stored begun elected
  have seated : change.seated =
      (r.after change.changes).members.keys.filter (· ∉ r.members.keys) := by
    rw [keys, ← before, edits]
    exact Board.without_eq_filter
  have unseated : change.unseated =
      r.members.keys.filter (· ∉ (r.after change.changes).members.keys) := by
    rw [keys, ← before, edits]
    exact Board.without_eq_filter
  exact
    { ballot := opened
      kind := rfl
      outcome := rfl
      board := fun name => by
        rw [keys, ← before]
        refine Board.mem_afterElection_iff elected ?_
        rw [r.size_board filed]
        exact balanced.room stored (past.openSeats_le c stored) tally
      kept := fun name stays seated => by
        rw [keys] at stays
        rw [found, if_pos stays, if_pos seated]
      gained := fun name comes unseated => by
        rw [keys] at comes
        rw [found, if_pos comes, if_neg unseated]
      candidates := by
        rw [edits, Records.candidates_after_rosterChange, Records.after_resolution]
      nominees := fun name => by
        rw [edits, Records.nominees_after_rosterChange, Records.after_resolution]
        simp only [OrderedMap.find?_foldl_erase, mem_candidateNames_iff filed]
      openSeats := by
        have noTerm : finished.termElection = false := by
          rw [closed]
          rfl
        have seats : finished.maxSeats = c.maxSeats := by
          rw [closed]
          rfl
        rw [← seats]
        exact (settled.config record).openSeats_add noTerm
      record := record.trans (congrArg some reset)
      seated, unseated
      pushes := by
        rw [pushed, RosterChange.push_eq, keys, edits]
        rfl }

/-- An election that was closed left the records that `Closes` describes. -/
theorem closes_of_path (past : History es r) (balanced : r.Balanced) (stored : r.config = some c)
    {holder : Account} {receipt : Receipt}
    (path : ((Operation.endElection holder).program settings).Path xs (.ok receipt))
    (serves : r.Serves xs r') : ∃ report tally time, receipt = .report report ∧
      ⟨.tally report.ballot, .ok tally⟩ ∈ xs ∧ ⟨.now, time⟩ ∈ xs ∧
      Closes settings r c tally time xs report r' := by
  obtain ⟨told, written⟩ := serves.of_ok path ((Operation.endElection holder).writesLast settings)
  have edits : (Operation.endElection holder).EditsBoard := trivial
  generalize hresult : Except.ok receipt = result at path
  cases rosterPath_of_path edits path with
  | refused => cases hresult
  | @committed ys zs change wrap outcome quiet prepared course =>
    cases course with
    | stored =>
      cases hresult
      obtain rfl := written change.changes (by simp)
      cases prepared r fun y hy => told y (by simp [hy]) with
      | @endElection _ current resolving finished ballot tally after time signed configured asked
          begun counted elected closed =>
        cases stored.symm.trans configured
        obtain ⟨-, -, -, -, rfl⟩ := Config.beginResolving_eq_ok_iff.1 begun
        refine ⟨_, tally, time, rfl, by simp [counted], by simp [asked], ?_⟩
        refine closes_of_elected past balanced stored begun elected closed rfl ?_
        have silent : ys.filter (·.isPush) = [] := List.filter_eq_nil_iff.2 fun y hy => by
          rw [Exchange.isPush_eq_false (quiet y hy).not_isPush]
          exact Bool.false_ne_true
        rw [List.filter_append, silent, List.nil_append]
        exact RosterChange.filter_isPush_push _ _
    | _ => cases hresult

/-! ### Nothing is refused -/

/-- Where no collaborator fails, the election that a record in voting has open can be closed from
the end of its voting window on. -/
theorem succeeds_endElection {given : Exchange → Prop}
    (faithful : ∀ x, given x → x.Faithful r) (stored : r.config = some c)
    (active : c.electionActive = true) {ballot : BallotId} (opened : c.openBallot = some ballot)
    (voting : c.phase = .voting) (due : ∀ time, given ⟨.now, time⟩ → c.votingClosesAt ≤ time)
    (holder : Account) :
    ((Operation.endElection holder).program settings).Succeeds given fun _ => True := by
  have ends : (endElection settings holder).Succeeds given fun _ => True := by
    refine (succeeds_authorize faithful holder).bind fun _ _ => ?_
    refine (succeeds_requireConfig faithful stored).bind fun current same => ?_
    subst current
    refine succeeds_now.bind fun time asked => ?_
    have begun : c.beginResolving time = .ok (ballot, { c with phase := .resolving }) :=
      Config.beginResolving_eq_ok_iff.2 ⟨active, opened, voting, UInt64.not_lt.2 (due time asked),
        rfl⟩
    refine (succeeds_ofExcept begun).bind ?_
    rintro _ rfl
    refine (succeeds_tally faithful ballot).bind fun tally _ => ?_
    refine (succeeds_names faithful).bind ?_
    rintro _ rfl
    refine (succeeds_load faithful c.maxSeats).bind ?_
    rintro _ rfl
    obtain ⟨after, elected, sized⟩ := (r.board c.maxSeats).exists_afterElection c.electionKind
      (r.contest settings c tally).outcome.winners
    refine (succeeds_ofExcept elected).bind ?_
    rintro _ rfl
    exact (succeeds_commit faithful (isSatisfiable_of_isMembershipChange sized)).bind
      fun _ _ => trivial
  exact ends.bind fun _ _ => trivial

theorem Config.Balanced.active_of_voting {seated : Nat} (h : c.Balanced seated)
    (voting : c.phase = .voting) : c.electionActive = true := by
  by_contra inactive
  cases voting.symm.trans (h.idle.2 (Bool.eq_false_iff.2 inactive))

/-- After every history, a voting election whose voting window is over is closed as `Closes` says,
whatever the tally and the tie policy, unless a collaborator fails or the holder does not sign. The
host has no reason to reject the authority of the new board. -/
theorem History.closes_of_unfailed (past : History es r)
    (countable : ∀ e ∈ es, e.operation.KeepsSeatsCountable) (stored : r.config = some c)
    (voting : c.phase = .voting) {holder : Account} {result : Except Refusal Receipt}
    (path : ((Operation.endElection holder).program settings).Path xs result)
    (serves : r.Serves xs r') (unfailed : ∀ x ∈ xs, x.failed = false)
    (due : ∀ time, ⟨.now, time⟩ ∈ xs → c.votingClosesAt ≤ time) :
    ∃ report tally time, result = .ok (.report report) ∧ ⟨.tally report.ballot, .ok tally⟩ ∈ xs ∧
      ⟨.now, time⟩ ∈ xs ∧ Closes settings r c tally time xs report r' := by
  have balanced := past.balanced countable
  cases result with
  | ok receipt =>
    obtain ⟨report, tally, time, rfl, counted, asked, closes⟩ :=
      closes_of_path past balanced stored path serves
    exact ⟨report, tally, time, rfl, counted, asked, closes⟩
  | error e =>
    exfalso
    have kept := balanced.config stored
    have active := kept.active_of_voting voting
    obtain ⟨ballot, opened⟩ := Option.isSome_iff_exists.1 (kept.ballot.symm.trans active)
    have told := (serves.of_unstored
      (path.unstored_of_error ((Operation.endElection holder).writesLast settings))).2
    have succeeds : ((Operation.endElection holder).program settings).Succeeds (· ∈ xs)
        fun _ => True :=
      succeeds_endElection (fun x hx => ⟨told x hx, unfailed x hx⟩) stored active opened voting due
        holder
    obtain ⟨receipt, done, -⟩ := succeeds.of_path path fun _ => id
    cases done

/-! ### Calm worlds -/

namespace World

variable (settings) in
/-- After every run from an empty store, nothing but a pending failure keeps a signing holder from
closing a voting election that is due: its ballot is still there. -/
theorem closes_of_calm {w : World MemoryStore} (empty : w.store.records = {}) (events : List Event)
    (countable : ∀ e ∈ w.entries settings events, e.operation.KeepsSeatsCountable)
    (calm : (w.afterAll settings events).Calm)
    (stored : (w.afterAll settings events).store.records.config = some c)
    (voting : c.phase = .voting) (due : c.votingClosesAt ≤ (w.afterAll settings events).host.clock)
    {holder : Account} (signs : holder ∈ (w.afterAll settings events).host.callers.keys) :
    let before := w.afterAll settings events
    let e := before.entry settings (.endElection holder)
    ∃ report tally, e.result = .ok (.report report) ∧
      ⟨.tally report.ballot, .ok tally⟩ ∈ e.exchanges ∧
      Closes settings before.store.records c tally before.host.clock e.exchanges report
        (before.after settings (.perform (.endElection holder))).store.records := by
  intro before e
  have past : History (w.entries settings events) before.store.records :=
    history_of_empty empty events
  have balanced := past.balanced countable
  have active := (balanced.config stored).active_of_voting voting
  obtain ⟨-, balloted⟩ := balloted_of_active empty events stored active
  have closable : before.Closable holder c :=
    { calm, signed := signs, stored, active, balloted, due }
  have yields : before.Yields ((Operation.endElection holder).program settings)
      fun _ w' => w'.Calm ∧ w'.Settled := closable.yields_endElection voting
  obtain ⟨receipt, _, run, -⟩ := yields
  have done : e.result = .ok receipt := congrArg Prod.fst run
  have path : ((Operation.endElection holder).program settings).Path e.exchanges e.result :=
    before.entry_path _
  rw [done] at path
  obtain ⟨report, tally, time, rfl, counted, asked, closes⟩ :=
    closes_of_path past balanced stored path (before.entry_serves _)
  obtain rfl := now_of_exchanges asked
  exact ⟨report, tally, done, counted, closes⟩

end World

/-- After every history, a voting election whose voting window is over is closed as `Closes` says,
whatever the tally and the tie policy, unless a collaborator fails or the holder does not sign. In
memory the collaborators have no other reason to fail than a pending failure: the ballot is there,
and the host accepts the authority of the new board. -/
theorem History.election_closes :
    (∀ {settings : Settings} {es : List Entry} {r r' : Records} {c : Config} {holder : Account}
      {xs : List Exchange} {result : Except Refusal Receipt}, History es r →
      (∀ e ∈ es, e.operation.KeepsSeatsCountable) → r.config = some c → c.phase = .voting →
      ((Operation.endElection holder).program settings).Path xs result → r.Serves xs r' →
      (∀ x ∈ xs, x.failed = false) → (∀ time, ⟨.now, time⟩ ∈ xs → c.votingClosesAt ≤ time) →
      ∃ report tally time, result = .ok (.report report) ∧
        ⟨.tally report.ballot, .ok tally⟩ ∈ xs ∧ ⟨.now, time⟩ ∈ xs ∧
        Closes settings r c tally time xs report r') ∧
    ∀ {settings : Settings} {w : World MemoryStore} {events : List Event} {c : Config}
      {holder : Account}, w.store.records = {} →
      (∀ e ∈ w.entries settings events, e.operation.KeepsSeatsCountable) →
      let before := w.afterAll settings events
      before.Calm → before.store.records.config = some c → c.phase = .voting →
      c.votingClosesAt ≤ before.host.clock → holder ∈ before.host.callers.keys →
      let e := before.entry settings (.endElection holder)
      ∃ report tally, e.result = .ok (.report report) ∧
        ⟨.tally report.ballot, .ok tally⟩ ∈ e.exchanges ∧
        Closes settings before.store.records c tally before.host.clock e.exchanges report
          (before.after settings (.perform (.endElection holder))).store.records :=
  ⟨fun past countable stored voting path serves unfailed due =>
      past.closes_of_unfailed countable stored voting path serves unfailed due,
    fun empty countable calm stored voting due signs =>
      World.closes_of_calm _ empty _ countable calm stored voting due signs⟩

/-- The only candidate of the succession wins the seat of the only member: on the exchanges that
there were, and because nothing was going to fail. -/
theorem History.election_closes_succession :
    let w := world.afterAll {} succession
    let e := w.entry {} (.endElection carol)
    let after := (w.after {} (.perform (.endElection carol))).store.records
    w.Calm ∧ ∃ c, w.store.records.config = some c ∧ c.phase = .voting ∧
      (∃ report tally time, (∀ x ∈ e.exchanges, x.failed = false) ∧
        e.result = .ok (.report report) ∧
        Closes {} w.store.records c tally time e.exchanges report after) ∧
      ∃ report tally, e.result = .ok (.report report) ∧
        ⟨.tally report.ballot, .ok tally⟩ ∈ e.exchanges ∧
        Closes {} w.store.records c tally w.host.clock e.exchanges report after := by
  intro w e after
  have past : History (world.entries {} succession) w.store.records :=
    World.history_of_empty rfl succession
  have countable : ∀ e ∈ world.entries {} succession, e.operation.KeepsSeatsCountable := by
    decide +kernel
  have ready : w.store.records.config.any
      fun c => decide (c.phase = .voting) && decide (c.votingClosesAt ≤ w.host.clock) := by
    decide +kernel
  obtain ⟨c, stored, voting, due⟩ := by
    simpa only [Option.any_eq_true, Bool.and_eq_true, decide_eq_true_eq] using ready
  have unfailed : ∀ x ∈ e.exchanges, x.failed = false := by decide +kernel
  have told (time : Timestamp) (asked : ⟨.now, time⟩ ∈ e.exchanges) : c.votingClosesAt ≤ time := by
    rwa [World.now_of_exchanges asked]
  obtain ⟨report, tally, time, done, -, -, closes⟩ := election_closes.1 past countable stored voting
    (w.entry_path _) (w.entry_serves _) unfailed told
  have calm : w.Calm :=
    ⟨by decide +kernel, by decide +kernel, by decide +kernel, by decide +kernel⟩
  have signs : carol ∈ w.host.callers.keys := by decide +kernel
  exact ⟨calm, c, stored, voting, ⟨report, tally, time, unfailed, done, closes⟩,
    election_closes.2 (w := world) rfl countable calm stored voting due signs⟩

end TrusteeBoard
