import TrusteeBoard.Proofs.Authority
import TrusteeBoard.Proofs.World.Ballots

/-!
# The ballot mirrors the registry

Candidates are kept in the store, options at the ballot service. `Records.Balloted` says that the
ballot of an active election is there, has the voting window of the record and as options the
registered candidates. A deed and the write that follows keep the two together, and so does a deed
that is taken back (`Records.Balloted.of_course`) as long as the service does not reject the call
that takes it back (`Compensated`).
-/

namespace TrusteeBoard

open Program Sample

def Exchange.isRejectedOption : Exchange → Bool
  | ⟨.addOption _ _, .error _⟩ => true
  | ⟨.removeOption _ _, .error _⟩ => true
  | _ => false

/-- An option added or removed right after a failed write, which takes a deed back, is not
rejected. -/
def Compensated (xs : List Exchange) : Prop :=
  xs.IsChain fun x y => x.isFailedWrite → ¬y.isRejectedOption

instance (xs : List Exchange) : Decidable (Compensated xs) :=
  inferInstanceAs (Decidable (xs.IsChain _))

/-- A deed that is taken back leaves the ballots as they were. -/
theorem Deed.afterExchange_takenBack {settings : Settings} {r : Records} {m : Ballots}
    {op : Operation} {deed : Exchange} {changes : List Change} {undo : Call}
    (done : Deed settings r op deed changes (some undo)) (allowed : m.Allows deed)
    {answer : undo.Answer} (accepted : ¬(⟨undo, answer⟩ : Exchange).isRejectedOption) :
    (m.afterExchange deed).afterExchange ⟨undo, answer⟩ = m := by
  cases done with
  | @addCandidate candidate c ballot time configured window =>
    cases answer with
    | error e => exact (accepted rfl).elim
    | ok u =>
      -- the service accepted the option, so it was not one before
      obtain ⟨b, found, fresh⟩ := allowed
      show (m.edit ballot _).edit ballot _ = m
      rw [Ballots.edit_edit]
      refine Ballots.edit_eq_self fun b' found' => ?_
      obtain rfl := Option.some.inj (found.symm.trans found')
      dsimp only
      rw [OrderedMap.erase_insert_of_notMem fresh]
  | @removeCandidate candidate c ballot time configured window phase =>
    cases answer with
    | error e => exact (accepted rfl).elim
    | ok u =>
      obtain ⟨b, found, listed⟩ := allowed
      obtain ⟨_, member⟩ := OrderedMap.mem_keys_iff.1 listed
      show (m.edit ballot _).edit ballot _ = m
      rw [Ballots.edit_edit]
      refine Ballots.edit_eq_self fun b' found' => ?_
      obtain rfl := Option.some.inj (found.symm.trans found')
      dsimp only
      rw [OrderedMap.insert_erase_of_find? member]

/-- The ballot has the voting window of the record. While nominating its options are the candidates;
while voting it is open for voting, and every candidate is an option. -/
structure Ballot.Mirrors (b : Ballot) (c : Config) (candidates : List Account) : Prop where
  begins : b.begins = c.votingOpensAt
  ends : b.ends = c.votingClosesAt
  nominating : c.phase = .nominating → b.options.keys = candidates
  voting : c.phase = .voting → b.votingOpen = true ∧ ∀ name ∈ candidates, name ∈ b.options.keys

namespace Records

/-- While an election is active, its ballot is there and mirrors the registered candidates. -/
def Balloted (r : Records) (m : Ballots) : Prop :=
  ∀ c, r.config = some c → c.electionActive = true → ∃ ballot b, c.openBallot = some ballot ∧
    m.find? ballot = some b ∧ b.Mirrors c r.candidates.keys

variable {settings : Settings} {r r' : Records} {m m' : Ballots} {xs zs : List Exchange}
  {op : Operation} {c : Config} {ballot : BallotId} {b : Ballot}

theorem balloted_of_inactive (h : ∀ c, r.config = some c → c.electionActive = false) :
    r.Balloted m := by
  intro c configured active
  rw [h c configured] at active
  cases active

theorem balloted_of_mirrors (configured : r.config = some c) (opened : c.openBallot = some ballot)
    (found : m.find? ballot = some b) (mirrors : b.Mirrors c r.candidates.keys) :
    r.Balloted m := by
  intro c' configured' _
  rw [configured] at configured'
  cases configured'
  exact ⟨ballot, b, opened, found, mirrors⟩

theorem Balloted.mirrors (h : r.Balloted m) (configured : r.config = some c)
    (active : c.electionActive = true) (opened : c.openBallot = some ballot) :
    ∃ b, m.find? ballot = some b ∧ b.Mirrors c r.candidates.keys := by
  obtain ⟨ballot', b, opened', found, mirrors⟩ := h c configured active
  rw [opened] at opened'
  cases opened'
  exact ⟨b, found, mirrors⟩

/-- What is done to any one ballot does not matter, if a mirror stays a mirror. -/
theorem Balloted.edit (h : r.Balloted m) (edited : BallotId) {f : Ballot → Ballot}
    (keeps : ∀ {b : Ballot} {c : Config} {candidates : List Account},
      b.Mirrors c candidates → (f b).Mirrors c candidates) : r.Balloted (m.edit edited f) := by
  intro c configured active
  obtain ⟨ballot, b, opened, found, mirrors⟩ := h c configured active
  by_cases same : ballot = edited
  · subst same
    exact ⟨ballot, f b, opened, Ballots.find?_edit_of_find? found f, keeps mirrors⟩
  · refine ⟨ballot, b, opened, ?_, mirrors⟩
    rwa [Ballots.find?_edit, if_neg same]

theorem mirrors_votingOpen {candidates : List Account} (h : b.Mirrors c candidates) :
    ({ b with votingOpen := true } : Ballot).Mirrors c candidates :=
  ⟨h.begins, h.ends, h.nominating, fun voting => ⟨rfl, (h.voting voting).2⟩⟩

/-- While nominating, candidates and options of the ballot may change alike. -/
theorem Balloted.of_options (h : r.Balloted m) (f : OrderedSet Account → OrderedSet Account)
    (configured : r.config = some c) (active : c.electionActive = true)
    (opened : c.openBallot = some ballot) (phase : c.phase = .nominating)
    (same : r'.config = r.config)
    (alike : ∀ b, m.find? ballot = some b → b.options.keys = r.candidates.keys →
      (f b.options).keys = r'.candidates.keys) :
    r'.Balloted (m.edit ballot fun b => { b with options := f b.options }) := by
  obtain ⟨b, found, mirrors⟩ := h.mirrors configured active opened
  refine balloted_of_mirrors (same.trans configured) opened
    (Ballots.find?_edit_of_find? found _) ⟨mirrors.begins, mirrors.ends, fun _ => ?_, ?_⟩
  · exact alike b found (mirrors.nominating phase)
  · intro voting
    rw [phase] at voting
    cases voting

/-! ### Deeds -/

/-- A deed and its write. -/
theorem Balloted.of_stored (h : r.Balloted m) {deed : Exchange} {changes : List Change}
    {undo : Option Call} (done : Deed settings r op deed changes undo) (allowed : m.Allows deed) :
    (r.after changes).Balloted (m.afterExchange deed) := by
  cases done with
  | @addCandidate candidate c ballot time configured window =>
    obtain ⟨active, opened, phase, -⟩ := Config.candidacyBallot_eq_ok_iff.1 window
    refine h.of_options (fun options => options.insert candidate ())
      configured active opened phase rfl fun b found mirrored => ?_
    show (b.options.insert candidate ()).keys = (r.candidates.insert candidate _).keys
    exact OrderedMap.keys_ext fun name => by simp [mirrored]
  | @removeCandidate candidate c ballot time configured window phase =>
    obtain ⟨active, opened, -⟩ := Config.withdrawalBallot_eq_ok_iff.1 window
    refine h.of_options (fun options => options.erase candidate)
      configured active opened phase rfl fun b found mirrored => ?_
    show (b.options.erase candidate).keys = (r.candidates.erase candidate).keys
    exact OrderedMap.keys_ext fun name => by simp [mirrored]
  | @makeElection holder c plan ballot time configured planned =>
    obtain ⟨-, -, opens, closes, -⟩ := Config.planElection_eq_ok_iff.1 planned
    refine balloted_of_mirrors rfl rfl
      ((OrderedMap.find?_insert _ _ _ _).trans (if_pos rfl)) ⟨rfl, ?_, fun _ => rfl, ?_⟩
    · show plan.votingClosesAt = plan.votingOpensAt.plus c.votingSpan
      rw [opens, closes]
    · intro voting
      cases voting
  | @startElection holder c voting ballot time configured begun =>
    obtain ⟨active, opened, phase, -, rfl⟩ := Config.beginVoting_eq_ok_iff.1 begun
    obtain ⟨b, found, mirrors⟩ := h.mirrors configured active opened
    refine balloted_of_mirrors rfl opened (Ballots.find?_edit_of_find? found _)
      ⟨mirrors.begins, mirrors.ends, ?_, fun _ => ⟨rfl, fun name hname => ?_⟩⟩
    · intro nominating
      cases nominating
    · show name ∈ b.options.keys
      rwa [mirrors.nominating phase]

/-- A deed that stays although its write fails: a ballot that no record refers to, or one that is
open for voting early. -/
theorem Balloted.of_kept (h : r.Balloted m) {deed : Exchange} {changes : List Change}
    (done : Deed settings r op deed changes none) : r.Balloted (m.afterExchange deed) := by
  cases done with
  | @makeElection holder c plan ballot time configured planned =>
    -- an election is planned only while the record refers to no ballot
    obtain ⟨unopened, -⟩ := Config.planElection_eq_ok_iff.1 planned
    intro c' configured' active
    rw [configured] at configured'
    cases configured'
    obtain ⟨ballot, b, opened, -⟩ := h c configured active
    rw [unopened] at opened
    cases opened
  | @startElection holder c voting ballot time configured begun =>
    exact h.edit ballot mirrors_votingOpen

theorem Balloted.of_course (h : r.Balloted m) {deed : Exchange} {changes : List Change}
    {undo : Option Call} (done : Deed settings r op deed changes undo)
    (course : Deed.Course deed changes undo zs) (serves : r.Serves zs r')
    (service : m.Serves zs m') (compensated : Compensated zs) : r'.Balloted m' := by
  have unstored : ¬deed.IsStored := by cases done <;> exact id
  cases course with
  | stored =>
    obtain ⟨-, written⟩ := serves
    rw [afterExchange_of_not_isStored unstored, serves_singleton_apply_iff] at written
    obtain ⟨allowed, -, rfl⟩ := service
    subst written
    exact h.of_stored done allowed
  | kept e =>
    obtain rfl : r' = r := by
      obtain ⟨-, -, same⟩ := serves
      exact same.trans (afterExchange_of_not_isStored unstored)
    obtain ⟨-, -, rfl⟩ := service
    exact h.of_kept done
  | @takenBack e undo answer =>
    obtain rfl : r' = r := by
      have still : ¬(⟨undo, answer⟩ : Exchange).IsStored := by cases done <;> exact id
      obtain ⟨-, -, -, same⟩ := serves
      rw [afterExchange_of_not_isStored still] at same
      exact same.trans (afterExchange_of_not_isStored unstored)
    obtain ⟨allowed, -, -, service⟩ := service
    have accepted : ¬(⟨undo, answer⟩ : Exchange).isRejectedOption :=
      (List.isChain_cons_cons.1 (List.isChain_cons_cons.1 compensated).2).1 rfl
    have undone : m' = m := service.trans (done.afterExchange_takenBack allowed accepted)
    rwa [undone]

/-! ### Operations -/

theorem balloted_after_rosterChange {after : Board} {changes : List Change} {time : Timestamp} :
    (r.after (r.rosterChange settings c after changes time).changes).Balloted m ↔
      (r.after changes).Balloted m := by
  rw [rosterChange, after_between]
  exact Iff.rfl

theorem Balloted.of_noteVacancy (h : r.Balloted m) (configured : r.config = some c) :
    (r.after [.putConfig c.noteVacancy]).Balloted m := by
  intro c' configured' active
  cases configured'
  obtain ⟨ballot, b, opened, found, mirrors⟩ := h c configured active
  exact ⟨ballot, b, opened, found, mirrors.begins, mirrors.ends, mirrors.nominating,
    mirrors.voting⟩

theorem balloted_of_idle {changes : List Change} {idle : Config}
    (inactive : idle.electionActive = false) :
    (r.after (changes ++ [.putConfig idle])).Balloted m := by
  refine balloted_of_inactive fun c configured => ?_
  rw [config_after_append] at configured
  cases configured
  exact inactive

theorem Balloted.of_prepares (h : r.Balloted m) {change : RosterChange}
    {receipt : Committed → Receipt} (prepared : Prepares settings r xs op change receipt) :
    (r.after change.changes).Balloted m := by
  cases prepared with
  | removeMember signed configured left asked =>
    exact balloted_after_rosterChange.2 (h.of_noteVacancy configured)
  | resign signed configured left asked =>
    exact balloted_after_rosterChange.2 (h.of_noteVacancy configured)
  | endElection signed configured asked begun counted elected closed =>
    subst closed
    exact balloted_after_rosterChange.2 (balloted_of_idle rfl)
  | seatBoard configured signed inactive vacant known seated asked =>
    exact balloted_after_rosterChange.2 (balloted_of_idle inactive)

/-- An operation that changes no ballot, and succeeds. -/
theorem Balloted.of_step (h : r.Balloted m) (spared : ∀ x ∈ xs, ¬x.ChangesBallot)
    {receipt : Receipt} (step : Step settings r xs op receipt r') : r'.Balloted m := by
  cases step with
  | setConfig current owned signed inactive sound =>
    refine balloted_of_inactive fun c configured => ?_
    cases configured
    exact inactive
  | nominate | unnominate => exact h
  | addCandidate signed configured asked window listed unregistered room added =>
    exact (spared _ added trivial).elim
  | @removeCandidate candidate c ballot time record configured signed asked window registered
      removed =>
    -- once voting has started, the option of a withdrawn candidate stays on the ballot
    have phase : c.phase ≠ .nominating := fun nominating => spared _ (removed nominating) trivial
    obtain ⟨active, opened, -⟩ := Config.withdrawalBallot_eq_ok_iff.1 window
    obtain ⟨b, found, mirrors⟩ := h.mirrors configured active opened
    refine balloted_of_mirrors configured opened found
      ⟨mirrors.begins, mirrors.ends, fun nominating => absurd nominating phase, fun voting => ?_⟩
    obtain ⟨votingOpen, options⟩ := mirrors.voting voting
    exact ⟨votingOpen, fun name hname => options name (OrderedMap.mem_keys_erase.1 hname).2⟩
  | makeElection signed configured asked planned opened => exact (spared _ opened trivial).elim
  | startElection signed configured asked begun opened => exact (spared _ opened trivial).elim
  | roster prepared pushed => exact h.of_prepares prepared

theorem Balloted.of_path (h : r.Balloted m) {result : Except Refusal Receipt}
    (path : (op.program settings).Path xs result) (serves : r.Serves xs r')
    (service : m.Serves xs m') (compensated : Compensated xs) : r'.Balloted m' := by
  rcases deed_of_path path serves with
    spared | ⟨ys, zs, deed, changes, undo, rfl, queries, done, course, written⟩
  · obtain rfl := service.of_spared spared
    cases result with
    | error e => rwa [serves.of_error path (op.writesLast settings)]
    | ok receipt => exact h.of_step spared (step_of_path path serves)
  · obtain ⟨n, beforeDeed, deeds⟩ := Ballots.serves_append_iff.1 service
    obtain rfl := beforeDeed.of_spared fun y hy =>
      Exchange.not_changesBallot_of_isQuery (queries y hy)
    exact h.of_course done course written deeds compensated.right_of_append

end Records

/-! ### Runs -/

namespace World

variable {settings : Settings} {w : World MemoryStore}

theorem balloted_afterAll (h : w.store.records.Balloted w.ballots.ballots) (events : List Event)
    (compensated : ∀ e ∈ w.entries settings events, Compensated e.exchanges) :
    (w.afterAll settings events).store.records.Balloted
      (w.afterAll settings events).ballots.ballots := by
  induction events generalizing w with
  | nil => exact h
  | cons event rest ih =>
    cases event with
    | perform op =>
      obtain ⟨first, others⟩ := List.forall_mem_cons.1 compensated
      have next := h.of_path (w.entry_path op) (w.entry_serves op) (run_ballots _ w) first
      exact ih next others
    | setTally ballot tally =>
      refine ih ?_ compensated
      show w.store.records.Balloted (w.ballots.setTally ballot tally).ballots
      rw [BallotService.setTally_ballots]
      exact h.edit ballot fun mirrors => ⟨mirrors.begins, mirrors.ends, mirrors.nominating,
        mirrors.voting⟩
    | _ => exact ih h compensated

variable (settings) in
/-- In every run from an empty store in which no call that takes a deed back is rejected, the ballot
of an active election is there and mirrors the record and the registered candidates. -/
theorem ballot_mirrors_registry (empty : w.store.records = {}) (events : List Event)
    (compensated : ∀ e ∈ w.entries settings events, Compensated e.exchanges) {c : Config}
    (stored : (w.afterAll settings events).store.records.config = some c)
    (active : c.electionActive = true) :
    ∃ ballot b, c.openBallot = some ballot ∧
      (w.afterAll settings events).ballots.ballots.find? ballot = some b ∧
      b.Mirrors c (w.afterAll settings events).store.records.candidates.keys := by
  have start : w.store.records.Balloted w.ballots.ballots := by
    rw [empty]
    exact Records.balloted_of_inactive nofun
  exact balloted_afterAll start events compensated c stored active

/-- The option of a registration that was taken back is there again after the second attempt. -/
theorem ballot_mirrors_registry_brokenRegistration :
    ((world.entries {} brokenRegistration).any fun e => e.exchanges.any (·.isFailedWrite)) ∧
      ∃ c ballot b, c.openBallot = some ballot ∧
        (world.afterAll {} brokenRegistration).ballots.ballots.find? ballot = some b ∧
        b.Mirrors c [alice] := by
  have compensated : ∀ e ∈ world.entries {} brokenRegistration, Compensated e.exchanges := by
    decide +kernel
  have registered : (world.afterAll {} brokenRegistration).store.records.candidates.keys =
      [alice] := by
    decide +kernel
  have active : (world.afterAll {} brokenRegistration).store.records.config.map
      (·.electionActive) = some true := by
    decide +kernel
  obtain ⟨c, stored, active⟩ := Option.map_eq_some_iff.1 active
  obtain ⟨ballot, b, opened, found, mirrors⟩ :=
    ballot_mirrors_registry {} (w := world) rfl brokenRegistration compensated stored active
  rw [registered] at mirrors
  exact ⟨by decide +kernel, c, ballot, b, opened, found, mirrors⟩

end World

end TrusteeBoard
