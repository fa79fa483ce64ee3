import TrusteeBoard.Proofs.Operation.Roster
import TrusteeBoard.Proofs.Program.Lockstep
import TrusteeBoard.Proofs.World.Lasting

/-!
# Calm worlds

In a calm world (`World.Calm`) no failure is pending, so that every call is answered by its
collaborator. Programs are carried out there question by question: a program that only reads leaves
everything but the history of calls (`World.Reads`), and `World.Yields` says that a program succeeds
and what holds of its answer and of the world after it.
-/

namespace TrusteeBoard

open Program

namespace World

variable {w w' : World MemoryStore} {α β : Type} {p : Program α} {f : α → Program β} {a : α} {b : β}
  {post : α → World MemoryStore → Prop} {goal : β → World MemoryStore → Prop}

/-- No failure is pending. -/
structure Calm (w : World MemoryStore) : Prop where
  faults : w.faults = []
  host : w.host.failNextPush = false
  ballots : w.ballots.failNextCall = false
  store : w.store.failNextApply = false

/-- The world once pending failures are cleared. -/
def recovered (w : World MemoryStore) : World MemoryStore :=
  { w with
    host := { w.host with failNextPush := false }
    ballots := { w.ballots with failNextCall := false }
    store := { w.store with failNextApply := false }
    faults := [] }

theorem Calm.with_history (calm : w.Calm) (history : List Exchange) :
    ({ w with history } : World MemoryStore).Calm :=
  ⟨calm.faults, calm.host, calm.ballots, calm.store⟩

theorem Calm.with_host (calm : w.Calm) {host : Host} (quiet : host.failNextPush = false) :
    ({ w with host } : World MemoryStore).Calm :=
  ⟨calm.faults, quiet, calm.ballots, calm.store⟩

theorem apply_of_calm {s : MemoryStore} (calm : s.failNextApply = false) (changes : List Change) :
    s.apply changes =
      (.ok (), { s with records := s.records.after changes, applied := s.applied + 1 }) :=
  if_neg (Bool.eq_false_iff.1 calm)

theorem setAuthority_of_calm {h : Host} (calm : h.failNextPush = false) (account : Account)
    (authority : Authority) : h.setAuthority account authority =
      if authority.IsSatisfiable then
        (.ok (),
          { h with
            authorities := h.authorities.insert account authority
            pushes := h.pushes ++ [(account, authority)] })
      else (.error (.authorityRejected account "threshold cannot be met"), h) :=
  if_neg (Bool.eq_false_iff.1 calm)

theorem withBallot_of_calm {s : BallotService} (calm : s.failNextCall = false) (ballot : BallotId)
    (call : Ballot → Except BallotError (α × Ballot)) : s.withBallot ballot call =
      match s.ballots.find? ballot with
      | none => (.error (.notFound ballot), s)
      | some b =>
        match call b with
        | .ok (a, b) => (.ok a, { s with ballots := s.ballots.insert ballot b })
        | .error e => (.error e, s) :=
  if_neg (Bool.eq_false_iff.1 calm)

/-- A service that is not to fail goes on not to fail. -/
theorem withBallot_calm {s : BallotService} (calm : s.failNextCall = false) (ballot : BallotId)
    (call : Ballot → Except BallotError (α × Ballot)) :
    (s.withBallot ballot call).2.failNextCall = false := by
  rw [withBallot_of_calm calm]
  split
  · exact calm
  · split <;> exact calm

theorem Calm.respond (calm : w.Calm) (c : Call) : (w.respond c).2.Calm := by
  cases c with
  | apply changes =>
    refine ⟨calm.faults, calm.host, calm.ballots, ?_⟩
    show (w.store.apply changes).2.failNextApply = false
    rw [apply_of_calm calm.store]
    exact calm.store
  | setAuthority account authority =>
    refine ⟨calm.faults, ?_, calm.ballots, calm.store⟩
    show (w.host.setAuthority account authority).2.failNextPush = false
    rw [setAuthority_of_calm calm.host]
    split <;> exact calm.host
  | openBallot name treasury options begins ends =>
    refine ⟨calm.faults, calm.host, ?_, calm.store⟩
    show (w.ballots.openBallot name treasury options begins ends).2.failNextCall = false
    unfold BallotService.openBallot BallotService.guarded
    rw [if_neg (Bool.eq_false_iff.1 calm.ballots)]
    exact calm.ballots
  | addOption ballot option =>
    exact ⟨calm.faults, calm.host, withBallot_calm calm.ballots _ _, calm.store⟩
  | removeOption ballot option =>
    exact ⟨calm.faults, calm.host, withBallot_calm calm.ballots _ _, calm.store⟩
  | openVoting ballot =>
    exact ⟨calm.faults, calm.host,
      withBallot_calm calm.ballots ballot fun b => .ok ((), { b with votingOpen := true }),
      calm.store⟩
  | tally ballot =>
    exact ⟨calm.faults, calm.host,
      withBallot_calm calm.ballots ballot fun b => .ok (b.tally.getD {}, b), calm.store⟩
  | _ => exact calm

theorem answer_of_calm (calm : w.Calm) (c : Call) : answer c w =
    ((w.respond c).1,
      { (w.respond c).2 with history := w.history ++ [⟨c, (w.respond c).1⟩] }) :=
  answer_of_no_faults calm.faults c

theorem Calm.answer (calm : w.Calm) (c : Call) : (World.answer c w).2.Calm := by
  rw [answer_of_calm calm]
  exact (calm.respond c).with_history _

theorem Calm.perform (calm : w.Calm) (p : Program α) : (w.perform p).2.Calm := by
  induction p generalizing w with
  | done result => exact calm
  | ask c next ih => exact ih _ (calm.answer c)

/-! ### Evaluation -/

theorem run_bind {σ : Type} {answer : (c : Call) → σ → c.Answer × σ} {s s' : σ}
    (h : p.run answer s = (.ok a, s')) (f : α → Program β) :
    (p >>= f).run answer s = (f a).run answer s' := by
  rw [run_bind_of_ok (congrArg Prod.fst h), h]

/-- The program succeeds with the answer `a` and leaves everything but the history. -/
def Reads (w : World MemoryStore) (p : Program α) (a : α) : Prop :=
  ∃ history, w.perform p = (.ok a, { w with history })

/-- The program succeeds with an answer and a world after it that satisfy `post`. -/
def Yields (w : World MemoryStore) (p : Program α) (post : α → World MemoryStore → Prop) : Prop :=
  ∃ a w', w.perform p = (.ok a, w') ∧ post a w'

theorem yields_pure (h : post a w) : w.Yields (pure a) post :=
  ⟨a, w, rfl, h⟩

theorem Yields.bind (first : w.Yields p post)
    (rest : ∀ a w', post a w' → w'.Yields (f a) goal) : w.Yields (p >>= f) goal := by
  obtain ⟨a, w', run, mid⟩ := first
  obtain ⟨b, w'', run', last⟩ := rest a w' mid
  exact ⟨b, w'', (run_bind run f).trans run', last⟩

theorem Yields.mono {post' : α → World MemoryStore → Prop} (h : w.Yields p post)
    (weaker : ∀ a w', post a w' → post' a w') : w.Yields p post' := by
  obtain ⟨a, w', run, last⟩ := h
  exact ⟨a, w', run, weaker a w' last⟩

/-- What holds of the world does so too when the answer is put into another form. -/
theorem Yields.andThen {held : World MemoryStore → Prop} (g : α → β)
    (h : w.Yields p fun _ w' => held w') :
    w.Yields (p >>= fun a => pure (g a)) fun _ w' => held w' :=
  h.bind fun _ _ after => yields_pure after

/-- No program plants a failure. -/
theorem Yields.calm (h : w.Yields p post) (calm : w.Calm) :
    w.Yields p fun a w' => w'.Calm ∧ post a w' := by
  obtain ⟨a, w', run, last⟩ := h
  have after := calm.perform p
  rw [run] at after
  exact ⟨a, w', run, after, last⟩

/-- A question that changes nothing comes first. -/
theorem Reads.bind (first : w.Reads p a)
    (rest : ∀ history, ({ w with history } : World MemoryStore).Reads (f a) b) :
    w.Reads (p >>= f) b := by
  obtain ⟨history, run⟩ := first
  obtain ⟨history', run'⟩ := rest history
  exact ⟨history', (run_bind run f).trans run'⟩

theorem Reads.andThen (first : w.Reads p a) (g : α → β) :
    w.Reads (p >>= fun a => pure (g a)) (g a) :=
  first.bind fun history => ⟨history, rfl⟩

theorem Reads.query (first : w.Reads p a)
    (rest : ∀ history, ({ w with history } : World MemoryStore).Yields (f a) goal) :
    w.Yields (p >>= f) goal := by
  obtain ⟨history, run⟩ := first
  obtain ⟨b, w', run', last⟩ := rest history
  exact ⟨b, w', (run_bind run f).trans run', last⟩

theorem Reads.result {result : Except Refusal β} (first : w.Reads p a)
    (rest : ∀ history, (perform (f a) { w with history }).1 = result) :
    (w.perform (p >>= f)).1 = result := by
  obtain ⟨history, run⟩ := first
  exact (congrArg Prod.fst (run_bind run f)).trans (rest history)

/-! ### Questions that change nothing -/

theorem reads_call (calm : w.Calm) (c : Call) (same : (w.respond c).2 = w) :
    w.Reads (call c) (w.respond c).1 := by
  refine ⟨w.history ++ [⟨c, (w.respond c).1⟩], ?_⟩
  show (Except.ok (answer c w).1, (answer c w).2) = _
  rw [answer_of_calm calm, same]

theorem reads_ofExcept {r : Except Refusal α} (h : r = .ok a) : w.Reads (ofExcept r) a :=
  ⟨w.history, by rw [h]; rfl⟩

theorem reads_now (calm : w.Calm) : w.Reads now w.host.clock :=
  reads_call calm .now rfl

theorem reads_authorize (calm : w.Calm) {account : Account}
    (signed : account ∈ w.host.callers.keys) : w.Reads (authorize account) () := by
  have granted : (w.respond (.authorize account)).1 = .ok () :=
    if_pos (OrderedMap.contains_iff.2 signed)
  refine (reads_call calm (.authorize account) rfl).bind fun history => ?_
  rw [granted]
  exact ⟨history, rfl⟩

theorem reads_accountExists (calm : w.Calm) (account : Account) :
    w.Reads (accountExists account) (w.host.accounts.contains account) :=
  reads_call calm (.accountExists account) rfl

theorem reads_config (calm : w.Calm) : w.Reads config w.store.records.config :=
  (reads_call calm .config rfl).bind fun history => ⟨history, rfl⟩

theorem reads_requireConfig (calm : w.Calm) {c : Config}
    (stored : w.store.records.config = some c) : w.Reads requireConfig c := by
  refine (reads_config calm).bind fun history => ?_
  rw [stored]
  exact ⟨history, rfl⟩

theorem reads_isNominee (calm : w.Calm) (name : Account) :
    w.Reads (isNominee name) (w.store.records.nominees.contains name) := by
  have read : w.Reads (nominee name) (w.store.records.nominees.find? name) :=
    (reads_call calm (.nominee name) rfl).bind fun history => ⟨history, rfl⟩
  exact read.andThen _

theorem reads_isCandidate (calm : w.Calm) (name : Account) :
    w.Reads (isCandidate name) (w.store.records.candidates.contains name) := by
  have read : w.Reads (candidate name) (w.store.records.candidates.find? name) :=
    (reads_call calm (.candidate name) rfl).bind fun history => ⟨history, rfl⟩
  exact read.andThen _

theorem reads_isMember (calm : w.Calm) (name : Account) :
    w.Reads (isMember name) (w.store.records.members.contains name) := by
  have read : w.Reads (member name) (w.store.records.members.find? name) :=
    (reads_call calm (.member name) rfl).bind fun history => ⟨history, rfl⟩
  exact read.andThen _

theorem reads_candidates (calm : w.Calm) :
    w.Reads candidates w.store.records.candidates.values :=
  (reads_call calm .candidates rfl).bind fun history => ⟨history, rfl⟩

theorem reads_names (calm : w.Calm) : w.Reads Candidacy.names w.store.records.candidateNames :=
  (reads_candidates calm).andThen _

theorem reads_load (calm : w.Calm) (maxSeats : UInt32) :
    w.Reads (Board.load maxSeats) (w.store.records.board maxSeats) := by
  have read : w.Reads members w.store.records.members.values :=
    (reads_call calm .members rfl).bind fun history => ⟨history, rfl⟩
  exact read.andThen _

/-! ### Calls on a ballot -/

theorem withBallot_of_find? {s : BallotService} (calm : s.failNextCall = false) {ballot : BallotId}
    {bal : Ballot} (found : s.ballots.find? ballot = some bal)
    {call : Ballot → Except BallotError (α × Ballot)} {bal' : Ballot}
    (done : call bal = .ok (a, bal')) : s.withBallot ballot call =
      (.ok a, { s with ballots := s.ballots.insert ballot bal' }) := by
  rw [withBallot_of_calm calm, found]
  dsimp only
  rw [done]

theorem reads_tally (calm : w.Calm) {ballot : BallotId} {bal : Ballot}
    (found : w.ballots.ballots.find? ballot = some bal) :
    w.Reads (tally ballot) (bal.tally.getD {}) := by
  -- the ballot is written back as it was
  have answered : w.respond (.tally ballot) = (.ok (bal.tally.getD {}), w) := by
    show ((w.ballots.tally ballot).1, { w with ballots := (w.ballots.tally ballot).2 }) = _
    rw [BallotService.tally, withBallot_of_find? calm.ballots found rfl,
      OrderedMap.insert_of_find? found]
  refine (reads_call calm (.tally ballot) (by rw [answered])).bind fun history => ?_
  rw [answered]
  exact ⟨history, rfl⟩

theorem yields_call (calm : w.Calm) (c : Call) : w.Yields (call c) fun a w' => w'.Calm ∧
    ∃ history, a = (w.respond c).1 ∧ w' = { (w.respond c).2 with history } := by
  refine ⟨_, _, ?_, (calm.respond c).with_history _, w.history ++ [⟨c, (w.respond c).1⟩], rfl, rfl⟩
  show (Except.ok (answer c w).1, (answer c w).2) = _
  rw [answer_of_calm calm]

theorem yields_openBallot (calm : w.Calm) (name : String) (treasury : TreasurySymbol)
    (options : List Account) (begins ends : Timestamp) :
    w.Yields (openBallot name treasury options begins ends) fun ballot w' =>
      w'.Calm ∧ w'.host = w.host ∧ w'.store = w.store ∧ ballot ∈ w'.ballots.ballots.keys := by
  have answered : w.ballots.openBallot name treasury options begins ends =
      (.ok ⟨w.ballots.lastNumber + 1⟩,
        { w.ballots with
          lastNumber := w.ballots.lastNumber + 1
          ballots := w.ballots.ballots.insert ⟨w.ballots.lastNumber + 1⟩
            { name, treasury, options := OrderedSet.ofList options, begins, ends } }) :=
    if_neg (Bool.eq_false_iff.1 calm.ballots)
  refine (yields_call calm (.openBallot name treasury options begins ends)).bind ?_
  rintro answer w' ⟨calm', history, rfl, rfl⟩
  show Yields _ (ofBallots (w.ballots.openBallot name treasury options begins ends).1) _
  rw [answered]
  refine yields_pure ⟨calm', rfl, rfl, ?_⟩
  show _ ∈ (w.ballots.openBallot name treasury options begins ends).2.ballots.keys
  rw [answered]
  exact OrderedMap.mem_keys_insert.2 (.inl rfl)

/-- An option is added to a ballot that is not open for voting. -/
theorem yields_addOption (calm : w.Calm) {ballot : BallotId} {b : Ballot} {option : Account}
    (found : w.ballots.ballots.find? ballot = some b) (closed : ¬b.votingOpen = true)
    (unlisted : option ∉ b.options.keys) : w.Yields (addOption ballot option) fun _ w' =>
      w'.Calm ∧ w'.host = w.host ∧ w'.store = w.store ∧ w'.ballots.ballots =
        w.ballots.ballots.insert ballot { b with options := b.options.insert option () } := by
  have answered : w.ballots.addOption ballot option = (.ok (), { w.ballots with
      ballots :=
        w.ballots.ballots.insert ballot { b with options := b.options.insert option () } }) :=
    withBallot_of_find? calm.ballots found ((if_neg closed).trans
      (if_neg (mt OrderedMap.contains_iff.1 unlisted)))
  refine (yields_call calm (.addOption ballot option)).bind ?_
  rintro answer w' ⟨calm', history, rfl, rfl⟩
  show Yields _ (ofBallots (w.ballots.addOption ballot option).1) _
  rw [answered]
  refine yields_pure ⟨calm', rfl, rfl, ?_⟩
  show (w.ballots.addOption ballot option).2.ballots = _
  rw [answered]

theorem yields_openVoting (calm : w.Calm) {ballot : BallotId}
    (opened : ballot ∈ w.ballots.ballots.keys) : w.Yields (openVoting ballot) fun _ w' =>
      w'.Calm ∧ w'.host = w.host ∧ w'.store = w.store ∧ ballot ∈ w'.ballots.ballots.keys := by
  obtain ⟨bal, found⟩ := OrderedMap.mem_keys_iff.1 opened
  have answered : w.ballots.openVoting ballot =
      (.ok (), { w.ballots with
        ballots := w.ballots.ballots.insert ballot { bal with votingOpen := true } }) :=
    withBallot_of_find? calm.ballots found rfl
  refine (yields_call calm (.openVoting ballot)).bind ?_
  rintro answer w' ⟨calm', history, rfl, rfl⟩
  show Yields _ (ofBallots (w.ballots.openVoting ballot).1) _
  rw [answered]
  refine yields_pure ⟨calm', rfl, rfl, ?_⟩
  show ballot ∈ (w.ballots.openVoting ballot).2.ballots.keys
  rw [answered]
  exact OrderedMap.mem_keys_insert.2 (.inl rfl)

/-! ### Writes -/

theorem yields_write (calm : w.Calm) (changes : List Change) :
    w.Yields (call (.apply changes)) fun a w' => a = .ok () ∧ w'.Calm ∧ w'.host = w.host ∧
      w'.ballots = w.ballots ∧ w'.store.records = w.store.records.after changes := by
  refine (yields_call calm (.apply changes)).mono ?_
  rintro a w' ⟨calm', history, rfl, rfl⟩
  refine ⟨?_, calm', rfl, rfl, ?_⟩
  · show (w.store.apply changes).1 = _
    rw [apply_of_calm calm.store]
  · show (w.store.apply changes).2.records = _
    rw [apply_of_calm calm.store]

theorem yields_apply (calm : w.Calm) (changes : List Change) :
    w.Yields (apply changes) fun _ w' => w'.Calm ∧ w'.host = w.host ∧ w'.ballots = w.ballots ∧
      w'.store.records = w.store.records.after changes := by
  refine (yields_write calm changes).bind ?_
  rintro a w' ⟨rfl, after⟩
  exact yields_pure after

theorem yields_setAuthority (calm : w.Calm) (account : Account) {authority : Authority}
    (satisfiable : authority.IsSatisfiable) :
    w.Yields (setAuthority account authority) fun _ w' => w'.Calm ∧ w'.store = w.store := by
  have answered : w.host.setAuthority account authority = (.ok (),
      { w.host with
        authorities := w.host.authorities.insert account authority
        pushes := w.host.pushes ++ [(account, authority)] }) :=
    (setAuthority_of_calm calm.host account authority).trans (if_pos satisfiable)
  refine (yields_call calm (.setAuthority account authority)).bind ?_
  rintro answer w' ⟨calm', history, rfl, rfl⟩
  show Yields _ (ofHost (w.host.setAuthority account authority).1) _
  rw [answered]
  exact yields_pure ⟨calm', rfl⟩

/-- A roster change is committed when the host can accept the authority it pushes. -/
theorem yields_commit (calm : w.Calm) (change : RosterChange)
    (satisfiable : change.isMembershipChange = true → change.next.IsSatisfiable) :
    w.Yields change.commit fun _ w' =>
      w'.store.records = w.store.records.after change.changes := by
  unfold RosterChange.commit
  split
  · next moves =>
    refine (yields_setAuthority calm change.account (satisfiable moves)).bind ?_
    rintro _ w' ⟨calm', same⟩
    refine (yields_write calm' change.changes).bind ?_
    rintro _ w'' ⟨rfl, -, -, -, after⟩
    exact yields_pure (after.trans (by rw [same]))
  · refine (yields_write calm change.changes).bind ?_
    rintro _ w' ⟨rfl, -, -, -, after⟩
    exact yields_pure after

end World

/-! ### Runs -/

namespace World

variable {settings : Settings} {w : World MemoryStore} {events : List Event}
  {mid goal : World MemoryStore → Prop}

variable (settings) in
/-- Every operation among the events succeeds, and `goal` holds of the world at the end. -/
def Completes (w : World MemoryStore) (events : List Event) (goal : World MemoryStore → Prop) :
    Prop :=
  (∀ e ∈ w.entries settings events, ∃ receipt, e.result = .ok receipt) ∧
    goal (w.afterAll settings events)

theorem completes_nil (h : goal w) : w.Completes settings [] goal :=
  ⟨List.forall_mem_nil _, h⟩

theorem Completes.perform {op : Operation}
    {post : Receipt → World MemoryStore → Prop} (first : w.Yields (op.program settings) post)
    (rest : ∀ receipt w', post receipt w' → w'.Completes settings events goal) :
    w.Completes settings (.perform op :: events) goal := by
  obtain ⟨receipt, w', run, mid⟩ := first
  have next : w.after settings (.perform op) = w' := congrArg Prod.snd run
  obtain ⟨done, last⟩ := rest receipt w' mid
  rw [← next] at done last
  exact ⟨List.forall_mem_cons.2 ⟨⟨receipt, congrArg Prod.fst run⟩, done⟩, last⟩

theorem completes_append {later : List Event} (first : w.Completes settings events mid)
    (rest : ∀ w', mid w' → w'.Completes settings later goal) :
    w.Completes settings (events ++ later) goal := by
  obtain ⟨done, reached⟩ := first
  obtain ⟨doneLater, last⟩ := rest _ reached
  refine ⟨?_, by rwa [afterAll_append]⟩
  rw [entries_append]
  exact List.forall_mem_append.2 ⟨done, doneLater⟩

theorem Completes.setClock {time : Timestamp}
    (h : (w.after settings (.setClock time)).Completes settings events goal) :
    w.Completes settings (.setClock time :: events) goal :=
  h

theorem Completes.signAs {names : List Account}
    (h : (w.after settings (.signAs names)).Completes settings events goal) :
    w.Completes settings (.signAs names :: events) goal :=
  h

theorem Completes.addAccounts {names : List Account}
    (h : (w.after settings (.addAccounts names)).Completes settings events goal) :
    w.Completes settings (.addAccounts names :: events) goal :=
  h

end World

end TrusteeBoard
