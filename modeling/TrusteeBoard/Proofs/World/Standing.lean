import TrusteeBoard.Proofs.World.Calm

/-!
# Standings

What the records and the ballots say about one person is the person's standing (`standing`), and the
standings of all are everything they say (`eq_of_standings`). A call that concerns one person
(`Call.Concerns`) changes the standing of that person alone, in a way that depends on that standing
alone (`standing_afterExchange`). Its answer in a calm world does so too
(`World.answerAlike_of_concerns`).
-/

namespace TrusteeBoard

open Program

/-! ### Records and ballots, person by person -/

/-- What the records and the ballots say about one person: what they say about all, the entries of
the person, and whether the person is an option of each ballot. -/
structure Standing where
  config : Option Config
  members : OrderedMap Account Member
  nominee : Option Nominee
  candidate : Option Candidate
  ballots : BallotId → Option (Ballot × Option Unit)

/-- What a ballot says about one person. -/
def Ballot.about (b : Ballot) (name : Account) : Ballot × Option Unit :=
  ({ b with options := .empty }, b.options.find? name)

def standing (r : Records) (m : Ballots) (name : Account) : Standing where
  config := r.config
  members := r.members
  nominee := r.nominees.find? name
  candidate := r.candidates.find? name
  ballots ballot := (m.find? ballot).map fun b => b.about name

variable {r r' : Records} {m m' : Ballots} {name other : Account}

theorem Ballot.eq_of_about {b b' : Ballot} (h : ∀ name, b'.about name = b.about name) : b' = b := by
  have rest := congrArg Prod.fst (h Settings.defaultAccount)
  have options : b'.options = b.options :=
    OrderedMap.ext_find? fun name => congrArg Prod.snd (h name)
  obtain ⟨name, treasury, options', begins, ends, votingOpen, tally⟩ := b
  cases b'
  cases options
  simpa [about] using rest

/-- What a ballot says about one person tells whether the person can become an option or cease to be
one. -/
theorem Ballot.open_and_listed_of_about {b b' : Ballot} (h : b'.about name = b.about name) :
    b'.votingOpen = b.votingOpen ∧ b'.options.contains name = b.options.contains name := by
  obtain ⟨rest, listed⟩ := Prod.mk.inj h
  exact ⟨(Ballot.mk.inj rest).2.2.2.2.2.1, congrArg Option.isSome listed⟩

/-- Records and ballots that say the same about everyone are the same. -/
theorem eq_of_standings (h : ∀ name, standing r' m' name = standing r m name) :
    r' = r ∧ m' = m := by
  have config := congrArg Standing.config (h Settings.defaultAccount)
  have members := congrArg Standing.members (h Settings.defaultAccount)
  have nominees : r'.nominees = r.nominees :=
    OrderedMap.ext_find? fun name => congrArg Standing.nominee (h name)
  have candidates : r'.candidates = r.candidates :=
    OrderedMap.ext_find? fun name => congrArg Standing.candidate (h name)
  refine ⟨?_, OrderedMap.ext_find? fun ballot => ?_⟩
  · cases r
    cases r'
    cases nominees
    cases candidates
    cases config
    cases members
    rfl
  · have said name : (m'.find? ballot).map (·.about name) = (m.find? ballot).map (·.about name) :=
      congrFun (congrArg Standing.ballots (h name)) ballot
    cases found : m.find? ballot with
    | none => simpa [found] using said Settings.defaultAccount
    | some b =>
      cases found' : m'.find? ballot with
      | none => simpa [found, found'] using said Settings.defaultAccount
      | some b' =>
        refine congrArg some (Ballot.eq_of_about fun name => ?_)
        simpa [found, found'] using said name

/-! ### Calls about one person -/

/-- The change is one of the person's entries. -/
def Change.Concerns (name : Account) : Change → Prop
  | .putNominee nominee => nominee.name = name
  | .dropNominee other => other = name
  | .putCandidate candidate => candidate.name = name
  | .dropCandidate other => other = name
  | _ => False

/-- The call is about something that is the same for all, or about the person only. -/
def Call.Concerns (name : Account) : Call → Prop
  | .config => True
  | .now => True
  | .authorize _ => True
  | .accountExists _ => True
  | .nominee other => other = name
  | .candidate other => other = name
  | .member other => other = name
  | .apply changes => ∀ change ∈ changes, change.Concerns name
  | .addOption _ option => option = name
  | .removeOption _ option => option = name
  | _ => False

namespace Call

theorem concerns_nominee (name : Account) : (nominee name).Concerns name := rfl

theorem concerns_candidate (name : Account) : (candidate name).Concerns name := rfl

theorem concerns_member (name : Account) : (member name).Concerns name := rfl

theorem concerns_addOption (ballot : BallotId) (name : Account) :
    (addOption ballot name).Concerns name := rfl

theorem concerns_removeOption (ballot : BallotId) (name : Account) :
    (removeOption ballot name).Concerns name := rfl

theorem concerns_apply {change : Change} (h : change.Concerns name) :
    (apply [change]).Concerns name :=
  List.forall_mem_singleton.2 h

end Call

namespace Standing

/-- The standing once a change of the person's entries is made. -/
def change (s : Standing) : Change → Standing
  | .putNominee nominee => { s with nominee := some nominee }
  | .dropNominee _ => { s with nominee := none }
  | .putCandidate candidate => { s with candidate := some candidate }
  | .dropCandidate _ => { s with candidate := none }
  | _ => s

/-- The standing once the person is made an option of a ballot or is none any more. -/
def setOption (s : Standing) (ballot : BallotId) (option : Option Unit) : Standing :=
  { s with
    ballots := fun other =>
      if other = ballot then (s.ballots other).map fun b => (b.1, option) else s.ballots other }

/-- The standing after an exchange about the person. -/
def afterExchange (s : Standing) : Exchange → Standing
  | ⟨.apply changes, .ok _⟩ => changes.foldl change s
  | ⟨.addOption ballot _, .ok _⟩ => s.setOption ballot (some ())
  | ⟨.removeOption ballot _, .ok _⟩ => s.setOption ballot none
  | _ => s

end Standing

theorem standing_change {c : Change} (h : c.Concerns name) (m : Ballots) (other : Account) :
    standing (r.change c) m other =
      if other = name then (standing r m other).change c else standing r m other := by
  cases c with
  | putNominee | dropNominee | putCandidate | dropCandidate =>
    subst h
    simp only [standing, Records.change, Standing.change, OrderedMap.find?_insert,
      OrderedMap.find?_erase]
    split <;> rfl
  | _ => exact h.elim

theorem standing_after {changes : List Change} (h : ∀ c ∈ changes, c.Concerns name) (m : Ballots)
    (other : Account) : standing (r.after changes) m other =
      if other = name then changes.foldl Standing.change (standing r m other)
      else standing r m other := by
  induction changes generalizing r with
  | nil => exact (ite_self _).symm
  | cons c rest ih =>
    obtain ⟨first, others⟩ := List.forall_mem_cons.1 h
    rw [Records.after, List.foldl_cons, ← Records.after, ih others, standing_change first,
      List.foldl_cons]
    split <;> rfl

/-- A change of the options that turns on one person. -/
theorem standing_edit (ballot : BallotId) (f : OrderedSet Account → OrderedSet Account)
    {option : Option Unit} (changed : ∀ options other, (f options).find? other =
      if other = name then option else options.find? other) (other : Account) :
    standing r (m.edit ballot fun b => { b with options := f b.options }) other =
      if other = name then (standing r m other).setOption ballot option
      else standing r m other := by
  have about (b : Ballot) : ({ b with options := f b.options } : Ballot).about other =
      if other = name then ((b.about other).1, option) else b.about other := by
    unfold Ballot.about
    rw [changed]
    split <;> rfl
  have edited (id : BallotId) :
      ((m.edit ballot fun b => { b with options := f b.options }).find? id).map (·.about other) =
        if id = ballot then
          (m.find? id).map fun b =>
            if other = name then ((b.about other).1, option) else b.about other
        else (m.find? id).map (·.about other) := by
    rw [Ballots.find?_edit]
    split
    · next here => simp only [here, Option.map_map, Function.comp_def, about]
    · rfl
  unfold standing Standing.setOption
  simp only [edited]
  by_cases same : other = name
  · simp only [same, if_true, Option.map_map, Function.comp_def]
  · simp only [same, if_false, ite_self]

/-- An exchange about one person changes the standing of that person, and of nobody else. -/
theorem standing_afterExchange {x : Exchange} (h : x.call.Concerns name) (other : Account) :
    standing (r.afterExchange x) (m.afterExchange x) other =
      if other = name then (standing r m other).afterExchange x else standing r m other := by
  obtain ⟨c, a⟩ := x
  cases c with
  | apply changes =>
    cases a with
    | ok u => exact standing_after h m other
    | error e => exact (ite_self _).symm
  | addOption ballot option =>
    cases a with
    | ok u =>
      obtain rfl : option = name := h
      exact standing_edit ballot (fun options => options.insert option ())
        (fun options other => OrderedMap.find?_insert _ _ _ _) other
    | error e => exact (ite_self _).symm
  | removeOption ballot option =>
    cases a with
    | ok u =>
      obtain rfl : option = name := h
      exact standing_edit ballot (fun options => options.erase option)
        (fun options other => OrderedMap.find?_erase _ _ _) other
    | error e => exact (ite_self _).symm
  | openBallot | openVoting => exact h.elim
  | _ => exact (ite_self _).symm

/-! ### Other persons -/

/-- The call concerns one person, or nothing can change by it. -/
def Call.KeepsTo (name : Account) (c : Call) : Prop :=
  c.Concerns name ∨ c.IsQuery

theorem Call.KeepsTo.not_isPush {c : Call} (h : c.KeepsTo name) : ¬c.IsPush := by
  cases c with
  | setAuthority => exact (h.elim id id).elim
  | _ => exact id

theorem standing_afterExchange_of_ne {x : Exchange} (h : x.call.KeepsTo name)
    (different : other ≠ name) :
    standing (r.afterExchange x) (m.afterExchange x) other = standing r m other := by
  rcases h with concerns | query
  · exact (standing_afterExchange concerns other).trans (if_neg different)
  · rw [Records.afterExchange_of_not_isStored fun stored =>
        query.isQuiet.not_isWrite (Exchange.isWrite_of_isStored stored),
      Ballots.afterExchange_of_not_changesBallot (Exchange.not_changesBallot_of_isQuery query)]

theorem standing_of_serves {xs : List Exchange} (stored : r.Serves xs r') (served : m.Serves xs m')
    (keeps : ∀ x ∈ xs, x.call.KeepsTo name) (different : other ≠ name) :
    standing r' m' other = standing r m other := by
  induction xs generalizing r m with
  | nil => rw [show r' = r from stored, show m' = m from served]
  | cons x xs ih =>
    obtain ⟨first, rest⟩ := List.forall_mem_cons.1 keeps
    exact (ih stored.2 served.2 rest).trans (standing_afterExchange_of_ne first different)

namespace World

variable {w w' : World MemoryStore} {α : Type} {p : Program α}

/-- What the records and the ballots of a world say about one person. -/
def standing (w : World MemoryStore) (name : Account) : Standing :=
  TrusteeBoard.standing w.store.records w.ballots.ballots name

/-- A program that keeps to one person leaves the standing of everybody else. -/
theorem standing_perform (keeps : p.OnlyAsks (Call.KeepsTo name)) (different : other ≠ name) :
    (w.perform p).2.standing other = w.standing other :=
  standing_of_serves (run_serves p w) (run_ballots p w)
    (fun _ hx => keeps.of_mem (path_run answer p w) hx) different

theorem answer_host_of_not_isPush {c : Call} (h : ¬c.IsPush) :
    (answer c w).2.host = w.host := by
  obtain ⟨faults, ⟨failure, a, -, answered⟩ | answered⟩ := answer_eq c w
  · rw [answered]
  · rw [answered]
    cases c with
    | setAuthority => exact (h trivial).elim
    | _ => rfl

theorem host_perform (keeps : p.OnlyAsks (Call.KeepsTo name)) : (w.perform p).2.host = w.host := by
  induction p generalizing w with
  | done result => rfl
  | ask c next ih =>
    exact (ih _ (keeps.2 _)).trans (answer_host_of_not_isPush keeps.1.not_isPush)

/-! ### The same person in two worlds -/

/-- Calm worlds with the same host in which the person has the same standing. -/
structure Agrees (name : Account) (w w' : World MemoryStore) : Prop where
  calm : w.Calm
  calm' : w'.Calm
  host : w'.host = w.host
  standing : w'.standing name = w.standing name

/-- Where ballots say the same about one person, a call that turns on that is answered alike. -/
theorem withBallot_congr_of_about {β : Type} {s s' : BallotService} (calm : s.failNextCall = false)
    (calm' : s'.failNextCall = false) {ballot : BallotId}
    (same : (s'.ballots.find? ballot).map (·.about name) =
      (s.ballots.find? ballot).map (·.about name))
    {call : Ballot → Except BallotError (β × Ballot)} (turns : ∀ {b b' : Ballot},
      b'.about name = b.about name → (call b').map Prod.fst = (call b).map Prod.fst) :
    (s'.withBallot ballot call).1 = (s.withBallot ballot call).1 := by
  have answered {s : BallotService} (calm : s.failNextCall = false) :
      (s.withBallot ballot call).1 = (s.ballots.find? ballot).elim (.error (.notFound ballot))
        fun b => (call b).map Prod.fst := by
    rw [withBallot_of_calm calm]
    cases s.ballots.find? ballot with
    | none => rfl
    | some b =>
      simp only [Option.elim_some]
      cases call b <;> rfl
  rw [answered calm, answered calm']
  cases found : s.ballots.find? ballot with
  | none => rw [Option.map_eq_none_iff.1 (same.trans (by rw [found]; rfl))]
  | some b =>
    rw [found] at same
    obtain ⟨b', found', about⟩ := Option.map_eq_some_iff.1 same
    rw [found']
    exact turns about

theorem Agrees.respond {c : Call} (h : Agrees name w w') (concerns : c.Concerns name) :
    (w'.respond c).1 = (w.respond c).1 := by
  have said {β : Type} (read : Standing → β) :
      (.ok (read (w'.standing name)) : Except StoreError β) = .ok (read (w.standing name)) :=
    congrArg (fun s => Except.ok (read s)) h.standing
  have ballots (ballot : BallotId) := congrFun (congrArg Standing.ballots h.standing) ballot
  cases c with
  | config => exact said (·.config)
  | nominee other =>
    cases concerns
    exact said (·.nominee)
  | candidate other =>
    cases concerns
    exact said (·.candidate)
  | member other => exact said fun s => s.members.find? other
  | apply changes =>
    show (w'.store.apply changes).1 = (w.store.apply changes).1
    rw [apply_of_calm h.calm.store, apply_of_calm h.calm'.store]
  | now => exact congrArg Host.clock h.host
  | authorize account => exact congrArg (·.authorize account) h.host
  | accountExists account => exact congrArg (·.accounts.contains account) h.host
  | addOption ballot option =>
    cases concerns
    refine withBallot_congr_of_about h.calm.ballots h.calm'.ballots (ballots ballot) ?_
    intro b b' about
    obtain ⟨opened, listed⟩ := Ballot.open_and_listed_of_about about
    simp only [opened, listed]
    cases b.votingOpen <;> cases b.options.contains name <;> rfl
  | removeOption ballot option =>
    cases concerns
    refine withBallot_congr_of_about h.calm.ballots h.calm'.ballots (ballots ballot) ?_
    intro b b' about
    obtain ⟨opened, listed⟩ := Ballot.open_and_listed_of_about about
    simp only [opened, listed]
    cases b.votingOpen <;> cases b.options.contains name <;> rfl
  | _ => exact concerns.elim

/-- Worlds that agree on one person answer alike what concerns that person, and go on to agree. -/
theorem answerAlike_of_concerns (name : Account) :
    AnswerAlike answer answer (Agrees name) (Call.Concerns name) := by
  intro c w w' concerns h
  have same : (answer c w').1 = (answer c w).1 := by
    rw [answer_of_calm h.calm, answer_of_calm h.calm']
    exact h.respond concerns
  have after (w : World MemoryStore) : (answer c w).2.standing name =
      (w.standing name).afterExchange ⟨c, (answer c w).1⟩ := by
    unfold World.standing
    rw [(answer_serves c w).2, (answer_ballots c w).2]
    exact (standing_afterExchange concerns name).trans (if_pos rfl)
  have quiet : ¬c.IsPush := Call.KeepsTo.not_isPush (.inl concerns)
  refine ⟨same, h.calm.answer c, h.calm'.answer c, ?_, ?_⟩
  · rw [answer_host_of_not_isPush quiet, answer_host_of_not_isPush quiet, h.host]
  · rw [after, after, same, h.standing]

end World

end TrusteeBoard
