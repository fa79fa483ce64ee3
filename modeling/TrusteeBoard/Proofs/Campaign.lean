import TrusteeBoard.Proofs.History

/-!
# Elections in a history

A `Campaign` is an election in a history, from the operation that opened it on. While a record says
that an election is active, there is a campaign that it refers to (`History.exists_campaign`): it
was opened when the record says it was due, and whoever is registered as a candidate consented in
the course of it (`Campaign.Consented`).
-/

namespace TrusteeBoard

/-- The operation was carried out and succeeded. -/
def Entry.Did (e : Entry) (op : Operation) : Prop :=
  e.operation = op ∧ ∃ receipt, e.result = .ok receipt

/-- An election was opened or closed. -/
def Entry.TurnsElection (e : Entry) : Prop :=
  ∃ holder, e.Did (.makeElection holder) ∨ e.Did (.endElection holder)

/-- An account was registered as a candidate on its own authority, at a time before `deadline`. -/
structure Entry.Registers (e : Entry) (name : Account) (deadline : Timestamp) : Prop where
  did : e.Did (.addCandidate name)
  signed : Signed name e.exchanges
  inTime : ∃ time, ⟨.now, time⟩ ∈ e.exchanges ∧ time < deadline

/-- An election in a history: what came before its opening, the opening, what came since, and the
ballot that was opened, with the start of its voting. -/
structure Campaign where
  before : List Entry
  opening : Entry
  since : List Entry
  ballot : BallotId
  begins : Timestamp

namespace Campaign

/-- The history ends with the election open. -/
structure OpenAfter (k : Campaign) (es : List Entry) : Prop where
  entries : es = k.before ++ k.opening :: k.since
  opened : ∃ holder, k.opening.Did (.makeElection holder)
  balloted : ∃ name treasury ends,
    ⟨.openBallot name treasury [] k.begins ends, .ok k.ballot⟩ ∈ k.opening.exchanges
  lasting : ∀ e ∈ k.since, ¬e.TurnsElection

/-- The account was registered on its own authority since the opening, before the ballot began, and
was not withdrawn since. -/
def Consented (k : Campaign) (name : Account) : Prop :=
  ∃ earlier registration later, k.since = earlier ++ registration :: later ∧
    registration.Registers name k.begins ∧ ∀ e ∈ later, ¬e.Did (.removeCandidate name)

/-- The election was opened when the term of the board had expired, by the record that there was
then (`History.unique`). -/
def IsDueByTerm (k : Campaign) : Prop :=
  ∃ r c time, History k.before r ∧ r.config = some c ∧ ⟨.now, time⟩ ∈ k.opening.exchanges ∧
    c.termExpiresAt ≤ time

/-- The campaign is the election that the records refer to as active. -/
structure Underway (k : Campaign) (es : List Entry) (r : Records) (c : Config) : Prop where
  openAfter : k.OpenAfter es
  ballot : c.openBallot = some k.ballot
  begins : c.votingOpensAt = k.begins
  due : c.termElection = true → k.IsDueByTerm
  consented : ∀ name ∈ r.candidates.keys, k.Consented name

/-- The campaign with one more operation. -/
def extend (k : Campaign) (e : Entry) : Campaign :=
  { k with since := k.since ++ [e] }

variable {k : Campaign} {es : List Entry} {e : Entry} {name : Account} {r r' : Records}
  {c c' : Config}

theorem OpenAfter.extend (h : k.OpenAfter es) (lasts : ¬e.TurnsElection) :
    (k.extend e).OpenAfter (es ++ [e]) := by
  refine ⟨?_, h.opened, h.balloted, fun x hx => ?_⟩
  · rw [h.entries, List.append_assoc]
    rfl
  · rcases List.mem_append.1 hx with hx | hx
    · exact h.lasting x hx
    · rwa [List.mem_singleton.1 hx]

theorem Consented.extend (h : k.Consented name) (stays : ¬e.Did (.removeCandidate name)) :
    (k.extend e).Consented name := by
  obtain ⟨earlier, registration, later, split, registers, unwithdrawn⟩ := h
  refine ⟨earlier, registration, later ++ [e], ?_, registers, fun x hx => ?_⟩
  · show k.since ++ [e] = _
    rw [split, List.append_assoc]
    rfl
  · rcases List.mem_append.1 hx with hx | hx
    · exact unwithdrawn x hx
    · rwa [List.mem_singleton.1 hx]

theorem consented_of_registers (h : e.Registers name k.begins) : (k.extend e).Consented name :=
  ⟨k.since, e, [], rfl, h, by simp⟩

/-- Candidates who were there before and are not withdrawn, and one who registers, have consented
after one more operation. -/
theorem Underway.extend (h : k.Underway es r c) (lasts : ¬e.TurnsElection)
    (ballot : c'.openBallot = c.openBallot) (begins : c'.votingOpensAt = c.votingOpensAt)
    (term : c'.termElection = c.termElection)
    (candidates : ∀ name ∈ r'.candidates.keys,
      name ∈ r.candidates.keys ∧ ¬e.Did (.removeCandidate name) ∨
        e.Registers name c.votingOpensAt) : (k.extend e).Underway (es ++ [e]) r' c' where
  openAfter := h.openAfter.extend lasts
  ballot := ballot.trans h.ballot
  begins := begins.trans h.begins
  due hterm := h.due (term ▸ hterm)
  consented name hname := by
    rcases candidates name hname with ⟨stays, unwithdrawn⟩ | registers
    · exact (h.consented name stays).extend unwithdrawn
    · rw [h.begins] at registers
      exact consented_of_registers registers

theorem Underway.extend_refused (h : k.Underway es r c) {refusal : Refusal}
    (refused : e.result = .error refusal) : (k.extend e).Underway (es ++ [e]) r c := by
  have idle (op : Operation) : ¬e.Did op := by
    rintro ⟨-, receipt, done⟩
    rw [refused] at done
    cases done
  refine h.extend ?_ rfl rfl rfl fun name hname => .inl ⟨hname, idle _⟩
  rintro ⟨holder, opened | closed⟩
  · exact idle _ opened
  · exact idle _ closed

/-- An opened election. -/
theorem underway_opening {holder : Account} {plan : ElectionPlan} {ballot : BallotId}
    {time : Timestamp} (past : History es r) (did : e.Did (.makeElection holder))
    (configured : r.config = some c) (asked : ⟨.now, time⟩ ∈ e.exchanges)
    (planned : c.planElection time = .ok plan)
    (opened : ∃ name treasury, ⟨.openBallot name treasury [] plan.votingOpensAt plan.votingClosesAt,
      .ok ballot⟩ ∈ e.exchanges) (cleared : r'.candidates = .empty) :
    Underway ⟨es, e, [], ballot, plan.votingOpensAt⟩ (es ++ [e]) r'
      (c.openElection plan ballot) where
  openAfter :=
    { entries := rfl
      opened := ⟨holder, did⟩
      balloted := by
        obtain ⟨name, treasury, opened⟩ := opened
        exact ⟨name, treasury, _, opened⟩
      lasting := by simp }
  ballot := rfl
  begins := rfl
  due hterm := by
    refine ⟨r, c, time, past, configured, asked, ?_⟩
    obtain ⟨-, -, -, -, plan⟩ := Config.planElection_eq_ok_iff.1 planned
    rcases plan with ⟨expired, -⟩ | ⟨-, -, vacancy, -⟩
    · exact of_decide_eq_true expired
    · simp [Config.openElection, vacancy] at hterm
  consented name hname := by
    rw [cleared] at hname
    cases hname

end Campaign

/-! ### Every active election is a campaign -/

variable {es : List Entry} {e : Entry} {r r' : Records} {c' : Config}

open Campaign in
/-- One operation: it opens an election, or it carries on the one that is active. -/
theorem exists_campaign_of_step (past : History es r)
    (before : ∀ {c}, r.config = some c → c.electionActive = true → ∃ k, Underway k es r c)
    {receipt : Receipt} (done : e.result = .ok receipt)
    (step : Step e.settings r e.exchanges e.operation receipt r') (stored : r'.config = some c')
    (active : c'.electionActive = true) : ∃ k, Underway k (es ++ [e]) r' c' := by
  generalize hop : e.operation = op at step
  have lasts (other : ∀ holder, op ≠ .makeElection holder ∧ op ≠ .endElection holder) :
      ¬e.TurnsElection := by
    rintro ⟨holder, ⟨opens, -⟩ | ⟨closes, -⟩⟩
    · exact (other holder).1 (hop.symm.trans opens)
    · exact (other holder).2 (hop.symm.trans closes)
  have unwithdrawn (other : ∀ name, op ≠ .removeCandidate name) (name : Account) :
      ¬e.Did (.removeCandidate name) := fun did => other name (hop.symm.trans did.1)
  cases step with
  | setConfig current owned signed inactive sound =>
    cases stored
    exact (Bool.false_ne_true (inactive.symm.trans active)).elim
  | nominate | unnominate =>
    obtain ⟨k, underway⟩ := before stored active
    exact ⟨_, underway.extend (lasts (by simp)) rfl rfl rfl fun name hname =>
      .inl ⟨hname, unwithdrawn (by simp) name⟩⟩
  | @addCandidate candidate c ballot time record signed configured asked window listed unregistered
      room added =>
    obtain rfl : c = c' := Option.some.inj (configured.symm.trans stored)
    obtain ⟨k, underway⟩ := before configured active
    obtain ⟨-, -, -, early⟩ := Config.candidacyBallot_eq_ok_iff.1 window
    refine ⟨_, underway.extend (lasts (by simp)) rfl rfl rfl fun name hname => ?_⟩
    rcases OrderedMap.mem_keys_insert.1 hname with rfl | hname
    · exact .inr ⟨⟨hop, _, done⟩, signed, time, asked, UInt64.not_le.1 early⟩
    · exact .inl ⟨hname, unwithdrawn (by simp) name⟩
  | @removeCandidate candidate c ballot time record configured signed asked window registered
      removed =>
    obtain ⟨k, underway⟩ := before stored active
    refine ⟨_, underway.extend (lasts (by simp)) rfl rfl rfl fun name hname => .inl ?_⟩
    -- whoever is still a candidate is not the one withdrawn
    obtain ⟨other, hname⟩ := OrderedMap.mem_keys_erase.1 hname
    refine ⟨hname, fun did => other ?_⟩
    cases hop.symm.trans did.1
    rfl
  | @makeElection holder c plan ballot time signed configured asked planned opened =>
    cases stored
    exact ⟨_, underway_opening past ⟨hop, _, done⟩ configured asked planned ⟨_, _, opened⟩ rfl⟩
  | @startElection holder c voting ballot time signed configured asked begun opened =>
    cases stored
    obtain ⟨-, -, -, -, rfl⟩ := Config.beginVoting_eq_ok_iff.1 begun
    obtain ⟨k, underway⟩ := before configured active
    exact ⟨_, underway.extend (lasts (by simp)) rfl rfl rfl fun name hname =>
      .inl ⟨hname, unwithdrawn (by simp) name⟩⟩
  | roster prepared pushed =>
    cases prepared with
    | removeMember signed configured left asked | resign signed configured left asked =>
      rw [Records.config_after_rosterChange] at stored
      cases stored
      obtain ⟨k, underway⟩ := before configured active
      refine ⟨_, underway.extend (lasts (by simp)) rfl rfl rfl fun name hname => .inl ?_⟩
      rw [Records.candidates_after_rosterChange] at hname
      exact ⟨hname, unwithdrawn (by simp) name⟩
    | endElection signed configured asked begun counted elected closed =>
      rw [Records.config_after_rosterChange, Records.config_after_append] at stored
      cases stored
      subst closed
      cases active
    | seatBoard configured signed inactive vacant known seated asked =>
      rw [Records.config_after_rosterChange, Records.config_after_append] at stored
      cases stored
      exact (Bool.false_ne_true (inactive.symm.trans active)).elim

/-- While the records refer to an active election, it is one that was opened in the history. -/
theorem History.exists_campaign (h : History es r) {c : Config} (stored : r.config = some c)
    (active : c.electionActive = true) : ∃ k : Campaign, k.Underway es r c := by
  induction h generalizing c with
  | start => cases stored
  | @perform es r r' past e path serves ih =>
    cases hresult : e.result with
    | error refusal =>
      rw [hresult] at path
      obtain rfl := serves.of_error path (e.operation.writesLast e.settings)
      obtain ⟨k, underway⟩ := ih stored active
      exact ⟨_, underway.extend_refused hresult⟩
    | ok receipt =>
      rw [hresult] at path
      exact exists_campaign_of_step past ih hresult (step_of_path path serves) stored active

end TrusteeBoard
