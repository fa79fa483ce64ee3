import TrusteeBoard.Proofs.Campaign
import TrusteeBoard.Proofs.Outcome.Allocation
import TrusteeBoard.Proofs.Seats

/-!
# How seats are gained and lost

Only four operations move members. Whoever is seated was named by the publisher when the board was
first seated, or consented to stand in the election that is closed and won it (`Seating`). Whoever
is unseated resigned, was removed on the authority of the governed account, or was not elected in a
term election that someone else won (`Unseating`).
-/

namespace TrusteeBoard

open Sample

variable {settings : Settings} {es : List Entry} {e : Entry} {r r' : Records} {xs : List Exchange}
  {op : Operation} {name : Account} {c : Config} {after : Board} {time : Timestamp}

/-! ### Open seats -/

theorem openSeats_le_of_prepares {change : RosterChange} {receipt : Committed → Receipt}
    (prepared : Prepares settings r xs op change receipt) :
    ∀ c, (r.after change.changes).config = some c → c.openSeats ≤ c.maxSeats := by
  intro c stored
  cases prepared with
  | removeMember signed configured left asked | resign signed configured left asked =>
    rw [Records.config_after_rosterChange] at stored
    cases stored
    exact min32_le_right _ _
  | endElection signed configured asked begun counted elected closed =>
    rw [Records.config_after_rosterChange, Records.config_after_append] at stored
    cases stored
    subst closed
    exact Config.openSeats_finishElection_le _ _ _
  | seatBoard configured signed inactive vacant known seated asked =>
    rw [Records.config_after_rosterChange, Records.config_after_append] at stored
    cases stored
    have seats := (Board.grows_foldlM_seat seated).maxSeats
    show floorSub32 _ _ ≤ _
    rw [seats]
    exact floorSub32_le _ _

theorem openSeats_le_of_step (within : ∀ c, r.config = some c → c.openSeats ≤ c.maxSeats)
    {receipt : Receipt} (step : Step settings r xs op receipt r') :
    ∀ c, r'.config = some c → c.openSeats ≤ c.maxSeats := by
  cases step with
  | setConfig current owned signed inactive sound =>
    intro c stored
    cases stored
    exact floorSub32_le _ _
  | nominate | unnominate | addCandidate | removeCandidate => exact within
  | @makeElection holder c plan ballot time signed configured asked planned opened =>
    intro c' stored
    cases stored
    show plan.seats ≤ c.maxSeats
    obtain ⟨-, -, -, -, ⟨-, -, seats⟩ | ⟨-, -, -, seats⟩⟩ :=
      Config.planElection_eq_ok_iff.1 planned
    · rw [seats]
      exact UInt32.le_refl _
    · rw [seats]
      exact within c configured
  | @startElection holder c voting ballot time signed configured asked begun opened =>
    intro c' stored
    cases stored
    obtain ⟨-, -, -, -, rfl⟩ := Config.beginVoting_eq_ok_iff.1 begun
    exact within c configured
  | roster prepared pushed => exact openSeats_le_of_prepares prepared

/-- No record has more open seats than seats. -/
theorem History.openSeats_le (h : History es r) :
    ∀ c, r.config = some c → c.openSeats ≤ c.maxSeats :=
  @History.invariant es r (fun r => ∀ c, r.config = some c → c.openSeats ≤ c.maxSeats)
    (fun _ => True) nofun (fun _ within _ step => openSeats_le_of_step within step) h
    fun _ _ => trivial

/-! ### Members after a roster change -/

/-- Members move only when a roster change is committed. -/
theorem exists_prepares_of_moved (path : (e.operation.program e.settings).Path e.exchanges e.result)
    (serves : r.Serves e.exchanges r') (moved : r'.members.keys ≠ r.members.keys) :
    ∃ change receipt, Prepares e.settings r e.exchanges e.operation change receipt ∧
      e.result = .ok (receipt ⟨change.seated, change.unseated, change.next⟩) ∧
      r' = r.after change.changes := by
  cases hresult : e.result with
  | error refusal =>
    rw [hresult] at path
    have same := serves.of_error path (e.operation.writesLast e.settings)
    exact (moved (by rw [same])).elim
  | ok receipt =>
    rw [hresult] at path
    have step := step_of_path path serves
    generalize e.operation = op at step ⊢
    cases step with
    | roster prepared pushed => exact ⟨_, _, prepared, rfl, rfl⟩
    | _ => exact (moved rfl).elim

theorem mem_keys_after_leave (filed : r.Filed) {member : Account}
    (left : (r.board c.maxSeats).unseat member = .ok after) (vacated : Config) :
    name ∈
        (r.after (r.rosterChange settings c after [.putConfig vacated] time).changes).members.keys ↔
      name ≠ member ∧ name ∈ r.members.keys := by
  obtain ⟨-, rfl⟩ := Board.unseat_eq_ok_iff.1 left
  rw [Records.keys_members_after_rosterChange settings filed _ _ (by simp [Change.IsMembership]),
    OrderedMap.mem_keys_erase, Records.keys_board filed]

/-- A closed election seats its winners. If it was a term election that anyone won, it seats nobody
else, and otherwise it leaves the old members. -/
theorem mem_keys_after_election (filed : r.Filed) {kind : ElectionKind} {winners : List Account}
    {seats : UInt32} (elected : (r.board seats).afterElection kind winners = .ok after)
    (few : winners.length ≤ seats.toNat) :
    (∀ name ∈ after.members.keys, name ∈ r.members.keys ∨ name ∈ winners) ∧
      ∀ name ∈ r.members.keys, name ∉ after.members.keys →
        kind = .term ∧ winners ≠ [] ∧ name ∉ winners := by
  have grows := Board.grows_afterElection elected
  by_cases replaced : kind = .term ∧ winners ≠ []
  · -- the cleared board has room for all winners
    have seated : ∀ name ∈ winners, name ∈ after.members.keys := by
      rw [Board.afterElection, if_pos replaced] at elected
      refine Board.mem_of_seatAll elected ?_
      show 0 + winners.length ≤ seats.toNat
      rwa [Nat.zero_add]
    rw [if_pos replaced] at grows
    refine ⟨fun name hname => .inr ((grows.added name hname).resolve_left nofun), ?_⟩
    exact fun name _ gone => ⟨replaced.1, replaced.2, fun won => gone (seated name won)⟩
  · rw [if_neg replaced] at grows
    refine ⟨fun name hname => ?_, fun name hname gone => ?_⟩
    · rw [← Records.keys_board filed seats]
      exact grows.added name hname
    · rw [← Records.keys_board filed seats] at hname
      exact (gone (grows.kept name hname)).elim

/-! ### Winners -/

theorem registered_contest (filed : r.Filed) (tally : Tally) :
    (r.contest settings c tally).registered = r.candidates.keys.toFinset := by
  ext name
  rw [← Records.map_values_eq_keys filed.candidates]
  simp [Contest.registered, Records.contest, Records.candidateNames]

variable (settings r) in
theorem length_winners_le (within : c.openSeats ≤ c.maxSeats) (tally : Tally) :
    (r.contest settings c tally).outcome.winners.length ≤ c.maxSeats.toNat :=
  (Contest.length_winners_le _).trans (UInt32.le_iff_toNat_le.1 within)

/-- A winner is a registered candidate with weight, and the weight for all of them reaches the
quorum. -/
theorem candidate_of_winner (filed : r.Filed) {tally : Tally}
    (won : name ∈ (r.contest settings c tally).outcome.winners) :
    name ∈ r.candidates.keys ∧ 0 < (tally.weightOf name).toNat ∧
      (requiredQuorum tally.totalWeight c.holderQuorumDivisor).toNat ≤
        ∑ other ∈ r.candidates.keys.toFinset, (tally.weightOf other).toNat := by
  obtain ⟨candidate, weight⟩ := Finset.mem_filter.1 (Contest.mem_contenders_of_mem_winners _ won)
  have quorum := (Contest.quorum_le_of_winners _ (List.ne_nil_of_mem won)).1
  rw [Contest.cast, registered_contest filed] at quorum
  rw [registered_contest filed, List.mem_toFinset] at candidate
  refine ⟨candidate, Nat.pos_of_ne_zero fun hzero => weight ?_, quorum⟩
  exact BitVec.eq_of_toNat_eq hzero

/-- An election that can be closed is one that was opened in the history. -/
theorem History.exists_closing (past : History es r) {stored : Config} {ballot : BallotId}
    (configured : r.config = some stored) (begun : stored.beginResolving time = .ok (ballot, c)) :
    ∃ k : Campaign, k.OpenAfter es ∧ ballot = k.ballot ∧
      (c.electionKind = .term → k.IsDueByTerm) ∧ (∀ name ∈ r.candidates.keys, k.Consented name) ∧
      c.openSeats ≤ c.maxSeats ∧ c.holderQuorumDivisor = stored.holderQuorumDivisor := by
  obtain ⟨active, opened, -, -, rfl⟩ := Config.beginResolving_eq_ok_iff.1 begun
  obtain ⟨k, underway⟩ := past.exists_campaign configured active
  refine ⟨k, underway.openAfter, Option.some.inj (opened.symm.trans underway.ballot),
    fun kind => underway.due ?_, underway.consented, past.openSeats_le stored configured, rfl⟩
  by_contra vacancy
  simp [Config.electionKind, vacancy] at kind

/-! ### Gained seats -/

/-- How an account can gain a seat by the operation `e`, after the history `es` that leaves the
records `r`. -/
inductive Seating (es : List Entry) (r : Records) (e : Entry) (name : Account) : Prop
  /-- It is named in a first seating, which the publisher signs for an empty board while no election
  is active. -/
  | founded {members : List Account} {c : Config} (did : e.Did (.seatBoard members))
    (named : name ∈ members) (configured : r.config = some c)
    (signed : Signed c.publisher e.exchanges) (vacant : r.members.keys = [])
    (inactive : c.electionActive = false)
  /-- It consented to stand in the election that is closed, the tally gives it weight, and all
  candidates together enough for the quorum. -/
  | elected {holder : Account} {k : Campaign} {tally : Tally} {c : Config}
    (did : e.Did (.endElection holder)) (openAfter : k.OpenAfter es)
    (consented : k.Consented name) (counted : ⟨.tally k.ballot, .ok tally⟩ ∈ e.exchanges)
    (configured : r.config = some c) (weight : 0 < (tally.weightOf name).toNat)
    (quorum : (requiredQuorum tally.totalWeight c.holderQuorumDivisor).toNat ≤
      ∑ other ∈ r.candidates.keys.toFinset, (tally.weightOf other).toNat)

/-- Whoever has a seat after an operation and had none before gained it in one of the two ways. -/
theorem History.seat_gained (past : History es r)
    (path : (e.operation.program e.settings).Path e.exchanges e.result)
    (serves : r.Serves e.exchanges r') (unseated : name ∉ r.members.keys)
    (seated : name ∈ r'.members.keys) : Seating es r e name := by
  have filed := past.filed
  obtain ⟨change, receipt, prepared, done, rfl⟩ :=
    exists_prepares_of_moved path serves fun same => unseated (same ▸ seated)
  generalize hop : e.operation = op at prepared
  cases prepared with
  | removeMember signed configured left asked | resign signed configured left asked =>
    exact (unseated ((mem_keys_after_leave filed left _).1 seated).2).elim
  | @endElection holder stored c finished ballot tally after time signed configured asked begun
      counted elected closed =>
    obtain ⟨k, openAfter, rfl, -, consented, within, divisor⟩ :=
      past.exists_closing configured begun
    rw [Records.keys_members_after_rosterChange _ filed _ _ (resolution_keeps _ _)] at seated
    have few := length_winners_le e.settings r within tally
    have won := ((mem_keys_after_election filed elected few).1 name seated).resolve_left unseated
    obtain ⟨candidate, weight, quorum⟩ := candidate_of_winner filed won
    rw [divisor] at quorum
    exact .elected ⟨hop, _, done⟩ openAfter (consented name candidate) counted configured weight
      quorum
  | @seatBoard members c after time configured signed inactive vacant known founded asked =>
    rw [Records.keys_members_after_rosterChange _ filed _ _ (dropNominees_keep _ _)] at seated
    have named := (Board.grows_foldlM_seat founded).added name seated
    rw [Records.keys_board filed] at named
    have empty : r.members.keys = [] := by
      rw [← Records.keys_board filed c.maxSeats, ← List.length_eq_zero_iff, OrderedMap.length_keys]
      exact Board.isEmpty_iff.1 vacant
    exact .founded ⟨hop, _, done⟩ (named.resolve_left unseated) configured signed empty inactive

/-- The candidate who is seated after the term of the board consented to stand. -/
theorem History.seat_gained_succession :
    let w := world.afterAll {} succession
    let closed := w.after {} (.perform (.endElection carol))
    alice ∈ closed.store.records.members.keys ∧
      ∃ k : Campaign, k.OpenAfter (world.entries {} succession) ∧ k.Consented alice := by
  intro w closed
  have past : History (world.entries {} succession) w.store.records :=
    World.history_of_empty rfl succession
  have unseated : alice ∉ w.store.records.members.keys := by
    decide +kernel
  have seated : alice ∈ closed.store.records.members.keys := by
    decide +kernel
  have gained : Seating _ _ (w.entry {} (.endElection carol)) alice :=
    past.seat_gained (w.entry_path _) (w.entry_serves _) unseated seated
  cases gained with
  | founded did => cases did.1
  | elected did openAfter consented => exact ⟨seated, _, openAfter, consented⟩

/-! ### Lost seats -/

theorem winners_eq_nil_of_tag {outcome : Outcome}
    (h : outcome.tag = "FAIL" ∨ outcome.tag = "COUNT") : outcome.winners = [] := by
  cases outcome with
  | pass winners | tie winners tied => simp [Outcome.tag] at h
  | fail turnout quorum | count => rfl

/-- How a member can lose the seat by the operation `e`, after the history `es`. -/
inductive Unseating (es : List Entry) (e : Entry) (name : Account) : Prop
  | resigned (did : e.Did (.resign name)) (signed : Signed name e.exchanges)
  /-- The board removes the member on the authority of the governed account. -/
  | removed (did : e.Did (.removeMember name))
    (signed : Signed e.settings.governedAccount e.exchanges)
  /-- An election is closed that was opened once the term had expired, and others win it. -/
  | outvoted {holder : Account} {report : ElectionReport} {k : Campaign}
    (closes : e.operation = .endElection holder) (done : e.result = .ok (.report report))
    (openAfter : k.OpenAfter es) (ballot : report.ballot = k.ballot) (due : k.IsDueByTerm)
    (kind : report.kind = .term) (anyone : report.outcome.winners ≠ [])
    (unelected : name ∉ report.outcome.winners)

theorem History.unseating (past : History es r)
    (path : (e.operation.program e.settings).Path e.exchanges e.result)
    (serves : r.Serves e.exchanges r') (seated : name ∈ r.members.keys)
    (unseated : name ∉ r'.members.keys) : Unseating es e name := by
  have filed := past.filed
  obtain ⟨change, receipt, prepared, done, rfl⟩ :=
    exists_prepares_of_moved path serves fun same => unseated (same ▸ seated)
  generalize hop : e.operation = op at prepared
  cases prepared with
  | @removeMember member c after time signed configured left asked =>
    obtain rfl : name = member := by
      by_contra other
      exact unseated ((mem_keys_after_leave filed left _).2 ⟨other, seated⟩)
    exact .removed ⟨hop, _, done⟩ signed
  | @resign member c after time signed configured left asked =>
    obtain rfl : name = member := by
      by_contra other
      exact unseated ((mem_keys_after_leave filed left _).2 ⟨other, seated⟩)
    exact .resigned ⟨hop, _, done⟩ signed
  | @endElection holder stored c finished ballot tally after time signed configured asked begun
      counted elected closed =>
    obtain ⟨k, openAfter, same, due, -, within, -⟩ := past.exists_closing configured begun
    rw [Records.keys_members_after_rosterChange _ filed _ _ (resolution_keeps _ _)] at unseated
    have few := length_winners_le e.settings r within tally
    obtain ⟨kind, anyone, unelected⟩ :=
      (mem_keys_after_election filed elected few).2 name seated unseated
    exact .outvoted hop done openAfter same (due kind) kind anyone unelected
  | @seatBoard members c after time configured signed inactive vacant known founded asked =>
    rw [Records.keys_members_after_rosterChange _ filed _ _ (dropNominees_keep _ _)] at unseated
    rw [← Records.keys_board filed c.maxSeats] at seated
    exact (unseated ((Board.grows_foldlM_seat founded).kept name seated)).elim

/-- Whoever has a seat before an operation and none after it lost it in one of the three ways. So an
election that is refused, that fails, that nobody wins or that is held for a vacancy leaves all
members. -/
theorem History.seat_lost (past : History es r)
    (path : (e.operation.program e.settings).Path e.exchanges e.result)
    (serves : r.Serves e.exchanges r') :
    (∀ name ∈ r.members.keys, name ∉ r'.members.keys → Unseating es e name) ∧
      ∀ holder, e.operation = .endElection holder →
        (∀ report, e.result = .ok (.report report) → report.kind = .vacancy ∨
          report.outcome.tag = "FAIL" ∨ report.outcome.tag = "COUNT" ∨
          report.outcome.winners = []) →
        ∀ name ∈ r.members.keys, name ∈ r'.members.keys := by
  refine ⟨fun name => past.unseating path serves, fun holder closes spares name seated => ?_⟩
  by_contra unseated
  cases past.unseating path serves seated unseated with
  | resigned did => cases closes.symm.trans did.1
  | removed did => cases closes.symm.trans did.1
  | @outvoted _ report k _ done _ _ _ kind anyone =>
    rcases spares report done with vacancy | failed | uncounted | nobody
    · cases kind.symm.trans vacancy
    · exact anyone (winners_eq_nil_of_tag (.inl failed))
    · exact anyone (winners_eq_nil_of_tag (.inr uncounted))
    · exact anyone nobody

/-- The incumbent who is not elected loses the seat in an election that was due by the term. -/
theorem History.seat_lost_succession :
    let w := world.afterAll {} succession
    let closed := w.after {} (.perform (.endElection carol))
    bob ∈ w.store.records.members.keys ∧ bob ∉ closed.store.records.members.keys ∧
      ∃ k : Campaign, k.OpenAfter (world.entries {} succession) ∧ k.IsDueByTerm := by
  intro w closed
  have past : History (world.entries {} succession) w.store.records :=
    World.history_of_empty rfl succession
  have seated : bob ∈ w.store.records.members.keys := by
    decide +kernel
  have unseated : bob ∉ closed.store.records.members.keys := by
    decide +kernel
  obtain ⟨lost, -⟩ := past.seat_lost (w.entry_path (.endElection carol)) (w.entry_serves _)
  cases lost bob seated unseated with
  | resigned did => cases did.1
  | removed did => cases did.1
  | outvoted _ _ openAfter _ due => exact ⟨seated, unseated, _, openAfter, due⟩

end TrusteeBoard
