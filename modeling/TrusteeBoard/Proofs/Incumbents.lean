import TrusteeBoard.Proofs.Registry

/-!
# Members who stand for election

A sitting member can be nominated only once the term has expired. Whether an account is a member is
not asked again when it is registered, and a nomination lasts until it is withdrawn or an election
is closed in which the nominee is a candidate. So a member who is a candidate was nominated as a
member whose term had expired (`NominatedInOffice`), maybe before an earlier election. A vacancy
election seats its winners except for such members (`History.vacancy_winners`).
-/

namespace TrusteeBoard

open Sample

/-- After the history `before`, a member was nominated whose term had expired, by the record that
there was then (`History.unique`). -/
structure Entry.NominatesInOffice (e : Entry) (before : List Entry) (name : Account) : Prop where
  did : ∃ nominator, e.Did (.nominate name nominator)
  inOffice : ∃ r c time, History before r ∧ name ∈ r.members.keys ∧ r.config = some c ∧
    ⟨.now, time⟩ ∈ e.exchanges ∧ c.termExpiresAt ≤ time

/-- The account was nominated in office, and has not been dropped by `unnominate` since. -/
def NominatedInOffice (es : List Entry) (name : Account) : Prop :=
  ∃ before nomination later, es = before ++ nomination :: later ∧
    nomination.NominatesInOffice before name ∧ ∀ e ∈ later, ¬e.Did (.unnominate name)

variable {es : List Entry} {e : Entry} {r r' : Records} {name : Account}

theorem NominatedInOffice.extend (h : NominatedInOffice es name)
    (stays : ¬e.Did (.unnominate name)) : NominatedInOffice (es ++ [e]) name := by
  obtain ⟨before, nomination, later, split, nominates, undropped⟩ := h
  refine ⟨before, nomination, later ++ [e], ?_, nominates, fun x hx => ?_⟩
  · rw [split, List.append_assoc]
    rfl
  · rcases List.mem_append.1 hx with hx | hx
    · exact undropped x hx
    · rwa [List.mem_singleton.1 hx]

/-! ### One operation -/

theorem mem_candidateNames_iff (filed : r.Filed) :
    name ∈ r.candidateNames ↔ name ∈ r.candidates.keys := by
  rw [Records.candidateNames, List.mem_mergeSort, Records.map_values_eq_keys filed.candidates]

/-- A member who is a nominee after an operation was both before it and has not been taken off the
nominees, or is nominated by it. -/
theorem nominee_of_step {settings : Settings} {xs : List Exchange} {op : Operation}
    {receipt : Receipt} (filed : r.Filed) (step : Step settings r xs op receipt r')
    (listed : name ∈ r'.nominees.keys) (seated : name ∈ r'.members.keys) :
    (name ∈ r.nominees.keys ∧ op ≠ .unnominate name ∨ ∃ nominator time,
      op = .nominate name nominator ∧ ⟨.now, time⟩ ∈ xs ∧
        ∃ c, r.config = some c ∧ c.termExpiresAt ≤ time) ∧ name ∈ r.members.keys := by
  cases step with
  | setConfig | addCandidate | removeCandidate | makeElection | startElection =>
    exact ⟨.inl ⟨listed, nofun⟩, seated⟩
  | nominate signed known asked fresh eligible =>
    refine ⟨?_, seated⟩
    rcases OrderedMap.mem_keys_insert.1 listed with rfl | listed
    · rcases eligible with expired | newcomer
      · obtain ⟨c, configured, expired⟩ := (Option.any_eq_true _ _).1 expired
        exact .inr ⟨_, _, rfl, asked, c, configured, of_decide_eq_true expired⟩
      · obtain ⟨record, found⟩ := OrderedMap.mem_keys_iff.1 seated
        cases newcomer.symm.trans found
    · exact .inl ⟨listed, nofun⟩
  | unnominate signed recorded unregistered =>
    obtain ⟨other, listed⟩ := OrderedMap.mem_keys_erase.1 listed
    refine ⟨.inl ⟨listed, fun same => other ?_⟩, seated⟩
    cases same
    rfl
  | roster prepared pushed =>
    cases prepared with
    | removeMember signed configured left asked | resign signed configured left asked =>
      rw [Records.nominees_after_rosterChange] at listed
      exact ⟨.inl ⟨listed, nofun⟩, ((mem_keys_after_leave filed left _).1 seated).2⟩
    | endElection signed configured asked begun counted elected closed =>
      rw [Records.nominees_after_rosterChange, Records.after_resolution] at listed
      rw [Records.keys_members_after_rosterChange _ filed _ _ (resolution_keeps _ _)] at seated
      obtain ⟨unregistered, listed⟩ := OrderedMap.mem_keys_foldl_erase.1 listed
      refine ⟨.inl ⟨listed, nofun⟩, ?_⟩
      rcases (Board.grows_afterElection elected).added name seated with kept | won
      · split at kept
        · cases kept
        · rwa [Records.keys_board filed] at kept
      · -- a winner was a candidate, and no candidate stays a nominee
        have registered := (candidate_of_winner filed won).1
        exact (unregistered ((mem_candidateNames_iff filed).2 registered)).elim
    | seatBoard configured signed inactive vacant known founded asked =>
      rw [Records.nominees_after_rosterChange, Records.after_dropNominees] at listed
      rw [Records.keys_members_after_rosterChange _ filed _ _ (dropNominees_keep _ _)] at seated
      obtain ⟨kept, listed⟩ := OrderedMap.mem_keys_foldl_erase.1 listed
      refine ⟨.inl ⟨listed, nofun⟩, ?_⟩
      rcases (Board.grows_foldlM_seat founded).added name seated with seated | founds
      · rwa [Records.keys_board filed] at seated
      · obtain ⟨record, found⟩ := OrderedMap.mem_keys_iff.1 listed
        exact (kept (List.mem_filter.2 ⟨founds, by rw [found]; rfl⟩)).elim

/-- In every history, a member who is a nominee was nominated in office. -/
theorem History.nominatedInOffice (h : History es r) (listed : name ∈ r.nominees.keys)
    (seated : name ∈ r.members.keys) : NominatedInOffice es name := by
  revert listed seated
  refine h.by_steps (I := fun es r =>
    name ∈ r.nominees.keys → name ∈ r.members.keys → NominatedInOffice es name) nofun ?_ ?_
  · intro es r e refusal before refused listed seated
    refine (before listed seated).extend ?_
    rintro ⟨-, receipt, done⟩
    cases refused.symm.trans done
  · intro es r e receipt r' past before done step listed seated
    obtain ⟨⟨listed, other⟩ | ⟨nominator, time, did, asked, expired⟩, seated⟩ :=
      nominee_of_step past.filed step listed seated
    · exact (before listed seated).extend fun withdrawn => other withdrawn.1
    · obtain ⟨c, configured, expired⟩ := expired
      have inOffice : e.NominatesInOffice es name :=
        ⟨⟨nominator, did, receipt, done⟩, r, c, time, past, seated, configured, asked, expired⟩
      exact ⟨es, e, [], rfl, inOffice, by simp⟩

/-! ### Vacancy elections -/

/-- The seats that a vacancy election contests are those without a member. -/
theorem Records.Balanced.room_of_vacancy (h : r.Balanced) {stored c : Config} {ballot : BallotId}
    {time : Timestamp} (configured : r.config = some stored)
    (begun : stored.beginResolving time = .ok (ballot, c)) (vacancy : c.electionKind = .vacancy) :
    c.openSeats.toNat + r.members.size ≤ c.maxSeats.toNat := by
  obtain ⟨-, -, -, -, rfl⟩ := Config.beginResolving_eq_ok_iff.1 begun
  have noTerm : stored.termElection = false := by
    by_contra term
    simp [Config.electionKind, term] at vacancy
  exact ((h.config configured).openSeats_add noTerm).le

section

variable {settings : Settings} {c : Config} {tally : Tally} {after : Board}

/-- A vacancy election leaves the members and seats nobody but winners. -/
theorem winner_of_mem_without (vacancy : c.electionKind = .vacancy)
    (elected : (r.board c.maxSeats).afterElection c.electionKind
      (r.contest settings c tally).outcome.winners = .ok after)
    (seated : name ∈ after.without (r.board c.maxSeats)) :
    name ∈ (r.contest settings c tally).outcome.winners := by
  rw [vacancy] at elected
  obtain ⟨now, before⟩ := Board.mem_without_iff.1 seated
  exact ((Board.grows_afterElection elected).added name now).resolve_left before

/-- A vacancy election has room for all winners. -/
theorem mem_without_of_vacancy (filed : r.Filed)
    (room : c.openSeats.toNat + r.members.size ≤ c.maxSeats.toNat)
    (vacancy : c.electionKind = .vacancy)
    (elected : (r.board c.maxSeats).afterElection c.electionKind
      (r.contest settings c tally).outcome.winners = .ok after)
    (won : name ∈ (r.contest settings c tally).outcome.winners) (unseated : name ∉ r.members.keys) :
    name ∈ after.without (r.board c.maxSeats) := by
  have few : (r.contest settings c tally).outcome.winners.length ≤ c.openSeats.toNat :=
    Contest.length_winners_le _
  have fits : (r.board c.maxSeats).members.size +
      (r.contest settings c tally).outcome.winners.length ≤ c.maxSeats.toNat := by
    rw [r.size_board filed]
    omega
  rw [vacancy] at elected
  rw [Board.mem_without_iff, Records.keys_board filed]
  exact ⟨Board.mem_of_seatAll elected fits name won, unseated⟩

end

/-- A member is a candidate only after a nomination in office. A vacancy election seats no one but
winners, and all winners apart from such members, unless a first board was so large that a word
could not count it. -/
theorem History.vacancy_winners (past : History es r) :
    (∀ name ∈ r.candidates.keys, name ∈ r.members.keys → NominatedInOffice es name) ∧
      ∀ (e : Entry) (r' : Records) (report : ElectionReport),
        (e.operation.program e.settings).Path e.exchanges e.result → r.Serves e.exchanges r' →
        e.result = .ok (.report report) → report.kind = .vacancy →
        (∀ name ∈ report.seated, name ∈ report.outcome.winners) ∧
          ((∀ e ∈ es, e.operation.FoundsCountably) →
            ∀ name ∈ report.outcome.winners, name ∈ report.seated ∨
              name ∈ r.members.keys ∧ NominatedInOffice es name) := by
  have inOffice : ∀ name ∈ r.candidates.keys, name ∈ r.members.keys → NominatedInOffice es name :=
    fun name registered seated => past.nominatedInOffice (past.nominated name registered) seated
  refine ⟨inOffice, fun e r' report path serves done vacancy => ?_⟩
  rw [done] at path
  have step := step_of_path path serves
  generalize e.operation = op at step
  generalize hreceipt : Receipt.report report = receipt at step
  cases step with
  | roster prepared pushed =>
    cases prepared with
    | @endElection holder stored c finished ballot tally after time signed configured asked begun
        counted elected closed =>
      cases hreceipt
      have filed := past.filed
      refine ⟨fun name seated => ?_, fun few name won => ?_⟩
      · exact winner_of_mem_without vacancy elected seated
      · by_cases seated : name ∈ r.members.keys
        · exact .inr ⟨seated, inOffice name (candidate_of_winner filed won).1 seated⟩
        · have room : c.openSeats.toNat + r.members.size ≤ c.maxSeats.toNat :=
            (past.balanced_of_founders few).room_of_vacancy configured begun vacancy
          exact .inl (mem_without_of_vacancy filed room vacancy elected won seated)
    | _ => cases hreceipt
  | _ => cases hreceipt

/-- The only winner of the sample's vacancy election has a seat already. -/
theorem closes_lateNomination :
    let w := world.afterAll {} lateNomination
    bob ∈ w.store.records.candidates.keys ∧ bob ∈ w.store.records.members.keys ∧
      ∃ report, (w.entry {} (.endElection carol)).result = .ok (.report report) ∧
        report.kind = .vacancy ∧ report.outcome.winners = [bob] ∧ report.seated = [] := by
  intro w
  have closed : (w.entry {} (.endElection carol)).result =
      .ok (.report ⟨⟨2⟩, .vacancy, .pass [bob], [], [], 2⟩) := by
    decide +kernel
  exact ⟨by decide +kernel, by decide +kernel, _, closed, rfl, rfl, rfl⟩

/-- The member who wins without a seat to fill was nominated in office. -/
theorem History.vacancy_winners_lateNomination :
    let w := world.afterAll {} lateNomination
    ∃ report, (w.entry {} (.endElection carol)).result = .ok (.report report) ∧
      report.kind = .vacancy ∧ bob ∈ report.outcome.winners ∧
      NominatedInOffice (world.entries {} lateNomination) bob := by
  intro w
  have past : History (world.entries {} lateNomination) w.store.records :=
    World.history_of_empty rfl lateNomination
  have few : ∀ e ∈ world.entries {} lateNomination, e.operation.FoundsCountably := by
    decide +kernel
  obtain ⟨-, -, report, done, vacancy, winners, seated⟩ := closes_lateNomination
  have won : bob ∈ report.outcome.winners := by
    rw [winners]
    exact List.mem_singleton.2 rfl
  have fills := (past.vacancy_winners.2 (w.entry {} (.endElection carol)) _ report
    (w.entry_path _) (w.entry_serves _) done vacancy).2 few bob won
  rw [seated] at fills
  exact ⟨report, done, vacancy, won, (fills.resolve_left List.not_mem_nil).2⟩

/-- A member who was nominated in office before a term election is a candidate in the vacancy
election after it, and wins without a seat to fill. -/
theorem incumbent_stands_for_vacancy :
    let w := world.afterAll {} lateNomination
    let r := w.store.records
    (∃ c, r.config = some c ∧ c.electionActive = true ∧ c.electionKind = .vacancy) ∧
      bob ∈ r.candidates.keys ∧ bob ∈ r.members.keys ∧
      ∃ report, (w.entry {} (.endElection carol)).result = .ok (.report report) ∧
        report.kind = .vacancy ∧ report.outcome.winners = [bob] ∧ report.seated = [] := by
  intro w r
  have vacancy : r.config.any fun c => c.electionActive && decide (c.electionKind = .vacancy) := by
    decide +kernel
  obtain ⟨c, stored, vacancy⟩ := (Option.any_eq_true _ _).1 vacancy
  rw [Bool.and_eq_true, decide_eq_true_iff] at vacancy
  exact ⟨⟨c, stored, vacancy⟩, closes_lateNomination⟩

end TrusteeBoard
