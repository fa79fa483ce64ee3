import TrusteeBoard.Proofs.World.Calm

/-!
# Candidacies in calm worlds

In a calm world whoever is neither a nominee nor a member can be nominated, and a nominee can
register while the election accepts candidates and there is room.
-/

namespace TrusteeBoard

open Program

namespace World

variable {settings : Settings} {w : World MemoryStore} {name : Account} {c : Config}

theorem reads_nomination (calm : w.Calm) (unlisted : name ∉ w.store.records.nominees.keys)
    (unseated : name ∉ w.store.records.members.keys) (nominator : Account) (time : Timestamp)
    (eligible : Bool) :
    w.Reads (Candidacy.nomination name nominator time eligible)
      [.putNominee ⟨name, nominator, time⟩] := by
  refine (reads_isNominee calm name).bind fun past => ?_
  rw [OrderedMap.contains_eq_false_iff.2 unlisted]
  cases eligible with
  | true => exact ⟨past, rfl⟩
  | false =>
    refine (reads_isMember (calm.with_history past) name).bind fun past => ?_
    rw [show OrderedMap.contains _ name = false from OrderedMap.contains_eq_false_iff.2 unseated]
    exact ⟨past, rfl⟩

theorem reads_registration (calm : w.Calm) (listed : name ∈ w.store.records.nominees.keys)
    (unregistered : name ∉ w.store.records.candidates.keys) {limit : UInt32}
    (room : ¬limit < UInt32.ofNat w.store.records.candidates.values.length + 1) (time : Timestamp) :
    w.Reads (Candidacy.registration name time limit) [.putCandidate ⟨name, time⟩] := by
  refine (reads_isNominee calm name).bind fun past => ?_
  rw [OrderedMap.contains_iff.2 listed]
  refine (reads_isCandidate (calm.with_history past) name).bind fun past => ?_
  rw [show OrderedMap.contains _ name = false from OrderedMap.contains_eq_false_iff.2 unregistered]
  refine (reads_candidates (calm.with_history past)).bind fun past => ?_
  dsimp only
  rw [if_neg room]
  exact ⟨past, rfl⟩

theorem yields_nominate (calm : w.Calm) {nominator : Account}
    (signed : nominator ∈ w.host.callers.keys) (known : name ∈ w.host.accounts.keys)
    (unlisted : name ∉ w.store.records.nominees.keys)
    (unseated : name ∉ w.store.records.members.keys) :
    w.Yields ((Operation.nominate name nominator).program settings) fun _ w' => w'.Calm ∧
      w'.host = w.host ∧ w'.ballots = w.ballots ∧
      w'.store.records = w.store.records.after [.putNominee ⟨name, nominator, w.host.clock⟩] := by
  refine Yields.andThen (fun _ => Receipt.done) ?_
  refine (reads_authorize calm signed).query fun past => ?_
  refine (reads_accountExists (calm.with_history past) name).query fun past => ?_
  rw [show OrderedMap.contains _ name = true from OrderedMap.contains_iff.2 known]
  refine (reads_now (calm.with_history past)).query fun past => ?_
  refine (reads_config (calm.with_history past)).query fun past => ?_
  refine (reads_nomination (calm.with_history past) unlisted unseated nominator _ _).query
    fun past => ?_
  exact yields_apply (calm.with_history past) _

theorem yields_addCandidate (calm : w.Calm) (signed : name ∈ w.host.callers.keys)
    (stored : w.store.records.config = some c) {ballot : BallotId}
    (window : c.candidacyBallot w.host.clock = .ok ballot)
    (listed : name ∈ w.store.records.nominees.keys)
    (unregistered : name ∉ w.store.records.candidates.keys)
    (room : ¬settings.maxCandidates <
      UInt32.ofNat w.store.records.candidates.values.length + 1) {b : Ballot}
    (found : w.ballots.ballots.find? ballot = some b) (closed : ¬b.votingOpen = true)
    (fresh : name ∉ b.options.keys) :
    w.Yields ((Operation.addCandidate name).program settings) fun _ w' => w'.Calm ∧
      w'.host = w.host ∧ w'.ballots.ballots =
        w.ballots.ballots.insert ballot { b with options := b.options.insert name () } ∧
      w'.store.records = w.store.records.after [.putCandidate ⟨name, w.host.clock⟩] := by
  refine Yields.andThen (fun _ => Receipt.done) ?_
  refine (reads_authorize calm signed).query fun past => ?_
  refine (reads_requireConfig (calm.with_history past) stored).query fun past => ?_
  refine (reads_now (calm.with_history past)).query fun past => ?_
  refine (reads_ofExcept window).query fun past => ?_
  refine (reads_registration (calm.with_history past) listed unregistered room _).query
    fun past => ?_
  refine (yields_addOption (calm.with_history past) found closed fresh).bind ?_
  rintro _ w' ⟨calm, sameHost, sameStore, ballots⟩
  refine (yields_write calm [.putCandidate ⟨name, w.host.clock⟩]).bind ?_
  rintro _ w'' ⟨rfl, calm', sameHost', sameBallots, after⟩
  refine yields_pure ⟨calm', sameHost'.trans sameHost, ?_, ?_⟩
  · rw [sameBallots, ballots]
  · rw [after, sameStore]

/-! ### One candidacy after the other -/

/-- A calm world with an election that accepts candidates on a ballot. The candidates are `stood`,
and nobody else is named anywhere. -/
structure Accepting (w : World MemoryStore) (c : Config) (ballot : BallotId)
    (stood : List Account) : Prop where
  calm : w.Calm
  stored : w.store.records.config = some c
  window : c.candidacyBallot w.host.clock = .ok ballot
  opened : ∃ b, w.ballots.ballots.find? ballot = some b ∧ ¬b.votingOpen = true ∧
    b.options.keys ⊆ stood
  unseated : w.store.records.members.keys = []
  nominees : w.store.records.nominees.keys ⊆ stood
  candidates : w.store.records.candidates.keys ⊆ stood
  counted : w.store.records.candidates.size = stood.length

/-- Someone stands as candidate, nominated by nobody else. -/
def candidacy (name : Account) : List Event :=
  [.signAs [name], .perform (.nominate name name), .perform (.addCandidate name)]

variable {ballot : BallotId} {stood : List Account}

theorem Accepting.addAccounts (h : w.Accepting c ballot stood) (names : List Account) :
    (w.after settings (.addAccounts names)).Accepting c ballot stood :=
  { h with calm := h.calm.with_host h.calm.host }

/-- Someone has been nominated and registered. -/
theorem Accepting.enter (h : w.Accepting c ballot stood) (fresh : name ∉ stood)
    {w' : World MemoryStore} (calm : w'.Calm) (clock : w'.host.clock = w.host.clock)
    {nominee : Nominee} {candidate : Candidate}
    (records : w'.store.records =
      w.store.records.after [.putNominee nominee, .putCandidate candidate])
    (ofName : nominee.name = name ∧ candidate.name = name) {b : Ballot}
    (closed : ¬b.votingOpen = true) (options : b.options.keys ⊆ stood)
    (ballots : w'.ballots.ballots =
      w.ballots.ballots.insert ballot { b with options := b.options.insert name () }) :
    w'.Accepting c ballot (name :: stood) where
  calm := calm
  stored := by
    rw [records]
    exact h.stored
  window := by
    rw [clock]
    exact h.window
  opened := by
    refine ⟨{ b with options := b.options.insert name () }, ?_, closed,
      OrderedMap.keys_insert_subset options ()⟩
    rw [ballots, OrderedMap.find?_insert, if_pos rfl]
  unseated := by
    rw [records]
    exact h.unseated
  nominees := by
    rw [records, ← ofName.1]
    exact OrderedMap.keys_insert_subset h.nominees nominee
  candidates := by
    rw [records, ← ofName.2]
    exact OrderedMap.keys_insert_subset h.candidates candidate
  counted := by
    have unregistered : candidate.name ∉ w.store.records.candidates.keys := fun registered =>
      fresh (ofName.2 ▸ h.candidates registered)
    rw [records, List.length_cons, ← h.counted]
    exact OrderedMap.size_insert_of_notMem unregistered candidate

/-- A limit that no word exceeds leaves room for everyone. -/
theorem Accepting.completes_candidacy (h : w.Accepting c ballot stood)
    (boundless : settings.maxCandidates = 0xFFFFFFFF) (fresh : name ∉ stood)
    (known : name ∈ w.host.accounts.keys) :
    w.Completes settings (candidacy name) fun w' =>
      w'.Accepting c ballot (name :: stood) ∧ w'.host.accounts = w.host.accounts := by
  have ready : (w.after settings (.signAs [name])).Calm :=
    h.calm.with_host h.calm.host
  have signed : name ∈ (OrderedSet.ofList [name]).keys :=
    OrderedSet.mem_keys_ofList.2 (List.mem_singleton.2 rfl)
  have unseated : name ∉ w.store.records.members.keys := by
    rw [h.unseated]
    exact List.not_mem_nil
  obtain ⟨b, found, closed, options⟩ := h.opened
  refine .signAs (.perform (yields_nominate ready signed known (fun listed =>
    fresh (h.nominees listed)) unseated) ?_)
  rintro _ w' ⟨calm, sameHost, sameBallots, nominated⟩
  have listed : name ∈ w'.store.records.nominees.keys := by
    rw [nominated]
    exact OrderedMap.mem_keys_insert.2 (.inl rfl)
  have unregistered : name ∉ w'.store.records.candidates.keys := by
    rw [nominated]
    exact fun registered => fresh (h.candidates registered)
  have room : ¬settings.maxCandidates <
      UInt32.ofNat w'.store.records.candidates.values.length + 1 := by
    rw [boundless, UInt32.not_lt, UInt32.le_iff_toNat_le]
    exact Nat.le_of_lt_succ (UInt32.toNat_lt _)
  refine .perform (yields_addCandidate (c := c) (b := b) calm (sameHost ▸ signed)
    (nominated ▸ h.stored) (sameHost ▸ h.window) listed unregistered room (sameBallots ▸ found)
    closed fun listed => fresh (options listed)) ?_
  rintro _ w'' ⟨calm', sameHost', ballots, registered⟩
  rw [nominated] at registered
  rw [sameBallots] at ballots
  have host : w''.host = (w.after settings (.signAs [name])).host := sameHost'.trans sameHost
  refine completes_nil ⟨h.enter fresh calm' ?_ registered ⟨rfl, rfl⟩ closed options ballots, ?_⟩
  · rw [host]
    rfl
  · rw [host]
    rfl

theorem Accepting.completes_candidacies (h : w.Accepting c ballot stood)
    (boundless : settings.maxCandidates = 0xFFFFFFFF) {names : List Account}
    (distinct : names.Nodup) (fresh : names.Disjoint stood)
    (known : names ⊆ w.host.accounts.keys) :
    w.Completes settings (names.flatMap candidacy) fun w' =>
      w'.store.records.candidates.size = stood.length + names.length := by
  induction names generalizing w stood with
  | nil => exact completes_nil h.counted
  | cons name rest ih =>
    obtain ⟨unseen, distinct⟩ := List.nodup_cons.1 distinct
    obtain ⟨first, others⟩ := List.disjoint_cons_left.1 fresh
    obtain ⟨exists', known⟩ := List.cons_subset.1 known
    rw [List.flatMap_cons]
    refine completes_append (h.completes_candidacy boundless first exists') ?_
    rintro w' ⟨accepting, sameAccounts⟩
    rw [List.length_cons, Nat.add_comm rest.length, ← Nat.add_assoc]
    exact ih accepting distinct (List.disjoint_cons_right.2 ⟨unseen, others⟩)
      (sameAccounts ▸ known)

end World

end TrusteeBoard
