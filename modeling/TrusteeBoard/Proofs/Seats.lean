import Mathlib.Algebra.Group.Nat.Defs
import TrusteeBoard.Proofs.Election
import TrusteeBoard.Proofs.Sample
import TrusteeBoard.Proofs.World.History

/-!
# Seat accounting

The open seats are kept in the record, the members in a collection beside it. `Config.Balanced` says
when a record balances with a number of members: outside a term election the open seats are those
without a member, in a term election all seats are open. Every step of the cycle keeps the balance,
and so does every operation (`balanced_of_step`).
-/

namespace TrusteeBoard

open Sample

/-- A record in balance with `seated` members. -/
structure Config.Balanced (c : Config) (seated : Nat) : Prop where
  limits : 0 < c.maxSeats ∧ 0 < c.holderQuorumDivisor ∧ 0 < c.boardQuorumDivisor ∧
    0 < c.votingSpan ∧ 0 < c.termSpan
  ballot : c.electionActive = c.openBallot.isSome
  idle : c.phase = .idle ↔ c.electionActive = false
  settled : c.phase ≠ .resolving
  term : c.termElection = true → c.electionActive = true
  seated_le : seated ≤ c.maxSeats.toNat
  openSeats_add : c.termElection = false → c.openSeats.toNat + seated = c.maxSeats.toNat
  /-- The count of open seats runs over when a member leaves and a word can count no more seats. -/
  contested : c.termElection = true → c.maxSeats.toNat < 0xFFFFFFFF → c.openSeats = c.maxSeats

namespace Config

variable {c : Config} {seated : Nat} {time : Timestamp}

theorem Balanced.inactive (h : c.Balanced seated) (idle : c.phase = .idle) :
    c.openBallot = none ∧ c.termElection = false := by
  have inactive := h.idle.1 idle
  refine ⟨?_, ?_⟩
  · simpa [inactive] using h.ballot.symm
  · simpa [inactive] using h.term

/-! ### Steps of the cycle -/

theorem balanced_applyTo {u : Update} (idle : c.phase = .idle) (inactive : c.electionActive = false)
    (noBallot : c.openBallot = none) (noTerm : c.termElection = false) (hseated : seated < 2 ^ 32)
    (sound : u.fault? (UInt32.ofNat seated) = none) :
    (u.applyTo c (UInt32.ofNat seated)).Balanced seated := by
  obtain ⟨hmax, hseats, hholder, hboard, hvoting, hterm⟩ := Update.fault?_eq_none_iff.1 sound
  have size : (UInt32.ofNat seated).toNat = seated := by
    rw [UInt32.toNat_ofNat']
    omega
  rw [UInt32.lt_iff_toNat_lt, size] at hseats
  have fits : seated ≤ u.maxSeats.toNat := Nat.not_lt.1 hseats
  exact
    { limits := ⟨UInt32.pos_iff_ne_zero.2 hmax, UInt32.pos_iff_ne_zero.2 hholder,
        UInt32.pos_iff_ne_zero.2 hboard, UInt64.pos_iff_ne_zero.2 hvoting,
        UInt64.pos_iff_ne_zero.2 hterm⟩
      ballot := by simp [Update.applyTo, inactive, noBallot]
      idle := by simp [Update.applyTo, idle, inactive]
      settled := by simp [Update.applyTo, idle]
      term := by simp [Update.applyTo, noTerm]
      seated_le := fits
      openSeats_add := by simp [Update.applyTo, toNat_floorSub32, size, fits]
      contested := by simp [Update.applyTo, noTerm] }

theorem Balanced.openElection (h : c.Balanced seated) {plan : ElectionPlan}
    (planned : c.planElection time = .ok plan) (ballot : BallotId) :
    (c.openElection plan ballot).Balanced seated := by
  obtain ⟨-, hidle, -, -, hplan⟩ := planElection_eq_ok_iff.1 planned
  have exact := h.openSeats_add (h.inactive hidle).2
  refine ⟨h.limits, by simp [Config.openElection], by simp [Config.openElection],
    by simp [Config.openElection], by simp [Config.openElection], h.seated_le, ?_, ?_⟩ <;>
  rcases hplan with ⟨-, hkind, hseats⟩ | ⟨-, -, hkind, hseats⟩ <;>
  simp [Config.openElection, hkind, hseats, exact]

theorem Balanced.beginVoting (h : c.Balanced seated) {ballot : BallotId} {voting : Config}
    (begun : c.beginVoting time = .ok (ballot, voting)) : voting.Balanced seated := by
  obtain ⟨hactive, -, hphase, -, rfl⟩ := beginVoting_eq_ok_iff.1 begun
  exact ⟨h.limits, h.ballot, by simp [hactive], by simp, h.term, h.seated_le, h.openSeats_add,
    h.contested⟩

theorem Balanced.noteVacancy (h : c.Balanced (seated + 1)) : c.noteVacancy.Balanced seated := by
  have hle := h.seated_le
  have bound := c.maxSeats.toNat_lt
  have opened : c.noteVacancy.openSeats.toNat =
      min ((c.openSeats.toNat + 1) % 2 ^ 32) c.maxSeats.toNat := by
    show (min (c.openSeats + 1) c.maxSeats).toNat = _
    rw [toNat_min32, UInt32.toNat_add, UInt32.toNat_one]
  refine ⟨h.limits, h.ballot, h.idle, h.settled, h.term, Nat.le_of_succ_le hle, fun noTerm => ?_,
    fun term few => ?_⟩
  · have exact := h.openSeats_add noTerm
    show c.noteVacancy.openSeats.toNat + seated = c.maxSeats.toNat
    omega
  · change c.maxSeats.toNat < 0xFFFFFFFF at few
    have all := h.contested term few
    rw [← UInt32.toNat_inj, opened, all]
    show min _ c.maxSeats.toNat = c.maxSeats.toNat
    omega

/-- A first board is seated on an idle record. -/
theorem Balanced.found (h : c.Balanced 0) (inactive : c.electionActive = false) {after : Board}
    (fits : after.members.size ≤ after.maxSeats.toNat) (seats : after.maxSeats = c.maxSeats) :
    { c with openSeats := after.vacancies, lastElectionAt := time }.Balanced
      after.members.size := by
  have vacant := Board.vacancies_add fits
  rw [seats] at vacant fits
  have noTerm : c.termElection = false := by simpa [inactive] using h.term
  exact ⟨h.limits, h.ballot, h.idle, h.settled, h.term, fits, fun _ => vacant,
    fun term => absurd noTerm (by rw [term]; exact nofun)⟩

/-- The record closed after an election balances with the board after it. -/
theorem Balanced.finishElection (h : c.Balanced seated) {ballot : BallotId} {resolving : Config}
    (begun : c.beginResolving time = .ok (ballot, resolving)) {gained size : UInt32}
    (size_le : size.toNat ≤ c.maxSeats.toNat)
    (grown : c.termElection = false → gained.toNat + seated = size.toNat) :
    (resolving.finishElection time gained size).Balanced size.toNat := by
  obtain ⟨-, -, -, -, rfl⟩ := beginResolving_eq_ok_iff.1 begun
  refine ⟨h.limits, rfl, by simp [Config.finishElection], by simp [Config.finishElection],
    by simp [Config.finishElection], size_le, fun _ => ?_, nofun⟩
  show UInt32.toNat (if c.termElection then floorSub32 c.maxSeats size
    else min (floorSub32 c.openSeats gained) (floorSub32 c.maxSeats size)) + size.toNat =
      c.maxSeats.toNat
  cases term : c.termElection with
  | true =>
    rw [if_pos rfl, toNat_floorSub32]
    omega
  | false =>
    have := grown term
    have := h.openSeats_add term
    rw [if_neg Bool.false_ne_true, toNat_min32, toNat_floorSub32, toNat_floorSub32]
    omega

end Config

/-! ### Operations -/

/-- The record, once there is one, balances with the stored members; before, there are none. -/
structure Records.Balanced (r : Records) : Prop where
  unset : r.config = none → r.members.size = 0
  config : ∀ {c}, r.config = some c → c.Balanced r.members.size

/-- A word can count one seat more than there are. -/
def Records.SeatsCountable (r : Records) : Prop :=
  ∀ c, r.config = some c → c.maxSeats.toNat < 0xFFFFFFFF

/-- Updates of the record stay below the last 32-bit number of seats. -/
def Operation.KeepsSeatsCountable : Operation → Prop
  | .setConfig _ update => update.maxSeats.toNat < 2 ^ 32 - 1
  | _ => True

instance (op : Operation) : Decidable op.KeepsSeatsCountable :=
  match op with
  | .setConfig _ update => inferInstanceAs (Decidable (update.maxSeats.toNat < 2 ^ 32 - 1))
  | .nominate .. | .unnominate .. | .addCandidate .. | .removeCandidate .. | .makeElection ..
  | .startElection .. | .endElection .. | .removeMember .. | .resign .. | .seatBoard .. =>
    .isTrue trivial

/-- A word can count those who are named for a first board. -/
def Operation.FoundsCountably : Operation → Prop
  | .seatBoard members => members.length < 2 ^ 32
  | _ => True

instance (op : Operation) : Decidable op.FoundsCountably :=
  match op with
  | .seatBoard members => inferInstanceAs (Decidable (members.length < 2 ^ 32))
  | .setConfig .. | .nominate .. | .unnominate .. | .addCandidate .. | .removeCandidate ..
  | .makeElection .. | .startElection .. | .endElection .. | .removeMember .. | .resign .. =>
    .isTrue trivial

variable {settings : Settings} {r r' : Records} {xs : List Exchange}

/-- What a roster change makes of the records balances when the record it stores balances with the
board it makes. -/
theorem Records.Balanced.of_rosterChange (filed : r.Filed) {c finished : Config} {after : Board}
    {changes : List Change} {time : Timestamp} (keeps : ∀ change ∈ changes, ¬change.IsMembership)
    (stored : (r.after changes).config = some finished)
    (balanced : finished.Balanced after.members.size) :
    (r.after (r.rosterChange settings c after changes time).changes).Balanced := by
  have hconfig : (r.after (r.rosterChange settings c after changes time).changes).config =
      some finished :=
    (r.config_after_rosterChange settings c after changes time).trans stored
  have hsize : (r.after (r.rosterChange settings c after changes time).changes).members.size =
      after.members.size := by
    rw [← OrderedMap.length_keys,
      Records.keys_members_after_rosterChange settings filed c after keeps, OrderedMap.length_keys]
  refine ⟨fun hnone => by simp [hconfig] at hnone, fun hc => ?_⟩
  rw [hconfig] at hc
  cases hc
  rwa [hsize]

/-- An operation keeps countable seats countable if it does not set too many. -/
theorem seatsCountable_of_step (h : r.SeatsCountable) {op : Operation}
    (countable : op.KeepsSeatsCountable) {receipt : Receipt}
    (step : Step settings r xs op receipt r') : r'.SeatsCountable := by
  intro c' stored
  cases step with
  | setConfig current owned signed inactive sound =>
    cases stored
    exact countable
  | nominate | unnominate | addCandidate | removeCandidate => exact h c' stored
  | makeElection signed configured asked planned opened =>
    cases stored
    have before := h _ configured
    exact before
  | startElection signed configured asked begun opened =>
    obtain ⟨-, -, -, -, rfl⟩ := Config.beginVoting_eq_ok_iff.1 begun
    cases stored
    have before := h _ configured
    exact before
  | roster prepared pushed =>
    cases prepared with
    | removeMember signed configured left asked | resign signed configured left asked =>
      rw [Records.config_after_rosterChange] at stored
      cases stored
      have before := h _ configured
      exact before
    | endElection signed configured asked begun counted elected closed =>
      obtain ⟨-, -, -, -, rfl⟩ := Config.beginResolving_eq_ok_iff.1 begun
      rw [Records.config_after_rosterChange, Records.config_after_append] at stored
      cases stored
      subst closed
      have before := h _ configured
      exact before
    | seatBoard configured signed inactive vacant known seated asked =>
      rw [Records.config_after_rosterChange, Records.config_after_append] at stored
      cases stored
      have before := h _ configured
      exact before

theorem balanced_leave (filed : r.Filed) (h : r.Balanced) {c : Config} {member : Account}
    {after : Board} {time : Timestamp} (configured : r.config = some c)
    (left : (r.board c.maxSeats).unseat member = .ok after) :
    (r.after
      (r.rosterChange settings c after [.putConfig c.noteVacancy] time).changes).Balanced := by
  obtain ⟨hmember, rfl⟩ := Board.unseat_eq_ok_iff.1 left
  have size := OrderedMap.size_erase_of_mem hmember
  rw [r.size_board filed] at size
  have hc := h.config configured
  rw [← size] at hc
  exact .of_rosterChange filed (by simp [Change.IsMembership]) rfl hc.noteVacancy

/-- The board after an election has no more members than seats, and in a vacancy election it has the
old members and those it gained. -/
theorem balanced_end (filed : r.Filed) (h : r.Balanced) {stored c : Config} {ballot : BallotId}
    {after : Board} {winners : List Account} {time : Timestamp}
    (configured : r.config = some stored) (begun : stored.beginResolving time = .ok (ballot, c))
    (elected : (r.board c.maxSeats).afterElection c.electionKind winners = .ok after) :
    (c.finishElection time (UInt32.ofNat (after.without (r.board c.maxSeats)).length)
      after.size).Balanced after.members.size := by
  have seats : c.maxSeats = stored.maxSeats := by
    obtain ⟨-, -, -, -, rfl⟩ := Config.beginResolving_eq_ok_iff.1 begun
    rfl
  have fits : (r.board c.maxSeats).members.size ≤ (r.board c.maxSeats).maxSeats.toNat := by
    rw [r.size_board filed]
    show r.members.size ≤ c.maxSeats.toNat
    rw [seats]
    exact (h.config configured).seated_le
  have grows := Board.grows_afterElection elected
  have size_le : after.members.size ≤ after.maxSeats.toNat := by
    refine Board.size_le_of_seatAll elected ?_
    split
    · exact Nat.zero_le _
    · exact fits
  have maxSeats : after.maxSeats = c.maxSeats := by
    rw [grows.maxSeats]
    split <;> rfl
  have size := Board.toNat_size size_le
  have bound := c.maxSeats.toNat_lt
  rw [maxSeats] at size_le
  rw [← size]
  refine (h.config configured).finishElection begun (by rwa [size, ← seats]) ?_
  intro noTerm
  have kind : c.electionKind ≠ .term := by
    obtain ⟨-, -, -, -, rfl⟩ := Config.beginResolving_eq_ok_iff.1 begun
    simp [Config.electionKind, noTerm]
  rw [if_neg fun hk => kind hk.1] at grows
  have gained := Board.length_without_add grows.kept
  rw [r.size_board filed] at gained
  rw [size, UInt32.toNat_ofNat', ← gained, Nat.mod_eq_of_lt (by omega)]

theorem balanced_of_prepares (filed : r.Filed) (h : r.Balanced) {op : Operation}
    (countable : r.SeatsCountable ∨ op.FoundsCountably) {change : RosterChange}
    {receipt : Committed → Receipt}
    (prepared : Prepares settings r xs op change receipt) : (r.after change.changes).Balanced := by
  cases prepared with
  | removeMember signed configured left asked => exact balanced_leave filed h configured left
  | resign signed configured left asked => exact balanced_leave filed h configured left
  | endElection signed configured asked begun counted elected closed =>
    subst closed
    exact .of_rosterChange filed (resolution_keeps _ _) (r.config_after_append _ _)
      (balanced_end filed h configured begun elected)
  | seatBoard configured signed inactive vacant known seated asked =>
    have empty := Board.isEmpty_iff.1 vacant
    have fits := Board.size_le_of_foldlM_seat seated (by rw [empty]; exact Nat.zero_le _)
      (countable.imp (fun few => few _ configured) fun few => by rwa [empty, Nat.zero_add])
    rw [r.size_board filed] at empty
    have hc := h.config configured
    rw [empty] at hc
    exact .of_rosterChange filed (dropNominees_keep _ _) (r.config_after_append _ _)
      (hc.found inactive fits (Board.grows_foldlM_seat seated).maxSeats)

theorem balanced_of_step (filed : r.Filed) (h : r.Balanced) {op : Operation}
    (countable : r.SeatsCountable ∨ op.FoundsCountably) {receipt : Receipt}
    (step : Step settings r xs op receipt r') : r'.Balanced := by
  cases step with
  | @setConfig caller update c current owned signed inactive sound =>
    refine ⟨nofun, fun hc => ?_⟩
    cases hc
    cases stored : r.config with
    | none =>
      rw [stored] at current
      subst current
      rw [h.unset stored] at sound ⊢
      exact Config.balanced_applyTo rfl rfl rfl rfl (by omega) sound
    | some c₀ =>
      rw [stored] at current
      obtain rfl : c = c₀ := current
      have hc := h.config stored
      have idle := hc.idle.2 inactive
      obtain ⟨noBallot, noTerm⟩ := hc.inactive idle
      have := hc.seated_le
      have := c.maxSeats.toNat_lt
      exact Config.balanced_applyTo idle inactive noBallot noTerm (by omega) sound
  | nominate | unnominate | addCandidate | removeCandidate => exact ⟨h.unset, h.config⟩
  | @makeElection holder c plan ballot time signed configured asked planned opened =>
    refine ⟨nofun, fun hc => ?_⟩
    cases hc
    exact (h.config configured).openElection planned ballot
  | @startElection holder c voting ballot time signed configured asked begun opened =>
    refine ⟨nofun, fun hc => ?_⟩
    cases hc
    exact (h.config configured).beginVoting begun
  | roster prepared pushed => exact balanced_of_prepares filed h countable prepared

/-! ### Histories -/

variable {es : List Entry}

theorem History.seatsCountable (h : History es r)
    (countable : ∀ e ∈ es, e.operation.KeepsSeatsCountable) : r.SeatsCountable :=
  h.invariant nofun (fun _ few keeps step => seatsCountable_of_step few keeps step) countable

theorem History.balanced (h : History es r)
    (countable : ∀ e ∈ es, e.operation.KeepsSeatsCountable) : r.Balanced := by
  have both : r.SeatsCountable ∧ r.Balanced :=
    h.invariant (I := fun r => r.SeatsCountable ∧ r.Balanced) ⟨nofun, fun _ => rfl, nofun⟩
      (fun filed before keeps step => ⟨seatsCountable_of_step before.1 keeps step,
        balanced_of_step filed before.2 (.inl before.1) step⟩) countable
  exact both.2

/-- However many seats there are, all records balance unless a first board was too large to be
counted. -/
theorem History.balanced_of_founders (h : History es r)
    (few : ∀ e ∈ es, e.operation.FoundsCountably) : r.Balanced :=
  h.invariant ⟨fun _ => rfl, nofun⟩
    (fun filed balanced few step => balanced_of_step filed balanced (.inr few) step) few

/-- In every stored record the phase and the ballot agree, no count or span that has to be positive
is zero, and seats are conserved: outside a term election each is open or has a member, and in a
term election all are open. -/
theorem History.seats_conserved (h : History es r)
    (countable : ∀ e ∈ es, e.operation.KeepsSeatsCountable) {c : Config}
    (stored : r.config = some c) :
    c.IsConsistent ∧ c.phase ≠ .resolving ∧
      (0 < c.maxSeats ∧ 0 < c.holderQuorumDivisor ∧ 0 < c.boardQuorumDivisor ∧ 0 < c.votingSpan ∧
        0 < c.termSpan) ∧
      r.members.size ≤ c.maxSeats.toNat ∧
      (c.phase = .idle ∨ c.electionKind = .vacancy →
        c.openSeats.toNat + r.members.size = c.maxSeats.toNat) ∧
      (c.phase ≠ .idle ∧ c.electionKind = .term → c.openSeats = c.maxSeats) := by
  have hc := (h.balanced countable).config stored
  have few := h.seatsCountable countable c stored
  have vacant (noTerm : c.termElection = false) :
      c.openSeats.toNat + r.members.size = c.maxSeats.toNat := hc.openSeats_add noTerm
  have consistent : c.IsConsistent := by
    refine ⟨?_, hc.ballot, ?_⟩
    · rw [UInt32.le_iff_toNat_le]
      cases term : c.termElection with
      | true => exact (congrArg UInt32.toNat (hc.contested term few)).le
      | false =>
        have := vacant term
        omega
    · have := hc.idle
      cases hactive : c.electionActive <;> simp_all
  refine ⟨consistent, hc.settled, hc.limits, hc.seated_le, fun hvacancy => vacant ?_,
    fun ⟨_, hterm⟩ => hc.contested ?_ few⟩
  · rcases hvacancy with hidle | hkind
    · exact (hc.inactive hidle).2
    · cases hterm : c.termElection
      · rfl
      · simp [Config.electionKind, hterm] at hkind
  · by_contra hne
    simp [Config.electionKind, hne] at hterm

/-- Seats are still conserved when a member resigns during a vacancy election. -/
theorem History.seats_conserved_resignation :
    ∃ c, (world.afterAll {} resignation).store.records.config = some c ∧
      c.openSeats.toNat + (world.afterAll {} resignation).store.records.members.size =
        c.maxSeats.toNat := by
  have history : History (world.entries {} resignation)
      (world.afterAll {} resignation).store.records := World.history_of_empty rfl resignation
  have countable : ∀ e ∈ world.entries {} resignation, e.operation.KeepsSeatsCountable := by
    intro e he
    have hop : Event.perform e.operation ∈ resignation := World.perform_mem_of_mem_entries he
    generalize e.operation = op at hop
    simp only [resignation, List.mem_cons, Event.perform.injEq, List.not_mem_nil, or_false] at hop
    rcases hop with rfl | rfl | rfl | rfl
    · show (3 : UInt32).toNat < 2 ^ 32 - 1
      decide
    all_goals trivial
  have vacancy : (world.afterAll {} resignation).store.records.config.map (·.electionKind) =
      some .vacancy := by decide +kernel
  obtain ⟨c, hc, hkind⟩ := Option.map_eq_some_iff.1 vacancy
  obtain ⟨-, -, -, -, conserved, -⟩ := history.seats_conserved countable hc
  exact ⟨c, hc, conserved (.inr hkind)⟩

end TrusteeBoard
