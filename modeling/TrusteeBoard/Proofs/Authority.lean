import Mathlib.Data.List.Chain
import TrusteeBoard.Proofs.Sample
import TrusteeBoard.Proofs.World.History

/-!
# The authority follows the board

Host and store are written one after the other. `lastAccepted` is the authority that the host
accepted last, and `Records.Implies` says that it is the one the stored board implies, or that there
is none yet and the board is empty. Only operations on the board push, and each course of a commit
keeps the two together (`Records.Implies.of_course`) as long as a push that takes another back is
not rejected (`Restored`). The host in memory holds what it accepted last.
-/

namespace TrusteeBoard

open Program Sample

/-! ### Pushes -/

/-- The authority that the host accepts for the account in the exchange. -/
def Exchange.accepted? (account : Account) : Exchange → Option Authority
  | ⟨.setAuthority a authority, .ok _⟩ => if a = account then some authority else none
  | _ => none

/-- The authority that the host accepted last for the account. -/
def lastAccepted (account : Account) (xs : List Exchange) : Option Authority :=
  (xs.filterMap (·.accepted? account)).getLast?

def Exchange.isFailedWrite : Exchange → Bool
  | ⟨.apply _, .error _⟩ => true
  | _ => false

def Exchange.isRejectedPush : Exchange → Bool
  | ⟨.setAuthority _ _, .error _⟩ => true
  | _ => false

/-- A push right after a failed write, which takes an earlier one back, is not rejected. -/
def Restored (xs : List Exchange) : Prop :=
  xs.IsChain fun x y => x.isFailedWrite → ¬y.isRejectedPush

instance (xs : List Exchange) : Decidable (Restored xs) :=
  inferInstanceAs (Decidable (xs.IsChain _))

variable {account : Account} {xs ys zs : List Exchange}

theorem lastAccepted_append :
    lastAccepted account (xs ++ ys) = (lastAccepted account ys).or (lastAccepted account xs) := by
  rw [lastAccepted, List.filterMap_append, List.getLast?_append]
  rfl

theorem lastAccepted_cons {x : Exchange} :
    lastAccepted account (x :: xs) = (lastAccepted account xs).or (x.accepted? account) := by
  cases h : x.accepted? account <;> simp [lastAccepted, h, List.getLast?_cons]

theorem accepted?_eq_none {x : Exchange} (h : ¬x.call.IsPush) : x.accepted? account = none := by
  obtain ⟨c, a⟩ := x
  cases c <;> first | rfl | exact (h trivial).elim

theorem lastAccepted_eq_none (h : ∀ x ∈ xs, ¬x.call.IsPush) : lastAccepted account xs = none := by
  rw [lastAccepted, List.filterMap_eq_nil_iff.2 fun x hx => accepted?_eq_none (h x hx)]
  rfl

theorem lastAccepted_stored {change : RosterChange} (moves : change.isMembershipChange = true) :
    lastAccepted change.account (change.push ++ [⟨.apply change.changes, .ok ()⟩]) =
      some change.next := by
  simp [RosterChange.push, moves, lastAccepted, Exchange.accepted?]

theorem lastAccepted_takenBack (change : RosterChange) (e : StoreError) :
    lastAccepted change.account
      [⟨.setAuthority change.account change.next, .ok ()⟩, ⟨.apply change.changes, .error e⟩,
        ⟨.setAuthority change.account change.previous, .ok ()⟩] = some change.previous := by
  simp [lastAccepted, Exchange.accepted?]

/-! ### The authority that the records imply -/

variable {settings : Settings}

variable (settings) in
/-- The authority is the one that the stored board implies, or there is none and the board is
empty. -/
def Records.Implies (r : Records) : Option Authority → Prop
  | none => r.members.keys = []
  | some a => ∃ c, r.config = some c ∧
      a = settings.thresholdRule.authorityOver c.publisher r.members.keys

namespace Records

variable {r r' : Records} {held : Option Authority}

/-- Nothing but the publisher and the names of the members is implied. -/
theorem Implies.of_keeps (h : r.Implies settings held) (keys : r'.members.keys = r.members.keys)
    (publisher : ∀ {c}, r.config = some c →
      ∃ c', r'.config = some c' ∧ c'.publisher = c.publisher) : r'.Implies settings held := by
  cases held with
  | none => exact keys.trans h
  | some a =>
    obtain ⟨c, configured, rfl⟩ := h
    obtain ⟨c', configured', same⟩ := publisher configured
    exact ⟨c', configured', by rw [same, keys]⟩

theorem Implies.of_step {op : Operation} {receipt : Receipt} (h : r.Implies settings held)
    (leaves : ¬op.EditsBoard) (step : Step settings r xs op receipt r') :
    r'.Implies settings held := by
  cases step with
  | setConfig current owned signed inactive sound =>
    subst current
    refine h.of_keeps rfl fun configured => ⟨_, rfl, ?_⟩
    rw [configured]
    rfl
  | nominate | unnominate | addCandidate | removeCandidate =>
    exact h.of_keeps rfl fun configured => ⟨_, configured, rfl⟩
  | makeElection signed configured asked planned opened =>
    refine h.of_keeps rfl fun hc => ⟨_, rfl, ?_⟩
    rw [configured] at hc
    cases hc
    rfl
  | startElection signed configured asked begun opened =>
    obtain ⟨-, -, -, -, rfl⟩ := Config.beginVoting_eq_ok_iff.1 begun
    refine h.of_keeps rfl fun hc => ⟨_, rfl, ?_⟩
    rw [configured] at hc
    cases hc
    rfl
  | roster prepared pushed => cases prepared <;> exact (leaves trivial).elim

/-- A change from the records `r` pushes the authority that they imply once it is made, takes it
back to the one that they imply before, and leaves the implied authority when it does not push. -/
structure Faithful (settings : Settings) (r : Records) (change : RosterChange) : Prop where
  account : change.account = settings.governedAccount
  previous : r.Implies settings (some change.previous)
  next : (r.after change.changes).Implies settings (some change.next)
  unmoved : change.isMembershipChange = false → ∀ {held}, r.Implies settings held →
    (r.after change.changes).Implies settings held

theorem faithful_of_prepares (filed : r.Filed) {op : Operation} {change : RosterChange}
    {receipt : Committed → Receipt} (prepared : Prepares settings r xs op change receipt) :
    Faithful settings r change := by
  obtain ⟨c, after, changes, time, stored, finished, rfl, configured, published, keeps, written,
    finishedPublisher⟩ := prepared.exists_rosterChange
  have keysAfter := keys_members_after_rosterChange settings filed c after keeps time
  have configAfter := (r.config_after_rosterChange settings c after changes time).trans written
  have keysBefore := keys_board filed c.maxSeats
  refine ⟨rfl, ⟨stored, configured, ?_⟩, ⟨finished, configAfter, ?_⟩, fun stays => ?_⟩
  · rw [published, ← keysBefore]
    rfl
  · rw [finishedPublisher, keysAfter]
    rfl
  · have same := (RosterChange.isMembershipChange_between_eq_false_iff.1 stays).trans keysBefore
    intro held h
    refine h.of_keeps (keysAfter.trans same) fun hc => ⟨finished, configAfter, ?_⟩
    rw [configured] at hc
    cases hc
    rw [finishedPublisher, published]

/-- A commit pushes what the board after it implies, or takes the push back when the write fails. -/
theorem Implies.of_course (h : r.Implies settings held) {change : RosterChange}
    (faithful : Faithful settings r change) {result : Except Refusal Committed}
    (course : change.Course zs result) (serves : r.Serves zs r') (restored : Restored zs) :
    r'.Implies settings ((lastAccepted settings.governedAccount zs).or held) := by
  rw [← faithful.account]
  cases course with
  | rejected e moves =>
    obtain rfl : r' = r := serves.2
    exact h
  | failed e stays =>
    obtain rfl : r' = r := serves.2
    exact h
  | takenBack e answer moves =>
    obtain rfl : r' = r := serves.2.2.2
    cases answer with
    | error rejection =>
      simp [Restored, Exchange.isFailedWrite, Exchange.isRejectedPush] at restored
    | ok u =>
      rw [lastAccepted_takenBack]
      exact faithful.previous
  | stored =>
    by_cases moves : change.isMembershipChange = true
    · rw [lastAccepted_stored moves]
      rw [RosterChange.push, if_pos moves] at serves
      obtain rfl : r' = r.after change.changes := serves.2.2
      exact faithful.next
    · rw [RosterChange.push, if_neg moves] at serves ⊢
      obtain rfl : r' = r.after change.changes := serves.2
      exact faithful.unmoved (Bool.eq_false_iff.2 moves) h

theorem serves_quiet (serves : r.Serves xs r') (quiet : ∀ x ∈ xs, x.call.IsQuiet) :
    r' = r ∧ ∀ x ∈ xs, r.Tells x :=
  serves.of_unstored fun x hx hstored =>
    (quiet x hx).not_isWrite (Exchange.isWrite_of_isStored hstored)

/-- Every operation keeps the authority with the board. -/
theorem Implies.of_path (h : r.Implies settings held) (filed : r.Filed) {op : Operation}
    {result : Except Refusal Receipt} (path : (op.program settings).Path xs result)
    (serves : r.Serves xs r') (restored : Restored xs) :
    r'.Implies settings ((lastAccepted settings.governedAccount xs).or held) := by
  by_cases edits : op.EditsBoard
  · cases rosterPath_of_path edits path with
    | refused quiet e =>
      obtain ⟨rfl, -⟩ := serves_quiet serves quiet
      rwa [lastAccepted_eq_none fun x hx => (quiet x hx).not_isPush]
    | @committed ys zs change receipt outcome quiet prepared course =>
      obtain ⟨s, before, commit⟩ := serves_append_iff.1 serves
      obtain ⟨rfl, told⟩ := serves_quiet before quiet
      rw [lastAccepted_append, lastAccepted_eq_none fun x hx => (quiet x hx).not_isPush,
        Option.or_none]
      have faithful := faithful_of_prepares filed (prepared s told)
      exact h.of_course faithful course commit restored.right_of_append
  · have silent : ∀ x ∈ xs, ¬x.call.IsPush :=
      fun x hx => ((op.writesLast settings).noPush edits).of_mem path hx
    rw [lastAccepted_eq_none silent]
    cases result with
    | error e => rwa [serves.of_error path (op.writesLast settings)]
    | ok receipt => exact h.of_step edits (step_of_path path serves)

end Records

/-- After every history with the same settings, the authority accepted last is the one that the
stored board implies. -/
theorem History.implies {es : List Entry} {r : Records} (h : History es r)
    (fixed : ∀ e ∈ es, e.settings = settings) (restored : ∀ e ∈ es, Restored e.exchanges) :
    r.Implies settings (lastAccepted settings.governedAccount (es.flatMap (·.exchanges))) := by
  induction h with
  | start => rfl
  | @perform es r r' past e path serves ih =>
    have before := ih (fun e he => fixed e (List.mem_append_left _ he))
      fun e he => restored e (List.mem_append_left _ he)
    obtain rfl := fixed e (by simp)
    rw [List.flatMap_append, lastAccepted_append, List.flatMap_singleton]
    exact before.of_path past.filed path serves (restored e (by simp))

/-! ### The host in memory -/

namespace World

theorem setAuthority_authorities (h : Host) (account pushed : Account) (authority : Authority) :
    (h.setAuthority pushed authority).2.authorities.find? account =
      (Exchange.accepted? account
        ⟨.setAuthority pushed authority, (h.setAuthority pushed authority).1⟩).or
        (h.authorities.find? account) := by
  unfold Host.setAuthority
  split
  · rfl
  · split
    · dsimp only [Exchange.accepted?]
      rw [OrderedMap.find?_insert]
      by_cases h : pushed = account
      · rw [if_pos h, if_pos h.symm]
        rfl
      · rw [if_neg h, if_neg (Ne.symm h)]
        rfl
    · rfl

variable {σ : Type} [Store σ]

theorem answer_authorities (account : Account) (c : Call) (w : World σ) :
    (answer c w).2.host.authorities.find? account =
      (Exchange.accepted? account ⟨c, (answer c w).1⟩).or (w.host.authorities.find? account) := by
  obtain ⟨faults, ⟨failure, a, hf, h⟩ | h⟩ := answer_eq c w
  · have rejected : Exchange.accepted? account ⟨c, a⟩ = none := by
      cases c <;> cases failure <;> simp [Call.failing] at hf <;> subst hf <;> rfl
    rw [h, rejected]
    rfl
  · rw [h]
    cases c with
    | setAuthority pushed authority =>
      exact setAuthority_authorities w.host account pushed authority
    | _ => rfl

theorem run_authorities {α : Type} (account : Account) (p : Program α) (w : World σ) :
    (p.run answer w).2.host.authorities.find? account =
      (lastAccepted account (p.exchanges answer w)).or (w.host.authorities.find? account) := by
  induction p generalizing w with
  | done result => rfl
  | ask c next ih =>
    have rest := ih (answer c w).1 (answer c w).2
    rw [answer_authorities, ← Option.or_assoc, ← lastAccepted_cons] at rest
    exact rest

/-- The host in memory holds the authority that it accepted last. -/
theorem afterAll_authorities (account : Account) (w : World σ) (events : List Event) :
    (w.afterAll settings events).host.authorities.find? account =
      (lastAccepted account ((w.entries settings events).flatMap (·.exchanges))).or
        (w.host.authorities.find? account) := by
  induction events generalizing w with
  | nil => rfl
  | cons event rest ih =>
    cases event with
    | perform op =>
      rw [entries, List.flatMap_cons, lastAccepted_append, Option.or_assoc, ← run_authorities]
      exact ih _
    | _ => exact ih _

variable (settings) in
/-- Without faults, the engine reports the authority that the stored board implies. -/
theorem perform_impliedAuthority {w : World MemoryStore} (filed : w.store.records.Filed)
    {c : Config} (configured : w.store.records.config = some c) :
    ((w.after settings .clearFaults).perform (impliedAuthority settings)).1 =
      .ok (settings.thresholdRule.authorityOver c.publisher w.store.records.members.keys) := by
  rw [← w.store.records.keys_board filed c.maxSeats]
  obtain ⟨host, ballots, ⟨records, fails, applied⟩, faults, past⟩ := w
  obtain ⟨config, nominees, candidates, members⟩ := records
  subst configured
  rfl

variable (settings) in
/-- In every run from an empty store, the host holds the authority that the stored board implies,
which is the one the engine reports, or none while the board is empty. -/
theorem authority_follows_board {w : World MemoryStore} (empty : w.store.records = {})
    (unset : w.host.authorities.find? settings.governedAccount = none) (events : List Event)
    (restored : ∀ e ∈ w.entries settings events, Restored e.exchanges) :
    let ended := w.afterAll settings events
    match ended.host.authorities.find? settings.governedAccount with
    | none => ended.store.records.members.keys = []
    | some a => ∃ c, ended.store.records.config = some c ∧
        a = settings.thresholdRule.authorityOver c.publisher ended.store.records.members.keys ∧
        ((ended.after settings .clearFaults).perform (impliedAuthority settings)).1 = .ok a := by
  intro ended
  have history : History (w.entries settings events) ended.store.records :=
    history_of_empty empty events
  have held : ended.host.authorities.find? settings.governedAccount =
      lastAccepted settings.governedAccount
        ((w.entries settings events).flatMap (·.exchanges)) := by
    show (w.afterAll settings events).host.authorities.find? _ = _
    rw [afterAll_authorities, unset, Option.or_none]
  have implied := history.implies (fun e he => settings_of_mem_entries he) restored
  rw [← held] at implied
  split
  · next absent =>
    rw [absent] at implied
    exact implied
  · next a present =>
    rw [present] at implied
    obtain ⟨c, configured, rfl⟩ := implied
    exact ⟨c, configured, rfl, perform_impliedAuthority settings history.filed configured⟩

/-- When the resignation cannot be written, the host holds the authority of both members again. -/
theorem authority_follows_board_brokenResignation :
    (world.afterAll {} brokenResignation).store.records.members.keys = [alice, bob] ∧
      ∃ a, (world.afterAll {} brokenResignation).host.authorities.find?
          ({} : Settings).governedAccount = some a ∧
        (((world.afterAll {} brokenResignation).after {} .clearFaults).perform
          (impliedAuthority {})).1 = .ok a := by
  have restored : ∀ e ∈ world.entries {} brokenResignation, Restored e.exchanges := by
    decide +kernel
  have held : ((world.afterAll {} brokenResignation).host.authorities.find?
      ({} : Settings).governedAccount).isSome := by
    decide +kernel
  obtain ⟨a, ha⟩ := Option.isSome_iff_exists.1 held
  have follows := authority_follows_board {} (w := world) rfl rfl brokenResignation restored
  dsimp only at follows
  rw [ha] at follows
  obtain ⟨c, -, -, reports⟩ := follows
  exact ⟨by decide +kernel, a, ha, reports⟩

end World

end TrusteeBoard
