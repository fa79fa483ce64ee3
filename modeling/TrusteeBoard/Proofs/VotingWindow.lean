import TrusteeBoard.Proofs.Completion
import TrusteeBoard.Proofs.World.Ballots
import TrusteeBoard.Proofs.World.Signers

/-!
# The voting window of a ballot

The window of a ballot begins when the delay in the record is over and has the length in the record,
as far as there are points in time: both ends stop at the last one (`Config.Window`). Updates of the
record are only asked to give the window some length (`Records.Spans`), so a delay can leave nothing
of it (`World.window_lost_to_delay`). However short the window is, the voting can be started when
it begins and the election closed when it ends (`World.opened_window`).
-/

namespace TrusteeBoard

open Program Sample

/-- The window from `opens` to `closes` of an election planned at `time`. Both ends stop at the last
point in time; the window is whole unless that comes before its end, and empty only if that comes
before its beginning. -/
structure Config.Window (c : Config) (time opens closes : Timestamp) : Prop where
  begins : opens.secs.toNat =
    min (time.secs.toNat + c.startDelay.toNat) Timestamp.last.secs.toNat
  ends : closes.secs.toNat =
    min (opens.secs.toNat + c.votingSpan.toNat) Timestamp.last.secs.toNat
  whole : time.secs.toNat + c.startDelay.toNat + c.votingSpan.toNat ≤ Timestamp.last.secs.toNat →
    opens.secs.toNat = time.secs.toNat + c.startDelay.toNat ∧
      closes.secs.toNat = opens.secs.toNat + c.votingSpan.toNat
  nonempty_iff : opens < closes ↔
    time.secs.toNat + c.startDelay.toNat < Timestamp.last.secs.toNat

theorem Config.window_of_plan {c : Config} {time : Timestamp} {plan : ElectionPlan}
    (planned : c.planElection time = .ok plan) (span : 0 < c.votingSpan) :
    c.Window time plan.votingOpensAt plan.votingClosesAt := by
  obtain ⟨-, -, opens, closes, -⟩ := planElection_eq_ok_iff.1 planned
  rw [← opens] at closes
  have begins := time.toNat_plus c.startDelay
  have ends := plan.votingOpensAt.toNat_plus c.votingSpan
  rw [← opens] at begins
  rw [← closes] at ends
  rw [UInt64.lt_iff_toNat_lt, UInt64.toNat_zero] at span
  refine ⟨begins, ends, fun room => by omega, ?_⟩
  show plan.votingOpensAt.secs < plan.votingClosesAt.secs ↔ _
  rw [UInt64.lt_iff_toNat_lt]
  omega

namespace Records

variable {settings : Settings} {es : List Entry} {r r' : Records} {xs : List Exchange}
  {op : Operation} {m m' : Ballots}

/-! ### Windows have some length -/

/-- Voting takes some time. -/
def Spans (r : Records) : Prop :=
  ∀ c, r.config = some c → 0 < c.votingSpan

theorem Spans.of_config (h : r.Spans) {c c' : Config} (configured : r.config = some c)
    (stored : r'.config = some c') (same : c'.votingSpan = c.votingSpan) : r'.Spans := by
  intro c'' stored'
  obtain rfl := Option.some.inj (stored.symm.trans stored')
  exact same ▸ h c configured

theorem spans_of_step (h : r.Spans) {receipt : Receipt} (step : Step settings r xs op receipt r') :
    r'.Spans := by
  cases step with
  | setConfig current owned signed inactive sound =>
    intro c configured
    cases configured
    obtain ⟨-, -, -, -, span, -⟩ := Config.Update.fault?_eq_none_iff.1 sound
    exact UInt64.pos_iff_ne_zero.2 span
  | nominate | unnominate | addCandidate | removeCandidate => exact h
  | makeElection signed configured asked planned opened => exact h.of_config configured rfl rfl
  | startElection signed configured asked begun opened =>
    obtain ⟨-, -, -, -, rfl⟩ := Config.beginVoting_eq_ok_iff.1 begun
    exact h.of_config configured rfl rfl
  | roster prepared pushed =>
    cases prepared with
    | removeMember signed configured left asked | resign signed configured left asked =>
      exact h.of_config configured (config_after_rosterChange ..) rfl
    | endElection signed configured asked begun counted elected closed =>
      obtain ⟨-, -, -, -, rfl⟩ := Config.beginResolving_eq_ok_iff.1 begun
      intro c stored
      rw [config_after_rosterChange, config_after_append] at stored
      cases stored
      subst closed
      have before := h _ configured
      exact before
    | seatBoard configured signed inactive vacant known seated asked =>
      intro c stored
      rw [config_after_rosterChange, config_after_append] at stored
      cases stored
      have before := h _ configured
      exact before

end Records

theorem History.spans {es : List Entry} {r : Records} (h : History es r) : r.Spans :=
  h.invariant nofun (fun _ spans (_ : True) step => Records.spans_of_step spans step)
    fun _ _ => trivial

/-! ### Elections are completed in the window -/

/-- A ballot that an operation opens is there after it. -/
theorem Ballots.find?_of_opened {settings : Settings} {op : Operation} {xs : List Exchange}
    {result : Except Refusal Receipt} {r r' : Records} {m m' : Ballots} {name : String}
    {treasury : TreasurySymbol} {options : List Account} {begins ends : Timestamp}
    {ballot : BallotId} (path : (op.program settings).Path xs result) (serves : r.Serves xs r')
    (service : m.Serves xs m')
    (opened : ⟨.openBallot name treasury options begins ends, .ok ballot⟩ ∈ xs) :
    ∃ b, m'.find? ballot = some b ∧ b.begins = begins ∧ b.ends = ends := by
  rcases deed_of_path path serves with
    spared | ⟨ys, zs, deed, changes, undo, rfl, queries, done, course, -⟩
  · exact (spared _ opened trivial).elim
  · obtain ⟨n, -, deeds⟩ := serves_append_iff.1 service
    have opened := (List.mem_append.1 opened).resolve_left fun early => queries _ early
    cases done with
    | makeElection configured planned =>
      cases course <;>
      · obtain ⟨-, -, rfl⟩ := deeds
        rcases List.mem_cons.1 opened with same | later
        · cases same
          exact ⟨_, (OrderedMap.find?_insert _ _ _ _).trans (if_pos rfl), rfl, rfl⟩
        · cases List.mem_singleton.1 later
    | addCandidate | removeCandidate | startElection => cases course <;> simp at opened

namespace World

variable {settings : Settings} {w : World MemoryStore} {holder : Account}

/-- The voting on an election can be started when its window begins, and the election can be closed
when the window ends. -/
theorem Open.completes {c : Config} (h : w.Open holder c) (nominating : c.phase = .nominating) :
    w.Completes settings
      [.setClock c.votingOpensAt, .perform (.startElection holder), .setClock c.votingClosesAt,
        .perform (.endElection holder)] Settled := by
  refine .setClock (.perform ((h.setClock _).yields_startElection nominating (UInt64.le_refl _)) ?_)
  rintro _ w' ⟨voting, -⟩
  have closable : (w'.after settings (.setClock c.votingClosesAt)).Closable holder _ :=
    (voting.setClock _).closable (UInt64.le_refl _)
  exact .setClock (.perform (closable.yields_endElection rfl) fun _ _ closed =>
    completes_nil closed.2)

end World

variable {es : List Entry} {r r' : Records} {e : Entry} {holder : Account} {ballot : BallotId}

/-- In any history, the ballot of an election that is opened gets the window of the record, which
then refers to the ballot and to its window. -/
theorem History.opened_ballot (past : History es r)
    (path : (e.operation.program e.settings).Path e.exchanges e.result)
    (serves : r.Serves e.exchanges r') (did : e.operation = .makeElection holder)
    (done : e.result = .ok (.ballot ballot)) :
    ∃ c time plan name treasury, r.config = some c ∧ ⟨.now, time⟩ ∈ e.exchanges ∧
      c.Window time plan.votingOpensAt plan.votingClosesAt ∧
      ⟨.openBallot name treasury [] plan.votingOpensAt plan.votingClosesAt, .ok ballot⟩ ∈
        e.exchanges ∧
      r'.config = some (c.openElection plan ballot) ∧
      (c.openElection plan ballot).votingClosesAt = plan.votingClosesAt := by
  rw [done] at path
  have step := step_of_path path serves
  rw [did] at step
  generalize hreceipt : Receipt.ballot ballot = receipt at step
  cases step with
  | @makeElection _ c plan _ time signed configured asked planned opened =>
    cases hreceipt
    exact ⟨c, time, plan, _, _, configured, asked,
      Config.window_of_plan planned (past.spans c configured), opened, rfl,
      Config.votingClosesAt_openElection planned ballot⟩
  | roster prepared => cases prepared

namespace World

variable (settings : Settings) {w : World MemoryStore}

/-- In every run from an empty store, the ballot of an election that is opened gets the window of
the record. Once pending failures are cleared, the election can be started when the window begins
and closed when it ends, by any account that signs. -/
theorem opened_window (empty : w.store.records = {}) (events : List Event)
    (done : ((w.afterAll settings events).entry settings (.makeElection holder)).result =
      .ok (.ballot ballot)) :
    let before := w.afterAll settings events
    let after := before.after settings (.perform (.makeElection holder))
    ∃ c b, before.store.records.config = some c ∧ after.ballots.ballots.find? ballot = some b ∧
      c.Window before.host.clock b.begins b.ends ∧
      ∀ signers : List Account, ∀ signer ∈ signers, ∀ e ∈ after.recovered.entries settings
        [.signAs signers, .setClock b.begins, .perform (.startElection signer), .setClock b.ends,
          .perform (.endElection signer)], ∃ receipt, e.result = .ok receipt := by
  intro before after
  have past : History (w.entries settings events) before.store.records :=
    history_of_empty empty events
  let opening := before.entry settings (.makeElection holder)
  have path : (opening.operation.program opening.settings).Path opening.exchanges opening.result :=
    before.entry_path _
  have serves : before.store.records.Serves opening.exchanges after.store.records :=
    before.entry_serves _
  obtain ⟨c, time, plan, name, treasury, configured, asked, window, opened, stored, closes⟩ :=
    past.opened_ballot path serves rfl done
  obtain rfl : time = before.host.clock := now_of_exchanges asked
  obtain ⟨b, found, begins, ends⟩ :=
    Ballots.find?_of_opened path serves (run_ballots _ before) opened
  rw [← begins, ← ends] at window
  refine ⟨c, b, configured, found, window, fun signers signer signs => ?_⟩
  let ready := after.recovered.after settings (.signAs signers)
  have isOpen : ready.Open signer (c.openElection plan ballot) :=
    { calm := ⟨rfl, rfl, rfl, rfl⟩
      signed := OrderedSet.mem_keys_ofList.2 signs
      stored
      active := rfl
      balloted := ⟨ballot, rfl, OrderedMap.mem_keys_iff.2 ⟨b, found⟩⟩ }
  have completes : ready.Completes settings _ Settled := isOpen.completes rfl
  rw [closes, ← ends] at completes
  rw [begins]
  exact completes.1

/-- A window of five seconds, the last ones there are. -/
theorem opened_window_late :
    let before := world.afterAll {} lateWindow
    let after := before.after {} (.perform (.makeElection carol))
    (before.entry {} (.makeElection carol)).result = .ok (.ballot ⟨1⟩) ∧
      ∃ b, after.ballots.ballots.find? ⟨1⟩ = some b ∧
        b.begins.secs.toNat + 5 = b.ends.secs.toNat ∧
        b.ends.secs.toNat = Timestamp.last.secs.toNat ∧
        ∀ e ∈ after.recovered.entries {} [.signAs [bob], .setClock b.begins,
          .perform (.startElection bob), .setClock b.ends, .perform (.endElection bob)],
          ∃ receipt, e.result = .ok receipt := by
  intro before after
  have done : (before.entry {} (.makeElection carol)).result = .ok (.ballot ⟨1⟩) := by
    decide +kernel
  have spans : before.store.records.config.map (fun c => (c.startDelay, c.votingSpan)) =
      some (0xFFFFFFFFFFFFFC12, 2000000) := by
    decide +kernel
  obtain ⟨c, b, configured, found, window, completes⟩ :=
    opened_window {} (w := world) rfl lateWindow done
  rw [configured] at spans
  obtain ⟨delay, span⟩ := Prod.mk.inj (Option.some.inj spans)
  have begins := window.begins
  have ends := window.ends
  rw [delay] at begins
  rw [span, begins] at ends
  have last : b.ends.secs.toNat = Timestamp.last.secs.toNat := ends.trans (by decide)
  refine ⟨done, b, found, ?_, last, completes [bob] bob (List.mem_singleton.2 rfl)⟩
  rw [begins, last]
  decide

/-- A delay that the publisher may set puts both ends of a window at the last point in time: the
window begins too early and is empty. -/
theorem window_lost_to_delay :
    let before := world.afterAll {} noWindow
    let after := before.after {} (.perform (.makeElection carol))
    (before.entry {} (.makeElection carol)).result = .ok (.ballot ⟨1⟩) ∧
      before.host.clock.secs.toNat < 2 ^ 63 ∧
      ∃ c ∈ before.store.records.config, ∃ b ∈ after.ballots.ballots.find? ⟨1⟩,
        b.begins.secs.toNat ≠ before.host.clock.secs.toNat + c.startDelay.toNat ∧
        b.ends.secs.toNat ≠ b.begins.secs.toNat + c.votingSpan.toNat ∧ ¬b.begins < b.ends := by
  decide +kernel

end World

end TrusteeBoard
