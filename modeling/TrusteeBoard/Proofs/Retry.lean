import TrusteeBoard.Proofs.BallotMirror
import TrusteeBoard.Proofs.World.Twins

/-!
# Retries

An operation whose write fails can be made again as if nothing had happened
(`World.retry_invisible`), and so can one that is refused for any other failure
(`World.retry_of_error`). The first attempt leaves the records, the clock and the signers. It takes
back what it did to a ballot, except that a ballot opened for voting stays open
(`ballots_of_error`), and opening it again makes no difference. If it pushed an authority, the
second attempt pushes one again (`exists_push_of_push`), so that in the end the host holds the
authority that it would hold anyway.
-/

namespace TrusteeBoard

open Program Sample

variable {settings : Settings} {r : Records} {m m' : Ballots} {xs ys : List Exchange}
  {op : Operation}

/-! ### What an attempt leaves behind -/

/-- An operation does not succeed once its write has failed. -/
theorem exists_error_of_failedWrite {result : Except Refusal Receipt}
    (path : (op.program settings).Path xs result) (unwritten : ∃ x ∈ xs, x.isFailedWrite = true) :
    ∃ e, result = .error e := by
  cases result with
  | error e => exact ⟨e, rfl⟩
  | ok receipt =>
    obtain ⟨ys, changes, rfl, reads⟩ := path.stored_of_ok (op.writesLast settings)
    obtain ⟨⟨c, a⟩, hx, failed⟩ := unwritten
    rcases List.mem_append.1 hx with before | last
    · have unasked := reads _ before
      cases c <;> first | cases failed | exact (unasked trivial).elim
    · rw [List.mem_singleton.1 last] at failed
      cases failed

/-- A refused operation that opens no election leaves the ballots as they were, unless it has
started the voting. -/
theorem ballots_of_error {e : Refusal} (path : (op.program settings).Path xs (.error e))
    (told : ∀ x ∈ xs, r.Tells x) (service : m.Serves xs m') (compensated : Compensated xs)
    (unopened : ∀ holder, op ≠ .makeElection holder) :
    m' = m ∨ ∃ holder c ballot time voting, op = .startElection holder ∧ r.config = some c ∧
      c.beginVoting time = .ok (ballot, voting) ∧
      m' = m.edit ballot fun b => { b with votingOpen := true } := by
  have unstored := path.unstored_of_error (op.writesLast settings)
  cases ballotPath_of_path path with
  | spared spared => exact .inl (service.of_spared spared)
  | @done ys zs deed changes undo queries prepared course =>
    obtain ⟨n, before, deeds⟩ := Ballots.serves_append_iff.1 service
    obtain rfl := before.of_spared fun y hy =>
      Exchange.not_changesBallot_of_isQuery (queries y hy)
    have done := prepared r fun y hy => told y (List.mem_append_left _ hy)
    cases course with
    | stored => exact (unstored ⟨.apply changes, .ok ()⟩ (by simp) trivial).elim
    | kept failure =>
      obtain ⟨-, -, after⟩ := deeds
      cases done with
      | makeElection => exact (unopened _ rfl).elim
      | startElection configured begun =>
        exact .inr ⟨_, _, _, _, _, rfl, configured, begun, after⟩
    | @takenBack failure undo answer =>
      obtain ⟨allowed, -, -, after⟩ := deeds
      have accepted : ¬(⟨undo, answer⟩ : Exchange).isRejectedOption :=
        (List.isChain_cons_cons.1
          (List.isChain_cons_cons.1 compensated.right_of_append).2).1 rfl
      exact .inl (after.trans (done.afterExchange_takenBack allowed accepted))

/-! ### Pushes of both attempts -/

/-- On the same records, with the same tallies, an operation prepares the same change of the
board. -/
theorem Prepares.isMembershipChange_eq {change change' : RosterChange}
    {receipt receipt' : Committed → Receipt} (h : Prepares settings r xs op change receipt)
    (h' : Prepares settings r ys op change' receipt')
    (counted : ∀ ballot t t', ⟨.tally ballot, .ok t⟩ ∈ xs → ⟨.tally ballot, .ok t'⟩ ∈ ys → t' = t) :
    change'.isMembershipChange = change.isMembershipChange := by
  cases h with
  | removeMember signed configured left asked =>
    cases h' with
    | removeMember signed' configured' left' asked' =>
      obtain rfl := Option.some.inj (configured'.symm.trans configured)
      cases left'.symm.trans left
      rfl
  | resign signed configured left asked =>
    cases h' with
    | resign signed' configured' left' asked' =>
      obtain rfl := Option.some.inj (configured'.symm.trans configured)
      cases left'.symm.trans left
      rfl
  | endElection signed configured asked begun count elected closed =>
    cases h' with
    | endElection signed' configured' asked' begun' count' elected' closed' =>
      obtain rfl := Option.some.inj (configured'.symm.trans configured)
      obtain ⟨-, opened, -, -, rfl⟩ := Config.beginResolving_eq_ok_iff.1 begun
      obtain ⟨-, opened', -, -, rfl⟩ := Config.beginResolving_eq_ok_iff.1 begun'
      obtain rfl := Option.some.inj (opened'.symm.trans opened)
      obtain rfl := counted _ _ _ count count'
      cases elected'.symm.trans elected
      rfl
  | seatBoard configured signed inactive vacant known seated asked =>
    cases h' with
    | seatBoard configured' signed' inactive' vacant' known' seated' asked' =>
      obtain rfl := Option.some.inj (configured'.symm.trans configured)
      cases seated'.symm.trans seated
      rfl

/-- An operation pushes an authority only for a change of the board. -/
theorem exists_prepares_of_push {result : Except Refusal Receipt}
    (path : (op.program settings).Path xs result) (told : ∀ x ∈ xs, r.Tells x) {x : Exchange}
    (hx : x ∈ xs) (push : x.call.IsPush) : op.EditsBoard ∧ ∃ change receipt,
      Prepares settings r xs op change receipt ∧ change.isMembershipChange = true := by
  have edits : op.EditsBoard := by
    by_contra leaves
    exact ((op.writesLast settings).noPush leaves).of_mem path hx push
  refine ⟨edits, ?_⟩
  cases rosterPath_of_path edits path with
  | refused quiet e => exact ((quiet x hx).not_isPush push).elim
  | @committed ys zs change receipt outcome quiet prepared course =>
    refine ⟨change, receipt,
      (prepared r fun y hy => told y (List.mem_append_left _ hy)).mono fun y hy =>
        List.mem_append_left _ hy, ?_⟩
    rcases List.mem_append.1 hx with before | pushed
    · exact ((quiet x before).not_isPush push).elim
    · cases course with
      | rejected e moves | takenBack e answer moves => exact moves
      | failed e stays =>
        rw [List.mem_singleton.1 pushed] at push
        exact push.elim
      | stored =>
        by_contra stays
        rw [RosterChange.push, if_neg stays] at pushed
        rw [List.mem_singleton.1 pushed] at push
        exact push.elim

/-- Where one attempt pushes an authority, an attempt that succeeds pushes one as well. -/
theorem exists_push_of_push {result : Except Refusal Receipt} {receipt : Receipt}
    (path : (op.program settings).Path xs result) (told : ∀ x ∈ xs, r.Tells x)
    (path' : (op.program settings).Path ys (.ok receipt)) (told' : ∀ y ∈ ys, r.Tells y)
    (counted : ∀ ballot t t', ⟨.tally ballot, .ok t⟩ ∈ xs → ⟨.tally ballot, .ok t'⟩ ∈ ys → t' = t)
    {x : Exchange} (hx : x ∈ xs) (push : x.call.IsPush) :
    ∃ a, lastAccepted settings.governedAccount ys = some a := by
  obtain ⟨edits, change, wrap, prepares, moves⟩ := exists_prepares_of_push path told hx push
  generalize hresult : Except.ok receipt = outcome at path'
  cases rosterPath_of_path edits path' with
  | refused quiet e => cases hresult
  | @committed us vs change' wrap' outcome quiet prepared course =>
    cases course with
    | stored =>
      have prepares' := prepared r fun y hy => told' y (List.mem_append_left _ hy)
      have moves' := (prepares.isMembershipChange_eq
        (prepares'.mono fun y hy => List.mem_append_left _ hy) counted).trans moves
      obtain ⟨c, after, changes, time, -, -, rfl, -⟩ := prepares'.exists_rosterChange
      have accepted : lastAccepted settings.governedAccount (RosterChange.push _ ++ _) = _ :=
        lastAccepted_stored moves'
      rw [lastAccepted_append, accepted]
      exact ⟨_, rfl⟩
    | _ => cases hresult

/-! ### Operations and the ballot service -/

theorem Operation.not_changesBallot_of_tally {ballot : BallotId} (may : op.MayAsk (.tally ballot))
    {x : Exchange} (may' : op.MayAsk x.call) : ¬x.ChangesBallot := by
  obtain ⟨c, a⟩ := x
  cases op <;> first | exact may.elim | (cases c <;> first | exact may'.elim | exact id)

theorem Operation.not_mayAsk_openBallot (unopened : ∀ holder, op ≠ .makeElection holder)
    {name : String} {treasury : TreasurySymbol} {options : List Account}
    {begins ends : Timestamp} : ¬op.MayAsk (.openBallot name treasury options begins ends) := by
  cases op <;> first | exact id | exact (unopened _ rfl).elim

/-- A start of voting that succeeds opens its ballot and does nothing else to the ballots. -/
theorem ballots_of_startElection {holder : Account} {receipt : Receipt}
    (path : ((Operation.startElection holder).program settings).Path xs (.ok receipt))
    (told : ∀ x ∈ xs, r.Tells x) (service : m.Serves xs m') {c voting : Config}
    {ballot : BallotId} {time : Timestamp} (configured : r.config = some c)
    (begun : c.beginVoting time = .ok (ballot, voting)) :
    m' = m.edit ballot fun b => { b with votingOpen := true } := by
  obtain ⟨ballot', -, inner⟩ := path_bind_pure_ok_iff.1 path
  unfold startElection at inner
  simp at inner
  obtain ⟨c', time', voting', begun', _, _, rfl⟩ := inner
  have configured' : some c' = r.config := told ⟨.config, .ok (some c')⟩ (by simp)
  obtain rfl := Option.some.inj (configured'.trans configured)
  obtain ⟨-, opened, -⟩ := Config.beginVoting_eq_ok_iff.1 begun
  obtain ⟨-, opened', -⟩ := Config.beginVoting_eq_ok_iff.1 begun'.symm
  obtain rfl := Option.some.inj (opened'.symm.trans opened)
  obtain ⟨-, -, -, -, -, after⟩ := service
  exact after

namespace World

variable {w w' : World MemoryStore}

/-- Runs of an operation over the same ballots are told the same tallies. -/
theorem tally_eq_of_exchanges (same : w'.ballots.ballots = w.ballots.ballots) {ballot : BallotId}
    {t t' : Tally} (first : ⟨.tally ballot, .ok t⟩ ∈ (op.program settings).exchanges answer w)
    (second : ⟨.tally ballot, .ok t'⟩ ∈ (op.program settings).exchanges answer w') : t' = t := by
  have spared {w : World MemoryStore} {t : Tally}
      (counted : ⟨.tally ballot, .ok t⟩ ∈ (op.program settings).exchanges answer w) :
      ∀ x ∈ (op.program settings).exchanges answer w, ¬x.ChangesBallot := by
    have asked {x : Exchange} (hx : x ∈ (op.program settings).exchanges answer w) :
        op.MayAsk x.call :=
      (op.onlyAsks settings).of_mem (path_run answer _ w) hx
    exact fun x hx => Operation.not_changesBallot_of_tally (asked counted) (asked hx)
  obtain ⟨b, found, rfl⟩ := tally_of_exchanges first (spared first)
  obtain ⟨b', found', rfl⟩ := tally_of_exchanges second (spared second)
  rw [same] at found'
  obtain rfl := Option.some.inj (found'.symm.trans found)
  rfl

/-- What an attempt that was refused leaves behind differs from the world before in authorities and
ballots only. -/
theorem twins_of_error {alike : Ballots → Ballots → Prop} {α : Type} {p : Program α} {e : Refusal}
    {pushes : Prop} (last : p.WritesLast pushes) (refused : (w.perform p).1 = .error e)
    (ballots : alike w.ballots.ballots (w.perform p).2.ballots.ballots) :
    Twins alike w.recovered (w.perform p).2.recovered := by
  obtain ⟨_, _, _, host⟩ := run_host p w
  have records := (run_serves p w).of_error (path_perform refused) last
  refine ⟨⟨rfl, rfl, rfl, rfl⟩, ⟨rfl, rfl, rfl, rfl⟩, ?_, records, ballots⟩
  simp only [recovered, perform, host]

/-- The program does in the second world what it does in the first. -/
structure Repeats {α : Type} (p : Program α) (w w' : World MemoryStore) : Prop where
  exchanges : p.exchanges answer w' = p.exchanges answer w
  result : (w'.perform p).1 = (w.perform p).1
  records : (w'.perform p).2.store.records = (w.perform p).2.store.records
  ballots : (w'.perform p).2.ballots.ballots = (w.perform p).2.ballots.ballots

theorem repeats_of_ballots (unopened : ∀ holder, op ≠ .makeElection holder)
    (h : Twins Eq w w') : Repeats (op.program settings) w w' := by
  obtain ⟨exchanges, result, after⟩ := h.perform (op.onlyAsks settings) fun c may =>
    respects_eq fun name treasury options begins ends opening =>
      Operation.not_mayAsk_openBallot unopened (opening ▸ may)
  exact ⟨exchanges, result, after.records, after.ballots.symm⟩

/-- The voting on a ballot that is open already can be started as if it were not. -/
theorem repeats_of_votingOpen {holder : Account} {receipt : Receipt} {c voting : Config}
    {ballot : BallotId} {time : Timestamp}
    (h : Twins (fun m m' => m' = m.edit ballot fun b => { b with votingOpen := true }) w w')
    (done : (w.perform ((Operation.startElection holder).program settings)).1 = .ok receipt)
    (configured : w.store.records.config = some c)
    (begun : c.beginVoting time = .ok (ballot, voting)) :
    Repeats ((Operation.startElection holder).program settings) w w' := by
  have keys : Twins (fun m m' => m.keys = m'.keys) w w' :=
    ⟨h.calm, h.calm', h.host, h.records, by rw [h.ballots, Ballots.keys_edit]⟩
  obtain ⟨exchanges, result, after⟩ := keys.perform ((Operation.startElection holder).onlyAsks
    settings) fun c may reaches => by
      cases c with
      | openVoting ballot => exact respects_openVoting ballot
      | _ => first | exact may.elim | exact reaches.elim
  refine ⟨exchanges, result, after.records, ?_⟩
  have path := path_perform done
  obtain ⟨told, -⟩ := (run_serves _ w).of_ok path (Operation.writesLast settings _)
  have served := run_ballots ((Operation.startElection holder).program settings) w'
  rw [exchanges] at served
  have second := ballots_of_startElection path told served configured begun
  have first := ballots_of_startElection path told (run_ballots _ w) configured begun
  refine second.trans (.trans ?_ first.symm)
  rw [h.ballots, Ballots.edit_edit]

/-- Pushes of a first attempt do not matter if the second attempt pushes when the first did. -/
theorem lastAccepted_or_or {account : Account}
    (again : ∀ x ∈ xs, x.call.IsPush → ∃ a, lastAccepted account ys = some a)
    (held : Option Authority) :
    (lastAccepted account ys).or ((lastAccepted account xs).or held) =
      (lastAccepted account ys).or held := by
  by_cases pushed : ∃ x ∈ xs, x.call.IsPush
  · obtain ⟨x, hx, push⟩ := pushed
    obtain ⟨a, accepted⟩ := again x hx push
    rw [accepted]
    rfl
  · rw [lastAccepted_eq_none fun x hx push => pushed ⟨x, hx, push⟩]
    rfl

/-- An operation that succeeds when nothing fails, and that opens no election, can be made again
after it has been refused for a failure, as if it had been made once. -/
theorem retry_of_error (unopened : ∀ holder, op ≠ .makeElection holder) {e : Refusal}
    (refused : (w.perform (op.program settings)).1 = .error e) {receipt : Receipt}
    (done : (w.recovered.perform (op.program settings)).1 = .ok receipt)
    (compensated : Compensated ((op.program settings).exchanges answer w)) :
    let again := (w.after settings (.perform op)).recovered
    Repeats (op.program settings) w.recovered again ∧
      (again.perform (op.program settings)).2.host.authorities.find? settings.governedAccount =
        (w.recovered.perform (op.program settings)).2.host.authorities.find?
          settings.governedAccount := by
  intro again
  have last := op.writesLast settings
  have path := path_perform refused
  obtain ⟨-, told⟩ := (run_serves (op.program settings) w).of_unstored (path.unstored_of_error last)
  have path' := path_perform done
  obtain ⟨told', -⟩ := (run_serves (op.program settings) w.recovered).of_ok path' last
  have repeats : Repeats (op.program settings) w.recovered again := by
    rcases ballots_of_error path told (run_ballots _ w) compensated unopened with
      same | ⟨holder, c, ballot, time, voting, rfl, configured, begun, opened⟩
    · exact repeats_of_ballots unopened (twins_of_error last refused same.symm)
    · exact repeats_of_votingOpen (twins_of_error last refused opened) done configured begun
  refine ⟨repeats, ?_⟩
  -- an authority that the attempt pushed does not show under the one that is pushed again
  have sameBallots : w.recovered.ballots.ballots = w.ballots.ballots := rfl
  have pushed_again {x : Exchange} (hx : x ∈ (op.program settings).exchanges answer w)
      (push : x.call.IsPush) := exists_push_of_push path told path' told'
    (fun ballot t t' => tally_eq_of_exchanges sameBallots) hx push
  have ended := run_authorities settings.governedAccount (op.program settings) again
  rw [repeats.exchanges] at ended
  calc _ = (lastAccepted settings.governedAccount ((op.program settings).exchanges answer
          w.recovered)).or ((w.after settings (.perform op)).host.authorities.find?
            settings.governedAccount) := ended
    _ = (lastAccepted settings.governedAccount ((op.program settings).exchanges answer
          w.recovered)).or (w.host.authorities.find? settings.governedAccount) :=
      (congrArg (Option.or _) (run_authorities _ _ w)).trans
        (lastAccepted_or_or (fun x => pushed_again) _)
    _ = _ := (run_authorities settings.governedAccount (op.program settings) w.recovered).symm

variable (settings w) in
/-- In any world, let an operation that opens no election succeed when nothing fails. If its write
fails, and no call that takes a deed back is rejected, then making it again succeeds with the same
result, and leaves the same records, ballots and authority as if it had been made once. -/
theorem retry_invisible (op : Operation) (unopened : ∀ holder, op ≠ .makeElection holder)
    {receipt : Receipt} (done : (w.recovered.perform (op.program settings)).1 = .ok receipt)
    (unwritten : ∃ x ∈ (op.program settings).exchanges answer w, x.isFailedWrite = true)
    (compensated : Compensated ((op.program settings).exchanges answer w)) :
    let once := w.recovered.perform (op.program settings)
    let again := (w.after settings (.perform op)).recovered.perform (op.program settings)
    again.1 = .ok receipt ∧ again.2.store.records = once.2.store.records ∧
      again.2.ballots.ballots = once.2.ballots.ballots ∧
      again.2.host.authorities.find? settings.governedAccount =
        once.2.host.authorities.find? settings.governedAccount := by
  intro once again
  obtain ⟨e, refused⟩ :=
    exists_error_of_failedWrite (path_run answer (op.program settings) w) unwritten
  obtain ⟨repeats, authority⟩ := retry_of_error unopened refused done compensated
  exact ⟨repeats.result.trans done, repeats.records, repeats.ballots, authority⟩

/-- When the seating of two founders cannot be written, the second attempt seats them, and the host
has their authority. -/
theorem retry_invisible_seating :
    let seating : Operation := .seatBoard [alice, bob]
    let joint : Authority := ⟨2, [alice, bob].map ThresholdRule.signer⟩
    let again := (failing.after {} (.perform seating)).recovered.perform (seating.program {})
    again.1 = .ok (.committed ⟨[alice, bob], [], joint⟩) ∧
      again.2.store.records.members.keys = [alice, bob] ∧
      again.2.host.authorities.find? ({} : Settings).governedAccount = some joint := by
  intro seating joint again
  have done : (failing.recovered.perform (seating.program {})).1 =
      .ok (.committed ⟨[alice, bob], [], joint⟩) := by
    decide +kernel
  have unwritten : ∃ x ∈ (seating.program {}).exchanges answer failing,
      x.isFailedWrite = true := by
    decide +kernel
  obtain ⟨result, records, -, authority⟩ :=
    retry_invisible {} failing seating nofun done unwritten (by decide +kernel)
  refine ⟨result, ?_, ?_⟩
  · rw [records]
    decide +kernel
  · rw [authority]
    decide +kernel

end World

end TrusteeBoard
