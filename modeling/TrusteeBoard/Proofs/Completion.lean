import TrusteeBoard.Proofs.Cycle
import TrusteeBoard.Proofs.World.Elections

/-!
# Every election can be closed

Once the voting window of an active election is over, any account can start the voting, if nobody
has, and close the election (`World.election_completes`). Nothing in the way of it can be wrong: the
ballot was opened and is still there (`World.balloted_of_active`).
-/

namespace TrusteeBoard

open Sample

namespace World

variable {settings : Settings} {holder : Account} {c : Config}

/-- An election that is active at the end of a run has been opened on a ballot that is still there,
and waits to be started or to be closed. -/
theorem balloted_of_active {w : World MemoryStore} (empty : w.store.records = {})
    (events : List Event) (stored : (w.afterAll settings events).store.records.config = some c)
    (active : c.electionActive = true) : (c.phase = .nominating ∨ c.phase = .voting) ∧
      ∃ ballot, c.openBallot = some ballot ∧
        ballot ∈ (w.afterAll settings events).ballots.ballots.keys := by
  have history : History (w.entries settings events) (w.afterAll settings events).store.records :=
    history_of_empty empty events
  obtain ⟨k, current⟩ := ((Records.inCycle_of_config stored).1 history.inCycle).during active
  obtain ⟨name, treasury, ends, opened⟩ := current.openAfter.balloted
  have opening : k.opening ∈ w.entries settings events := by
    rw [current.openAfter.entries]
    simp
  refine ⟨?_, k.ballot, current.ballot, ?_⟩
  · obtain ⟨past, ⟨nominating, -⟩ | ⟨voting, -⟩⟩ := current.stage
    · exact .inl nominating
    · exact .inr voting
  · exact (lasting_ballot k.ballot).of_mem_entries
      (establishes_ballot name treasury [] k.begins ends k.ballot) opening opened

variable (settings) in
/-- After every run from an empty store, once pending failures are cleared, an active election can
be closed from the end of its voting window on, by any account that signs and whatever is reported
to the ballot service. -/
theorem election_completes {w : World MemoryStore} (empty : w.store.records = {})
    (events : List Event) (stored : (w.afterAll settings events).store.records.config = some c)
    (active : c.electionActive = true) {time : Timestamp} (due : c.votingClosesAt ≤ time)
    {signers : List Account} (signs : holder ∈ signers) (reports : List (BallotId × Tally)) :
    let ready := (w.afterAll settings events).recovered.afterAll settings
      [.setClock time, .signAs signers]
    let course := remainder c.phase holder reports
    (∀ e ∈ ready.entries settings course, ∃ receipt, e.result = .ok receipt) ∧
      ∃ c', (ready.afterAll settings course).store.records.config = some c' ∧
        c'.phase = .idle ∧ c'.openBallot = none := by
  intro ready course
  obtain ⟨phase, balloted⟩ := balloted_of_active empty events stored active
  have closable : ready.Closable holder c :=
    { calm := ⟨rfl, rfl, rfl, rfl⟩
      signed := OrderedSet.mem_keys_ofList.2 signs
      stored, active, balloted, due }
  exact (closable.completes phase reports).imp_right And.right

/-- The election is closed by another account than the one whose attempt to start the voting
failed. -/
theorem election_completes_brokenStart :
    let w := world.afterAll {} brokenStart
    let ready := w.recovered.afterAll {} [.setClock ⟨10000000⟩, .signAs [bob]]
    ∃ c, w.store.records.config = some c ∧ c.electionActive = true ∧
      let course := remainder c.phase bob [(⟨1⟩, { totalWeight := 7 })]
      (∀ e ∈ ready.entries {} course, ∃ receipt, e.result = .ok receipt) ∧
        ∃ c', (ready.afterAll {} course).store.records.config = some c' ∧
          c'.phase = .idle ∧ c'.openBallot = none := by
  intro w ready
  have closable : w.store.records.config.any
      fun c => c.electionActive && decide (c.votingClosesAt ≤ ⟨10000000⟩) := by
    decide +kernel
  obtain ⟨c, stored, closable⟩ := (Option.any_eq_true _ _).1 closable
  rw [Bool.and_eq_true, decide_eq_true_iff] at closable
  obtain ⟨active, due⟩ := closable
  exact ⟨c, stored, active, election_completes {} (w := world) rfl brokenStart stored active due
    (List.mem_singleton.2 rfl) [(⟨1⟩, { totalWeight := 7 })]⟩

end World

end TrusteeBoard
