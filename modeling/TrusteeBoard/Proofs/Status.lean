import TrusteeBoard.Proofs.CommandLine.Directory
import TrusteeBoard.Proofs.Duration
import TrusteeBoard.Proofs.Election
import TrusteeBoard.Proofs.Sample
import TrusteeBoard.Proofs.Store.Agreement

/-!
# The report tells of the term without contradiction

Whether the term of the board is over and what is left of it are computed apart. Both follow from
the end of the term, which is at most the last representable second (`Config.toNat_termExpiresAt`),
and no time left but none is written as `0s`. So the report on a store agrees with itself, and so
does what the command prints (`Status.term_reported`).
-/

namespace TrusteeBoard

open CommandLine

theorem Timestamp.toNat_elapsedSince (t now : Timestamp) :
    (t.elapsedSince now).toNat = now.secs.toNat - t.secs.toNat :=
  toNat_floorSub _ _

theorem Config.toNat_termExpiresAt (c : Config) : c.termExpiresAt.secs.toNat =
    min (c.lastElectionAt.secs.toNat + c.termSpan.toNat) 0xFFFFFFFFFFFFFFFF :=
  toNat_capAdd _ _

/-- A term that is over leaves no time, and only such a term does. -/
theorem Config.isTermExpired_iff_elapsedSince {c : Config} {now : Timestamp} :
    c.isTermExpired now = true ↔ now.elapsedSince c.termExpiresAt = 0 := by
  have left := now.toNat_elapsedSince c.termExpiresAt
  rw [isTermExpired_iff, ← UInt64.toNat_inj, left]
  show c.termExpiresAt.secs ≤ now.secs ↔ _ = 0
  rw [UInt64.le_iff_toNat_le]
  omega

namespace Status

/-- The report on a governance record says that its term is over iff it says that `0s` are left, and
otherwise how much is left until the end of the term. The status command prints what the report
says. -/
theorem term_reported (c : Config) (now : Timestamp) :
    ∃ expired remaining,
      (∀ (σ : Type) [Store σ] (s : σ), Store.config s = .ok (some c) →
        ofStore s now = (do return {
          phase := c.phase
          termExpired := some expired
          termRemaining := some remaining
          config := some c
          members := ← Store.members s
          candidates := ← Store.candidates s
          nominees := ← Store.nominees s })) ∧
      (∀ (σ : Type) (around : Surroundings (StateM σ)) (cli : Settings) (store : ByteStore)
        (s s' s'' : σ), (openStore around cli).run.run s = (.ok store, s') →
        Store.config store = .ok (some c) → around.now.run s' = (now, s'') →
        (Command.status.run around cli).run.run s =
          (.mapError .store (do return printed (.record
            [ ("phase", c.phase.toJson),
              ("term_expired", .bool expired),
              ("term_remaining", .str remaining),
              ("config", c.toJson),
              ("board", .list Member.toJson (← Store.members store)),
              ("candidates", .list Candidate.toJson (← Store.candidates store)),
              ("nominees", .list Nominee.toJson (← Store.nominees store)) ])), s'')) ∧
      (expired = true ↔ remaining = "0s") ∧
      (expired = true ↔
        min (c.lastElectionAt.secs.toNat + c.termSpan.toNat) 0xFFFFFFFFFFFFFFFF ≤ now.secs.toNat) ∧
      (expired = false → ∃ left : UInt64, remaining = describeSpan left ∧
        now.secs.toNat + left.toNat =
          min (c.lastElectionAt.secs.toNat + c.termSpan.toNat) 0xFFFFFFFFFFFFFFFF) := by
  rw [← c.toNat_termExpiresAt]
  have ended : c.isTermExpired now = true ↔ c.termExpiresAt.secs.toNat ≤ now.secs.toNat :=
    Config.isTermExpired_iff.trans UInt64.le_iff_toNat_le
  refine ⟨c.isTermExpired now, describeSpan (now.elapsedSince c.termExpiresAt), ?_, ?_, ?_, ended,
    fun running => ⟨_, rfl, ?_⟩⟩
  · intro σ _ s stored
    rw [ofStore, stored]
    rfl
  · intro σ around cli store s s' s'' opened stored asked
    rw [Command.run_status opened asked, ofStore, stored]
    cases Store.members store with
    | error e => rfl
    | ok members =>
      cases Store.candidates store with
      | error e => rfl
      | ok candidates => cases Store.nominees store <;> rfl
  · rw [describeSpan_eq_zero_iff, Config.isTermExpired_iff_elapsedSince]
  · rw [← Bool.not_eq_true, ended] at running
    rw [Timestamp.toNat_elapsedSince]
    omega

/-- In the last second of a term one second is left, and the command prints so. -/
theorem term_reported_last :
    let c : Config := { publisher := Sample.publisher }
    let store : ByteStore := (Store.apply ByteStore.fresh [.putConfig c]).2
    ∃ report, ofStore store ⟨14515199⟩ = .ok report ∧ report.termExpired = some false ∧
      report.termRemaining = some "1s" ∧
      (Command.status.run (Directory.surroundings ⟨14515199⟩) { dataDir := "store" }).run.run
        (Directory.kept store) = (.ok (printed report.toJson), Directory.opened store) := by
  intro c store
  obtain ⟨expired, remaining, reported, prints, -, ended, left⟩ := term_reported c ⟨14515199⟩
  have running : expired = false := by
    rw [← Bool.not_eq_true, ended]
    decide
  obtain ⟨secs, rfl, rest⟩ := left running
  have second : secs.toNat = 1 := by
    have ends : min (c.lastElectionAt.secs.toNat + c.termSpan.toNat) 0xFFFFFFFFFFFFFFFF =
        14515200 := by decide
    rw [ends] at rest
    exact Nat.add_left_cancel rest
  obtain rfl : secs = 1 := UInt64.toNat_inj.1 second
  subst running
  -- the store answers as one in memory with the same records does
  have agree := (ByteStore.mirrors_fresh.apply [.putConfig c]).2.2.agree
  have stored : Store.config store = .ok (some c) := agree.config.symm
  have members : Store.members store = .ok [] := agree.members.symm
  have candidates : Store.candidates store = .ok [] := agree.candidates.symm
  have nominees : Store.nominees store = .ok [] := agree.nominees.symm
  have sound : ByteStore.ofImage store.image = .ok store := by
    have same : (ByteStore.ofImage store.image).toOption = some store := by decide +kernel
    cases image : ByteStore.ofImage store.image with
    | error e =>
      rw [image] at same
      cases same
    | ok found =>
      rw [image] at same
      exact congrArg Except.ok (Option.some.inj same)
  refine ⟨⟨c.phase, some false, some (describeSpan 1), some c, [], [], []⟩, ?_, rfl, rfl, ?_⟩
  · rw [reported _ store stored, members, candidates, nominees]
    rfl
  · rw [prints _ (Directory.surroundings ⟨14515199⟩) { dataDir := "store" } store _ _ _
      (Directory.openStore_kept sound ⟨14515199⟩) stored rfl, members, candidates, nominees]
    rfl

end Status

end TrusteeBoard
