import TrusteeBoard.Proofs.World.Calm

/-!
# Twin worlds

Two calm worlds are twins (`World.Twins`) when they have the same records and the same host but for
the authorities, and ballots that are alike in a given way. Twins go through a program in lockstep
as long as it makes no call to the ballot service that can tell alike ballots apart
(`World.Twins.perform`). Equal ballots are told apart by no call, and the call that opens a ballot
for voting asks only whether the ballot is there.
-/

namespace TrusteeBoard

open Program

/-- Whether the call reaches the ballot service. -/
def Call.ReachesBallots : Call → Prop
  | .openBallot _ _ _ _ _ => True
  | .addOption _ _ => True
  | .removeOption _ _ => True
  | .openVoting _ => True
  | .tally _ => True
  | _ => False

namespace World

variable {alike : Ballots → Ballots → Prop} {w w' : World MemoryStore} {c : Call}

/-- Two calm worlds that differ in authorities and in ballots only, the ballots being alike. -/
structure Twins (alike : Ballots → Ballots → Prop) (w w' : World MemoryStore) : Prop where
  calm : w.Calm
  calm' : w'.Calm
  host : w'.host = { w.host with authorities := w'.host.authorities, pushes := w'.host.pushes }
  records : w'.store.records = w.store.records
  ballots : alike w.ballots.ballots w'.ballots.ballots

/-- The call gets the same answer where ballots are alike, and they are alike after it. -/
def Respects (alike : Ballots → Ballots → Prop) (c : Call) : Prop :=
  ∀ {w w' : World MemoryStore}, w.Calm → w'.Calm → alike w.ballots.ballots w'.ballots.ballots →
    (w'.respond c).1 = (w.respond c).1 ∧
      alike (w.respond c).2.ballots.ballots (w'.respond c).2.ballots.ballots

theorem Twins.respond (h : Twins alike w w') (respects : c.ReachesBallots → Respects alike c) :
    (w'.respond c).1 = (w.respond c).1 ∧ Twins alike (w.respond c).2 (w'.respond c).2 := by
  have told {β : Type} (read : Records → β) :
      (.ok (read w'.store.records) : Except StoreError β) = .ok (read w.store.records) :=
    congrArg (fun r => Except.ok (read r)) h.records
  cases c with
  | config => exact ⟨told (·.config), h⟩
  | nominee name => exact ⟨told (·.nominees.find? name), h⟩
  | nominees => exact ⟨told (·.nominees.values), h⟩
  | candidate name => exact ⟨told (·.candidates.find? name), h⟩
  | candidates => exact ⟨told (·.candidates.values), h⟩
  | member name => exact ⟨told (·.members.find? name), h⟩
  | members => exact ⟨told (·.members.values), h⟩
  | memberCount => exact ⟨told fun r => UInt32.ofNat r.members.size, h⟩
  | apply changes =>
    refine ⟨?_, h.calm.respond _, h.calm'.respond _, h.host, ?_, h.ballots⟩
    · show (w'.store.apply changes).1 = (w.store.apply changes).1
      rw [apply_of_calm h.calm.store, apply_of_calm h.calm'.store]
    · show (w'.store.apply changes).2.records = (w.store.apply changes).2.records
      rw [apply_of_calm h.calm.store, apply_of_calm h.calm'.store, h.records]
  | now =>
    refine ⟨?_, h⟩
    show w'.host.clock = w.host.clock
    rw [h.host]
  | authorize account =>
    refine ⟨?_, h⟩
    show w'.host.authorize account = w.host.authorize account
    rw [h.host]
    rfl
  | accountExists account =>
    refine ⟨?_, h⟩
    show w'.host.accounts.contains account = w.host.accounts.contains account
    rw [h.host]
  | setAuthority account authority =>
    have pushed := setAuthority_of_calm h.calm.host account authority
    have pushed' := setAuthority_of_calm h.calm'.host account authority
    refine ⟨?_, h.calm.respond _, h.calm'.respond _, ?_, h.records, h.ballots⟩
    · show (w'.host.setAuthority account authority).1 = (w.host.setAuthority account authority).1
      rw [pushed, pushed']
      split <;> rfl
    · show (w'.host.setAuthority account authority).2 =
        { (w.host.setAuthority account authority).2 with
          authorities := (w'.host.setAuthority account authority).2.authorities
          pushes := (w'.host.setAuthority account authority).2.pushes }
      rw [pushed, pushed']
      split <;> rw [h.host]
  | _ =>
    obtain ⟨same, after⟩ := respects trivial h.calm h.calm' h.ballots
    exact ⟨same, h.calm.respond _, h.calm'.respond _, h.host, h.records, after⟩

theorem Twins.perform {α : Type} {p : Program α} {allowed : Call → Prop} (h : Twins alike w w')
    (only : p.OnlyAsks allowed)
    (respects : ∀ c, allowed c → c.ReachesBallots → Respects alike c) :
    p.exchanges answer w' = p.exchanges answer w ∧ (w'.perform p).1 = (w.perform p).1 ∧
      Twins alike (w.perform p).2 (w'.perform p).2 := by
  refine only.lockstep (R := Twins alike) ?_ h
  intro c w w' permitted h
  obtain ⟨same, after⟩ := h.respond (respects c permitted)
  rw [answer_of_calm h.calm, answer_of_calm h.calm']
  exact ⟨same, after.calm.with_history _, after.calm'.with_history _, after.host, after.records,
    after.ballots⟩

/-! ### Ways to be alike -/

theorem withBallot_congr {α : Type} {s s' : BallotService} (calm : s.failNextCall = false)
    (calm' : s'.failNextCall = false) (same : s.ballots = s'.ballots) (ballot : BallotId)
    (call : Ballot → Except BallotError (α × Ballot)) :
    (s'.withBallot ballot call).1 = (s.withBallot ballot call).1 ∧
      (s.withBallot ballot call).2.ballots = (s'.withBallot ballot call).2.ballots := by
  rw [withBallot_of_calm calm, withBallot_of_calm calm', same]
  split
  · exact ⟨rfl, same⟩
  · split
    · exact ⟨rfl, rfl⟩
    · exact ⟨rfl, same⟩

/-- No call on a ballot tells equal ballots apart. -/
theorem respects_eq (h : ∀ name treasury options begins ends,
    c ≠ .openBallot name treasury options begins ends) (reaches : c.ReachesBallots) :
    Respects Eq c := by
  intro w w' calm calm' same
  cases c with
  | openBallot name treasury options begins ends => exact (h _ _ _ _ _ rfl).elim
  | addOption ballot option => exact withBallot_congr calm.ballots calm'.ballots same ballot _
  | removeOption ballot option => exact withBallot_congr calm.ballots calm'.ballots same ballot _
  | openVoting ballot =>
    exact withBallot_congr calm.ballots calm'.ballots same ballot
      fun b => .ok ((), { b with votingOpen := true })
  | tally ballot =>
    exact withBallot_congr calm.ballots calm'.ballots same ballot fun b => .ok (b.tally.getD {}, b)
  | _ => exact reaches.elim

/-- A ballot is opened for voting if it is there. -/
theorem respects_openVoting (ballot : BallotId) :
    Respects (fun m m' => m.keys = m'.keys) (.openVoting ballot) := by
  intro w w' calm calm' same
  show (w'.ballots.openVoting ballot).1 = (w.ballots.openVoting ballot).1 ∧
    (w.ballots.openVoting ballot).2.ballots.keys = (w'.ballots.openVoting ballot).2.ballots.keys
  have listed := OrderedMap.mem_keys_iff (m := w.ballots.ballots) (k := ballot)
  rw [same, OrderedMap.mem_keys_iff] at listed
  rw [BallotService.openVoting, BallotService.openVoting, withBallot_of_calm calm.ballots,
    withBallot_of_calm calm'.ballots]
  cases found : w.ballots.ballots.find? ballot with
  | none =>
    cases found' : w'.ballots.ballots.find? ballot with
    | none => exact ⟨rfl, same⟩
    | some b => simp [found, found'] at listed
  | some b =>
    cases found' : w'.ballots.ballots.find? ballot with
    | none => simp [found, found'] at listed
    | some b' =>
      refine ⟨rfl, OrderedMap.keys_ext fun other => ?_⟩
      rw [OrderedMap.mem_keys_insert, OrderedMap.mem_keys_insert, same]

end World

end TrusteeBoard
