import TrusteeBoard.Proofs.Sample
import TrusteeBoard.Proofs.Store.Bytes
import TrusteeBoard.Proofs.World.History

/-!
# Two phases

A change of the roster goes to two parties that know nothing of each other: the host is asked first,
and the store is written once the host has agreed. When the write fails, the host is given back what
it had. Whatever the two answer, the records are in the end those from before, or those of the new
roster with all other changes made (`RosterChange.commit_two_phases`).

Of the store it is assumed that a write makes all its changes or none, and that nothing else
changes the records (`Persists`). Both kinds of stores keep to this.
-/

namespace TrusteeBoard

open Program Sample

variable {σ : Type}

/-! ### Records behind collaborators -/

/-- The records that `holds` ascribes to the collaborators are changed by writes that go through,
and by nothing else. -/
def Persists (answer : (c : Call) → σ → c.Answer × σ) (holds : σ → Records → Prop) : Prop :=
  ∀ (c : Call) {s : σ} {r : Records}, holds s r →
    holds (answer c s).2 (r.afterExchange ⟨c, (answer c s).1⟩)

theorem Persists.run {answer : (c : Call) → σ → c.Answer × σ} {holds : σ → Records → Prop}
    {α : Type} (persists : Persists answer holds) (p : Program α) {s : σ} {r : Records}
    (held : holds s r) :
    holds (p.run answer s).2 ((p.exchanges answer s).foldl Records.afterExchange r) := by
  induction p generalizing s r with
  | done result => exact held
  | ask c next ih => exact ih _ (persists c held)

namespace World

theorem persists_records :
    Persists answer fun (w : World MemoryStore) r => w.store.records = r := by
  rintro c w r rfl
  exact (answer_serves c w).2

/-- A store of bytes that is open persists the records that its maps hold. -/
theorem respond_bytes {w : World ByteStore} {r : Records} (c : Call)
    (opened : w.store.isOpen = true) (held : w.store.disk = r.bytes) :
    (w.respond c).2.store.isOpen = true ∧
      (w.respond c).2.store.disk = (r.afterExchange ⟨c, (w.respond c).1⟩).bytes := by
  cases c with
  | apply changes =>
    rw [respond, ByteStore.apply_bytes opened held]
    exact ⟨opened, rfl⟩
  | _ =>
    rw [respond_store w (by simp)]
    exact ⟨opened, held⟩

theorem persists_bytes : Persists answer
    fun (w : World ByteStore) r => w.store.isOpen = true ∧ w.store.disk = r.bytes := by
  rintro c w r ⟨opened, held⟩
  obtain ⟨faults, ⟨failure, a, failing, answered⟩ | answered⟩ := answer_eq c w
  · rw [answered, (failing_serves failing r).2]
    exact ⟨opened, held⟩
  · rw [answered]
    exact respond_bytes c opened held

end World

/-! ### The commit -/

/-- The records `r'` are those of the roster `after` where `r` are those of `before`: who stays keeps
the record, who comes gets a new one, and all else is as `changes` have it. -/
structure Records.Reseated (r : Records) (before after : Board) (changes : List Change)
    (time : Timestamp) (r' : Records) : Prop where
  members : r'.members.keys = after.members.keys
  kept : ∀ name ∈ before.members.keys, name ∈ after.members.keys →
    r'.members.find? name = r.members.find? name
  gained : ∀ name ∈ after.members.keys, name ∉ before.members.keys →
    r'.members.find? name = some ⟨name, time⟩
  others : { r' with members := r.members } = r.after changes

namespace RosterChange

variable {answer : (c : Call) → σ → c.Answer × σ} {holds : σ → Records → Prop}
  {account fallback : Account} {rule : ThresholdRule} {before after : Board}
  {changes : List Change} {time : Timestamp} {r : Records}

theorem reseated_after_between (roster : r.members.keys = before.members.keys)
    (plain : ∀ change ∈ changes, ¬change.IsMembership) :
    r.Reseated before after changes time
      (r.after (between account rule fallback before after changes time).changes) where
  members := by
    rw [Records.after_between]
    exact Records.keys_rosterAfter (by rw [Records.members_after plain, roster])
  kept name stays comes := by
    rw [Records.find?_members_after_between roster plain, if_pos comes, if_pos stays]
  gained name comes new := by
    rw [Records.find?_members_after_between roster plain, if_pos comes, if_neg new]
  others := by
    have same : (r.after changes).members = r.members := Records.members_after plain
    rw [Records.after_between]
    show { r.after changes with members := r.members } = r.after changes
    rw [← same]

variable (account fallback rule before after time) in
/-- When nobody comes and nobody goes, nothing is pushed. Otherwise the authority of the board after
is pushed first, and nothing is written if it is rejected. A write that fails is what is reported,
leaves the records, and brings back the authority of the board before. A write that goes through
seats the board after, and is the last that either is asked. -/
theorem commit_two_phases {s : σ} (persists : Persists answer holds) (held : holds s r)
    (roster : r.members.keys = before.members.keys)
    (plain : ∀ change ∈ changes, ¬change.IsMembership) :
    let change := between account rule fallback before after changes time
    let build (board : Board) : Authority := rule.authorityOver fallback board.members.keys
    let xs := change.commit.exchanges answer s
    let result := (change.commit.run answer s).1
    let s' := (change.commit.run answer s).2
    (after.members.keys = before.members.keys →
      ∃ written, xs = [⟨.apply change.changes, written⟩]) ∧
    (after.members.keys ≠ before.members.keys →
      ∃ pushed rest, xs = ⟨.setAuthority account (build after), pushed⟩ :: rest ∧
        match pushed with
        | .error e => rest = [] ∧ result = .error (.host e) ∧ holds s' r
        | .ok () => ∃ written undo, rest = ⟨.apply change.changes, written⟩ :: undo) ∧
    (∀ e, ⟨.apply change.changes, .error e⟩ ∈ xs →
      result = .error (.store e) ∧ holds s' r ∧
      (after.members.keys ≠ before.members.keys → ∃ restored,
        xs = [⟨.setAuthority account (build after), .ok ()⟩, ⟨.apply change.changes, .error e⟩,
          ⟨.setAuthority account (build before), restored⟩])) ∧
    (⟨.apply change.changes, .ok ()⟩ ∈ xs →
      result = .ok ⟨after.without before, before.without after, build after⟩ ∧
      (∃ r', holds s' r' ∧ r.Reseated before after changes time r') ∧
      (after.members.keys ≠ before.members.keys →
        xs = [⟨.setAuthority account (build after), .ok ()⟩, ⟨.apply change.changes, .ok ()⟩])) := by
  intro change build xs result s'
  have course : change.Course xs result := course_of_path (path_run answer change.commit s)
  have persisted : holds s' (xs.foldl Records.afterExchange r) := persists.run change.commit held
  have moves : change.isMembershipChange = true ↔ after.members.keys ≠ before.members.keys := by
    rw [ne_eq, ← isMembershipChange_between_eq_false_iff, Bool.not_eq_false]
  have reseated : r.Reseated before after changes time (r.after change.changes) :=
    reseated_after_between roster plain
  clear_value xs result s'
  cases course with
  | rejected e moved =>
    exact ⟨fun same => absurd same (moves.1 moved),
      fun _ => ⟨.error e, [], rfl, rfl, rfl, persisted⟩,
      fun e' failed => by simp at failed, fun written => by simp at written⟩
  | failed e stays =>
    have same : after.members.keys = before.members.keys :=
      isMembershipChange_between_eq_false_iff.1 stays
    refine ⟨fun _ => ⟨.error e, rfl⟩, fun differ => absurd same differ, fun e' failed => ?_,
      fun written => by simp at written⟩
    obtain rfl : e' = e := by simpa using failed
    exact ⟨rfl, persisted, fun differ => absurd same differ⟩
  | takenBack e restored moved =>
    refine ⟨fun same => absurd same (moves.1 moved), fun _ => ⟨.ok (), _, rfl, .error e, _, rfl⟩,
      fun e' failed => ?_, fun written => by simp at written⟩
    obtain rfl : e' = e := by simpa using failed
    exact ⟨rfl, persisted, fun _ => ⟨restored, rfl⟩⟩
  | stored =>
    by_cases moved : change.isMembershipChange = true
    · rw [push, if_pos moved] at persisted ⊢
      exact ⟨fun same => absurd same (moves.1 moved), fun _ => ⟨.ok (), _, rfl, .ok (), [], rfl⟩,
        fun e failed => by simp at failed, fun _ => ⟨rfl, ⟨_, persisted, reseated⟩, fun _ => rfl⟩⟩
    · have same : after.members.keys = before.members.keys := not_ne_iff.1 (mt moves.2 moved)
      rw [push, if_neg moved] at persisted ⊢
      exact ⟨fun _ => ⟨.ok (), rfl⟩, fun differ => absurd same differ,
        fun e failed => by simp at failed,
        fun _ => ⟨rfl, ⟨_, persisted, reseated⟩, fun differ => absurd same differ⟩⟩

/-- Alice goes, bob stays and carol comes. The change is refused by a store of records that cannot
write, and made in a store of bytes. -/
theorem commit_two_phases_handover :
    let seated := Sample.world.afterAll {} Sample.handover
    let r := seated.store.records
    let broken := seated.after {} (.plant ⟨.apply, 0, .store (.backend "disk full")⟩)
    let onBytes : World ByteStore :=
      { host := seated.host, ballots := seated.ballots, store := ⟨r.bytes, true⟩ }
    let change := between publisher .simpleMajority publisher
      ⟨OrderedSet.ofList [alice, bob], 3⟩ ⟨OrderedSet.ofList [bob, carol], 3⟩ [.dropNominee carol]
      ⟨2000⟩
    ((broken.perform change.commit).1 = .error (.store (.backend "disk full")) ∧
      (broken.perform change.commit).2.store.records = r) ∧
    (onBytes.perform change.commit).1 =
      .ok ⟨[carol], [alice], ⟨2, [bob, carol].map ThresholdRule.signer⟩⟩ ∧
    ∃ r' : Records, (onBytes.perform change.commit).2.store.disk = r'.bytes ∧
      r'.members.keys = [bob, carol] ∧ r'.members.find? bob = r.members.find? bob ∧
      r'.members.find? carol = some ⟨carol, ⟨2000⟩⟩ ∧ r'.nominees.keys = [] := by
  intro seated r broken onBytes change
  have plain : ∀ change ∈ [Change.dropNominee carol], ¬change.IsMembership := by
    simp [Change.IsMembership]
  have refused := commit_two_phases publisher publisher .simpleMajority
    ⟨OrderedSet.ofList [alice, bob], 3⟩ ⟨OrderedSet.ofList [bob, carol], 3⟩ ⟨2000⟩
    World.persists_records (s := broken) (r := r) rfl rfl plain
  have made := commit_two_phases publisher publisher .simpleMajority
    ⟨OrderedSet.ofList [alice, bob], 3⟩ ⟨OrderedSet.ofList [bob, carol], 3⟩ ⟨2000⟩
    World.persists_bytes (s := onBytes) (r := r) ⟨rfl, rfl⟩ rfl plain
  obtain ⟨reported, unchanged, -⟩ := refused.2.2.1 (.backend "disk full") (.tail _ (.head _))
  obtain ⟨committed, ⟨r', ⟨-, written⟩, reseated⟩, -⟩ := made.2.2.2 (.tail _ (.head _))
  refine ⟨⟨reported, unchanged⟩, committed, r', written, reseated.members,
    reseated.kept bob (by decide) (by decide), reseated.gained carol (by decide) (by decide), ?_⟩
  exact congrArg (fun r : Records => r.nominees.keys) reseated.others

end RosterChange

end TrusteeBoard
