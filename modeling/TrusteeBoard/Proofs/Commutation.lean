import TrusteeBoard.Proofs.Candidacy
import TrusteeBoard.Proofs.Sample
import TrusteeBoard.Proofs.World.Standing

/-!
# Candidacies of different persons

Nominations, registrations and their withdrawals that are about different persons can be carried out
in either order (`World.candidacies_commute`). Each asks about its own person and changes entries of
that person only, but for the number of candidates, which a registration compares with the limit
(`Minds`). So an operation on one person finds all it asks about unchanged by an operation on
another.
-/

namespace TrusteeBoard

open Program Sample

/-- The person whose candidacy the operation is about. -/
def Operation.candidacy? : Operation → Option Account
  | .nominate nominee _ => some nominee
  | .unnominate nominee => some nominee
  | .addCandidate candidate => some candidate
  | .removeCandidate candidate => some candidate
  | _ => none

/-- The refusal for want of room. -/
def Refusal.ExceedsCapacity : Refusal → Prop
  | .capacityExceeded _ _ => True
  | _ => False

/-- The operation was refused for want of room. -/
def Entry.exceedsCapacity (e : Entry) : Bool :=
  match e.result with
  | .error (.capacityExceeded _ _) => true
  | _ => false

theorem Entry.not_exceedsCapacity {e : Entry} (h : e.exceedsCapacity = false) {refusal : Refusal}
    (refused : e.result = .error refusal) : ¬refusal.ExceedsCapacity := by
  unfold exceedsCapacity at h
  rw [refused] at h
  cases refusal with
  | capacityExceeded => cases h
  | _ => exact id

/-- The program keeps to one person, and ends alike where the person has the same standing, unless
it is refused for want of room. -/
structure Minds {α : Type} (name : Account) (p : Program α) : Prop where
  keeps : p.OnlyAsks (Call.KeepsTo name)
  concurs : p.Concurs World.answer World.answer (World.Agrees name) Refusal.ExceedsCapacity

namespace Minds

variable {α β : Type} {name : Account} {p : Program α} {f : α → Program β}

theorem of_onlyAsks (h : p.OnlyAsks (Call.Concerns name)) : Minds name p :=
  ⟨h.mono fun _ => .inl, h.concurs (World.answerAlike_of_concerns name)⟩

theorem bind (first : Minds name p) (rest : ∀ a xs, p.Path xs (.ok a) → Minds name (f a)) :
    Minds name (p >>= f) :=
  ⟨first.keeps.bind_of_path fun a xs path => (rest a xs path).keeps,
    Concurs.bind first.concurs fun a xs path => (rest a xs path).concurs⟩

/-- A part that asks about the person only comes first. -/
theorem query (first : p.OnlyAsks (Call.Concerns name))
    (rest : ∀ a xs, p.Path xs (.ok a) → Minds name (f a)) : Minds name (p >>= f) :=
  (of_onlyAsks first).bind rest

theorem refuse (e : Refusal) : Minds name (refuse e : Program α) :=
  of_onlyAsks trivial

theorem write {change : Change} (h : change.Concerns name) : Minds name (apply [change]) :=
  of_onlyAsks (.ofStore (Call.concerns_apply h))

theorem andThen (h : Minds name p) (g : α → β) : Minds name (p >>= fun a => pure (g a)) :=
  h.bind fun _ _ _ => of_onlyAsks trivial

end Minds

/-! ### Operations on a candidacy -/

variable {settings : Settings} {name : Account}

/-- The number of candidates only tells whether there is room. -/
theorem minds_room {α : Type} (limit : UInt32) (a : α) : Minds name (do
    let requested := UInt32.ofNat (← candidates).length + 1
    if limit < requested then
      refuse (.capacityExceeded limit requested)
    return a) := by
  refine ⟨OnlyAsks.bind (.ofStore (.inr trivial)) fun records => ?_, ?_⟩
  · dsimp only
    split <;> trivial
  · intro w w' h here there
    obtain ⟨history, read⟩ := World.reads_candidates h.calm
    obtain ⟨history', read'⟩ := World.reads_candidates h.calm'
    rw [World.run_bind read] at here ⊢
    rw [World.run_bind read'] at there ⊢
    dsimp only at here there ⊢
    split at here
    · exact (here _ rfl trivial).elim
    · next room =>
      split at there
      · exact (there _ rfl trivial).elim
      · next room' =>
        rw [if_neg room, if_neg room']
        exact ⟨rfl, h.calm.with_history _, h.calm'.with_history _, h.host, h.standing⟩

theorem nominate_minds (nominee nominator : Account) :
    Minds nominee (nominate nominee nominator) := by
  refine .query (.authorize trivial) fun _ _ _ => ?_
  refine .query (onlyAsks_call trivial) fun known _ _ => ?_
  cases known
  · exact .refuse _
  refine .query (onlyAsks_call trivial) fun time _ _ => ?_
  refine .query (.ofStore trivial) fun stored _ _ => ?_
  refine .query (.nomination (Call.concerns_nominee _) (Call.concerns_member _) _ _ _)
    fun changes _ path => ?_
  obtain ⟨rfl, -⟩ := Candidacy.path_nomination_ok_iff.1 path
  exact .write rfl

theorem unnominate_minds (nominee : Account) : Minds nominee (unnominate nominee) := by
  have drop : Minds nominee
      (Candidacy.unnomination nominee >>= fun found => do
        apply found.2
        return found.1) := by
    refine .query (.unnomination (Call.concerns_nominee _) (Call.concerns_candidate _))
      fun found _ path => ?_
    obtain ⟨record, changes⟩ := found
    obtain ⟨rfl, -⟩ := Candidacy.path_unnomination_ok_iff.1 path
    have drops : (Change.dropNominee nominee).Concerns nominee := rfl
    exact (Minds.write drops).andThen _
  refine .query (.ofStore trivial) fun stored _ _ => ?_
  cases stored with
  | none => exact .query (.authorize trivial) fun _ _ _ => drop
  | some c => exact .query (.authorizeEither trivial trivial) fun _ _ _ => drop

theorem registration_minds (candidate : Account) (time : Timestamp) (limit : UInt32) :
    Minds candidate (Candidacy.registration candidate time limit) := by
  refine .query (.isNominee rfl) fun nominated _ _ => ?_
  cases nominated
  · exact .refuse _
  refine .query (.isCandidate rfl) fun registered _ _ => ?_
  cases registered
  · exact minds_room limit _
  · exact .refuse _

theorem addCandidate_minds (candidate : Account) :
    Minds candidate (addCandidate settings candidate) := by
  refine .query (.authorize trivial) fun _ _ _ => ?_
  refine .query (.requireConfig trivial) fun c _ _ => ?_
  refine .query (onlyAsks_call trivial) fun time _ _ => ?_
  refine .query trivial fun ballot _ _ => ?_
  refine (registration_minds candidate time _).bind fun changes _ path => ?_
  obtain ⟨rfl, -⟩ := Candidacy.path_registration_ok_iff.1 path
  have puts : (Change.putCandidate ⟨candidate, time⟩).Concerns candidate := rfl
  refine .query (.ofBallots (Call.concerns_addOption _ _)) fun _ _ _ => ?_
  refine .query (onlyAsks_call (Call.concerns_apply puts)) fun written _ _ => .of_onlyAsks ?_
  cases written with
  | ok u => trivial
  | error e => exact ⟨rfl, fun _ => trivial⟩

theorem removeCandidate_minds (candidate : Account) :
    Minds candidate (removeCandidate candidate) := by
  refine .query (.requireConfig trivial) fun c _ _ => ?_
  refine .query (.authorizeEither trivial trivial) fun _ _ _ => ?_
  refine .query (onlyAsks_call trivial) fun time _ _ => ?_
  refine .query trivial fun ballot _ _ => ?_
  refine .query (.withdrawal (Call.concerns_candidate _)) fun changes _ path => ?_
  obtain ⟨rfl, -⟩ := Candidacy.path_withdrawal_ok_iff.1 path
  have drops : (Change.dropCandidate candidate).Concerns candidate := rfl
  dsimp only
  split
  · refine .query (.ofBallots (Call.concerns_removeOption _ _)) fun _ _ _ => ?_
    refine .query (onlyAsks_call (Call.concerns_apply drops)) fun written _ _ => .of_onlyAsks ?_
    cases written with
    | ok u => trivial
    | error e => exact ⟨rfl, fun _ => trivial⟩
  · refine .query (onlyAsks_call (Call.concerns_apply drops)) fun written _ _ => .of_onlyAsks ?_
    cases written <;> trivial

theorem Operation.minds {op : Operation} (h : op.candidacy? = some name) :
    Minds name (op.program settings) := by
  cases op with
  | nominate nominee nominator =>
    obtain rfl : nominee = name := Option.some.inj h
    exact (nominate_minds nominee nominator).andThen _
  | unnominate nominee =>
    obtain rfl : nominee = name := Option.some.inj h
    exact (unnominate_minds nominee).andThen _
  | addCandidate candidate =>
    obtain rfl : candidate = name := Option.some.inj h
    exact (addCandidate_minds candidate).andThen _
  | removeCandidate candidate =>
    obtain rfl : candidate = name := Option.some.inj h
    exact (removeCandidate_minds candidate).andThen _
  | _ => cases h

/-! ### Two orders -/

namespace World

variable {w : World MemoryStore} {a b : Account} {p q : Operation} {signers signers' : List Account}

/-- The same world in which other accounts sign. -/
def signedBy (w : World MemoryStore) (signers : List Account) : World MemoryStore :=
  { w with host := w.host.signedBy signers }

theorem Calm.signedBy (calm : w.Calm) (signers : List Account) : (w.signedBy signers).Calm :=
  ⟨calm.faults, calm.host, calm.ballots, calm.store⟩

/-- Whoever signs, a program that keeps to one person leaves the standing of everybody else. -/
theorem standing_perform_signedBy {α : Type} {p : Program α}
    (keeps : p.OnlyAsks (Call.KeepsTo b)) (different : a ≠ b) (signers : List Account) :
    ((w.signedBy signers).perform p).2.standing a = w.standing a :=
  standing_perform keeps different

/-- For one person it does not matter what has been done about another. -/
theorem agrees_after_other {α : Type} {p : Program α} (keeps : p.OnlyAsks (Call.KeepsTo b))
    (different : a ≠ b) (calm : w.Calm) (signers signers' : List Account) :
    Agrees a (w.signedBy signers) (((w.signedBy signers').perform p).2.signedBy signers) where
  calm := calm.signedBy signers
  calm' := ((calm.signedBy signers').perform p).signedBy signers
  host := by
    show Host.signedBy ((w.signedBy signers').perform p).2.host signers = w.host.signedBy signers
    rw [host_perform keeps]
    rfl
  standing := standing_perform_signedBy keeps different signers'

/-- Programs that mind different persons, each with signers of its own, end alike and leave the same
records and ballots in either order. -/
theorem perform_commute {α β : Type} {p : Program α} {q : Program β} (hp : Minds a p)
    (hq : Minds b q) (different : a ≠ b) (calm : w.Calm) (signers signers' : List Account) :
    let first := (w.signedBy signers).perform p
    let second := (first.2.signedBy signers').perform q
    let first' := (w.signedBy signers').perform q
    let second' := (first'.2.signedBy signers).perform p
    (∀ e, first.1 = .error e ∨ second'.1 = .error e → ¬e.ExceedsCapacity) →
      (∀ e, second.1 = .error e ∨ first'.1 = .error e → ¬e.ExceedsCapacity) →
      second'.1 = first.1 ∧ second.1 = first'.1 ∧
        second'.2.store.records = second.2.store.records ∧
        second'.2.ballots.ballots = second.2.ballots.ballots := by
  intro first second first' second' room room'
  obtain ⟨same, own⟩ : second'.1 = first.1 ∧ Agrees a first.2 second'.2 :=
    hp.concurs (agrees_after_other hq.keeps different calm signers signers')
      (fun e h => room e (.inl h)) fun e h => room e (.inr h)
  obtain ⟨same', own'⟩ : second.1 = first'.1 ∧ Agrees b first'.2 second.2 :=
    hq.concurs (agrees_after_other hp.keeps different.symm calm signers' signers)
      (fun e h => room' e (.inr h)) fun e h => room' e (.inl h)
  refine ⟨same, same', eq_of_standings fun name => ?_⟩
  show second'.2.standing name = second.2.standing name
  by_cases atA : name = a
  · rw [atA]
    exact own.standing.trans (standing_perform_signedBy hq.keeps different signers').symm
  by_cases atB : name = b
  · rw [atB]
    exact (standing_perform_signedBy hp.keeps different.symm signers).trans own'.standing.symm
  calc
    second'.2.standing name = first'.2.standing name :=
      standing_perform_signedBy hp.keeps atA signers
    _ = w.standing name := standing_perform_signedBy hq.keeps atB signers'
    _ = first.2.standing name := (standing_perform_signedBy hp.keeps atA signers).symm
    _ = second.2.standing name := (standing_perform_signedBy hq.keeps atB signers').symm

variable (settings) in
/-- Operations on the candidacies of different persons can be carried out in either order, as long
as there is room for candidates: each gets the same result, and the records and the ballots are the
same in the end. -/
theorem candidacies_commute (calm : w.Calm) (hp : p.candidacy? = some a)
    (hq : q.candidacy? = some b) (different : a ≠ b) (signers signers' : List Account) :
    let there : List Event := [.signAs signers, .perform p, .signAs signers', .perform q]
    let back : List Event := [.signAs signers', .perform q, .signAs signers, .perform p]
    (∀ e ∈ w.entries settings there ++ w.entries settings back, e.exceedsCapacity = false) →
      (w.entries settings back).map (·.result) =
          ((w.entries settings there).map (·.result)).reverse ∧
        (w.afterAll settings back).store.records = (w.afterAll settings there).store.records ∧
        (w.afterAll settings back).ballots.ballots =
          (w.afterAll settings there).ballots.ballots := by
  intro there back room
  have hp : Minds a (p.program settings) := Operation.minds hp
  have hq : Minds b (q.program settings) := Operation.minds hq
  have free {e : Entry} (he : e ∈ w.entries settings there ++ w.entries settings back)
      (refusal : Refusal) : e.result = .error refusal → ¬refusal.ExceedsCapacity :=
    Entry.not_exceedsCapacity (room e he)
  obtain ⟨same, same', last⟩ := perform_commute hp hq different calm signers signers'
    (fun e h => h.elim (free (.head _) e) (free (.tail _ (.tail _ (.tail _ (.head _)))) e))
    (fun e h => h.elim (free (.tail _ (.head _)) e) (free (.tail _ (.tail _ (.head _))) e))
  exact ⟨congrArg₂ (fun result result' => [result, result']) same'.symm same, last⟩

/-- While an election is nominating, one person withdraws and another one registers. -/
theorem candidacies_commute_contested :
    let w := (world.afterAll {} contested).recovered
    let there : List Event := [.signAs [alice], .perform (.removeCandidate alice), .signAs [bob],
      .perform (.addCandidate bob)]
    let back : List Event := [.signAs [bob], .perform (.addCandidate bob), .signAs [alice],
      .perform (.removeCandidate alice)]
    (w.entries {} there).map (·.result) = [.ok .done, .ok .done] ∧
      (w.entries {} back).map (·.result) = [.ok .done, .ok .done] ∧
      (w.afterAll {} back).store.records = (w.afterAll {} there).store.records ∧
      (w.afterAll {} back).ballots.ballots = (w.afterAll {} there).ballots.ballots := by
  intro w there back
  have done : (w.entries {} there).map (·.result) = [.ok .done, .ok .done] := by
    decide +kernel
  have room : ∀ e ∈ w.entries {} there ++ w.entries {} back, e.exceedsCapacity = false := by
    decide +kernel
  have calm : w.Calm := ⟨rfl, rfl, rfl, rfl⟩
  have different : alice ≠ bob := by
    decide
  obtain ⟨results, last⟩ :=
    candidacies_commute {} calm (by rfl) (by rfl) different [alice] [bob] room
  -- the lists are written out, or else both worlds would be computed to compare them
  dsimp only [there, back]
  exact ⟨done, results.trans (congrArg List.reverse done), last⟩

end World

end TrusteeBoard
