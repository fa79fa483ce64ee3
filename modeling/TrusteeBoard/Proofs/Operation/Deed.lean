import TrusteeBoard.Proofs.Operation.Calls
import TrusteeBoard.Proofs.Operation.Roster

/-!
# Operations on a ballot

Registration, withdrawal while nominating, and the first two steps of the cycle change a ballot.
Each asks what it needs, makes its one change (`Deed`) and writes; a registration or withdrawal
whose write fails is taken back (`Deed.Course`). Everything else leaves the ballots alone
(`BallotPath`, `ballotPath_of_path`).
-/

namespace TrusteeBoard

open Program

/-- Whether the exchange changed a ballot. -/
def Exchange.ChangesBallot : Exchange → Prop
  | ⟨.openBallot _ _ _ _ _, .ok _⟩ => True
  | ⟨.addOption _ _, .ok _⟩ => True
  | ⟨.removeOption _ _, .ok _⟩ => True
  | ⟨.openVoting _, .ok _⟩ => True
  | _ => False

theorem Exchange.not_changesBallot_of_isQuery {x : Exchange} (h : x.call.IsQuery) :
    ¬x.ChangesBallot := by
  obtain ⟨c, a⟩ := x
  cases c <;> first | exact h.elim | exact id

variable (settings : Settings)

/-- The change of a ballot that an operation makes on the records `r`, what it goes on to write, and
the call that takes the change back. -/
inductive Deed (r : Records) : Operation → Exchange → List Change → Option Call → Prop
  | addCandidate {candidate : Account} {c : Config} {ballot : BallotId} {time : Timestamp}
    (configured : r.config = some c) (window : c.candidacyBallot time = .ok ballot) :
    Deed r (.addCandidate candidate) ⟨.addOption ballot candidate, .ok ()⟩
      [.putCandidate ⟨candidate, time⟩] (some (.removeOption ballot candidate))
  | removeCandidate {candidate : Account} {c : Config} {ballot : BallotId} {time : Timestamp}
    (configured : r.config = some c) (window : c.withdrawalBallot time = .ok ballot)
    (nominating : c.phase = .nominating) :
    Deed r (.removeCandidate candidate) ⟨.removeOption ballot candidate, .ok ()⟩
      [.dropCandidate candidate] (some (.addOption ballot candidate))
  | makeElection {holder : Account} {c : Config} {plan : ElectionPlan} {ballot : BallotId}
    {time : Timestamp} (configured : r.config = some c) (planned : c.planElection time = .ok plan) :
    Deed r (.makeElection holder)
      ⟨.openBallot (settings.ballotName (c.electionsHeld + 1)) settings.treasurySymbol []
        plan.votingOpensAt plan.votingClosesAt, .ok ballot⟩
      [.clearCandidates, .putConfig (c.openElection plan ballot)] none
  | startElection {holder : Account} {c voting : Config} {ballot : BallotId} {time : Timestamp}
    (configured : r.config = some c) (begun : c.beginVoting time = .ok (ballot, voting)) :
    Deed r (.startElection holder) ⟨.openVoting ballot, .ok ()⟩ [.putConfig voting] none

/-- What follows a deed: the write goes through, or it fails and the deed stays, or it fails and the
deed is to be taken back. -/
inductive Deed.Course (deed : Exchange) (changes : List Change) :
    Option Call → List Exchange → Prop
  | stored {undo : Option Call} : Course deed changes undo [deed, ⟨.apply changes, .ok ()⟩]
  | kept (e : StoreError) : Course deed changes none [deed, ⟨.apply changes, .error e⟩]
  | takenBack (e : StoreError) {undo : Call} (answer : undo.Answer) :
    Course deed changes (some undo) [deed, ⟨.apply changes, .error e⟩, ⟨undo, answer⟩]

/-- The exchanges of an operation that changes no ballot, or changes one by its deed. -/
inductive BallotPath (op : Operation) : List Exchange → Prop
  | spared {xs : List Exchange} (spared : ∀ x ∈ xs, ¬x.ChangesBallot) : BallotPath op xs
  | done {ys zs : List Exchange} {deed : Exchange} {changes : List Change} {undo : Option Call}
    (queries : ∀ y ∈ ys, y.call.IsQuery)
    (prepared : ∀ r : Records, (∀ y ∈ ys, r.Tells y) → Deed settings r op deed changes undo)
    (course : Deed.Course deed changes undo zs) : BallotPath op (ys ++ zs)

/-- After the queries `seen`, the program goes on as in `BallotPath`. -/
def LeadsToDeed {α : Type} (op : Operation) (seen : List Exchange) (p : Program α) : Prop :=
  (∀ x ∈ seen, x.call.IsQuery) →
    ∀ xs result, p.Path xs result → BallotPath settings op (seen ++ xs)

variable {settings} {op : Operation} {seen : List Exchange} {α β : Type}

theorem BallotPath.refused {x : Exchange} (queries : ∀ y ∈ seen, y.call.IsQuery)
    (h : ¬x.ChangesBallot) : BallotPath settings op (seen ++ [x]) := by
  refine .spared fun y hy => ?_
  rcases List.mem_append.1 hy with hy | hy
  · exact Exchange.not_changesBallot_of_isQuery (queries y hy)
  · rwa [List.mem_singleton.1 hy]

theorem LeadsToDeed.query {p : Program α} {f : α → Program β} (hp : p.OnlyAsks Call.IsQuery)
    (hf : ∀ a ys, p.Path ys (.ok a) → LeadsToDeed settings op (seen ++ ys) (f a)) :
    LeadsToDeed settings op seen (p >>= f) := by
  intro queries xs result path
  rcases path_bind_iff.1 path with ⟨a, ys, zs, hys, hzs, rfl⟩ | ⟨e, hxs, rfl⟩
  · rw [← List.append_assoc]
    refine hf a ys hys (fun x hx => ?_) zs result hzs
    exact (List.mem_append.1 hx).elim (queries x) (hp.of_mem hys)
  · refine .spared fun x hx => Exchange.not_changesBallot_of_isQuery ?_
    exact (List.mem_append.1 hx).elim (queries x) (hp.of_mem hxs)

/-- What is done with the result of a program does not matter. -/
theorem LeadsToDeed.andThen {p : Program α} (hp : LeadsToDeed settings op seen p) (g : α → β) :
    LeadsToDeed settings op seen (p >>= fun a => pure (g a)) := by
  intro queries xs result path
  rcases path_bind_iff.1 path with ⟨a, ys, zs, hys, hzs, rfl⟩ | ⟨e, hxs, rfl⟩
  · obtain ⟨rfl, -⟩ := path_pure_iff.1 hzs
    rw [List.append_nil]
    exact hp queries ys _ hys
  · exact hp queries xs _ hxs

/-- The program ends, once the call has been made if there is one. -/
def Program.EndsAfter : Option Call → Program α → Prop
  | none, p => ∃ result, p = .done result
  | some call, p => ∃ result, p = .ask call fun _ => .done result

/-- A write right after a deed, with the deed taken back if the write fails, is a course of it. -/
theorem Deed.course_of_path {deed : Exchange} {changes : List Change} (undo : Option Call)
    {next : (Call.apply changes).Answer → Program α} {xs : List Exchange}
    {result : Except Refusal α} (path : (Program.ask (.apply changes) next).Path xs result)
    (stored : (next (.ok ())).EndsAfter none) (failed : ∀ e, (next (.error e)).EndsAfter undo) :
    Deed.Course deed changes undo (deed :: xs) := by
  obtain ⟨written, ys, rfl, rest⟩ := path_ask_iff.1 path
  cases written with
  | ok u =>
    obtain ⟨_, done⟩ := stored
    rw [done] at rest
    obtain ⟨rfl, -⟩ := path_done_iff.1 rest
    exact .stored
  | error e =>
    have ends := failed e
    cases undo with
    | none =>
      obtain ⟨_, done⟩ := ends
      rw [done] at rest
      obtain ⟨rfl, -⟩ := path_done_iff.1 rest
      exact .kept e
    | some undo =>
      obtain ⟨_, asks⟩ := ends
      rw [asks] at rest
      obtain ⟨answer, zs, rfl, done⟩ := path_ask_iff.1 rest
      obtain ⟨rfl, -⟩ := path_done_iff.1 done
      exact .takenBack e answer

/-! ### The operations -/

theorem addCandidate_leadsToDeed (candidate : Account) :
    LeadsToDeed settings (.addCandidate candidate) [] (addCandidate settings candidate) := by
  refine .query (onlyAsks_authorize _) fun _ ys₁ hsigned => ?_
  refine .query onlyAsks_requireConfig fun c ys₂ hc => ?_
  refine .query (onlyAsks_call trivial) fun time ys₃ htime => ?_
  refine .query trivial fun ballot ys₄ hballot => ?_
  refine .query (Candidacy.onlyLooksUp_registration _ _ _).queries fun changes ys₅ hchanges => ?_
  intro queries xs result path
  obtain ⟨added, zs, rfl, rest⟩ := path_ask_iff.1 path
  cases added with
  | error e =>
    obtain ⟨rfl, -⟩ := path_done_iff.1 rest
    exact .refused queries id
  | ok u =>
    rw [path_requireConfig_ok_iff] at hc
    rw [path_ofExcept_iff] at hballot
    obtain ⟨rfl, hballot⟩ := hballot
    obtain ⟨rfl, -⟩ := Candidacy.path_registration_ok_iff.1 hchanges
    subst hc
    refine .done queries (fun r told => ?_)
      (Deed.course_of_path (some _) rest ⟨_, rfl⟩ fun _ => ⟨_, rfl⟩)
    have configured : some c = r.config := told ⟨.config, .ok (some c)⟩ (by simp)
    exact .addCandidate configured.symm hballot.symm

theorem removeCandidate_leadsToDeed (candidate : Account) :
    LeadsToDeed settings (.removeCandidate candidate) [] (removeCandidate candidate) := by
  refine .query onlyAsks_requireConfig fun c ys₁ hc => ?_
  refine .query (onlyAsks_authorizeEither _ _) fun _ ys₂ hsigned => ?_
  refine .query (onlyAsks_call trivial) fun time ys₃ htime => ?_
  refine .query trivial fun ballot ys₄ hballot => ?_
  refine .query (Candidacy.onlyLooksUp_withdrawal _).queries fun changes ys₅ hchanges => ?_
  intro queries xs result path
  dsimp only at path
  split at path
  · next nominating =>
    obtain ⟨removed, zs, rfl, rest⟩ := path_ask_iff.1 path
    cases removed with
    | error e =>
      obtain ⟨rfl, -⟩ := path_done_iff.1 rest
      exact .refused queries id
    | ok u =>
      rw [path_requireConfig_ok_iff] at hc
      rw [path_ofExcept_iff] at hballot
      obtain ⟨rfl, hballot⟩ := hballot
      obtain ⟨rfl, -⟩ := Candidacy.path_withdrawal_ok_iff.1 hchanges
      subst hc
      refine .done queries (fun r told => ?_)
        (Deed.course_of_path (some _) rest ⟨_, rfl⟩ fun _ => ⟨_, rfl⟩)
      have configured : some c = r.config := told ⟨.config, .ok (some c)⟩ (by simp)
      exact .removeCandidate configured.symm hballot.symm nominating
  · obtain ⟨written, zs, rfl, rest⟩ := path_ask_iff.1 path
    cases written <;>
      obtain ⟨rfl, -⟩ := path_done_iff.1 rest <;>
      exact .refused queries id

theorem makeElection_leadsToDeed (holder : Account) :
    LeadsToDeed settings (.makeElection holder) [] (makeElection settings holder) := by
  refine .query (onlyAsks_authorize _) fun _ ys₁ hsigned => ?_
  refine .query onlyAsks_requireConfig fun c ys₂ hc => ?_
  refine .query (onlyAsks_call trivial) fun time ys₃ htime => ?_
  refine .query trivial fun plan ys₄ hplan => ?_
  intro queries xs result path
  obtain ⟨opened, zs, rfl, rest⟩ := path_ask_iff.1 path
  cases opened with
  | error e =>
    obtain ⟨rfl, -⟩ := path_done_iff.1 rest
    exact .refused queries id
  | ok ballot =>
    rw [path_requireConfig_ok_iff] at hc
    rw [path_ofExcept_iff] at hplan
    obtain ⟨rfl, hplan⟩ := hplan
    subst hc
    refine .done queries (fun r told => ?_)
      (Deed.course_of_path none rest ⟨_, rfl⟩ fun _ => ⟨_, rfl⟩)
    have configured : some c = r.config := told ⟨.config, .ok (some c)⟩ (by simp)
    exact .makeElection configured.symm hplan.symm

theorem startElection_leadsToDeed (holder : Account) :
    LeadsToDeed settings (.startElection holder) [] (startElection holder) := by
  refine .query (onlyAsks_authorize _) fun _ ys₁ hsigned => ?_
  refine .query onlyAsks_requireConfig fun c ys₂ hc => ?_
  refine .query (onlyAsks_call trivial) fun time ys₃ htime => ?_
  refine .query trivial fun begun ys₄ hbegun => ?_
  obtain ⟨ballot, voting⟩ := begun
  intro queries xs result path
  obtain ⟨opened, zs, rfl, rest⟩ := path_ask_iff.1 path
  cases opened with
  | error e =>
    obtain ⟨rfl, -⟩ := path_done_iff.1 rest
    exact .refused queries id
  | ok u =>
    rw [path_requireConfig_ok_iff] at hc
    rw [path_ofExcept_iff] at hbegun
    obtain ⟨rfl, hbegun⟩ := hbegun
    subst hc
    refine .done queries (fun r told => ?_)
      (Deed.course_of_path none rest ⟨_, rfl⟩ fun _ => ⟨_, rfl⟩)
    have configured : some c = r.config := told ⟨.config, .ok (some c)⟩ (by simp)
    exact .startElection configured.symm hbegun.symm

/-- Only its deed changes a ballot, and only four operations have one. -/
theorem ballotPath_of_path {xs : List Exchange} {result : Except Refusal Receipt}
    (path : (op.program settings).Path xs result) : BallotPath settings op xs := by
  have only : ∀ x ∈ xs, op.MayAsk x.call := fun x hx => (op.onlyAsks settings).of_mem path hx
  cases op with
  | addCandidate candidate =>
    exact (addCandidate_leadsToDeed candidate).andThen (fun _ => Receipt.done) (by simp) xs
      result path
  | removeCandidate candidate =>
    exact (removeCandidate_leadsToDeed candidate).andThen (fun _ => Receipt.done) (by simp) xs
      result path
  | makeElection holder =>
    exact (makeElection_leadsToDeed holder).andThen Receipt.ballot (by simp) xs result path
  | startElection holder =>
    exact (startElection_leadsToDeed holder).andThen Receipt.ballot (by simp) xs result path
  | _ =>
    refine .spared fun ⟨c, a⟩ hx => ?_
    have may := only _ hx
    cases c <;> first | exact may.elim | exact id

/-- On records that take part in its exchanges, an operation changes no ballot or makes its deed
right after queries. -/
theorem deed_of_path {xs : List Exchange} {result : Except Refusal Receipt} {r r' : Records}
    (path : (op.program settings).Path xs result) (serves : r.Serves xs r') :
    (∀ x ∈ xs, ¬x.ChangesBallot) ∨ ∃ ys zs deed changes undo, xs = ys ++ zs ∧
      (∀ y ∈ ys, y.call.IsQuery) ∧ Deed settings r op deed changes undo ∧
        Deed.Course deed changes undo zs ∧ r.Serves zs r' := by
  cases ballotPath_of_path path with
  | spared spared => exact .inl spared
  | @done ys zs deed changes undo queries prepared course =>
    obtain ⟨s, before, after⟩ := Records.serves_append_iff.1 serves
    obtain ⟨rfl, told⟩ := before.of_unstored fun y hy stored =>
      (queries y hy).isQuiet.not_isWrite (Exchange.isWrite_of_isStored stored)
    exact .inr ⟨ys, zs, deed, changes, undo, rfl, queries, prepared s told, course, after⟩

end TrusteeBoard
