import TrusteeBoard.Proofs.Operation.Roster

/-!
# Programs that cannot fail

A program succeeds under a condition on exchanges (`Program.Succeeds`) when no path of exchanges
that meet it ends in a refusal. In faithful exchanges (`Exchange.Faithful`) no collaborator has
failed and the store has told the truth about some records, so that a question to it has one answer
only.
-/

namespace TrusteeBoard

/-- Whether the answer is a failure. It is none to reject an authority that cannot be satisfied. -/
def Exchange.failed : Exchange → Bool
  | ⟨.config, .error _⟩ | ⟨.nominee _, .error _⟩ | ⟨.nominees, .error _⟩
  | ⟨.candidate _, .error _⟩ | ⟨.candidates, .error _⟩ | ⟨.member _, .error _⟩
  | ⟨.members, .error _⟩ | ⟨.memberCount, .error _⟩ | ⟨.apply _, .error _⟩
  | ⟨.authorize _, .error _⟩ | ⟨.openBallot _ _ _ _ _, .error _⟩ | ⟨.addOption _ _, .error _⟩
  | ⟨.removeOption _ _, .error _⟩ | ⟨.openVoting _, .error _⟩ | ⟨.tally _, .error _⟩ => true
  | ⟨.setAuthority _ authority, .error _⟩ => authority.IsSatisfiable
  | _ => false

/-- An answer that is no failure and, where the store gave it, that of the records `r`. -/
structure Exchange.Faithful (r : Records) (x : Exchange) : Prop where
  told : r.Tells x
  unfailed : x.failed = false

namespace Program

variable {α β : Type} {given : Exchange → Prop} {post : α → Prop} {goal : β → Prop}

/-- On every path of given exchanges, the end is a result that satisfies `post`. -/
def Succeeds (given : Exchange → Prop) : Program α → (α → Prop) → Prop
  | .done (.ok a), post => post a
  | .done (.error _), _ => False
  | .ask c next, post => ∀ answer, given ⟨c, answer⟩ → (next answer).Succeeds given post

theorem Succeeds.of_path {p : Program α} {xs : List Exchange} {result : Except Refusal α}
    (h : p.Succeeds given post) (path : p.Path xs result) (all : ∀ x ∈ xs, given x) :
    ∃ a, result = .ok a ∧ post a := by
  induction path with
  | done result =>
    cases result with
    | ok a => exact ⟨a, rfl, h⟩
    | error e => exact h.elim
  | ask answer rest ih =>
    exact ih (h answer (all _ List.mem_cons_self)) fun x hx => all x (List.mem_cons_of_mem _ hx)

theorem Succeeds.bind {p : Program α} {f : α → Program β} (hp : p.Succeeds given post)
    (hf : ∀ a, post a → (f a).Succeeds given goal) : (p >>= f).Succeeds given goal := by
  induction p with
  | done result =>
    cases result with
    | ok a => exact hf a hp
    | error e => exact hp.elim
  | ask c next ih => exact fun answer h => ih answer (hp answer h)

/-- What follows a program that succeeds takes up where its path ends. -/
theorem Succeeds.split {p : Program α} {f : α → Program β} {xs : List Exchange}
    {result : Except Refusal β} (h : p.Succeeds given post) (path : (p >>= f).Path xs result)
    (all : ∀ x ∈ xs, given x) :
    ∃ a ys zs, post a ∧ p.Path ys (.ok a) ∧ (f a).Path zs result ∧ xs = ys ++ zs := by
  rcases path_bind_iff.1 path with ⟨a, ys, zs, first, rest, rfl⟩ | ⟨e, refused, -⟩
  · obtain ⟨_, done, holds⟩ := h.of_path first fun x hx => all x (List.mem_append_left _ hx)
    cases done
    exact ⟨a, ys, zs, holds, first, rest, rfl⟩
  · obtain ⟨_, done, -⟩ := h.of_path refused all
    cases done

/-! ### Questions -/

theorem succeeds_ofExcept {x : Except Refusal α} {a : α} (h : x = .ok a) :
    (ofExcept x).Succeeds given (· = a) := by
  rw [h]
  rfl

theorem succeeds_now : now.Succeeds given fun time => given ⟨.now, time⟩ :=
  fun _ h => h

section Faithful

variable {r : Records} (faithful : ∀ x, given x → x.Faithful r)
include faithful

theorem succeeds_authorize (account : Account) :
    (authorize account).Succeeds given fun _ => True := by
  intro answer h
  cases answer with
  | ok u => trivial
  | error e => cases (faithful _ h).unfailed

theorem succeeds_tally (ballot : BallotId) : (tally ballot).Succeeds given fun _ => True := by
  intro answer h
  cases answer with
  | ok t => trivial
  | error e => cases (faithful _ h).unfailed

theorem succeeds_openBallot (name : String) (treasury : TreasurySymbol) (options : List Account)
    (begins ends : Timestamp) : (openBallot name treasury options begins ends).Succeeds given
      fun ballot => given ⟨.openBallot name treasury options begins ends, .ok ballot⟩ := by
  intro answer h
  cases answer with
  | ok ballot => exact h
  | error e => cases (faithful _ h).unfailed

theorem succeeds_apply (changes : List Change) :
    (apply changes).Succeeds given fun _ => given ⟨.apply changes, .ok ()⟩ := by
  intro answer h
  cases answer with
  | ok u => exact h
  | error e => cases (faithful _ h).unfailed

theorem succeeds_requireConfig {c : Config} (stored : r.config = some c) :
    requireConfig.Succeeds given (· = c) := by
  have read : config.Succeeds given (· = some c) := by
    intro answer h
    cases answer with
    | ok current =>
      have told : current = r.config := (faithful _ h).told
      exact told.trans stored
    | error e => cases (faithful _ h).unfailed
  refine read.bind ?_
  rintro _ rfl
  rfl

theorem succeeds_names : Candidacy.names.Succeeds given (· = r.candidateNames) := by
  have read : candidates.Succeeds given (· = r.candidates.values) := by
    intro answer h
    cases answer with
    | ok listed => exact (faithful _ h).told
    | error e => cases (faithful _ h).unfailed
  refine read.bind ?_
  rintro _ rfl
  rfl

theorem succeeds_load (maxSeats : UInt32) :
    (Board.load maxSeats).Succeeds given (· = r.board maxSeats) := by
  have read : members.Succeeds given (· = r.members.values) := by
    intro answer h
    cases answer with
    | ok listed => exact (faithful _ h).told
    | error e => cases (faithful _ h).unfailed
  refine read.bind ?_
  rintro _ rfl
  rfl

theorem succeeds_commit {change : RosterChange}
    (satisfiable : change.isMembershipChange = true → change.next.IsSatisfiable) :
    change.commit.Succeeds given fun _ => True := by
  unfold RosterChange.commit
  split
  · next moves =>
    intro pushed h
    cases pushed with
    | ok u =>
      intro written h
      cases written with
      | ok u => trivial
      | error e => cases (faithful _ h).unfailed
    | error e => exact (of_decide_eq_false (faithful _ h).unfailed (satisfiable moves)).elim
  · intro written h
    cases written with
    | ok u => trivial
    | error e => cases (faithful _ h).unfailed

end Faithful

end Program

end TrusteeBoard
