import TrusteeBoard.Candidacy
import TrusteeBoard.Proofs.Program.Path

/-!
# Paths of the candidacy checks

For each check, the exchanges on which it succeeds and the changes it then answers with.
-/

namespace TrusteeBoard.Candidacy

open Program

variable {xs : List Exchange} {changes : List Change} {name : Account} {time : Timestamp}

@[simp] theorem path_nomination_ok_iff {nominator : Account} {incumbentsEligible : Bool} :
    (nomination name nominator time incumbentsEligible).Path xs (.ok changes) ↔
      changes = [.putNominee ⟨name, nominator, time⟩] ∧
        (incumbentsEligible = true ∧ xs = [⟨.nominee name, .ok none⟩] ∨
          incumbentsEligible = false ∧
            xs = [⟨.nominee name, .ok none⟩, ⟨.member name, .ok none⟩]) := by
  unfold nomination
  cases incumbentsEligible <;> simp [and_assoc]

@[simp] theorem path_unnomination_ok_iff {record : Nominee} :
    (unnomination name).Path xs (.ok (record, changes)) ↔ changes = [.dropNominee name] ∧
      xs = [⟨.nominee name, .ok (some record)⟩, ⟨.candidate name, .ok none⟩] := by
  unfold unnomination
  rw [path_bind_ok_iff]
  constructor
  · rintro ⟨_ | found, ys, zs, hy, hz, rfl⟩
    · simp at hz
    · simp only [path_nominee_ok_iff] at hy
      simp [and_assoc] at hz
      obtain ⟨rfl, rfl, rfl⟩ := hz
      exact ⟨rfl, by rw [hy]; rfl⟩
  · rintro ⟨rfl, rfl⟩
    refine ⟨some record, _, _, path_nominee_ok_iff.2 rfl, ?_, rfl⟩
    simp

@[simp] theorem path_registration_ok_iff {limit : UInt32} :
    (registration name time limit).Path xs (.ok changes) ↔
      changes = [.putCandidate ⟨name, time⟩] ∧ ∃ nominee candidates,
        ¬limit < UInt32.ofNat candidates.length + 1 ∧
          xs = [⟨.nominee name, .ok (some nominee)⟩, ⟨.candidate name, .ok none⟩,
            ⟨.candidates, .ok candidates⟩] := by
  unfold registration
  simp only [refuse_bind, path_bind_ok_iff, path_isNominee_ok_iff, Option.exists,
    Option.isSome_none, Option.isSome_some, exists_and_left, path_ite_else_refuse_ok_iff,
    path_isCandidate_ok_iff, path_ite_refuse_ok_iff, Bool.not_eq_true, path_candidates_ok_iff,
    path_pure_iff, Except.ok.injEq, and_assoc, exists_eq_left, List.append_nil, Bool.exists_bool,
    true_and, Bool.false_eq_true, false_and, or_false, List.cons_append, List.nil_append,
    Bool.true_eq_false, false_or, and_false, exists_const]
  constructor
  · rintro ⟨_, ⟨nominee, rfl⟩, _, ⟨_, ⟨candidates, hlimit, rfl, rfl⟩, rfl⟩, rfl⟩
    exact ⟨rfl, nominee, candidates, hlimit, rfl⟩
  · rintro ⟨rfl, nominee, candidates, hlimit, rfl⟩
    exact ⟨_, ⟨nominee, rfl⟩, _, ⟨_, ⟨candidates, hlimit, rfl, rfl⟩, rfl⟩, rfl⟩

@[simp] theorem path_withdrawal_ok_iff :
    (withdrawal name).Path xs (.ok changes) ↔ changes = [.dropCandidate name] ∧
      ∃ candidate, xs = [⟨.candidate name, .ok (some candidate)⟩] := by
  unfold withdrawal
  simp [Option.exists, and_assoc]
  exact and_comm

@[simp] theorem path_names_ok_iff {names : List Account} : Candidacy.names.Path xs (.ok names) ↔
    ∃ candidates, names = ((candidates.map (·.name)).mergeSort fun a b => (compare a b).isLE) ∧
      xs = [⟨.candidates, .ok candidates⟩] := by
  unfold Candidacy.names
  simp [and_assoc]

end TrusteeBoard.Candidacy
