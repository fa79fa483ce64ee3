import TrusteeBoard.Program

/-!
# Candidacy

The checks on nominees and candidates. Each reads the store and answers with the changes it would
make; the operation that asked applies them.
-/

namespace TrusteeBoard.Candidacy

open Program

/-- Nomination of `nominee`. Seated members are accepted only when `incumbentsEligible`. -/
def nomination (nominee nominator : Account) (now : Timestamp) (incumbentsEligible : Bool) :
    Program (List Change) := do
  if ← isNominee nominee then
    refuse (.duplicate .nominee nominee)
  unless incumbentsEligible do
    if ← isMember nominee then
      refuse (.duplicate .boardMember nominee)
  return [.putNominee ⟨nominee, nominator, now⟩]

/-- Removal of a nominee who is no candidate, with the record removed. -/
def unnomination (nominee : Account) : Program (Nominee × List Change) := do
  match ← Program.nominee nominee with
  | none => refuse (.notFound .nominee nominee)
  | some record =>
    if ← isCandidate nominee then
      refuse (.state (.candidateRegistered nominee))
    return (record, [.dropNominee nominee])

/-- Registration of a nominee as candidate, one of at most `limit`. -/
def registration (candidate : Account) (now : Timestamp) (limit : UInt32) :
    Program (List Change) := do
  unless ← isNominee candidate do
    refuse (.notFound .nominee candidate)
  if ← isCandidate candidate then
    refuse (.duplicate .candidate candidate)
  let requested := UInt32.ofNat (← candidates).length + 1
  if limit < requested then
    refuse (.capacityExceeded limit requested)
  return [.putCandidate ⟨candidate, now⟩]

/-- Withdrawal of a candidate. -/
def withdrawal (candidate : Account) : Program (List Change) := do
  unless ← isCandidate candidate do
    refuse (.notFound .candidate candidate)
  return [.dropCandidate candidate]

/-- Registered candidates in order of names. -/
def names : Program (List Account) := do
  return ((← candidates).map (·.name)).mergeSort fun a b => (compare a b).isLE

/-- The end of every candidacy: no candidates are left, and none of `candidates` is a nominee. -/
def resolution (candidates : List Account) : List Change :=
  .clearCandidates :: candidates.map .dropNominee

end TrusteeBoard.Candidacy
