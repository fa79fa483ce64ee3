import TrusteeBoard.Program

/-!
# Faults

A `Fault` makes a later call of its target fail without reaching the collaborator, once some number
of calls has gone through. A call is checked against the oldest pending fault of its target only
(`takeFault`).
-/

namespace TrusteeBoard

/-- The calls that can fail. -/
inductive Target where
  | config
  | nominee
  | nominees
  | candidate
  | candidates
  | member
  | members
  | memberCount
  | apply
  | authorize
  | setAuthority
  | openBallot
  | addOption
  | removeOption
  | openVoting
  | tally
  deriving DecidableEq, Repr

/-- What a call can fail with. -/
inductive Failure where
  | store (error : StoreError)
  | host (error : HostError)
  | ballots (error : BallotError)
  deriving DecidableEq, Repr

/-- The kind of a call, if it can fail. -/
def Call.target? : Call → Option Target
  | .config => some .config
  | .nominee _ => some .nominee
  | .nominees => some .nominees
  | .candidate _ => some .candidate
  | .candidates => some .candidates
  | .member _ => some .member
  | .members => some .members
  | .memberCount => some .memberCount
  | .apply _ => some .apply
  | .now => none
  | .authorize _ => some .authorize
  | .accountExists _ => none
  | .setAuthority _ _ => some .setAuthority
  | .openBallot _ _ _ _ _ => some .openBallot
  | .addOption _ _ => some .addOption
  | .removeOption _ _ => some .removeOption
  | .openVoting _ => some .openVoting
  | .tally _ => some .tally

/-- The answer with which a call fails, if it can fail so. -/
def Call.failing (c : Call) (failure : Failure) : Option c.Answer :=
  match c, failure with
  | .config, .store e => some (.error e)
  | .nominee _, .store e => some (.error e)
  | .nominees, .store e => some (.error e)
  | .candidate _, .store e => some (.error e)
  | .candidates, .store e => some (.error e)
  | .member _, .store e => some (.error e)
  | .members, .store e => some (.error e)
  | .memberCount, .store e => some (.error e)
  | .apply _, .store e => some (.error e)
  | .authorize _, .host e => some (.error e)
  | .setAuthority _ _, .host e => some (.error e)
  | .openBallot _ _ _ _ _, .ballots e => some (.error e)
  | .addOption _ _, .ballots e => some (.error e)
  | .removeOption _ _, .ballots e => some (.error e)
  | .openVoting _, .ballots e => some (.error e)
  | .tally _, .ballots e => some (.error e)
  | _, _ => none

/-- A pending failure. -/
structure Fault where
  target : Target
  /-- Calls of the target that go through first. -/
  skip : Nat := 0
  failure : Failure
  deriving DecidableEq, Repr

/-- The failure that is due for a call of `target`, and the faults still pending after it. -/
def takeFault (target : Target) : List Fault → Option Failure × List Fault
  | [] => (none, [])
  | fault :: rest =>
    if fault.target = target then
      match fault.skip with
      | 0 => (some fault.failure, rest)
      | skip + 1 => (none, { fault with skip } :: rest)
    else
      let (failure, pending) := takeFault target rest
      (failure, fault :: pending)

end TrusteeBoard
