import TrusteeBoard.Config

/-!
# Refusals

Every operation that cannot be carried out says why with a `Refusal`: missing authority, an unknown
or duplicate entry, a phase or time window that does not fit, a full board, or a store, a host or a
ballot service that failed. `Refusal.kind` is the coarse class callers branch on, and each error
type has one function `message` with its wording.
-/

namespace TrusteeBoard

/-- The collections that hold entries by account name. -/
inductive EntryKind where
  | account
  | nominee
  | candidate
  | boardMember
  deriving DecidableEq, Repr

instance : ToString EntryKind where
  toString
    | .account => "account"
    | .nominee => "nominee"
    | .candidate => "candidate"
    | .boardMember => "board member"

/-- A failure of the store. -/
inductive StoreError where
  | notFound (key : String)
  | backend (text : String)
  | undecodable (text : String)
  | corruption (text : String)
  deriving DecidableEq, Repr

def StoreError.message : StoreError → String
  | .notFound key => s!"key not found: {key}"
  | .backend text => s!"storage backend error: {text}"
  | .undecodable text => s!"serialization error: {text}"
  | .corruption text => s!"database is corrupted: {text}"

/-- A failure of the ballot service. -/
inductive BallotError where
  | notFound (ballot : BallotId)
  | notClosed (ballot : BallotId) (endsAt : Timestamp)
  | rejected (ballot : BallotId) (reason : String)
  | other (text : String)
  deriving DecidableEq, Repr

def BallotError.message : BallotError → String
  | .notFound ballot => s!"{ballot} not found"
  | .notClosed ballot endsAt => s!"{ballot} is still open until {endsAt}"
  | .rejected ballot reason => s!"{ballot} rejected the request: {reason}"
  | .other text => text

/-- A failure of the host. -/
inductive HostError where
  | missingAuthority (account : Account)
  | authorityRejected (account : Account) (reason : String)
  | other (text : String)
  deriving DecidableEq, Repr

def HostError.message : HostError → String
  | .missingAuthority account => s!"missing authority of {account}"
  | .authorityRejected account reason => s!"authority update for {account} rejected: {reason}"
  | .other text => text

/-- A phase or time window that rules an operation out. -/
inductive StateError where
  | notConfigured
  | tooEarly (now opensAt : Timestamp)
  | alreadyActive (ballot : BallotId)
  | noActiveElection
  | wrongPhase (expected actual : Phase)
  | candidacyClosed (closedAt : Timestamp)
  | votingClosed (closedAt : Timestamp)
  | electionNotDue (dueAt : Timestamp)
  | electionInProgress
  | candidateRegistered (name : Account)
  | boardNotEmpty (members : UInt32)
  deriving DecidableEq, Repr

def StateError.message : StateError → String
  | .notConfigured => "governance config has not been set"
  | .tooEarly now opensAt => s!"too early: window opens at {opensAt}, now is {now}"
  | .alreadyActive ballot => s!"an election is already active ({ballot})"
  | .noActiveElection => "no election is active"
  | .wrongPhase expected actual => s!"election is in phase {actual}, expected {expected}"
  | .candidacyClosed closedAt => s!"candidacy closed at {closedAt}"
  | .votingClosed closedAt => s!"voting closed at {closedAt}"
  | .electionNotDue dueAt => s!"no election due: term runs until {dueAt} and no seat is open"
  | .electionInProgress => "operation not allowed while an election is in progress"
  | .candidateRegistered name => s!"{name} is registered as a candidate in the open election"
  | .boardNotEmpty members => s!"board already has {members} members"

/-- Why an operation is refused. -/
inductive Refusal where
  | unauthorized (required : Account)
  | notFound (kind : EntryKind) (name : Account)
  | duplicate (kind : EntryKind) (name : Account)
  | state (error : StateError)
  | capacityExceeded (max requested : UInt32)
  | invalidConfig (reason : String)
  | store (error : StoreError)
  | ballots (error : BallotError)
  | host (error : HostError)
  deriving DecidableEq, Repr

/-- The classes of refusals. -/
inductive RefusalKind where
  | unauthorized
  | notFound
  | duplicate
  | state
  | capacity
  /-- The store, the ballot service or the host failed. -/
  | collaborator
  deriving DecidableEq, Repr

namespace Refusal

def message : Refusal → String
  | .unauthorized required => s!"unauthorized: requires the authority of {required}"
  | .notFound kind name => s!"{kind} {name} not found"
  | .duplicate kind name => s!"{name} is already a {kind}"
  | .state error => s!"invalid state: {error.message}"
  | .capacityExceeded max requested =>
    s!"capacity exceeded: {requested} requested, limit is {max}"
  | .invalidConfig reason => s!"invalid config: {reason}"
  | .store error => s!"store error: {error.message}"
  | .ballots error => s!"ballot service error: {error.message}"
  | .host error => s!"host error: {error.message}"

/-- A missing authority reported by the host counts as unauthorized, not as a failure of it. -/
def kind : Refusal → RefusalKind
  | .unauthorized _ => .unauthorized
  | .notFound _ _ => .notFound
  | .duplicate _ _ => .duplicate
  | .state _ | .invalidConfig _ => .state
  | .capacityExceeded _ _ => .capacity
  | .store _ | .ballots _ => .collaborator
  | .host (.missingAuthority _) => .unauthorized
  | .host _ => .collaborator

end Refusal

end TrusteeBoard
