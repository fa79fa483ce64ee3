import TrusteeBoard.Config

/-!
# Records and changes

The persisted state is the governance record and three collections by account name: nominees,
candidates and board members. An operation writes a list of `Change`s, applied together or not at
all.
-/

namespace TrusteeBoard

/-- A proposed candidate. -/
structure Nominee where
  name : Account
  nominatedBy : Account
  nominatedAt : Timestamp
  deriving DecidableEq, Repr

/-- A nominee registered as an option on the open ballot. -/
structure Candidate where
  name : Account
  registeredAt : Timestamp
  deriving DecidableEq, Repr

/-- A seated member of the board. -/
structure Member where
  name : Account
  seatedAt : Timestamp
  deriving DecidableEq, Repr

/-- One write to the persisted state. -/
inductive Change where
  | putConfig (config : Config)
  | putNominee (nominee : Nominee)
  | dropNominee (name : Account)
  | putCandidate (candidate : Candidate)
  | dropCandidate (name : Account)
  | clearCandidates
  | putMember (member : Member)
  | dropMember (name : Account)
  deriving DecidableEq

end TrusteeBoard
