import TrusteeBoard.Program

/-!
# The board

A `Board` is a set of members with a bound on its size. A `RosterChange` carries an edit of the
board to the host and the store as one unit: the new authority is pushed first, the changes are
stored only if the host accepts, and the old authority is pushed back if the store then fails.
-/

namespace TrusteeBoard

/-- The seated board, bounded by `maxSeats`. -/
structure Board where
  members : OrderedSet Account := .empty
  maxSeats : UInt32
  deriving DecidableEq

namespace Board

/-- The board of the stored members. -/
def load (maxSeats : UInt32) : Program Board := do
  return ⟨OrderedSet.ofList ((← Program.members).map (·.name)), maxSeats⟩

def size (b : Board) : UInt32 :=
  UInt32.ofNat b.members.size

/-- Seats still free. -/
def vacancies (b : Board) : UInt32 :=
  floorSub32 b.maxSeats b.size

def contains (b : Board) (name : Account) : Bool :=
  b.members.contains name

def isEmpty (b : Board) : Bool :=
  b.members.isEmpty

/-- The board with one more member. -/
def seat (b : Board) (name : Account) : Except Refusal Board :=
  if b.contains name then .error (.duplicate .boardMember name)
  else if b.maxSeats < b.size + 1 then .error (.capacityExceeded b.maxSeats (b.size + 1))
  else .ok { b with members := b.members.insert name () }

/-- The board without one of its members. -/
def unseat (b : Board) (name : Account) : Except Refusal Board :=
  if b.contains name then .ok { b with members := b.members.erase name }
  else .error (.notFound .boardMember name)

def clear (b : Board) : Board :=
  { b with members := .empty }

/-- The members of `b` that are not on `other`. -/
def without (b other : Board) : List Account :=
  b.members.keys.filter fun a => !other.contains a

end Board

/-- What a stored roster change did. -/
structure Committed where
  seated : List Account
  unseated : List Account
  authority : Authority
  deriving DecidableEq

/-- An edit of the board, ready for the host and the store. -/
structure RosterChange where
  account : Account
  previous : Authority
  next : Authority
  seated : List Account
  unseated : List Account
  changes : List Change

namespace RosterChange

/-- The edit from `before` to `after`. The membership changes follow `changes`. -/
def between (account : Account) (rule : ThresholdRule) (fallback : Account)
    (before after : Board) (changes : List Change) (now : Timestamp) : RosterChange :=
  let unseated := before.without after
  let seated := after.without before
  { account
    previous := rule.authorityOver fallback before.members.keys
    next := rule.authorityOver fallback after.members.keys
    seated
    unseated
    changes :=
      changes ++ unseated.map .dropMember ++ seated.map fun name => .putMember ⟨name, now⟩ }

def isMembershipChange (r : RosterChange) : Bool :=
  !r.seated.isEmpty || !r.unseated.isEmpty

/-- Pushes the authority if the membership changes, then stores the changes. -/
def commit (r : RosterChange) : Program Committed := do
  if r.isMembershipChange then
    Program.setAuthority r.account r.next
  match ← Program.call (.apply r.changes) with
  | .ok () => return ⟨r.seated, r.unseated, r.next⟩
  | .error e =>
    if r.isMembershipChange then
      let _ ← Program.call (.setAuthority r.account r.previous)
    Program.refuse (.store e)

end RosterChange

end TrusteeBoard
