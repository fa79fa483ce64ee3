import TrusteeBoard.OrderedMap
import TrusteeBoard.Store.Basic

/-!
# The store in memory

`Records` is the persisted state itself, and `Records.after` what a list of changes makes of it. A
`MemoryStore` keeps it in memory. It counts the lists applied, and can be told to fail the next one.
-/

namespace TrusteeBoard

/-- The governance record and the three collections. -/
structure Records where
  config : Option Config := none
  nominees : OrderedMap Account Nominee := .empty
  candidates : OrderedMap Account Candidate := .empty
  members : OrderedMap Account Member := .empty
  deriving DecidableEq

namespace Records

/-- The records after one change. -/
def change (r : Records) : Change → Records
  | .putConfig config => { r with config := some config }
  | .putNominee nominee => { r with nominees := r.nominees.insert nominee.name nominee }
  | .dropNominee name => { r with nominees := r.nominees.erase name }
  | .putCandidate candidate =>
    { r with candidates := r.candidates.insert candidate.name candidate }
  | .dropCandidate name => { r with candidates := r.candidates.erase name }
  | .clearCandidates => { r with candidates := .empty }
  | .putMember member => { r with members := r.members.insert member.name member }
  | .dropMember name => { r with members := r.members.erase name }

/-- The records after a list of changes, in order. -/
def after (r : Records) (changes : List Change) : Records :=
  changes.foldl change r

end Records

/-- Records held in memory. -/
structure MemoryStore where
  records : Records := {}
  failNextApply : Bool := false
  /-- Number of lists of changes applied. -/
  applied : Nat := 0
  deriving DecidableEq

namespace MemoryStore

def apply (s : MemoryStore) (changes : List Change) : Except StoreError Unit × MemoryStore :=
  if s.failNextApply then
    (.error (.backend "injected failure"), { s with failNextApply := false })
  else
    (.ok (), { s with records := s.records.after changes, applied := s.applied + 1 })

instance : Store MemoryStore where
  config s := .ok s.records.config
  nominee s name := .ok (s.records.nominees.find? name)
  nominees s := .ok s.records.nominees.values
  candidate s name := .ok (s.records.candidates.find? name)
  candidates s := .ok s.records.candidates.values
  member s name := .ok (s.records.members.find? name)
  members s := .ok s.records.members.values
  memberCount s := .ok (UInt32.ofNat s.records.members.size)
  apply := apply

end MemoryStore

end TrusteeBoard
