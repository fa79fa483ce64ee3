import TrusteeBoard.Tally

/-!
# Outcomes

`Contest.outcome` turns the tally of a closed ballot into seated winners. With no weight cast for a
registered candidate there is nothing to count; below the quorum the election fails; otherwise the
candidates with weight are ranked, groups of equal weight take consecutive ranks, and the groups
that begin within the open seats are seated or, as the tie policy says, excluded.
-/

namespace TrusteeBoard

/-- How groups of equal weight compete for seats. -/
inductive TiePolicy where
  /-- Every group of two or more is excluded; its ranks stay empty. -/
  | excludeTied
  /-- Only a group reaching past the last seat is excluded. -/
  | boundaryOnly
  deriving DecidableEq, Repr, Inhabited

/-- What an election comes to. -/
inductive Outcome where
  /-- The quorum is met; winners in rank order. -/
  | pass (winners : List Account)
  | fail (turnout quorum : Weight)
  /-- The quorum is met, and some contenders were excluded as tied. -/
  | tie (winners tied : List Account)
  /-- No candidates, or no weight for any of them. -/
  | count
  deriving DecidableEq

/-- Seated candidates in rank order. -/
def Outcome.winners : Outcome → List Account
  | .pass winners => winners
  | .tie winners _ => winners
  | .fail _ _ => []
  | .count => []

/-- Contenders excluded by the tie policy, in rank order. -/
def Outcome.tied : Outcome → List Account
  | .tie _ tied => tied
  | _ => []

/-- The word for the kind of an outcome. -/
def Outcome.tag : Outcome → String
  | .pass _ => "PASS"
  | .fail _ _ => "FAIL"
  | .tie _ _ => "TIE"
  | .count => "COUNT"

/-- A closed election, ready to be resolved. -/
structure Contest where
  tally : Tally
  /-- Registered candidates, in any order. Options of the tally that are not among them are
  ignored. -/
  candidates : List Account
  seats : UInt32
  quorumDivisor : UInt32
  tiePolicy : TiePolicy

namespace Contest

/-- The registered candidates in order, each once, with their weights. -/
def standings (c : Contest) : List (Account × Weight) :=
  (OrderedSet.ofList c.candidates).keys.map fun a => (a, c.tally.weightOf a)

/-- The weight cast for registered candidates. -/
def turnout (c : Contest) : Weight :=
  (c.standings.map (·.2)).foldl Weight.plus 0

def quorum (c : Contest) : Weight :=
  requiredQuorum c.tally.totalWeight c.quorumDivisor

/-- Whether `x` ranks before `y` or equals it: larger weight first, then names in order. -/
def ranksBefore (x y : Account × Weight) : Bool :=
  if x.2 = y.2 then (compare x.1 y.1).isLE else y.2 < x.2

/-- The candidates with weight, in rank order. -/
def ranking (c : Contest) : List (Account × Weight) :=
  (c.standings.filter fun x => x.2 != 0).mergeSort ranksBefore

/-- The ranking cut into groups of equal weight. -/
def groups (c : Contest) : List (List Account) :=
  (c.ranking.splitBy fun x y => x.2 == y.2).map (·.map (·.1))

/-- Whether a group of `size` on the ranks from `rank` on is excluded. -/
def excluded (policy : TiePolicy) (seats rank size : Nat) : Bool :=
  1 < size &&
    match policy with
    | .excludeTied => true
    | .boundaryOnly => seats < rank + size

/-- Winners and excluded contenders of the groups on the ranks from `rank` on. -/
def allocate (policy : TiePolicy) (seats rank : Nat) :
    List (List Account) → List Account × List Account
  | [] => ([], [])
  | group :: rest =>
    if seats ≤ rank then ([], [])
    else
      let (winners, tied) := allocate policy seats (rank + group.length) rest
      if excluded policy seats rank group.length then (winners, group ++ tied)
      else (group ++ winners, tied)

def outcome (c : Contest) : Outcome :=
  if c.turnout = 0 then .count
  else if c.turnout < c.quorum then .fail c.turnout c.quorum
  else
    match allocate c.tiePolicy c.seats.toNat 0 c.groups with
    | (winners, []) => .pass winners
    | (winners, tied) => .tie winners tied

end Contest

end TrusteeBoard
