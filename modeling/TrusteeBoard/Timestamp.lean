import TrusteeBoard.Saturating

/-!
# Time and ballot references

Points in time are seconds since the epoch. Shifting one forward saturates, and a span that starts
in the future has length zero. `BallotId` is the number the ballot service hands out.
-/

namespace TrusteeBoard

/-- A point in time, in seconds since the epoch. -/
structure Timestamp where
  secs : UInt64
  deriving DecidableEq, Repr

namespace Timestamp

def epoch : Timestamp := ⟨0⟩

instance : Inhabited Timestamp := ⟨epoch⟩

instance : Ord Timestamp := ⟨compareOn secs⟩

instance : LT Timestamp := ⟨fun s t => s.secs < t.secs⟩

instance : LE Timestamp := ⟨fun s t => s.secs ≤ t.secs⟩

instance (s t : Timestamp) : Decidable (s < t) := inferInstanceAs (Decidable (s.secs < t.secs))

instance (s t : Timestamp) : Decidable (s ≤ t) := inferInstanceAs (Decidable (s.secs ≤ t.secs))

instance : ToString Timestamp := ⟨fun t => s!"{t.secs}s"⟩

/-- The point `span` seconds later, at most the last representable one. -/
def plus (t : Timestamp) (span : UInt64) : Timestamp :=
  ⟨capAdd t.secs span⟩

/-- Seconds from `t` to `now`, zero when `t` lies ahead. -/
def elapsedSince (t now : Timestamp) : UInt64 :=
  floorSub now.secs t.secs

/-- Whether a span starting at `t` is over at `now`; its last second counts as over. -/
def hasExpired (t : Timestamp) (span : UInt64) (now : Timestamp) : Bool :=
  t.plus span ≤ now

end Timestamp

/-- A reference to a ballot held by the ballot service. -/
structure BallotId where
  number : UInt64
  deriving DecidableEq, Repr

namespace BallotId

instance : Ord BallotId := ⟨compareOn number⟩

instance : Std.TransOrd BallotId := inferInstanceAs (Std.TransCmp (compareOn number))

instance : Std.LawfulEqOrd BallotId where
  eq_of_compare {a b} h := by
    have : a.number = b.number := Std.LawfulEqOrd.eq_of_compare h
    cases a
    cases b
    simp_all

instance : ToString BallotId := ⟨fun b => s!"ballot#{b.number}"⟩

end BallotId

end TrusteeBoard
