import TrusteeBoard.Store.Memory
import TrusteeBoard.World.Run

/-!
# Samples

Accounts, worlds and a contest to which the theorems are applied.
-/

namespace TrusteeBoard.Sample

def publisher : Account := Settings.defaultAccount

def alice : Account := ⟨['a', 'l', 'i', 'c', 'e'], rfl⟩

def bob : Account := ⟨['b', 'o', 'b'], rfl⟩

def carol : Account := ⟨['c', 'a', 'r', 'o', 'l'], rfl⟩

/-- An empty store on a host that knows all four accounts, each of which signs every call. -/
def world : World MemoryStore where
  host :=
    { clock := ⟨1000⟩
      accounts := OrderedSet.ofList [publisher, alice, bob, carol]
      callers := OrderedSet.ofList [publisher, alice, bob, carol] }
  store := {}

/-- The same world once the publisher has set the parameters. -/
def configured : World MemoryStore :=
  world.afterAll {} [.perform (.setConfig publisher {})]

/-- The same world when the next write is going to fail. -/
def failing : World MemoryStore :=
  configured.after {} (.plant ⟨.apply, 0, .store (.backend "disk full")⟩)

/-- A board of two on three seats, one of whom resigns while the third seat is up for election. -/
def resignation : List Event :=
  [.perform (.setConfig publisher { maxSeats := 3 }), .perform (.seatBoard [alice, bob]),
    .perform (.makeElection carol), .perform (.resign alice)]

/-- A board of two, and a resignation that the store fails to write. -/
def brokenResignation : List Event :=
  [.perform (.setConfig publisher {}), .perform (.seatBoard [alice, bob]),
    .plant ⟨.apply, 0, .store (.backend "disk full")⟩, .perform (.resign alice)]

/-- A board of two and a nominee. -/
def handover : List Event :=
  [.perform (.setConfig publisher {}), .perform (.seatBoard [alice, bob]),
    .perform (.nominate carol bob)]

/-- A vacancy election in which the store fails to write the first registration, which is then made
again. -/
def brokenRegistration : List Event :=
  [.perform (.setConfig publisher {}), .perform (.nominate alice bob),
    .perform (.makeElection carol), .plant ⟨.apply, 0, .store (.backend "disk full")⟩,
    .perform (.addCandidate alice), .perform (.addCandidate alice)]

/-- Once the term of a board of one has expired, the only candidate of the next election gets enough
weight. The election is about to be closed. -/
def succession : List Event :=
  [.perform (.setConfig publisher { maxSeats := 3 }), .perform (.seatBoard [bob]),
    .advance 14515200, .perform (.nominate alice carol), .perform (.makeElection carol),
    .perform (.addCandidate alice), .advance 1200, .perform (.startElection carol),
    .setTally ⟨1⟩ { weights := OrderedMap.empty.insert alice 5, totalWeight := 20 },
    .advance 2000000]

/-- A vacancy election in which the store fails to write the start of voting. Another failure is
pending. -/
def brokenStart : List Event :=
  [.perform (.setConfig publisher { maxSeats := 3 }), .perform (.seatBoard [bob]),
    .perform (.makeElection carol), .advance 1200,
    .plant ⟨.apply, 0, .store (.backend "disk full")⟩, .perform (.startElection carol),
    .failNextPush]

/-- An election with a registered candidate, in which the store fails to write the start of voting.
-/
def stalledStart : List Event :=
  [.perform (.setConfig publisher {}), .perform (.nominate alice bob),
    .perform (.makeElection carol), .perform (.addCandidate alice), .advance 1200,
    .plant ⟨.apply, 0, .store (.backend "disk full")⟩, .perform (.startElection carol)]

/-- A member is nominated once the term has expired, and holds over because nobody wins the term
election. In the vacancy election right after it the member is registered and gets all the weight.
That election is about to be closed. -/
def lateNomination : List Event :=
  [.perform (.setConfig publisher { maxSeats := 3 }), .perform (.seatBoard [bob]),
    .advance 14515200, .perform (.nominate bob carol), .perform (.makeElection carol),
    .advance 1200, .perform (.startElection carol), .advance 2000000,
    .perform (.endElection carol), .perform (.makeElection carol), .perform (.addCandidate bob),
    .advance 1200, .perform (.startElection carol),
    .setTally ⟨2⟩ { weights := OrderedMap.empty.insert bob 5, totalWeight := 20 },
    .advance 2000000]

/-- Two persons are nominated, and one of them is registered for the election. -/
def contested : List Event :=
  [.perform (.setConfig publisher {}), .perform (.nominate alice carol),
    .perform (.nominate bob carol), .perform (.makeElection carol), .perform (.addCandidate alice)]

/-- The publisher sets a delay that takes an election to five seconds before the last point in time.
-/
def lateWindow : List Event :=
  [.perform (.setConfig publisher { startDelay := 0xFFFFFFFFFFFFFC12 })]

/-- The publisher sets the longest delay there is. -/
def noWindow : List Event :=
  [.perform (.setConfig publisher { startDelay := 0xFFFFFFFFFFFFFFFF })]

/-- The store fails to write the opening of an election, which is then opened again. Another
election is opened once that one has been closed. -/
def brokenOpening : List Event :=
  [.perform (.setConfig publisher {}), .plant ⟨.apply, 0, .store (.backend "disk full")⟩,
    .perform (.makeElection carol), .perform (.makeElection carol), .advance 1200,
    .perform (.startElection carol), .advance 2000000, .perform (.endElection carol),
    .perform (.makeElection carol)]

/-- Three seats for one clear winner and a group of three that reaches past the last seat. -/
def straddling : Contest where
  tally :=
    { weights :=
        (((OrderedMap.empty.insert alice 3).insert bob 5).insert carol 3).insert publisher 3
      totalWeight := 20 }
  candidates := [carol, alice, bob, publisher, alice]
  seats := 3
  quorumDivisor := 5
  tiePolicy := .boundaryOnly

end TrusteeBoard.Sample
