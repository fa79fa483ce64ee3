import TrusteeBoard.Json.Basic
import TrusteeBoard.Store.Bytes
import TrusteeBoard.Text.Lossy

/-!
# The integrity check

Counts the entries of every map and lists the values that are no record of their map, in the order
of maps and keys, so that an operator sees them before an operation does.
-/

namespace TrusteeBoard

/-- A value that is no record of its map. -/
structure BadRecord where
  map : MapName
  key : List UInt8
  deriving DecidableEq

def BadRecord.message (r : BadRecord) : String :=
  s!"undecodable record in '{r.map}' under key '{Text.lossy r.key}'"

/-- The result of a check. -/
structure IntegrityReport where
  mapsChecked : Nat
  entries : Nat
  badRecords : List BadRecord
  deriving DecidableEq

namespace IntegrityReport

def isHealthy (r : IntegrityReport) : Bool :=
  r.badRecords.isEmpty

def toJson (r : IntegrityReport) : Json :=
  .record
    [ ("databases_checked", .nat r.mapsChecked),
      ("total_entries", .nat r.entries),
      ("errors", .list (fun bad => .str bad.message) r.badRecords) ]

end IntegrityReport

namespace ByteMaps

/-- The entries of a map whose value does not read as a record of it. -/
def badRecords (m : ByteMaps) (name : MapName) : List BadRecord :=
  let bad {α : Type} (layout : Layout α) : List BadRecord :=
    ((m.get name).entries.filter fun e => (layout.decode? e.2).isNone).map fun e => ⟨name, e.1⟩
  match name with
  | .config => bad Config.layout
  | .nominees => bad Nominee.layout
  | .candidates => bad Candidate.layout
  | .board => bad Member.layout
  | .stamps => []

def checkIntegrity (m : ByteMaps) : IntegrityReport where
  mapsChecked := MapName.all.length
  entries := (MapName.all.flatMap fun name => (m.get name).entries).length
  badRecords := MapName.all.flatMap m.badRecords

end ByteMaps

end TrusteeBoard
