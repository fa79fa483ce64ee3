import TrusteeBoard.Duration
import TrusteeBoard.Json.Values
import TrusteeBoard.Store.Basic

/-!
# The status report

What a store holds at a time, for an operator: the governance record and the three collections, with
the phase and what is left of the board's term told apart.
-/

namespace TrusteeBoard

/-- A report on a store. Without a governance record there is no term. -/
structure Status where
  phase : Phase
  termExpired : Option Bool
  /-- What is left of the term, in words. -/
  termRemaining : Option String
  config : Option Config
  members : List Member
  candidates : List Candidate
  nominees : List Nominee

namespace Status

/-- The report on a store at a time, or the first failure of a read. -/
def ofStore {σ : Type} [Store σ] (s : σ) (now : Timestamp) : Except StoreError Status := do
  let config ← Store.config s
  return {
    phase := (config.map (·.phase)).getD .idle
    termExpired := config.map (·.isTermExpired now)
    termRemaining := config.map fun c => describeSpan (now.elapsedSince c.termExpiresAt)
    config
    members := ← Store.members s
    candidates := ← Store.candidates s
    nominees := ← Store.nominees s }

def toJson (s : Status) : Json :=
  .record
    [ ("phase", s.phase.toJson),
      ("term_expired", .orNull .bool s.termExpired),
      ("term_remaining", .orNull .str s.termRemaining),
      ("config", .orNull Config.toJson s.config),
      ("board", .list Member.toJson s.members),
      ("candidates", .list Candidate.toJson s.candidates),
      ("nominees", .list Nominee.toJson s.nominees) ]

end Status

end TrusteeBoard
