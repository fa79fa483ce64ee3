import TrusteeBoard.Refusal
import TrusteeBoard.Store.Change

/-!
# Stores

A `Store` answers reads of the governance record and the three collections and applies a list of
changes as one write. Lists are in the order of the names' letters.
-/

namespace TrusteeBoard

/-- What is asked of a store. A write answers with the store after it, failed or not. -/
class Store (σ : Type) where
  config : σ → Except StoreError (Option Config)
  nominee : σ → Account → Except StoreError (Option Nominee)
  nominees : σ → Except StoreError (List Nominee)
  candidate : σ → Account → Except StoreError (Option Candidate)
  candidates : σ → Except StoreError (List Candidate)
  member : σ → Account → Except StoreError (Option Member)
  members : σ → Except StoreError (List Member)
  memberCount : σ → Except StoreError UInt32
  apply : σ → List Change → Except StoreError Unit × σ

end TrusteeBoard
