import Mathlib.Control.Monad.Basic
import TrusteeBoard.Program

/-!
# Comparing exchanges

Exchanges can be compared, so that whether a call got a certain answer in a given run can be
computed.
-/

namespace TrusteeBoard

deriving instance DecidableEq for Call

instance : (c : Call) → DecidableEq c.Answer
  | .config => inferInstanceAs (DecidableEq (Except StoreError (Option Config)))
  | .nominee _ => inferInstanceAs (DecidableEq (Except StoreError (Option Nominee)))
  | .nominees => inferInstanceAs (DecidableEq (Except StoreError (List Nominee)))
  | .candidate _ => inferInstanceAs (DecidableEq (Except StoreError (Option Candidate)))
  | .candidates => inferInstanceAs (DecidableEq (Except StoreError (List Candidate)))
  | .member _ => inferInstanceAs (DecidableEq (Except StoreError (Option Member)))
  | .members => inferInstanceAs (DecidableEq (Except StoreError (List Member)))
  | .memberCount => inferInstanceAs (DecidableEq (Except StoreError UInt32))
  | .apply _ => inferInstanceAs (DecidableEq (Except StoreError Unit))
  | .now => inferInstanceAs (DecidableEq Timestamp)
  | .authorize _ | .setAuthority _ _ => inferInstanceAs (DecidableEq (Except HostError Unit))
  | .accountExists _ => inferInstanceAs (DecidableEq Bool)
  | .openBallot _ _ _ _ _ => inferInstanceAs (DecidableEq (Except BallotError BallotId))
  | .addOption _ _ | .removeOption _ _ | .openVoting _ =>
    inferInstanceAs (DecidableEq (Except BallotError Unit))
  | .tally _ => inferInstanceAs (DecidableEq (Except BallotError Tally))

deriving instance DecidableEq for Exchange

end TrusteeBoard
