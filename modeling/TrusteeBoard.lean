import TrusteeBoard.CommandLine.Directory
import TrusteeBoard.Main
import TrusteeBoard.Proofs.Authority
import TrusteeBoard.Proofs.BallotMirror
import TrusteeBoard.Proofs.Operation.AllOrNothing
import TrusteeBoard.Proofs.Outcome.Allocation
import TrusteeBoard.Proofs.Seats
import TrusteeBoard.Proofs.Store.Agreement
import TrusteeBoard.Proofs.Tenure
import TrusteeBoard.Store.Memory
import TrusteeBoard.World.Run
import TrusteeBoard.Proofs.Cycle
import TrusteeBoard.Proofs.Registry
import TrusteeBoard.Proofs.World.Calm
import TrusteeBoard.Proofs.Completion
import TrusteeBoard.Proofs.Incumbents
import TrusteeBoard.Proofs.Operation.Authorization
import TrusteeBoard.Proofs.World.Signers
import TrusteeBoard.Proofs.Store.Health
import TrusteeBoard.Proofs.Withdrawal
import TrusteeBoard.Proofs.World.Twins
import TrusteeBoard.Proofs.Retry
import TrusteeBoard.Proofs.Layout.PrefixCode
import TrusteeBoard.Proofs.VotingWindow
import TrusteeBoard.Proofs.BallotNames
import TrusteeBoard.Proofs.World.Standing
import TrusteeBoard.Proofs.Commutation
import TrusteeBoard.Proofs.Outcome.Verdict
import TrusteeBoard.Proofs.DryRun
import TrusteeBoard.Proofs.Outcome.MoreSeats
import TrusteeBoard.Proofs.Closing
import TrusteeBoard.Proofs.Layout.Canonical
import TrusteeBoard.Proofs.Outcome.MoreVotes
import TrusteeBoard.Proofs.Store.Integrity
import TrusteeBoard.Proofs.TwoPhase
import TrusteeBoard.Proofs.Json.Values
import TrusteeBoard.Proofs.Opening
import TrusteeBoard.Proofs.SettingsFile
import TrusteeBoard.Proofs.Store.Stamp
import TrusteeBoard.Proofs.CycleCalls
import TrusteeBoard.Proofs.Status
import TrusteeBoard.Proofs.BoardCalls
