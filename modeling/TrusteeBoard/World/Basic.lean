import TrusteeBoard.Store.Basic
import TrusteeBoard.World.BallotService
import TrusteeBoard.World.Fault
import TrusteeBoard.World.Host

/-!
# Worlds

A `World` is everything an operation can ask: a host and a ballot service in memory, a store of any
kind, the faults that are pending, and the history of all calls with their answers.
`World.perform` runs a program in it.
-/

namespace TrusteeBoard

/-- Collaborators with their state. -/
structure World (σ : Type) where
  host : Host
  ballots : BallotService := {}
  store : σ
  /-- Pending faults, the oldest first. -/
  faults : List Fault := []
  /-- All calls so far, the oldest first. -/
  history : List Exchange := []

namespace World

variable {σ : Type}

/-- The answer of the collaborator to a call, and the world after it. -/
def respond [Store σ] (w : World σ) : (c : Call) → c.Answer × World σ
  | .config => (Store.config w.store, w)
  | .nominee name => (Store.nominee w.store name, w)
  | .nominees => (Store.nominees w.store, w)
  | .candidate name => (Store.candidate w.store name, w)
  | .candidates => (Store.candidates w.store, w)
  | .member name => (Store.member w.store name, w)
  | .members => (Store.members w.store, w)
  | .memberCount => (Store.memberCount w.store, w)
  | .apply changes =>
    let (answer, store) := Store.apply w.store changes
    (answer, { w with store })
  | .now => (w.host.clock, w)
  | .authorize account => (w.host.authorize account, w)
  | .accountExists account => (w.host.accounts.contains account, w)
  | .setAuthority account authority =>
    let (answer, host) := w.host.setAuthority account authority
    (answer, { w with host })
  | .openBallot name treasury options begins ends =>
    let (answer, ballots) := w.ballots.openBallot name treasury options begins ends
    (answer, { w with ballots })
  | .addOption ballot option =>
    let (answer, ballots) := w.ballots.addOption ballot option
    (answer, { w with ballots })
  | .removeOption ballot option =>
    let (answer, ballots) := w.ballots.removeOption ballot option
    (answer, { w with ballots })
  | .openVoting ballot =>
    let (answer, ballots) := w.ballots.openVoting ballot
    (answer, { w with ballots })
  | .tally ballot =>
    let (answer, ballots) := w.ballots.tally ballot
    (answer, { w with ballots })

/-- The answer to a call once pending faults have had their turn. -/
def respondOrFail [Store σ] (w : World σ) (c : Call) : c.Answer × World σ :=
  match c.target? with
  | none => w.respond c
  | some target =>
    let (failure, faults) := takeFault target w.faults
    let w := { w with faults }
    match failure.bind c.failing with
    | some answer => (answer, w)
    | none => w.respond c

/-- The answer to a call, which goes into the history. -/
def answer [Store σ] (c : Call) (w : World σ) : c.Answer × World σ :=
  let (a, w) := w.respondOrFail c
  (a, { w with history := w.history ++ [⟨c, a⟩] })

/-- Runs a program. -/
def perform [Store σ] {α : Type} (p : Program α) (w : World σ) : Except Refusal α × World σ :=
  p.run answer w

end World

end TrusteeBoard
