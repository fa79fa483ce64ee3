import TrusteeBoard.Authority
import TrusteeBoard.Refusal
import TrusteeBoard.Store.Change
import TrusteeBoard.Tally

/-!
# Operations as programs

An operation reaches the store, the host and the ballot service only by asking. `Call` lists the
questions, `Call.Answer` the form of each answer, and a `Program` is a tree of questions that ends
in a result or a refusal. `Program.run` answers the questions from a state. Nothing in a program
depends on who answers, so a statement about all answers is a statement about all collaborators.
-/

namespace TrusteeBoard

/-- A question to the store, the host or the ballot service. -/
inductive Call where
  | config
  | nominee (name : Account)
  | nominees
  | candidate (name : Account)
  | candidates
  | member (name : Account)
  | members
  | memberCount
  | apply (changes : List Change)
  | now
  | authorize (account : Account)
  | accountExists (account : Account)
  | setAuthority (account : Account) (authority : Authority)
  | openBallot (name : String) (treasury : TreasurySymbol) (options : List Account)
      (begins ends : Timestamp)
  | addOption (ballot : BallotId) (option : Account)
  | removeOption (ballot : BallotId) (option : Account)
  | openVoting (ballot : BallotId)
  | tally (ballot : BallotId)

/-- The form of the answer to a call. -/
abbrev Call.Answer : Call → Type
  | .config => Except StoreError (Option Config)
  | .nominee _ => Except StoreError (Option Nominee)
  | .nominees => Except StoreError (List Nominee)
  | .candidate _ => Except StoreError (Option Candidate)
  | .candidates => Except StoreError (List Candidate)
  | .member _ => Except StoreError (Option Member)
  | .members => Except StoreError (List Member)
  | .memberCount => Except StoreError UInt32
  | .apply _ => Except StoreError Unit
  | .now => Timestamp
  | .authorize _ => Except HostError Unit
  | .accountExists _ => Bool
  | .setAuthority _ _ => Except HostError Unit
  | .openBallot _ _ _ _ _ => Except BallotError BallotId
  | .addOption _ _ => Except BallotError Unit
  | .removeOption _ _ => Except BallotError Unit
  | .openVoting _ => Except BallotError Unit
  | .tally _ => Except BallotError Tally

/-- A call with the answer it got. -/
structure Exchange where
  call : Call
  answer : call.Answer

/-- A tree of questions ending in a result or a refusal. -/
inductive Program (α : Type) where
  | done (result : Except Refusal α)
  | ask (call : Call) (next : call.Answer → Program α)

namespace Program

variable {α β σ : Type}

def bind (p : Program α) (f : α → Program β) : Program β :=
  match p with
  | .done (.ok a) => f a
  | .done (.error e) => .done (.error e)
  | .ask call next => .ask call fun answer => (next answer).bind f

instance : Monad Program where
  pure a := .done (.ok a)
  bind := bind

def refuse (e : Refusal) : Program α := .done (.error e)

def call (c : Call) : Program c.Answer :=
  .ask c fun answer => .done (.ok answer)

def ofExcept (r : Except Refusal α) : Program α := .done r

/-- A store's answer, its failure refusing the operation. -/
def ofStore (answer : Except StoreError α) : Program α :=
  .done (answer.mapError .store)

/-- A ballot service's answer, its failure refusing the operation. -/
def ofBallots (answer : Except BallotError α) : Program α :=
  .done (answer.mapError .ballots)

/-- A host's answer, its failure refusing the operation. -/
def ofHost (answer : Except HostError α) : Program α :=
  .done (answer.mapError .host)

/-- Runs a program, answering its questions from a state that the answers may change. -/
def run (answer : (c : Call) → σ → c.Answer × σ) : Program α → σ → Except Refusal α × σ
  | .done result, s => (result, s)
  | .ask call next, s =>
    let (a, s) := answer call s
    (next a).run answer s

/-- The questions of a run with the answers they got, in order. -/
def exchanges (answer : (c : Call) → σ → c.Answer × σ) : Program α → σ → List Exchange
  | .done _, _ => []
  | .ask call next, s =>
    let (a, s) := answer call s
    ⟨call, a⟩ :: (next a).exchanges answer s

/-! ### Questions to the store -/

def config : Program (Option Config) := do ofStore (← call .config)

def nominee (name : Account) : Program (Option Nominee) := do ofStore (← call (.nominee name))

def nominees : Program (List Nominee) := do ofStore (← call .nominees)

def candidate (name : Account) : Program (Option Candidate) := do
  ofStore (← call (.candidate name))

def candidates : Program (List Candidate) := do ofStore (← call .candidates)

def member (name : Account) : Program (Option Member) := do ofStore (← call (.member name))

def members : Program (List Member) := do ofStore (← call .members)

def memberCount : Program UInt32 := do ofStore (← call .memberCount)

def isNominee (name : Account) : Program Bool := do return (← nominee name).isSome

def isCandidate (name : Account) : Program Bool := do return (← candidate name).isSome

def isMember (name : Account) : Program Bool := do return (← member name).isSome

def apply (changes : List Change) : Program Unit := do ofStore (← call (.apply changes))

/-- The governance record, which has to be set. -/
def requireConfig : Program Config := do
  match ← config with
  | some c => pure c
  | none => refuse (.state .notConfigured)

/-! ### Questions to the host -/

def now : Program Timestamp := call .now

def accountExists (account : Account) : Program Bool := call (.accountExists account)

/-- Refuses unless the call carries the authority of `account`. -/
def authorize (account : Account) : Program Unit := do
  match ← call (.authorize account) with
  | .ok () => pure ()
  | .error (.missingAuthority _) => refuse (.unauthorized account)
  | .error e => refuse (.host e)

/-- Refuses unless the call carries the authority of `first` or of `second`; `first` is asked first
and named in the refusal. -/
def authorizeEither (first second : Account) : Program Unit := do
  match ← call (.authorize first) with
  | .ok () => pure ()
  | .error (.missingAuthority _) =>
    match ← call (.authorize second) with
    | .ok () => pure ()
    | .error (.missingAuthority _) => refuse (.unauthorized first)
    | .error e => refuse (.host e)
  | .error e => refuse (.host e)

def setAuthority (account : Account) (authority : Authority) : Program Unit := do
  ofHost (← call (.setAuthority account authority))

/-! ### Questions to the ballot service -/

def openBallot (name : String) (treasury : TreasurySymbol) (options : List Account)
    (begins ends : Timestamp) : Program BallotId := do
  ofBallots (← call (.openBallot name treasury options begins ends))

def addOption (ballot : BallotId) (option : Account) : Program Unit := do
  ofBallots (← call (.addOption ballot option))

def removeOption (ballot : BallotId) (option : Account) : Program Unit := do
  ofBallots (← call (.removeOption ballot option))

def openVoting (ballot : BallotId) : Program Unit := do
  ofBallots (← call (.openVoting ballot))

def tally (ballot : BallotId) : Program Tally := do
  ofBallots (← call (.tally ballot))

end Program

end TrusteeBoard
