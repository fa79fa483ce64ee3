import TrusteeBoard.Proofs.Operation.WritesLast

/-!
# What an operation may ask

Besides questions that change nothing, each operation has its own calls to the collaborators
(`Operation.MayAsk`): registration and withdrawal edit the options of a ballot, the steps of the
cycle open a ballot, open its voting and read its tally, and operations on the board push an
authority. No operation makes any other call, whatever it is answered (`Operation.onlyAsks`).
-/

namespace TrusteeBoard

open Program

/-- Whether the operation may make the call. -/
def Operation.MayAsk : Operation → Call → Prop
  | _, .apply _ => True
  | op, .setAuthority _ _ => op.EditsBoard
  | .addCandidate name, .addOption _ option => option = name
  | .addCandidate name, .removeOption _ option => option = name
  | .removeCandidate name, .addOption _ option => option = name
  | .removeCandidate name, .removeOption _ option => option = name
  | .makeElection _, .openBallot _ _ _ _ _ => True
  | .startElection _, .openVoting _ => True
  | .endElection _, .tally _ => True
  | _, call => call.IsQuery

theorem Operation.mayAsk_of_isQuery {op : Operation} {c : Call} (h : c.IsQuery) : op.MayAsk c := by
  cases c <;> first | exact h.elim | cases op <;> exact h

namespace Program

variable {α β : Type} {op : Operation}

theorem OnlyAsks.query {p : Program α} {f : α → Program β} (hp : p.OnlyAsks Call.IsQuery)
    (hf : ∀ a, (f a).OnlyAsks op.MayAsk) : (p >>= f).OnlyAsks op.MayAsk :=
  (hp.mono fun _ => Operation.mayAsk_of_isQuery).bind hf

theorem OnlyAsks.andThen {allowed : Call → Prop} {p : Program α} (hp : p.OnlyAsks allowed)
    (g : α → β) : (p >>= fun a => pure (g a)).OnlyAsks allowed :=
  hp.bind fun _ => trivial

theorem onlyAsks_ofBallots (c : Call) {read : c.Answer → Except BallotError α} (h : op.MayAsk c) :
    (call c >>= fun x => ofBallots (read x)).OnlyAsks op.MayAsk :=
  .ofBallots h

theorem onlyAsks_apply (changes : List Change) : (apply changes).OnlyAsks op.MayAsk :=
  (onlyAsks_call (by cases op <;> trivial)).bind fun _ => trivial

end Program

theorem RosterChange.onlyAsks_commit (r : RosterChange) (op : Operation) (h : op.EditsBoard) :
    r.commit.OnlyAsks op.MayAsk := by
  have write (changes : List Change) : op.MayAsk (.apply changes) := by cases op <;> trivial
  have push (account : Account) (authority : Authority) :
      op.MayAsk (.setAuthority account authority) := by cases op <;> exact h
  unfold RosterChange.commit
  split
  · refine OnlyAsks.bind ((onlyAsks_call (push _ _)).bind fun _ => trivial) fun _ => ?_
    refine OnlyAsks.bind (onlyAsks_call (write _)) fun answer => ?_
    cases answer with
    | ok u => trivial
    | error e => exact (onlyAsks_call (push _ _)).bind fun _ => trivial
  · refine OnlyAsks.bind (onlyAsks_call (write _)) fun answer => ?_
    cases answer <;> trivial

variable (settings : Settings)

theorem setConfig_onlyAsks (caller : Account) (update : Config.Update) :
    (setConfig caller update).OnlyAsks (Operation.setConfig caller update).MayAsk := by
  refine .query (onlyAsks_ofStore .config trivial) fun stored => ?_
  have carryOn (current : Config) : (do
      authorize caller
      if current.electionActive then
        refuse (.state .electionInProgress)
      let boardSize ← memberCount
      Program.ofExcept (update.validate boardSize)
      let updated := update.applyTo current boardSize
      apply [.putConfig updated]
      return updated : Program Config).OnlyAsks (Operation.setConfig caller update).MayAsk := by
    refine .query (onlyAsks_authorize caller) fun _ => ?_
    split
    · trivial
    · refine .query (onlyAsks_ofStore .memberCount trivial) fun boardSize => ?_
      exact .query trivial fun _ => (onlyAsks_apply _).andThen _
  cases stored with
  | none => exact carryOn _
  | some c =>
    dsimp only
    split
    · trivial
    · exact carryOn c

theorem nominate_onlyAsks (nominee nominator : Account) :
    (nominate nominee nominator).OnlyAsks (Operation.nominate nominee nominator).MayAsk := by
  refine .query (onlyAsks_authorize nominator) fun _ => ?_
  refine .query (onlyAsks_call trivial) fun known => ?_
  cases known
  · trivial
  · refine .query (onlyAsks_call trivial) fun time => ?_
    refine .query (onlyAsks_ofStore .config trivial) fun stored => ?_
    refine .query (Candidacy.onlyLooksUp_nomination _ _ _ _).queries fun changes => ?_
    exact onlyAsks_apply changes

theorem unnominate_onlyAsks (nominee : Account) :
    (unnominate nominee).OnlyAsks (Operation.unnominate nominee).MayAsk := by
  refine .query (onlyAsks_ofStore .config trivial) fun stored => ?_
  cases stored with
  | none =>
    refine .query (onlyAsks_authorize nominee) fun _ => ?_
    refine .query (Candidacy.onlyLooksUp_unnomination nominee).queries fun _ => ?_
    exact (onlyAsks_apply _).andThen _
  | some c =>
    refine .query (onlyAsks_authorizeEither nominee _) fun _ => ?_
    refine .query (Candidacy.onlyLooksUp_unnomination nominee).queries fun _ => ?_
    exact (onlyAsks_apply _).andThen _

theorem addCandidate_onlyAsks (candidate : Account) :
    (addCandidate settings candidate).OnlyAsks (Operation.addCandidate candidate).MayAsk := by
  refine .query (onlyAsks_authorize candidate) fun _ => ?_
  refine .query onlyAsks_requireConfig fun c => ?_
  refine .query (onlyAsks_call trivial) fun time => ?_
  refine .query trivial fun ballot => ?_
  refine .query (Candidacy.onlyLooksUp_registration _ _ _).queries fun changes => ?_
  refine OnlyAsks.bind (onlyAsks_ofBallots (.addOption ballot candidate) rfl) fun _ => ?_
  refine OnlyAsks.bind (onlyAsks_call trivial) fun answer => ?_
  cases answer with
  | ok u => trivial
  | error e => exact ⟨rfl, fun _ => trivial⟩

theorem removeCandidate_onlyAsks (candidate : Account) :
    (removeCandidate candidate).OnlyAsks (Operation.removeCandidate candidate).MayAsk := by
  refine .query onlyAsks_requireConfig fun c => ?_
  refine .query (onlyAsks_authorizeEither _ _) fun _ => ?_
  refine .query (onlyAsks_call trivial) fun time => ?_
  refine .query trivial fun ballot => ?_
  refine .query (Candidacy.onlyLooksUp_withdrawal candidate).queries fun changes => ?_
  dsimp only
  split
  · refine OnlyAsks.bind (onlyAsks_ofBallots (.removeOption ballot candidate) rfl) fun _ => ?_
    refine OnlyAsks.bind (onlyAsks_call trivial) fun answer => ?_
    cases answer with
    | ok u => trivial
    | error e => exact ⟨rfl, fun _ => trivial⟩
  · refine OnlyAsks.bind (onlyAsks_call trivial) fun answer => ?_
    cases answer <;> trivial

theorem makeElection_onlyAsks (holder : Account) :
    (makeElection settings holder).OnlyAsks (Operation.makeElection holder).MayAsk := by
  refine .query (onlyAsks_authorize holder) fun _ => ?_
  refine .query onlyAsks_requireConfig fun c => ?_
  refine .query (onlyAsks_call trivial) fun time => ?_
  refine .query trivial fun plan => ?_
  refine OnlyAsks.bind (onlyAsks_ofBallots _ trivial) fun ballot => ?_
  exact (onlyAsks_apply _).andThen _

theorem startElection_onlyAsks (holder : Account) :
    (startElection holder).OnlyAsks (Operation.startElection holder).MayAsk := by
  refine .query (onlyAsks_authorize holder) fun _ => ?_
  refine .query onlyAsks_requireConfig fun c => ?_
  refine .query (onlyAsks_call trivial) fun time => ?_
  refine .query trivial fun begun => ?_
  refine OnlyAsks.bind (onlyAsks_ofBallots _ trivial) fun _ => ?_
  exact (onlyAsks_apply _).andThen _

theorem endElection_onlyAsks (holder : Account) :
    (endElection settings holder).OnlyAsks (Operation.endElection holder).MayAsk := by
  refine .query (onlyAsks_authorize holder) fun _ => ?_
  refine .query onlyAsks_requireConfig fun stored => ?_
  refine .query (onlyAsks_call trivial) fun time => ?_
  refine .query trivial fun begun => ?_
  refine OnlyAsks.bind (onlyAsks_ofBallots _ trivial) fun tally => ?_
  refine .query Candidacy.onlyLooksUp_names.queries fun candidates => ?_
  refine .query (Board.onlyLooksUp_load _).queries fun before => ?_
  refine .query trivial fun after => ?_
  exact (RosterChange.onlyAsks_commit _ (.endElection holder) trivial).andThen _

theorem leaveBoard_onlyAsks (member : Account) {op : Operation} (h : op.EditsBoard) :
    (leaveBoard settings member).OnlyAsks op.MayAsk := by
  refine .query onlyAsks_requireConfig fun c => ?_
  refine .query (Board.onlyLooksUp_load _).queries fun before => ?_
  refine .query trivial fun after => ?_
  exact .query (onlyAsks_call trivial) fun time => RosterChange.onlyAsks_commit _ op h

theorem seatBoard_onlyAsks (members : List Account) :
    (seatBoard settings members).OnlyAsks (Operation.seatBoard members).MayAsk := by
  refine .query onlyAsks_requireConfig fun c => ?_
  refine .query (onlyAsks_authorize _) fun _ => ?_
  dsimp only
  split
  · trivial
  refine .query (Board.onlyLooksUp_load _).queries fun before => ?_
  split
  · refine .query (onlyLooksUp_seatFounders _ _ _).queries fun seated => ?_
    exact .query (onlyAsks_call trivial) fun time => RosterChange.onlyAsks_commit _ _ trivial
  · trivial

/-- An operation makes only the calls that it may make. -/
theorem Operation.onlyAsks (op : Operation) : (op.program settings).OnlyAsks op.MayAsk := by
  cases op with
  | setConfig caller update => exact (setConfig_onlyAsks caller update).andThen _
  | nominate nominee nominator => exact (nominate_onlyAsks nominee nominator).andThen _
  | unnominate nominee => exact (unnominate_onlyAsks nominee).andThen _
  | addCandidate candidate => exact (addCandidate_onlyAsks settings candidate).andThen _
  | removeCandidate candidate => exact (removeCandidate_onlyAsks candidate).andThen _
  | makeElection holder => exact (makeElection_onlyAsks settings holder).andThen _
  | startElection holder => exact (startElection_onlyAsks holder).andThen _
  | endElection holder => exact (endElection_onlyAsks settings holder).andThen _
  | removeMember member =>
    refine OnlyAsks.andThen (.query (onlyAsks_authorize _) fun _ => ?_) _
    exact leaveBoard_onlyAsks settings member trivial
  | resign member =>
    refine OnlyAsks.andThen (.query (onlyAsks_authorize _) fun _ => ?_) _
    exact leaveBoard_onlyAsks settings member trivial
  | seatBoard members => exact (seatBoard_onlyAsks settings members).andThen _

end TrusteeBoard
