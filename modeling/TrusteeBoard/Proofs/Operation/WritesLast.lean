import TrusteeBoard.Operation
import TrusteeBoard.Proofs.Program.WritesLast

/-!
# Operations write last

Each of the eleven operations asks first and writes last, and only operations on the board push an
authority (`Operation.writesLast`). The parts that check a candidacy, load the board or seat
founders only ask the store and the host.
-/

namespace TrusteeBoard

open Program

/-! ### Parts of operations that only look up -/

section Checks

variable {allowed : Call → Prop} {name : Account}

theorem Program.OnlyAsks.nomination (known : allowed (.nominee name))
    (seated : allowed (.member name)) (nominator : Account) (now : Timestamp) (eligible : Bool) :
    (Candidacy.nomination name nominator now eligible).OnlyAsks allowed := by
  refine OnlyAsks.bind (.isNominee known) fun b => ?_
  cases b
  · cases eligible
    · refine OnlyAsks.bind (.isMember seated) fun b => ?_
      cases b <;> trivial
    · trivial
  · trivial

theorem Program.OnlyAsks.unnomination (known : allowed (.nominee name))
    (registered : allowed (.candidate name)) : (Candidacy.unnomination name).OnlyAsks allowed := by
  refine OnlyAsks.bind (.ofStore known) fun record => ?_
  cases record with
  | none => trivial
  | some record =>
    refine OnlyAsks.bind (.isCandidate registered) fun b => ?_
    cases b <;> trivial

theorem Program.OnlyAsks.withdrawal (registered : allowed (.candidate name)) :
    (Candidacy.withdrawal name).OnlyAsks allowed :=
  OnlyAsks.bind (.isCandidate registered) fun b => by cases b <;> trivial

end Checks

namespace Candidacy

theorem onlyLooksUp_nomination (nominee nominator : Account) (now : Timestamp) (eligible : Bool) :
    (nomination nominee nominator now eligible).OnlyAsks Call.IsLookup :=
  .nomination ⟨trivial, id⟩ ⟨trivial, id⟩ nominator now eligible

theorem onlyLooksUp_unnomination (nominee : Account) :
    (unnomination nominee).OnlyAsks Call.IsLookup :=
  .unnomination ⟨trivial, id⟩ ⟨trivial, id⟩

theorem onlyLooksUp_registration (candidate : Account) (now : Timestamp) (limit : UInt32) :
    (registration candidate now limit).OnlyAsks Call.IsLookup := by
  refine (onlyLooksUp_isNominee candidate).bind fun b => ?_
  cases b
  · trivial
  · refine (onlyLooksUp_isCandidate candidate).bind fun b => ?_
    cases b
    · refine (onlyLooksUp_ofStore .candidates ⟨trivial, id⟩).bind fun records => ?_
      dsimp only
      split <;> trivial
    · trivial

theorem onlyLooksUp_withdrawal (candidate : Account) :
    (withdrawal candidate).OnlyAsks Call.IsLookup :=
  .withdrawal ⟨trivial, id⟩

theorem onlyLooksUp_names : names.OnlyAsks Call.IsLookup :=
  (onlyLooksUp_ofStore .candidates ⟨trivial, id⟩).bind fun _ => trivial

end Candidacy

theorem Board.onlyLooksUp_load (maxSeats : UInt32) :
    (Board.load maxSeats).OnlyAsks Call.IsLookup :=
  (onlyLooksUp_ofStore .members ⟨trivial, id⟩).bind fun _ => trivial

theorem onlyLooksUp_seatFounders (board : Board) (changes : List Change) (names : List Account) :
    (seatFounders board changes names).OnlyAsks Call.IsLookup := by
  induction names generalizing board changes with
  | nil => trivial
  | cons name rest ih =>
    refine (onlyAsks_call ⟨trivial, id⟩).bind fun b => ?_
    cases b
    · trivial
    · refine OnlyAsks.bind trivial fun board => ?_
      refine (onlyLooksUp_isNominee name).bind fun b => ?_
      cases b <;> exact ih _ _

/-! ### Each operation writes last -/

variable (settings : Settings)

theorem RosterChange.commit_writesLast (r : RosterChange) : r.commit.WritesLast True := by
  unfold RosterChange.commit
  -- In both cases the test of the membership after a failed write comes out as it did before.
  split
  · refine .bind ((onlyAsks_call (.inr ⟨trivial, trivial⟩)).bind fun _ => trivial) fun _ => ?_
    exact .write rfl fun _ => ⟨.inr ⟨trivial, trivial⟩, fun _ => trivial⟩
  · exact .write rfl fun _ => trivial

theorem setConfig_writesLast (caller : Account) (update : Config.Update) :
    (setConfig caller update).WritesLast False := by
  refine .query (onlyAsks_ofStore .config trivial) fun stored => ?_
  have update_writesLast (current : Config) : (do
      authorize caller
      if current.electionActive then
        refuse (.state .electionInProgress)
      let boardSize ← memberCount
      Program.ofExcept (update.validate boardSize)
      let updated := update.applyTo current boardSize
      apply [.putConfig updated]
      return updated : Program Config).WritesLast False := by
    refine .query (onlyAsks_authorize caller) fun _ => ?_
    split
    · exact .refuse _
    · refine .query (onlyAsks_ofStore .memberCount trivial) fun boardSize => ?_
      exact .query trivial fun _ => (writesLast_apply _).andThen _
  cases stored with
  | none => exact update_writesLast _
  | some c =>
    dsimp only
    split
    · exact .refuse _
    · exact update_writesLast c

theorem nominate_writesLast (nominee nominator : Account) :
    (nominate nominee nominator).WritesLast False := by
  refine .query (onlyAsks_authorize nominator) fun _ => ?_
  refine .query (onlyAsks_call trivial) fun known => ?_
  cases known
  · exact .refuse _
  · refine .query (onlyAsks_call trivial) fun time => ?_
    refine .query (onlyAsks_ofStore .config trivial) fun stored => ?_
    refine .query (Candidacy.onlyLooksUp_nomination _ _ _ _).queries fun changes => ?_
    exact writesLast_apply changes

theorem unnominate_writesLast (nominee : Account) : (unnominate nominee).WritesLast False := by
  refine .query (onlyAsks_ofStore .config trivial) fun stored => ?_
  cases stored with
  | none =>
    refine .query (onlyAsks_authorize nominee) fun _ => ?_
    refine .query (Candidacy.onlyLooksUp_unnomination nominee).queries fun _ => ?_
    exact (writesLast_apply _).andThen _
  | some c =>
    refine .query (onlyAsks_authorizeEither nominee _) fun _ => ?_
    refine .query (Candidacy.onlyLooksUp_unnomination nominee).queries fun _ => ?_
    exact (writesLast_apply _).andThen _

theorem addCandidate_writesLast (candidate : Account) :
    (addCandidate settings candidate).WritesLast False := by
  refine .query (onlyAsks_authorize candidate) fun _ => ?_
  refine .query onlyAsks_requireConfig fun c => ?_
  refine .query (onlyAsks_call trivial) fun time => ?_
  refine .query trivial fun ballot => ?_
  refine .query (Candidacy.onlyLooksUp_registration _ _ _).queries fun changes => ?_
  refine .bind ((onlyAsks_call (.inl trivial)).bind fun _ => trivial) fun _ => ?_
  exact .write rfl fun e => ⟨.inl trivial, fun _ => trivial⟩

theorem removeCandidate_writesLast (candidate : Account) :
    (removeCandidate candidate).WritesLast False := by
  refine .query onlyAsks_requireConfig fun c => ?_
  refine .query (onlyAsks_authorizeEither _ _) fun _ => ?_
  refine .query (onlyAsks_call trivial) fun time => ?_
  refine .query trivial fun ballot => ?_
  refine .query (Candidacy.onlyLooksUp_withdrawal candidate).queries fun changes => ?_
  dsimp only
  split
  · refine .bind ((onlyAsks_call (.inl trivial)).bind fun _ => trivial) fun _ => ?_
    exact .write rfl fun _ => ⟨.inl trivial, fun _ => trivial⟩
  · exact .write rfl fun _ => trivial

theorem makeElection_writesLast (holder : Account) :
    (makeElection settings holder).WritesLast False := by
  refine .query (onlyAsks_authorize holder) fun _ => ?_
  refine .query onlyAsks_requireConfig fun c => ?_
  refine .query (onlyAsks_call trivial) fun time => ?_
  refine .query trivial fun plan => ?_
  refine .bind ((onlyAsks_call (.inl trivial)).bind fun _ => trivial) fun ballot => ?_
  exact (writesLast_apply _).andThen _

theorem startElection_writesLast (holder : Account) : (startElection holder).WritesLast False := by
  refine .query (onlyAsks_authorize holder) fun _ => ?_
  refine .query onlyAsks_requireConfig fun c => ?_
  refine .query (onlyAsks_call trivial) fun time => ?_
  refine .query trivial fun begun => ?_
  refine .bind ((onlyAsks_call (.inl trivial)).bind fun _ => trivial) fun _ => ?_
  exact (writesLast_apply _).andThen _

theorem endElection_writesLast (holder : Account) :
    (endElection settings holder).WritesLast True := by
  refine .query (onlyAsks_authorize holder) fun _ => ?_
  refine .query onlyAsks_requireConfig fun stored => ?_
  refine .query (onlyAsks_call trivial) fun time => ?_
  refine .query trivial fun begun => ?_
  refine .bind ((onlyAsks_call (.inl trivial)).bind fun _ => trivial) fun tally => ?_
  refine .query Candidacy.onlyLooksUp_names.queries fun candidates => ?_
  refine .query (Board.onlyLooksUp_load _).queries fun before => ?_
  refine .query trivial fun after => ?_
  exact (RosterChange.commit_writesLast _).andThen _

theorem leaveBoard_writesLast (member : Account) :
    (leaveBoard settings member).WritesLast True := by
  refine .query onlyAsks_requireConfig fun c => ?_
  refine .query (Board.onlyLooksUp_load _).queries fun before => ?_
  refine .query trivial fun after => ?_
  exact .query (onlyAsks_call trivial) fun time => RosterChange.commit_writesLast _

theorem seatBoard_writesLast (members : List Account) :
    (seatBoard settings members).WritesLast True := by
  refine .query onlyAsks_requireConfig fun c => ?_
  refine .query (onlyAsks_authorize _) fun _ => ?_
  dsimp only
  split
  · exact .refuse _
  refine .query (Board.onlyLooksUp_load _).queries fun before => ?_
  split
  · refine .query (onlyLooksUp_seatFounders _ _ _).queries fun seated => ?_
    exact .query (onlyAsks_call trivial) fun time => RosterChange.commit_writesLast _
  · exact .refuse _

/-- Whether the operation edits the board. -/
def Operation.EditsBoard : Operation → Prop
  | .endElection _ => True
  | .removeMember _ => True
  | .resign _ => True
  | .seatBoard _ => True
  | _ => False

/-- Every operation writes last, and only those that edit the board push. -/
theorem Operation.writesLast (op : Operation) :
    (op.program settings).WritesLast op.EditsBoard := by
  cases op with
  | setConfig caller update => exact (setConfig_writesLast caller update).andThen _
  | nominate nominee nominator => exact (nominate_writesLast nominee nominator).andThen _
  | unnominate nominee => exact (unnominate_writesLast nominee).andThen _
  | addCandidate candidate => exact (addCandidate_writesLast settings candidate).andThen _
  | removeCandidate candidate => exact (removeCandidate_writesLast candidate).andThen _
  | makeElection holder => exact (makeElection_writesLast settings holder).andThen _
  | startElection holder => exact (startElection_writesLast holder).andThen _
  | endElection holder => exact (endElection_writesLast settings holder).andThen _
  | removeMember member =>
    exact (WritesLast.query (onlyAsks_authorize _) fun _ =>
      leaveBoard_writesLast settings member).andThen _
  | resign member =>
    exact (WritesLast.query (onlyAsks_authorize _) fun _ =>
      leaveBoard_writesLast settings member).andThen _
  | seatBoard members => exact (seatBoard_writesLast settings members).andThen _

end TrusteeBoard
