import TrusteeBoard.Proofs.Operation.Roster

/-!
# Authorization

Before an operation does anything but read the record, it asks for the authority of the one account
that has to sign it or of either of two (`Operation.authorizers`), and after that for no authority
any more (`Program.Gated`, `Operation.gated`). Without any of these authorities it is refused after
queries alone, whoever answers (`Gated.refused`).
-/

namespace TrusteeBoard

open Program

/-- The accounts of which one has to sign the operation while the record is `stored`. Nobody can
sign parameters for a caller who is not the publisher. -/
def Operation.authorizers (settings : Settings) (stored : Option Config) :
    Operation → List Account
  | .setConfig caller _ => if stored.all (·.publisher = caller) then [caller] else []
  | .nominate _ nominator => [nominator]
  | .unnominate nominee => nominee :: stored.toList.map (·.publisher)
  | .addCandidate candidate => [candidate]
  | .removeCandidate candidate => candidate :: stored.toList.map (·.publisher)
  | .makeElection holder => [holder]
  | .startElection holder => [holder]
  | .endElection holder => [holder]
  | .removeMember _ => [settings.governedAccount]
  | .resign member => [member]
  | .seatBoard _ => stored.toList.map (·.publisher)

namespace Program

variable {α β : Type} {stored : Option Config} {authorizers : List Account}

/-- On every path, no authority is asked for. -/
def Trusting (p : Program α) : Prop :=
  p.OnlyAsks fun c => ¬c.AsksAuthority

/-- After nothing but reading the record, which is `stored`, the program is refused or asks for the
authority of one of the authorizers, and from there on for none. -/
inductive Gated (stored : Option Config) (authorizers : List Account) : Program α → Prop
  | refuse (e : Refusal) : Gated stored authorizers (refuse e)
  | config {f : Option Config → Program α} (rest : Gated stored authorizers (f stored)) :
    Gated stored authorizers (config >>= f)
  | authorize {account : Account} {f : Unit → Program α} (authorized : account ∈ authorizers)
    (rest : (f ()).Trusting) : Gated stored authorizers (authorize account >>= f)
  | authorizeEither {first second : Account} {f : Unit → Program α}
    (authorized : first ∈ authorizers) (authorized' : second ∈ authorizers)
    (rest : (f ()).Trusting) : Gated stored authorizers (authorizeEither first second >>= f)

/-! ### Programs that ask for no authority -/

theorem OnlyAsks.trusting {p : Program α} (h : p.OnlyAsks Call.IsLookup) : p.Trusting :=
  h.mono fun _ => And.right

theorem Trusting.bind {p : Program α} {f : α → Program β} (hp : p.Trusting)
    (hf : ∀ a, (f a).Trusting) : (p >>= f).Trusting :=
  OnlyAsks.bind hp hf

theorem Trusting.andThen {p : Program α} (hp : p.Trusting) (g : α → β) :
    (p >>= fun a => pure (g a)).Trusting :=
  hp.bind fun _ => trivial

theorem trusting_call {c : Call} (h : ¬c.AsksAuthority) : (call c).Trusting :=
  onlyAsks_call h

theorem trusting_apply (changes : List Change) : (apply changes).Trusting :=
  (trusting_call id).bind fun _ => trivial

theorem trusting_ofBallots (c : Call) {read : c.Answer → Except BallotError α}
    (h : ¬c.AsksAuthority) : (call c >>= fun x => ofBallots (read x)).Trusting :=
  (trusting_call h).bind fun _ => trivial

/-! ### Gates -/

theorem Gated.requireConfig {f : Config → Program α}
    (rest : ∀ c, stored = some c → Gated stored authorizers (f c)) :
    Gated stored authorizers (requireConfig >>= f) := by
  unfold Program.requireConfig
  rw [bind_assoc]
  refine .config ?_
  cases stored with
  | none => exact .refuse _
  | some c => exact rest c rfl

/-- What is done with the result of a program does not matter. -/
theorem Gated.andThen {p : Program α} (hp : p.Gated stored authorizers) (g : α → β) :
    (p >>= fun a => pure (g a)).Gated stored authorizers := by
  induction hp with
  | refuse e => exact .refuse e
  | config rest ih =>
    rw [bind_assoc]
    exact .config ih
  | authorize authorized rest =>
    rw [bind_assoc]
    exact .authorize authorized (rest.andThen g)
  | authorizeEither authorized authorized' rest =>
    rw [bind_assoc]
    exact .authorizeEither authorized authorized' (rest.andThen g)

end Program

/-! ### Each operation has its gate -/

theorem RosterChange.trusting_commit (r : RosterChange) : r.commit.Trusting := by
  unfold RosterChange.commit
  split
  · refine Trusting.bind ((trusting_call id).bind fun _ => trivial) fun _ => ?_
    refine Trusting.bind (trusting_call id) fun answer => ?_
    cases answer with
    | ok u => trivial
    | error e => exact (trusting_call id).bind fun _ => trivial
  · refine Trusting.bind (trusting_call id) fun answer => ?_
    cases answer <;> trivial

variable (settings : Settings) (stored : Option Config)

theorem setConfig_gated (caller : Account) (update : Config.Update) :
    (setConfig caller update).Gated stored
      ((Operation.setConfig caller update).authorizers settings stored) := by
  have carryOn (authorizers : List Account) (authorized : caller ∈ authorizers)
      (current : Config) : (do
      authorize caller
      if current.electionActive then
        refuse (.state .electionInProgress)
      let boardSize ← memberCount
      Program.ofExcept (update.validate boardSize)
      let updated := update.applyTo current boardSize
      apply [.putConfig updated]
      return updated : Program Config).Gated stored authorizers := by
    refine .authorize authorized ?_
    split
    · trivial
    · refine (onlyLooksUp_ofStore .memberCount ⟨trivial, id⟩).trusting.bind fun boardSize => ?_
      exact Trusting.bind trivial fun _ => (trusting_apply _).andThen _
  refine .config ?_
  cases stored with
  | none => exact carryOn _ (by simp [Operation.authorizers]) _
  | some c =>
    dsimp only
    split
    · exact .refuse _
    · next own => exact carryOn _ (by simpa [Operation.authorizers] using own) c

theorem nominate_gated (nominee nominator : Account) :
    (nominate nominee nominator).Gated stored [nominator] := by
  refine .authorize List.mem_cons_self ?_
  refine (trusting_call id).bind fun known => ?_
  cases known
  · trivial
  · refine (trusting_call id).bind fun time => ?_
    refine (onlyLooksUp_ofStore .config ⟨trivial, id⟩).trusting.bind fun record => ?_
    refine (Candidacy.onlyLooksUp_nomination _ _ _ _).trusting.bind fun changes => ?_
    exact trusting_apply changes

theorem unnominate_gated (nominee : Account) : (unnominate nominee).Gated stored
    (nominee :: stored.toList.map (·.publisher)) := by
  have carryOn : (Candidacy.unnomination nominee >>= fun staged =>
      apply staged.2 >>= fun _ => pure staged.1).Trusting :=
    (Candidacy.onlyLooksUp_unnomination nominee).trusting.bind fun _ =>
      (trusting_apply _).andThen _
  refine .config ?_
  cases stored with
  | none => exact .authorize List.mem_cons_self carryOn
  | some c => exact .authorizeEither List.mem_cons_self (by simp) carryOn

theorem addCandidate_gated (candidate : Account) :
    (addCandidate settings candidate).Gated stored [candidate] := by
  refine .authorize List.mem_cons_self ?_
  refine onlyLooksUp_requireConfig.trusting.bind fun c => ?_
  refine (trusting_call id).bind fun time => ?_
  refine Trusting.bind trivial fun ballot => ?_
  refine (Candidacy.onlyLooksUp_registration _ _ _).trusting.bind fun changes => ?_
  refine (trusting_ofBallots (.addOption ballot candidate) id).bind fun _ => ?_
  refine (trusting_call id).bind fun answer => ?_
  cases answer with
  | ok u => trivial
  | error e => exact (trusting_call id).bind fun _ => trivial

theorem removeCandidate_gated (candidate : Account) : (removeCandidate candidate).Gated stored
    (candidate :: stored.toList.map (·.publisher)) := by
  refine .requireConfig ?_
  rintro c rfl
  refine .authorizeEither List.mem_cons_self (by simp) ?_
  refine (trusting_call id).bind fun time => ?_
  refine Trusting.bind trivial fun ballot => ?_
  refine (Candidacy.onlyLooksUp_withdrawal candidate).trusting.bind fun changes => ?_
  dsimp only
  split
  · refine (trusting_ofBallots (.removeOption ballot candidate) id).bind fun _ => ?_
    refine (trusting_call id).bind fun answer => ?_
    cases answer with
    | ok u => trivial
    | error e => exact (trusting_call id).bind fun _ => trivial
  · refine (trusting_call id).bind fun answer => ?_
    cases answer <;> trivial

theorem makeElection_gated (holder : Account) :
    (makeElection settings holder).Gated stored [holder] := by
  refine .authorize List.mem_cons_self ?_
  refine onlyLooksUp_requireConfig.trusting.bind fun c => ?_
  refine (trusting_call id).bind fun time => ?_
  refine Trusting.bind trivial fun plan => ?_
  refine (trusting_ofBallots _ id).bind fun ballot => ?_
  exact (trusting_apply _).andThen _

theorem startElection_gated (holder : Account) : (startElection holder).Gated stored [holder] := by
  refine .authorize List.mem_cons_self ?_
  refine onlyLooksUp_requireConfig.trusting.bind fun c => ?_
  refine (trusting_call id).bind fun time => ?_
  refine Trusting.bind trivial fun begun => ?_
  refine (trusting_ofBallots _ id).bind fun _ => ?_
  exact (trusting_apply _).andThen _

theorem endElection_gated (holder : Account) :
    (endElection settings holder).Gated stored [holder] := by
  refine .authorize List.mem_cons_self ?_
  refine onlyLooksUp_requireConfig.trusting.bind fun record => ?_
  refine (trusting_call id).bind fun time => ?_
  refine Trusting.bind trivial fun begun => ?_
  refine (trusting_ofBallots _ id).bind fun tally => ?_
  refine Candidacy.onlyLooksUp_names.trusting.bind fun candidates => ?_
  refine (Board.onlyLooksUp_load _).trusting.bind fun before => ?_
  refine Trusting.bind trivial fun after => ?_
  exact (RosterChange.trusting_commit _).andThen _

theorem trusting_leaveBoard (member : Account) : (leaveBoard settings member).Trusting := by
  refine onlyLooksUp_requireConfig.trusting.bind fun c => ?_
  refine (Board.onlyLooksUp_load _).trusting.bind fun before => ?_
  refine Trusting.bind trivial fun after => ?_
  exact (trusting_call id).bind fun time => RosterChange.trusting_commit _

theorem seatBoard_gated (members : List Account) :
    (seatBoard settings members).Gated stored (stored.toList.map (·.publisher)) := by
  refine .requireConfig ?_
  rintro c rfl
  refine .authorize (by simp) ?_
  split
  · trivial
  refine (Board.onlyLooksUp_load _).trusting.bind fun before => ?_
  split
  · refine (onlyLooksUp_seatFounders _ _ _).trusting.bind fun seated => ?_
    exact (trusting_call id).bind fun time => RosterChange.trusting_commit _
  · trivial

theorem Operation.gated (op : Operation) :
    (op.program settings).Gated stored (op.authorizers settings stored) := by
  cases op with
  | setConfig caller update => exact (setConfig_gated settings stored caller update).andThen _
  | nominate nominee nominator => exact (nominate_gated stored nominee nominator).andThen _
  | unnominate nominee => exact (unnominate_gated stored nominee).andThen _
  | addCandidate candidate => exact (addCandidate_gated settings stored candidate).andThen _
  | removeCandidate candidate => exact (removeCandidate_gated stored candidate).andThen _
  | makeElection holder => exact (makeElection_gated settings stored holder).andThen _
  | startElection holder => exact (startElection_gated stored holder).andThen _
  | endElection holder => exact (endElection_gated settings stored holder).andThen _
  | removeMember member =>
    refine Gated.andThen (.authorize List.mem_cons_self ?_) _
    exact trusting_leaveBoard settings member
  | resign member =>
    refine Gated.andThen (.authorize List.mem_cons_self ?_) _
    exact trusting_leaveBoard settings member
  | seatBoard members => exact (seatBoard_gated settings stored members).andThen _

/-! ### Refusal without authority -/

namespace Program

variable {α β : Type} {stored : Option Config} {authorizers : List Account} {p : Program α}
  {xs : List Exchange} {result : Except Refusal α}

/-- A sequence whose first part is refused is refused after the queries of that part. -/
theorem refused_bind {p : Program β} {f : β → Program α} (path : (p >>= f).Path xs result)
    (queries : p.OnlyAsks Call.IsQuery)
    (stops : ∀ ys u, (∀ y ∈ ys, y ∈ xs) → ¬p.Path ys (.ok u)) :
    (∃ e, result = .error e) ∧ ∀ x ∈ xs, x.call.IsQuery := by
  rcases path_bind_iff.1 path with ⟨u, ys, zs, hys, -, rfl⟩ | ⟨e, hxs, rfl⟩
  · exact (stops ys u (fun y => List.mem_append_left zs) hys).elim
  · exact ⟨⟨e, rfl⟩, fun x hx => queries.of_mem hxs hx⟩

/-- Where no authorizer signs, nothing but queries comes before the refusal. Only what is told about
the record before anything but queries matters. -/
theorem Gated.refused (h : p.Gated stored authorizers) (path : p.Path xs result)
    (told : ∀ c ys zs, xs = ys ++ ⟨.config, .ok c⟩ :: zs → (∀ y ∈ ys, y.call.IsQuery) → c = stored)
    (unsigned : ∀ a ∈ authorizers, ¬Signed a xs) :
    (∃ e, result = .error e) ∧ ∀ x ∈ xs, x.call.IsQuery := by
  induction h generalizing xs with
  | refuse e =>
    obtain ⟨rfl, rfl⟩ := path_refuse_iff.1 path
    exact ⟨⟨e, rfl⟩, by simp⟩
  | config rest ih =>
    rcases path_bind_iff.1 path with ⟨c, ys, zs, hys, hzs, rfl⟩ | ⟨e, hxs, rfl⟩
    · rw [path_config_ok_iff] at hys
      subst hys
      obtain rfl := told c [] zs rfl (by simp)
      have later (c') (us vs) (split : zs = us ++ ⟨.config, .ok c'⟩ :: vs)
          (queries : ∀ u ∈ us, u.call.IsQuery) : c' = c :=
        told c' (_ :: us) vs (congrArg _ split) (List.forall_mem_cons.2 ⟨trivial, queries⟩)
      obtain ⟨refused, queries⟩ := ih hzs later
        fun a ha signed => unsigned a ha (List.mem_cons_of_mem _ signed)
      exact ⟨refused, List.forall_mem_cons.2 ⟨trivial, queries⟩⟩
    · exact ⟨⟨e, rfl⟩, fun x hx => (onlyAsks_ofStore .config trivial).of_mem hxs hx⟩
  | @authorize account f authorized rest =>
    refine refused_bind path (onlyAsks_authorize account) fun ys u sub hys => ?_
    rw [path_authorize_ok_iff] at hys
    exact unsigned account authorized (sub _ (by simp [hys]))
  | @authorizeEither first second f authorized authorized' rest =>
    refine refused_bind path (onlyAsks_authorizeEither first second) fun ys u sub hys => ?_
    rcases path_authorizeEither_ok_iff.1 hys with rfl | ⟨x, -, rfl⟩
    · exact unsigned first authorized (sub _ (by simp))
    · exact unsigned second authorized' (sub _ (by simp))

end Program

end TrusteeBoard
