import TrusteeBoard.Proofs.Operation.Roster

/-!
# What a successful operation does

`Step` lists, operation by operation, under which conditions an operation succeeds on given records,
which exchanges vouch for it and which records it leaves. The operations that edit the board prepare
a roster change (`Prepares`) and commit it. `step_of_path` reads a step off the exchanges of a
program.
-/

namespace TrusteeBoard

open Program

variable (settings : Settings)

/-- An operation that succeeds on the records `r` with the exchanges `xs`: its receipt and the
records after it. -/
inductive Step (r : Records) (xs : List Exchange) : Operation → Receipt → Records → Prop
  | setConfig {caller : Account} {update : Config.Update} {c : Config}
    (current : c = r.config.getD { publisher := caller }) (owned : c.publisher = caller)
    (signed : Signed caller xs) (inactive : c.electionActive = false)
    (sound : update.fault? (UInt32.ofNat r.members.size) = none) :
    Step r xs (.setConfig caller update)
      (.config (update.applyTo c (UInt32.ofNat r.members.size)))
      { r with config := some (update.applyTo c (UInt32.ofNat r.members.size)) }
  | nominate {nominee nominator : Account} {time : Timestamp} (signed : Signed nominator xs)
    (known : ⟨.accountExists nominee, true⟩ ∈ xs) (asked : ⟨.now, time⟩ ∈ xs)
    (fresh : r.nominees.find? nominee = none)
    (eligible : r.config.any (·.isTermExpired time) = true ∨ r.members.find? nominee = none) :
    Step r xs (.nominate nominee nominator) .done
      { r with nominees := r.nominees.insert nominee ⟨nominee, nominator, time⟩ }
  | unnominate {nominee : Account} {record : Nominee}
    (signed : Signed nominee xs ∨ ∃ c, r.config = some c ∧ Signed c.publisher xs)
    (listed : r.nominees.find? nominee = some record)
    (unregistered : r.candidates.find? nominee = none) :
    Step r xs (.unnominate nominee) (.nominee record)
      { r with nominees := r.nominees.erase nominee }
  | addCandidate {candidate : Account} {c : Config} {ballot : BallotId} {time : Timestamp}
    {record : Nominee} (signed : Signed candidate xs) (configured : r.config = some c)
    (asked : ⟨.now, time⟩ ∈ xs) (window : c.candidacyBallot time = .ok ballot)
    (listed : r.nominees.find? candidate = some record)
    (unregistered : r.candidates.find? candidate = none)
    (room : ¬settings.maxCandidates < UInt32.ofNat r.candidates.size + 1)
    (added : ⟨.addOption ballot candidate, .ok ()⟩ ∈ xs) :
    Step r xs (.addCandidate candidate) .done
      { r with candidates := r.candidates.insert candidate ⟨candidate, time⟩ }
  | removeCandidate {candidate : Account} {c : Config} {ballot : BallotId} {time : Timestamp}
    {record : Candidate} (configured : r.config = some c)
    (signed : Signed candidate xs ∨ Signed c.publisher xs) (asked : ⟨.now, time⟩ ∈ xs)
    (window : c.withdrawalBallot time = .ok ballot)
    (registered : r.candidates.find? candidate = some record)
    (removed : c.phase = .nominating → ⟨.removeOption ballot candidate, .ok ()⟩ ∈ xs) :
    Step r xs (.removeCandidate candidate) .done
      { r with candidates := r.candidates.erase candidate }
  | makeElection {holder : Account} {c : Config} {plan : ElectionPlan} {ballot : BallotId}
    {time : Timestamp} (signed : Signed holder xs) (configured : r.config = some c)
    (asked : ⟨.now, time⟩ ∈ xs) (planned : c.planElection time = .ok plan)
    (opened : ⟨.openBallot (settings.ballotName (c.electionsHeld + 1)) settings.treasurySymbol []
      plan.votingOpensAt plan.votingClosesAt, .ok ballot⟩ ∈ xs) :
    Step r xs (.makeElection holder) (.ballot ballot)
      { r with candidates := .empty, config := some (c.openElection plan ballot) }
  | startElection {holder : Account} {c voting : Config} {ballot : BallotId} {time : Timestamp}
    (signed : Signed holder xs) (configured : r.config = some c) (asked : ⟨.now, time⟩ ∈ xs)
    (begun : c.beginVoting time = .ok (ballot, voting))
    (opened : ⟨.openVoting ballot, .ok ()⟩ ∈ xs) :
    Step r xs (.startElection holder) (.ballot ballot) { r with config := some voting }
  | roster {op : Operation} {change : RosterChange} {receipt : Committed → Receipt}
    (prepared : Prepares settings r xs op change receipt) (pushed : ∀ x ∈ change.push, x ∈ xs) :
    Step r xs op (receipt ⟨change.seated, change.unseated, change.next⟩) (r.after change.changes)

variable {settings} {r r' : Records} {xs : List Exchange}

theorem signed_of_authorizeEither {first second : Account} {ys : List Exchange} {u : Unit}
    (path : (authorizeEither first second).Path ys (.ok u)) (sub : ∀ x ∈ ys, x ∈ xs) :
    Signed first xs ∨ Signed second xs := by
  rcases path_authorizeEither_ok_iff.1 path with rfl | ⟨x, -, rfl⟩
  · exact .inl (sub _ List.mem_cons_self)
  · exact .inr (sub _ (by simp))

/-! ### The governance record and candidacy -/

theorem fault?_eq_none_of_validate {update : Config.Update} {size : UInt32} {u : Unit}
    (h : Except.ok u = update.validate size) : update.fault? size = none := by
  unfold Config.Update.validate at h
  split at h
  · cases h
  · assumption

theorem setConfig_step {caller : Account} {update : Config.Update} {c : Config}
    (path : (setConfig caller update).Path xs (.ok c)) (told : ∀ x ∈ xs, r.Tells x)
    (stored : ∀ changes, ⟨.apply changes, .ok ()⟩ ∈ xs → r' = r.after changes) :
    Step settings r xs (.setConfig caller update) (.config c) r' := by
  unfold setConfig at path
  rw [path_bind_ok_iff] at path
  obtain ⟨current, ys, zs, hys, hzs, rfl⟩ := path
  rw [path_config_ok_iff] at hys
  subst hys
  cases current with
  | none =>
    simp at hzs
    obtain ⟨size, ⟨⟨_, hvalid⟩, rfl⟩, _, rfl⟩ := hzs
    obtain rfl := stored [.putConfig (update.applyTo { publisher := caller } size)] (by simp)
    simp [Records.Tells] at told
    obtain ⟨hconfig, rfl⟩ := told
    exact .setConfig (by rw [← hconfig]; rfl) rfl (by simp [Signed]) rfl
      (fault?_eq_none_of_validate hvalid)
  | some c =>
    simp at hzs
    obtain ⟨howned, size, ⟨hinactive, ⟨_, hvalid⟩, rfl⟩, _, rfl⟩ := hzs
    obtain rfl := stored [.putConfig (update.applyTo c size)] (by simp)
    simp [Records.Tells] at told
    obtain ⟨hconfig, rfl⟩ := told
    exact .setConfig (by rw [← hconfig]; rfl) howned (by simp [Signed]) hinactive
      (fault?_eq_none_of_validate hvalid)

theorem nominate_step {nominee nominator : Account}
    (path : (nominate nominee nominator).Path xs (.ok ())) (told : ∀ x ∈ xs, r.Tells x)
    (stored : ∀ changes, ⟨.apply changes, .ok ()⟩ ∈ xs → r' = r.after changes) :
    Step settings r xs (.nominate nominee nominator) .done r' := by
  unfold nominate at path
  simp at path
  obtain ⟨time, current, reads, hreads, rfl⟩ := path
  obtain rfl := stored [.putNominee ⟨nominee, nominator, time⟩] (by simp)
  rcases hreads with ⟨hexpired, rfl⟩ | ⟨hexpired, rfl⟩
  · simp [Records.Tells] at told
    obtain ⟨rfl, hfresh⟩ := told
    exact .nominate (by simp [Signed]) (by simp) (by simp) hfresh.symm (.inl hexpired)
  · simp [Records.Tells] at told
    obtain ⟨-, hfresh, hmember⟩ := told
    exact .nominate (by simp [Signed]) (by simp) (by simp) hfresh.symm (.inr hmember.symm)

theorem unnominate_step {nominee : Account} {record : Nominee}
    (path : (unnominate nominee).Path xs (.ok record)) (told : ∀ x ∈ xs, r.Tells x)
    (stored : ∀ changes, ⟨.apply changes, .ok ()⟩ ∈ xs → r' = r.after changes) :
    Step settings r xs (.unnominate nominee) (.nominee record) r' := by
  unfold unnominate at path
  rw [path_bind_ok_iff] at path
  obtain ⟨current, ys, zs, hys, hzs, rfl⟩ := path
  rw [path_config_ok_iff] at hys
  subst hys
  cases current with
  | none =>
    simp at hzs
    obtain ⟨_, rfl⟩ := hzs
    obtain rfl := stored [.dropNominee nominee] (by simp)
    simp [Records.Tells] at told
    obtain ⟨-, hlisted, hunregistered⟩ := told
    exact .unnominate (.inl (by simp [Signed])) hlisted.symm hunregistered.symm
  | some c =>
    rw [path_bind_ok_iff] at hzs
    obtain ⟨_, us, vs, hus, hvs, rfl⟩ := hzs
    simp at hvs
    obtain ⟨_, rfl⟩ := hvs
    obtain rfl := stored [.dropNominee nominee] (by simp)
    have hconfig : some c = r.config := told ⟨.config, .ok (some c)⟩ (by simp)
    have hlisted := told ⟨.nominee nominee, .ok (some record)⟩ (by simp)
    have hunregistered := told ⟨.candidate nominee, .ok none⟩ (by simp)
    refine .unnominate ?_ hlisted.symm hunregistered.symm
    exact (signed_of_authorizeEither hus (by simp +contextual)).imp_right
      fun h => ⟨c, hconfig.symm, h⟩

theorem addCandidate_step {candidate : Account}
    (path : (addCandidate settings candidate).Path xs (.ok ())) (told : ∀ x ∈ xs, r.Tells x)
    (stored : ∀ changes, ⟨.apply changes, .ok ()⟩ ∈ xs → r' = r.after changes) :
    Step settings r xs (.addCandidate candidate) .done r' := by
  unfold addCandidate at path
  simp at path
  obtain ⟨c, time, ballot, record, candidates, _, written, us, vs,
    ⟨hwindow, hroom, hwrite, hvs⟩, rfl⟩ := path
  obtain rfl := path_call_ok_iff.1 hwrite
  cases written with
  | error e => simp at hvs
  | ok u =>
    obtain ⟨rfl, -⟩ := path_pure_iff.1 hvs
    obtain rfl := stored [.putCandidate ⟨candidate, time⟩] (by simp)
    have hconfig : some c = r.config := told ⟨.config, .ok (some c)⟩ (by simp)
    have hlisted := told ⟨.nominee candidate, .ok (some record)⟩ (by simp)
    have hunregistered := told ⟨.candidate candidate, .ok none⟩ (by simp)
    have hcandidates : candidates = r.candidates.values :=
      told ⟨.candidates, .ok candidates⟩ (by simp)
    have hlength : candidates.length = r.candidates.size := by
      simp [hcandidates, OrderedMap.values, OrderedMap.size]
    exact .addCandidate (by simp [Signed]) hconfig.symm (by simp) hwindow.symm hlisted.symm
      hunregistered.symm (by simpa [← hlength] using hroom) (by simp)

theorem removeCandidate_step {candidate : Account}
    (path : (removeCandidate candidate).Path xs (.ok ())) (told : ∀ x ∈ xs, r.Tells x)
    (stored : ∀ changes, ⟨.apply changes, .ok ()⟩ ∈ xs → r' = r.after changes) :
    Step settings r xs (.removeCandidate candidate) .done r' := by
  unfold removeCandidate at path
  rw [path_bind_ok_iff] at path
  obtain ⟨c, _, ys, hc, hys, rfl⟩ := path
  rw [path_requireConfig_ok_iff] at hc
  subst hc
  rw [path_bind_ok_iff] at hys
  obtain ⟨_, signing, zs, hsigning, hzs, rfl⟩ := hys
  simp at hzs
  obtain ⟨time, ballot, record, us, ⟨hwindow, hus⟩, rfl⟩ := hzs
  have hconfig : some c = r.config := told ⟨.config, .ok (some c)⟩ (by simp)
  have hregistered := told ⟨.candidate candidate, .ok (some record)⟩ (by simp)
  by_cases hphase : c.phase = .nominating
  · simp [hphase] at hus
    obtain ⟨_, written, vs, ws, ⟨hwrite, hws⟩, rfl⟩ := hus
    obtain rfl := path_call_ok_iff.1 hwrite
    cases written with
    | error e => simp at hws
    | ok u =>
      obtain ⟨rfl, -⟩ := path_pure_iff.1 hws
      obtain rfl := stored [.dropCandidate candidate] (by simp)
      exact .removeCandidate hconfig.symm (signed_of_authorizeEither hsigning (by simp +contextual))
        (by simp) hwindow.symm hregistered.symm
        fun _ => by simp
  · simp [hphase] at hus
    obtain ⟨written, vs, hwrite, ws, hws, rfl⟩ := hus
    obtain rfl := path_call_ok_iff.1 hwrite
    cases written with
    | error e => simp at hws
    | ok u =>
      obtain ⟨rfl, -⟩ := path_pure_iff.1 hws
      obtain rfl := stored [.dropCandidate candidate] (by simp)
      exact .removeCandidate hconfig.symm (signed_of_authorizeEither hsigning (by simp +contextual))
        (by simp) hwindow.symm hregistered.symm
        fun h => absurd h hphase

/-! ### The election cycle -/

theorem makeElection_step {holder : Account} {ballot : BallotId}
    (path : (makeElection settings holder).Path xs (.ok ballot)) (told : ∀ x ∈ xs, r.Tells x)
    (stored : ∀ changes, ⟨.apply changes, .ok ()⟩ ∈ xs → r' = r.after changes) :
    Step settings r xs (.makeElection holder) (.ballot ballot) r' := by
  unfold makeElection at path
  simp at path
  obtain ⟨c, time, plan, hplan, _, rfl⟩ := path
  obtain rfl := stored [.clearCandidates, .putConfig (c.openElection plan ballot)] (by simp)
  have hconfig : some c = r.config := told ⟨.config, .ok (some c)⟩ (by simp)
  exact .makeElection (by simp [Signed]) hconfig.symm (by simp) hplan.symm (by simp)

theorem startElection_step {holder : Account} {ballot : BallotId}
    (path : (startElection holder).Path xs (.ok ballot)) (told : ∀ x ∈ xs, r.Tells x)
    (stored : ∀ changes, ⟨.apply changes, .ok ()⟩ ∈ xs → r' = r.after changes) :
    Step settings r xs (.startElection holder) (.ballot ballot) r' := by
  unfold startElection at path
  simp at path
  obtain ⟨c, time, voting, hvoting, _, _, rfl⟩ := path
  obtain rfl := stored [.putConfig voting] (by simp)
  have hconfig : some c = r.config := told ⟨.config, .ok (some c)⟩ (by simp)
  exact .startElection (by simp [Signed]) hconfig.symm (by simp) hvoting.symm (by simp)

/-! ### All operations -/

theorem roster_step {op : Operation} {receipt : Receipt} (h : op.EditsBoard)
    (path : (op.program settings).Path xs (.ok receipt)) (told : ∀ x ∈ xs, r.Tells x)
    (stored : ∀ changes, ⟨.apply changes, .ok ()⟩ ∈ xs → r' = r.after changes) :
    Step settings r xs op receipt r' := by
  generalize hresult : Except.ok receipt = result at path
  cases rosterPath_of_path h path with
  | refused quiet e => cases hresult
  | @committed ys zs change wrap outcome quiet prepared course =>
    cases course with
    | stored =>
      cases hresult
      obtain rfl := stored change.changes (by simp)
      exact .roster ((prepared r fun y hy => told y (by simp [hy])).mono (by simp +contextual))
        (by simp +contextual)
    | _ => cases hresult

/-- What an operation did, when it succeeds over a store with the records `r`. -/
theorem step_of_path {op : Operation} {receipt : Receipt}
    (path : (op.program settings).Path xs (.ok receipt)) (serves : r.Serves xs r') :
    Step settings r xs op receipt r' := by
  obtain ⟨told, stored⟩ := serves.of_ok path (op.writesLast settings)
  cases op with
  | setConfig caller update =>
    obtain ⟨c, rfl, inner⟩ := path_bind_pure_ok_iff.1 path
    exact setConfig_step inner told stored
  | nominate nominee nominator =>
    obtain ⟨_, rfl, inner⟩ := path_bind_pure_ok_iff.1 path
    exact nominate_step inner told stored
  | unnominate nominee =>
    obtain ⟨record, rfl, inner⟩ := path_bind_pure_ok_iff.1 path
    exact unnominate_step inner told stored
  | addCandidate candidate =>
    obtain ⟨_, rfl, inner⟩ := path_bind_pure_ok_iff.1 path
    exact addCandidate_step inner told stored
  | removeCandidate candidate =>
    obtain ⟨_, rfl, inner⟩ := path_bind_pure_ok_iff.1 path
    exact removeCandidate_step inner told stored
  | makeElection holder =>
    obtain ⟨ballot, rfl, inner⟩ := path_bind_pure_ok_iff.1 path
    exact makeElection_step inner told stored
  | startElection holder =>
    obtain ⟨ballot, rfl, inner⟩ := path_bind_pure_ok_iff.1 path
    exact startElection_step inner told stored
  | endElection holder => exact roster_step trivial path told stored
  | removeMember member => exact roster_step trivial path told stored
  | resign member => exact roster_step trivial path told stored
  | seatBoard members => exact roster_step trivial path told stored

end TrusteeBoard
