import TrusteeBoard.Proofs.Board
import TrusteeBoard.Proofs.Candidacy
import TrusteeBoard.Proofs.Election
import TrusteeBoard.Proofs.Operation.WritesLast

/-!
# Operations on the board

Removal, resignation, the end of an election and the first seating read what they need, prepare a
roster change (`Prepares`) and commit it. They push no authority and write nothing before the
commit, and a refusal before the commit has done neither (`RosterPath`, `rosterPath_of_path`).
-/

namespace TrusteeBoard

open Program

/-- The calls carried the authority of `account`. -/
def Signed (account : Account) (xs : List Exchange) : Prop :=
  ⟨.authorize account, .ok ()⟩ ∈ xs

namespace Records

/-- The board of the stored members. -/
def board (r : Records) (maxSeats : UInt32) : Board :=
  ⟨OrderedSet.ofList (r.members.values.map (·.name)), maxSeats⟩

/-- The names of the registered candidates in order. -/
def candidateNames (r : Records) : List Account :=
  (r.candidates.values.map (·.name)).mergeSort fun a b => (compare a b).isLE

/-- The closed election that a tally decides. -/
def contest (r : Records) (settings : Settings) (c : Config) (tally : Tally) : Contest :=
  { tally, candidates := r.candidateNames, seats := c.openSeats,
    quorumDivisor := c.holderQuorumDivisor, tiePolicy := settings.tiePolicy }

theorem keys_board {r : Records} (filed : r.Filed) (maxSeats : UInt32) :
    (r.board maxSeats).members.keys = r.members.keys := by
  rw [board, map_values_eq_keys filed.members, OrderedSet.keys_ofList_keys]

theorem size_board {r : Records} (filed : r.Filed) (maxSeats : UInt32) :
    (r.board maxSeats).members.size = r.members.size := by
  rw [← OrderedMap.length_keys, keys_board filed, OrderedMap.length_keys]

end Records

variable (settings : Settings)

/-- The roster change from the stored board to `after`. -/
def Records.rosterChange (r : Records) (c : Config) (after : Board) (changes : List Change)
    (time : Timestamp) : RosterChange :=
  .between settings.governedAccount settings.thresholdRule c.publisher (r.board c.maxSeats) after
    changes time

theorem Records.config_after_rosterChange (r : Records) (c : Config) (after : Board)
    (changes : List Change) (time : Timestamp) :
    (r.after (r.rosterChange settings c after changes time).changes).config =
      (r.after changes).config := by
  rw [rosterChange, after_between]

theorem Records.candidates_after_rosterChange (r : Records) (c : Config) (after : Board)
    (changes : List Change) (time : Timestamp) :
    (r.after (r.rosterChange settings c after changes time).changes).candidates =
      (r.after changes).candidates := by
  rw [rosterChange, after_between]

theorem Records.keys_members_after_rosterChange {r : Records} (filed : r.Filed) (c : Config)
    (after : Board) {changes : List Change} (keeps : ∀ change ∈ changes, ¬change.IsMembership)
    (time : Timestamp) :
    (r.after (r.rosterChange settings c after changes time).changes).members.keys =
      after.members.keys := by
  rw [rosterChange, after_between]
  exact keys_rosterAfter (by rw [members_after keeps, keys_board filed])

theorem Records.config_after_append (r : Records) (changes : List Change) (c : Config) :
    (r.after (changes ++ [.putConfig c])).config = some c := by
  rw [after_append]
  rfl

theorem dropNominees_keep (names : List Account) (c : Config) :
    ∀ change ∈ names.map Change.dropNominee ++ [.putConfig c], ¬change.IsMembership := by
  intro change h
  rcases List.mem_append.1 h with h | h
  · obtain ⟨name, -, rfl⟩ := List.mem_map.1 h
    exact id
  · rw [List.mem_singleton.1 h]
    exact id

theorem resolution_keeps (names : List Account) (c : Config) :
    ∀ change ∈ Candidacy.resolution names ++ [.putConfig c], ¬change.IsMembership := by
  intro change h
  rcases List.mem_cons.1 h with rfl | h
  · exact id
  · exact dropNominees_keep names c change h

/-- The roster change that an operation on the board commits, and the receipt it then gives. -/
inductive Prepares (r : Records) (xs : List Exchange) :
    Operation → RosterChange → (Committed → Receipt) → Prop
  | removeMember {member : Account} {c : Config} {after : Board} {time : Timestamp}
    (signed : Signed settings.governedAccount xs) (configured : r.config = some c)
    (left : (r.board c.maxSeats).unseat member = .ok after) (asked : ⟨.now, time⟩ ∈ xs) :
    Prepares r xs (.removeMember member)
      (r.rosterChange settings c after [.putConfig c.noteVacancy] time) .committed
  | resign {member : Account} {c : Config} {after : Board} {time : Timestamp}
    (signed : Signed member xs) (configured : r.config = some c)
    (left : (r.board c.maxSeats).unseat member = .ok after) (asked : ⟨.now, time⟩ ∈ xs) :
    Prepares r xs (.resign member)
      (r.rosterChange settings c after [.putConfig c.noteVacancy] time) .committed
  | endElection {holder : Account} {stored c finished : Config} {ballot : BallotId} {tally : Tally}
    {after : Board} {time : Timestamp} (signed : Signed holder xs)
    (configured : r.config = some stored) (asked : ⟨.now, time⟩ ∈ xs)
    (begun : stored.beginResolving time = .ok (ballot, c))
    (counted : ⟨.tally ballot, .ok tally⟩ ∈ xs)
    (elected : (r.board c.maxSeats).afterElection c.electionKind
      (r.contest settings c tally).outcome.winners = .ok after)
    (closed : finished = c.finishElection time
      (UInt32.ofNat (after.without (r.board c.maxSeats)).length) after.size) :
    Prepares r xs (.endElection holder)
      (r.rosterChange settings c after
        (Candidacy.resolution r.candidateNames ++ [.putConfig finished]) time)
      fun committed => .report
        { ballot, kind := c.electionKind, outcome := (r.contest settings c tally).outcome,
          seated := committed.seated, unseated := committed.unseated,
          openSeats := finished.openSeats }
  | seatBoard {members : List Account} {c : Config} {after : Board} {time : Timestamp}
    (configured : r.config = some c) (signed : Signed c.publisher xs)
    (inactive : c.electionActive = false) (vacant : (r.board c.maxSeats).isEmpty = true)
    (known : ∀ name ∈ members, ⟨.accountExists name, true⟩ ∈ xs)
    (seated : members.foldlM Board.seat (r.board c.maxSeats) = .ok after)
    (asked : ⟨.now, time⟩ ∈ xs) :
    Prepares r xs (.seatBoard members)
      (r.rosterChange settings c after
        ((members.filter fun name => (r.nominees.find? name).isSome).map .dropNominee ++
          [.putConfig { c with openSeats := after.vacancies, lastElectionAt := time }]) time)
      .committed

variable {settings} in
/-- The changes that go with an edit of the board set the record and leave the members to the
edit. -/
theorem Prepares.exists_rosterChange {r : Records} {xs : List Exchange} {op : Operation}
    {change : RosterChange} {receipt : Committed → Receipt}
    (h : Prepares settings r xs op change receipt) : ∃ c after changes time stored finished,
      change = r.rosterChange settings c after changes time ∧ r.config = some stored ∧
      stored.publisher = c.publisher ∧ (∀ change ∈ changes, ¬change.IsMembership) ∧
      (r.after changes).config = some finished ∧ finished.publisher = c.publisher := by
  cases h with
  | removeMember signed configured left asked =>
    exact ⟨_, _, _, _, _, _, rfl, configured, rfl, by simp [Change.IsMembership], rfl, rfl⟩
  | resign signed configured left asked =>
    exact ⟨_, _, _, _, _, _, rfl, configured, rfl, by simp [Change.IsMembership], rfl, rfl⟩
  | endElection signed configured asked begun counted elected closed =>
    obtain ⟨-, -, -, -, rfl⟩ := Config.beginResolving_eq_ok_iff.1 begun
    subst closed
    exact ⟨_, _, _, _, _, _, rfl, configured, rfl, resolution_keeps _ _,
      r.config_after_append _ _, rfl⟩
  | seatBoard configured signed inactive vacant known seated asked =>
    exact ⟨_, _, _, _, _, _, rfl, configured, rfl, dropNominees_keep _ _,
      r.config_after_append _ _, rfl⟩

/-! ### Paths up to the commit -/

/-- The exchanges of an operation that commits a roster change, or is refused before. -/
inductive RosterPath (op : Operation) : List Exchange → Except Refusal Receipt → Prop
  | refused {xs : List Exchange} (quiet : ∀ x ∈ xs, x.call.IsQuiet) (e : Refusal) :
    RosterPath op xs (.error e)
  | committed {ys zs : List Exchange} {change : RosterChange} {receipt : Committed → Receipt}
    {result : Except Refusal Committed} (quiet : ∀ y ∈ ys, y.call.IsQuiet)
    (prepared : ∀ r : Records, (∀ y ∈ ys, r.Tells y) → Prepares settings r ys op change receipt)
    (course : change.Course zs result) : RosterPath op (ys ++ zs) (result.map receipt)

/-- After the quiet exchanges `seen`, the program goes on as in `RosterPath`. -/
def Rosters (op : Operation) (seen : List Exchange) (p : Program Receipt) : Prop :=
  (∀ x ∈ seen, x.call.IsQuiet) →
    ∀ xs result, p.Path xs result → RosterPath settings op (seen ++ xs) result

variable {settings} {op : Operation} {seen : List Exchange}

theorem Rosters.bind {α : Type} {p : Program α} {f : α → Program Receipt}
    (hp : p.OnlyAsks Call.IsQuiet)
    (hf : ∀ a ys, p.Path ys (.ok a) → Rosters settings op (seen ++ ys) (f a)) :
    Rosters settings op seen (p >>= f) := by
  intro quiet xs result path
  rcases path_bind_iff.1 path with ⟨a, ys, zs, hys, hzs, rfl⟩ | ⟨e, hxs, rfl⟩
  · rw [← List.append_assoc]
    refine hf a ys hys (fun x hx => ?_) zs result hzs
    exact (List.mem_append.1 hx).elim (quiet x) (hp.of_mem hys)
  · exact .refused (fun x hx => (List.mem_append.1 hx).elim (quiet x) (hp.of_mem hxs)) e

theorem Rosters.query {α : Type} {p : Program α} {f : α → Program Receipt}
    (hp : p.OnlyAsks Call.IsQuery)
    (hf : ∀ a ys, p.Path ys (.ok a) → Rosters settings op (seen ++ ys) (f a)) :
    Rosters settings op seen (p >>= f) :=
  .bind (hp.mono fun _ => Call.IsQuery.isQuiet) hf

theorem rosters_refuse (e : Refusal) : Rosters settings op seen (refuse e) := by
  intro quiet xs result path
  obtain ⟨rfl, rfl⟩ := path_refuse_iff.1 path
  rw [List.append_nil]
  exact .refused quiet e

theorem rosters_commit {change : RosterChange} {receipt : Committed → Receipt}
    (prepared : ∀ r : Records, (∀ y ∈ seen, r.Tells y) →
      Prepares settings r seen op change receipt) :
    Rosters settings op seen (change.commit >>= fun committed => pure (receipt committed)) := by
  intro quiet xs result path
  rcases path_bind_iff.1 path with ⟨committed, ys, zs, hys, hzs, rfl⟩ | ⟨e, hxs, rfl⟩
  · obtain ⟨rfl, rfl⟩ := path_pure_iff.1 hzs
    rw [List.append_nil]
    exact .committed quiet prepared (RosterChange.course_of_path hys)
  · have course : change.Course xs (.error e) := RosterChange.course_of_path hxs
    exact .committed quiet prepared course

/-! ### The operations -/

@[simp] theorem path_load_ok_iff {maxSeats : UInt32} {xs : List Exchange} {b : Board} :
    (Board.load maxSeats).Path xs (.ok b) ↔ ∃ members : List Member,
      b = ⟨OrderedSet.ofList (members.map (·.name)), maxSeats⟩ ∧
        xs = [⟨.members, .ok members⟩] := by
  unfold Board.load
  simp [and_assoc]

theorem rosters_leaveBoard {member : Account} {wrap : Committed → Receipt}
    (prepared : ∀ (r : Records) (c : Config) (after : Board) (time : Timestamp)
      (ys : List Exchange), (∀ x ∈ seen, x ∈ ys) → r.config = some c →
      (r.board c.maxSeats).unseat member = .ok after → ⟨.now, time⟩ ∈ ys → Prepares settings r ys op
        (r.rosterChange settings c after [.putConfig c.noteVacancy] time) wrap) :
    Rosters settings op seen
      (leaveBoard settings member >>= fun committed => pure (wrap committed)) := by
  unfold leaveBoard
  simp only [bind_assoc]
  refine .query onlyAsks_requireConfig fun c ys₁ hc => ?_
  refine .query (Board.onlyLooksUp_load _).queries fun before ys₂ hbefore => ?_
  refine .query trivial fun after ys₃ hafter => ?_
  refine .query (onlyAsks_call trivial) fun time ys₄ htime => ?_
  rw [path_requireConfig_ok_iff] at hc
  obtain ⟨members, rfl, rfl⟩ := path_load_ok_iff.1 hbefore
  rw [path_now_iff] at htime
  rw [path_ofExcept_iff] at hafter
  obtain ⟨rfl, hafter⟩ := hafter
  subst hc htime
  refine rosters_commit fun r told => ?_
  have hconfig : some c = r.config := told ⟨.config, .ok (some c)⟩ (by simp)
  have hmembers : members = r.members.values := told ⟨.members, .ok members⟩ (by simp)
  subst hmembers
  exact prepared r c after time _ (by simp +contextual) hconfig.symm hafter.symm (by simp)

theorem rosters_removeMember (member : Account) :
    Rosters settings (.removeMember member) []
      ((Operation.removeMember member).program settings) := by
  show Rosters settings _ [] (removeMember settings member >>= fun committed => _)
  unfold removeMember
  rw [bind_assoc]
  refine .query (onlyAsks_authorize _) fun _ ys hys => ?_
  rw [path_authorize_ok_iff] at hys
  subst hys
  exact rosters_leaveBoard fun r c after time ys sub hconfig hafter htime =>
    .removeMember (sub _ (by simp)) hconfig hafter htime

theorem rosters_resign (member : Account) :
    Rosters settings (.resign member) [] ((Operation.resign member).program settings) := by
  show Rosters settings _ [] (resign settings member >>= fun committed => _)
  unfold resign
  rw [bind_assoc]
  refine .query (onlyAsks_authorize _) fun _ ys hys => ?_
  rw [path_authorize_ok_iff] at hys
  subst hys
  exact rosters_leaveBoard fun r c after time ys sub hconfig hafter htime =>
    .resign (sub _ (by simp)) hconfig hafter htime

theorem rosters_endElection (holder : Account) :
    Rosters settings (.endElection holder) []
      ((Operation.endElection holder).program settings) := by
  show Rosters settings _ [] (endElection settings holder >>= fun report => _)
  unfold endElection
  simp only [bind_assoc, pure_bind]
  refine .query (onlyAsks_authorize _) fun _ ys₁ hsigned => ?_
  refine .query onlyAsks_requireConfig fun stored ys₂ hstored => ?_
  refine .query (onlyAsks_call trivial) fun time ys₃ htime => ?_
  refine .query trivial fun begun ys₄ hbegun => ?_
  obtain ⟨ballot, c⟩ := begun
  refine .bind ((onlyAsks_call trivial).bind fun _ => trivial) fun tally ys₅ htally => ?_
  refine .query Candidacy.onlyLooksUp_names.queries fun candidates ys₆ hcandidates => ?_
  refine .query (Board.onlyLooksUp_load _).queries fun before ys₇ hbefore => ?_
  refine .query trivial fun after ys₈ hafter => ?_
  rw [path_authorize_ok_iff] at hsigned
  rw [path_requireConfig_ok_iff] at hstored
  rw [path_now_iff] at htime
  rw [path_tally_ok_iff] at htally
  rw [path_ofExcept_iff] at hbegun hafter
  obtain ⟨rfl, hbegun⟩ := hbegun
  obtain ⟨records, rfl, rfl⟩ := Candidacy.path_names_ok_iff.1 hcandidates
  obtain ⟨members, rfl, rfl⟩ := path_load_ok_iff.1 hbefore
  obtain ⟨rfl, hafter⟩ := hafter
  subst hsigned hstored htime htally
  refine rosters_commit fun r told => ?_
  have hconfig : some stored = r.config := told ⟨.config, .ok (some stored)⟩ (by simp)
  have hrecords : records = r.candidates.values := told ⟨.candidates, .ok records⟩ (by simp)
  have hmembers : members = r.members.values := told ⟨.members, .ok members⟩ (by simp)
  subst hrecords hmembers
  exact .endElection (by simp [Signed]) hconfig.symm (by simp) hbegun.symm (by simp) hafter.symm rfl

/-- The founders are seated in turn, each known to the host; the nominees among them are dropped. -/
theorem path_seatFounders {names : List Account} {board after : Board}
    {changes dropped : List Change} {xs : List Exchange}
    (path : (seatFounders board changes names).Path xs (.ok (after, dropped))) :
    names.foldlM Board.seat board = .ok after ∧
      (∀ name ∈ names, ⟨.accountExists name, true⟩ ∈ xs) ∧
      ∀ r : Records, (∀ x ∈ xs, r.Tells x) → dropped = changes ++
        (names.filter fun name => (r.nominees.find? name).isSome).map .dropNominee := by
  induction names generalizing board changes xs with
  | nil =>
    obtain ⟨rfl, h⟩ := path_pure_iff.1 path
    cases h
    exact ⟨rfl, by simp, by simp⟩
  | cons name rest ih =>
    unfold seatFounders at path
    simp at path
    obtain ⟨us, ⟨next, hseat, path⟩, rfl⟩ := path
    have fold (h : rest.foldlM Board.seat next = .ok after) :
        (name :: rest).foldlM Board.seat board = .ok after := by
      rw [List.foldlM_cons, ← hseat]
      exact h
    rcases path with ⟨vs, path, rfl⟩ | ⟨nominee, hnominee, vs, path, rfl⟩
    · obtain ⟨hfold, hknown, hdropped⟩ := ih path
      refine ⟨fold hfold, List.forall_mem_cons.2 ⟨by simp, fun n hn => by simp [hknown n hn]⟩,
        fun r told => ?_⟩
      have hname : none = r.nominees.find? name := told ⟨.nominee name, .ok none⟩ (by simp)
      rw [hdropped r fun x hx => told x (by simp [hx]),
        List.filter_cons_of_neg (by simp [← hname])]
    · obtain ⟨hfold, hknown, hdropped⟩ := ih path
      refine ⟨fold hfold, List.forall_mem_cons.2 ⟨by simp, fun n hn => by simp [hknown n hn]⟩,
        fun r told => ?_⟩
      have hname : nominee = r.nominees.find? name := told ⟨.nominee name, .ok nominee⟩ (by simp)
      rw [hdropped r fun x hx => told x (by simp [hx]),
        List.filter_cons_of_pos (by simp [← hname, hnominee])]
      simp

theorem rosters_seatBoard (members : List Account) :
    Rosters settings (.seatBoard members) [] ((Operation.seatBoard members).program settings) := by
  show Rosters settings _ [] (seatBoard settings members >>= fun committed => _)
  unfold seatBoard
  simp only [bind_assoc]
  refine .query onlyAsks_requireConfig fun c ys₁ hc => ?_
  refine .query (onlyAsks_authorize _) fun _ ys₂ hsigned => ?_
  split
  · exact rosters_refuse _
  next hactive =>
  rw [bind_assoc]
  refine .query (Board.onlyLooksUp_load _).queries fun before ys₃ hbefore => ?_
  split
  · next hempty =>
    simp only [bind_assoc]
    refine .query (onlyLooksUp_seatFounders _ _ _).queries fun founded ys₄ hfounded => ?_
    obtain ⟨after, dropped⟩ := founded
    refine .query (onlyAsks_call trivial) fun time ys₅ htime => ?_
    rw [path_requireConfig_ok_iff] at hc
    rw [path_authorize_ok_iff] at hsigned
    rw [path_now_iff] at htime
    obtain ⟨stored, rfl, rfl⟩ := path_load_ok_iff.1 hbefore
    obtain ⟨hseated, hknown, hdropped⟩ := path_seatFounders hfounded
    subst hc hsigned htime
    refine rosters_commit fun r told => ?_
    have hconfig : some c = r.config := told ⟨.config, .ok (some c)⟩ (by simp)
    have hstored : stored = r.members.values := told ⟨.members, .ok stored⟩ (by simp)
    subst hstored
    obtain rfl := hdropped r fun x hx => told x (by simp [hx])
    exact .seatBoard hconfig.symm (by simp [Signed]) (by simpa using hactive) hempty
      (fun name hname => by simp [hknown name hname]) hseated (by simp)
  · exact rosters_refuse _

/-- An operation on the board commits what it has prepared, or is refused before. -/
theorem rosterPath_of_path (h : op.EditsBoard) {xs : List Exchange}
    {result : Except Refusal Receipt} (path : (op.program settings).Path xs result) :
    RosterPath settings op xs result := by
  have rosters : Rosters settings op [] (op.program settings) := by
    cases op with
    | endElection holder => exact rosters_endElection holder
    | removeMember member => exact rosters_removeMember member
    | resign member => exact rosters_resign member
    | seatBoard members => exact rosters_seatBoard members
    | _ => exact h.elim
  exact rosters (by simp) xs result path

theorem Prepares.mono {r : Records} {xs ys : List Exchange} {change : RosterChange}
    {receipt : Committed → Receipt} (h : Prepares settings r ys op change receipt)
    (sub : ∀ y ∈ ys, y ∈ xs) : Prepares settings r xs op change receipt := by
  cases h with
  | removeMember signed configured left asked =>
    exact .removeMember (sub _ signed) configured left (sub _ asked)
  | resign signed configured left asked =>
    exact .resign (sub _ signed) configured left (sub _ asked)
  | endElection signed configured asked begun counted elected closed =>
    exact .endElection (sub _ signed) configured (sub _ asked) begun (sub _ counted) elected closed
  | seatBoard configured signed inactive vacant known seated asked =>
    exact .seatBoard configured (sub _ signed) inactive vacant
      (fun name hname => sub _ (known name hname))
      seated (sub _ asked)

end TrusteeBoard
