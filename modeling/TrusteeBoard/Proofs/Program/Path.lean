import TrusteeBoard.Program

/-!
# Paths of programs

A path of a program is the list of questions it asks, with the answers, from its start to its end
(`Program.Path`). Every answer of the right form is possible, so a fact about all paths is a fact
about all collaborators; `path_run` says that a run goes along a path. The lemmas `path_…_iff` read
off the path of each question, and `path_bind_ok_iff` cuts the path of a sequence. `OnlyAsks` bounds
the questions of a program on every path.
-/

namespace TrusteeBoard

/-- Whether a call writes to the store. -/
def Call.IsWrite : Call → Prop
  | .apply _ => True
  | _ => False

/-- Whether a call only asks the store or the host, so that nothing can change by it. -/
def Call.IsQuery : Call → Prop
  | .apply _ => False
  | .setAuthority _ _ => False
  | .openBallot _ _ _ _ _ => False
  | .addOption _ _ => False
  | .removeOption _ _ => False
  | .openVoting _ => False
  | .tally _ => False
  | _ => True

/-- Whether the call asks for the authority of an account. -/
def Call.AsksAuthority : Call → Prop
  | .authorize _ => True
  | _ => False

/-- Whether the call is a query, and of something else than an authority. -/
def Call.IsLookup (c : Call) : Prop :=
  c.IsQuery ∧ ¬c.AsksAuthority

/-- Whether the call pushes an authority to the host. -/
def Call.IsPush : Call → Prop
  | .setAuthority _ _ => True
  | _ => False

/-- Whether the call neither writes nor pushes an authority. -/
def Call.IsQuiet : Call → Prop
  | .apply _ => False
  | .setAuthority _ _ => False
  | _ => True

theorem Call.IsQuery.isQuiet {c : Call} (h : c.IsQuery) : c.IsQuiet := by
  cases c <;> first | exact h.elim | trivial

theorem Call.IsQuiet.not_isWrite {c : Call} (h : c.IsQuiet) : ¬c.IsWrite := by
  cases c <;> first | exact h.elim | exact id

theorem Call.IsQuiet.not_isPush {c : Call} (h : c.IsQuiet) : ¬c.IsPush := by
  cases c <;> first | exact h.elim | exact id

namespace Program

variable {α β σ : Type}

/-! ### Laws -/

@[simp] theorem pure_bind (a : α) (f : α → Program β) : pure a >>= f = f a := rfl

@[simp] theorem refuse_bind (e : Refusal) (f : α → Program β) : refuse e >>= f = refuse e := rfl

theorem bind_assoc {γ : Type} (p : Program α) (f : α → Program β) (g : β → Program γ) :
    p >>= f >>= g = p >>= fun a => f a >>= g := by
  induction p with
  | done r => cases r <;> rfl
  | ask c next ih => exact congrArg (ask c) (funext fun answer => ih answer)

/-! ### Paths -/

/-- A way through a program, with the questions, their answers and the end. -/
inductive Path : Program α → List Exchange → Except Refusal α → Prop
  | done (result : Except Refusal α) : Path (.done result) [] result
  | ask {call : Call} {next : call.Answer → Program α} (answer : call.Answer)
      {xs : List Exchange} {result : Except Refusal α} (rest : Path (next answer) xs result) :
      Path (.ask call next) (⟨call, answer⟩ :: xs) result

theorem exchanges_ask (answer : (c : Call) → σ → c.Answer × σ) (c : Call)
    (next : c.Answer → Program α) (s : σ) : (ask c next).exchanges answer s =
      ⟨c, (answer c s).1⟩ :: (next (answer c s).1).exchanges answer (answer c s).2 :=
  rfl

theorem path_run (answer : (c : Call) → σ → c.Answer × σ) (p : Program α) (s : σ) :
    p.Path (p.exchanges answer s) (p.run answer s).1 := by
  induction p generalizing s with
  | done result => exact .done result
  | ask call next ih => exact .ask _ (ih _ _)

theorem path_done_iff {r result : Except Refusal α} {xs : List Exchange} :
    Path (.done r) xs result ↔ xs = [] ∧ result = r := by
  constructor
  · rintro ⟨⟩
    exact ⟨rfl, rfl⟩
  · rintro ⟨rfl, rfl⟩
    exact .done _

theorem path_ask_iff {c : Call} {next : c.Answer → Program α} {xs : List Exchange}
    {result : Except Refusal α} :
    Path (.ask c next) xs result ↔ ∃ a ys, xs = ⟨c, a⟩ :: ys ∧ (next a).Path ys result := by
  constructor
  · rintro (_ | ⟨a, rest⟩)
    exact ⟨a, _, rfl, rest⟩
  · rintro ⟨a, ys, rfl, rest⟩
    exact .ask a rest

@[simp] theorem path_pure_iff {a : α} {xs : List Exchange} {result : Except Refusal α} :
    Path (pure a) xs result ↔ xs = [] ∧ result = .ok a :=
  path_done_iff

@[simp] theorem path_refuse_iff {e : Refusal} {xs : List Exchange} {result : Except Refusal α} :
    Path (refuse e) xs result ↔ xs = [] ∧ result = .error e :=
  path_done_iff

@[simp] theorem path_ofExcept_iff {r result : Except Refusal α} {xs : List Exchange} :
    Path (ofExcept r) xs result ↔ xs = [] ∧ result = r :=
  path_done_iff

theorem path_call_ok_iff {c : Call} {xs : List Exchange} {a : c.Answer} :
    (call c).Path xs (.ok a) ↔ xs = [⟨c, a⟩] := by
  simp only [call, path_ask_iff, path_done_iff]
  constructor
  · rintro ⟨_, _, rfl, rfl, ⟨⟩⟩
    rfl
  · rintro rfl
    exact ⟨a, [], rfl, rfl, rfl⟩

/-! ### Sequences -/

theorem Path.bind {p : Program α} {f : α → Program β} {xs ys : List Exchange} {a : α}
    {result : Except Refusal β} (hp : p.Path xs (.ok a)) (hf : (f a).Path ys result) :
    (p >>= f).Path (xs ++ ys) result := by
  induction p generalizing xs with
  | done r =>
    obtain ⟨rfl, rfl⟩ := path_done_iff.1 hp
    exact hf
  | ask c next ih =>
    obtain ⟨answer, zs, rfl, rest⟩ := path_ask_iff.1 hp
    exact .ask answer (ih answer rest)

theorem Path.bind_error {p : Program α} {xs : List Exchange} {e : Refusal}
    (hp : p.Path xs (.error e)) (f : α → Program β) : (p >>= f).Path xs (.error e) := by
  induction p generalizing xs with
  | done r =>
    obtain ⟨rfl, rfl⟩ := path_done_iff.1 hp
    exact .done _
  | ask c next ih =>
    obtain ⟨answer, zs, rfl, rest⟩ := path_ask_iff.1 hp
    exact .ask answer (ih answer rest)

/-- The path of a sequence is a path of its first part, followed by one of the rest unless the
first part is refused. -/
theorem path_bind_iff {p : Program α} {f : α → Program β} {xs : List Exchange}
    {result : Except Refusal β} :
    (p >>= f).Path xs result ↔
      (∃ a ys zs, p.Path ys (.ok a) ∧ (f a).Path zs result ∧ xs = ys ++ zs) ∨
        ∃ e, p.Path xs (.error e) ∧ result = .error e := by
  constructor
  · intro h
    induction p generalizing xs with
    | done r =>
      cases r with
      | ok a => exact .inl ⟨a, [], xs, .done _, h, rfl⟩
      | error e =>
        obtain ⟨rfl, rfl⟩ := path_done_iff.1 h
        exact .inr ⟨e, .done _, rfl⟩
    | ask c next ih =>
      obtain ⟨answer, zs, rfl, rest⟩ := path_ask_iff.1 h
      rcases ih answer rest with ⟨a, us, vs, hp, hf, rfl⟩ | ⟨e, hp, rfl⟩
      · exact .inl ⟨a, _, vs, .ask answer hp, hf, rfl⟩
      · exact .inr ⟨e, .ask answer hp, rfl⟩
  · rintro (⟨a, ys, zs, hp, hf, rfl⟩ | ⟨e, hp, rfl⟩)
    · exact hp.bind hf
    · exact hp.bind_error f

@[simp] theorem path_bind_ok_iff {p : Program α} {f : α → Program β} {xs : List Exchange} {b : β} :
    (p >>= f).Path xs (.ok b) ↔
      ∃ a ys zs, p.Path ys (.ok a) ∧ (f a).Path zs (.ok b) ∧ xs = ys ++ zs := by
  rw [path_bind_iff]
  simp

theorem path_bind_pure_iff {p : Program α} {g : α → β} {xs : List Exchange}
    {result : Except Refusal β} :
    (p >>= fun a => pure (g a)).Path xs result ↔ ∃ made, p.Path xs made ∧ result = made.map g := by
  rw [path_bind_iff]
  constructor
  · rintro (⟨a, ys, zs, path, last, rfl⟩ | ⟨e, refused, rfl⟩)
    · obtain ⟨rfl, rfl⟩ := path_pure_iff.1 last
      exact ⟨.ok a, by rwa [List.append_nil], rfl⟩
    · exact ⟨.error e, refused, rfl⟩
  · rintro ⟨e | a, path, rfl⟩
    · exact .inr ⟨e, path, rfl⟩
    · exact .inl ⟨a, xs, [], path, path_pure_iff.2 ⟨rfl, rfl⟩, (List.append_nil xs).symm⟩

/-- The path of a sequence that starts with a plain call. -/
theorem path_bind_pure_ok_iff {p : Program α} {g : α → β} {xs : List Exchange} {b : β} :
    (p >>= fun a => pure (g a)).Path xs (.ok b) ↔ ∃ a, b = g a ∧ p.Path xs (.ok a) := by
  simp only [path_bind_ok_iff, path_pure_iff]
  constructor
  · rintro ⟨a, ys, zs, path, ⟨rfl, h⟩, rfl⟩
    cases h
    exact ⟨a, rfl, by rwa [List.append_nil]⟩
  · rintro ⟨a, rfl, path⟩
    exact ⟨a, xs, [], path, ⟨rfl, rfl⟩, (List.append_nil xs).symm⟩

theorem path_call_bind_iff {c : Call} {f : c.Answer → Program β} {xs : List Exchange}
    {result : Except Refusal β} :
    (call c >>= f).Path xs result ↔ ∃ a ys, xs = ⟨c, a⟩ :: ys ∧ (f a).Path ys result :=
  path_ask_iff

/-! ### Guards -/

@[simp] theorem path_ite_refuse_ok_iff {c : Prop} [Decidable c] {e : Refusal} {p : Program α}
    {xs : List Exchange} {a : α} :
    (if c then refuse e else p).Path xs (.ok a) ↔ ¬c ∧ p.Path xs (.ok a) := by
  split <;> simp_all [path_refuse_iff]

@[simp] theorem path_ite_else_refuse_ok_iff {c : Prop} [Decidable c] {e : Refusal} {p : Program α}
    {xs : List Exchange} {a : α} :
    (if c then p else refuse e).Path xs (.ok a) ↔ c ∧ p.Path xs (.ok a) := by
  split <;> simp_all [path_refuse_iff]

/-! ### Questions whose failure refuses -/

theorem mapError_eq_ok_iff {ε : Type} {f : ε → Refusal} {x : Except ε α} {a : α} :
    x.mapError f = .ok a ↔ x = .ok a := by
  cases x with
  | ok b =>
    show (Except.ok b : Except Refusal α) = .ok a ↔ _
    rw [Except.ok.injEq, Except.ok.injEq]
  | error e =>
    show (Except.error (f e) : Except Refusal α) = .ok a ↔ _
    simp

theorem path_ofAnswer_ok_iff {ε : Type} {f : ε → Refusal} {c : Call}
    {read : c.Answer → Except ε α} {xs : List Exchange} {a : α} :
    (call c >>= fun x => .done ((read x).mapError f)).Path xs (.ok a) ↔
      ∃ x, xs = [⟨c, x⟩] ∧ read x = .ok a := by
  simp only [path_call_bind_iff, path_done_iff]
  constructor
  · rintro ⟨x, ys, rfl, rfl, hx⟩
    exact ⟨x, rfl, mapError_eq_ok_iff.1 hx.symm⟩
  · rintro ⟨x, rfl, hx⟩
    exact ⟨x, [], rfl, rfl, (mapError_eq_ok_iff.2 hx).symm⟩

theorem path_ofStore_ok_iff {c : Call} {read : c.Answer → Except StoreError α}
    {xs : List Exchange} {a : α} :
    (call c >>= fun x => ofStore (read x)).Path xs (.ok a) ↔
      ∃ x, xs = [⟨c, x⟩] ∧ read x = .ok a :=
  path_ofAnswer_ok_iff

theorem path_ofBallots_ok_iff {c : Call} {read : c.Answer → Except BallotError α}
    {xs : List Exchange} {a : α} :
    (call c >>= fun x => ofBallots (read x)).Path xs (.ok a) ↔
      ∃ x, xs = [⟨c, x⟩] ∧ read x = .ok a :=
  path_ofAnswer_ok_iff

theorem path_ofHost_ok_iff {c : Call} {read : c.Answer → Except HostError α}
    {xs : List Exchange} {a : α} :
    (call c >>= fun x => ofHost (read x)).Path xs (.ok a) ↔
      ∃ x, xs = [⟨c, x⟩] ∧ read x = .ok a :=
  path_ofAnswer_ok_iff

/-! ### Single questions -/

@[simp] theorem path_config_ok_iff {xs : List Exchange} {a : Option Config} :
    config.Path xs (.ok a) ↔ xs = [⟨.config, .ok a⟩] :=
  path_ofStore_ok_iff.trans (by simp)

@[simp] theorem path_nominee_ok_iff {name : Account} {xs : List Exchange} {a : Option Nominee} :
    (nominee name).Path xs (.ok a) ↔ xs = [⟨.nominee name, .ok a⟩] :=
  path_ofStore_ok_iff.trans (by simp)

@[simp] theorem path_candidate_ok_iff {name : Account} {xs : List Exchange} {a : Option Candidate} :
    (candidate name).Path xs (.ok a) ↔ xs = [⟨.candidate name, .ok a⟩] :=
  path_ofStore_ok_iff.trans (by simp)

@[simp] theorem path_candidates_ok_iff {xs : List Exchange} {a : List Candidate} :
    candidates.Path xs (.ok a) ↔ xs = [⟨.candidates, .ok a⟩] :=
  path_ofStore_ok_iff.trans (by simp)

@[simp] theorem path_member_ok_iff {name : Account} {xs : List Exchange} {a : Option Member} :
    (member name).Path xs (.ok a) ↔ xs = [⟨.member name, .ok a⟩] :=
  path_ofStore_ok_iff.trans (by simp)

@[simp] theorem path_members_ok_iff {xs : List Exchange} {a : List Member} :
    members.Path xs (.ok a) ↔ xs = [⟨.members, .ok a⟩] :=
  path_ofStore_ok_iff.trans (by simp)

@[simp] theorem path_memberCount_ok_iff {xs : List Exchange} {a : UInt32} :
    memberCount.Path xs (.ok a) ↔ xs = [⟨.memberCount, .ok a⟩] :=
  path_ofStore_ok_iff.trans (by simp)

@[simp] theorem path_apply_ok_iff {changes : List Change} {xs : List Exchange} {a : Unit} :
    (apply changes).Path xs (.ok a) ↔ xs = [⟨.apply changes, .ok a⟩] :=
  path_ofStore_ok_iff.trans (by simp)

@[simp] theorem path_setAuthority_ok_iff {account : Account} {authority : Authority}
    {xs : List Exchange} {a : Unit} :
    (setAuthority account authority).Path xs (.ok a) ↔
      xs = [⟨.setAuthority account authority, .ok a⟩] :=
  path_ofHost_ok_iff.trans (by simp)

@[simp] theorem path_addOption_ok_iff {ballot : BallotId} {option : Account} {xs : List Exchange}
    {a : Unit} :
    (addOption ballot option).Path xs (.ok a) ↔ xs = [⟨.addOption ballot option, .ok a⟩] :=
  path_ofBallots_ok_iff.trans (by simp)

@[simp] theorem path_removeOption_ok_iff {ballot : BallotId} {option : Account}
    {xs : List Exchange} {a : Unit} :
    (removeOption ballot option).Path xs (.ok a) ↔ xs = [⟨.removeOption ballot option, .ok a⟩] :=
  path_ofBallots_ok_iff.trans (by simp)

@[simp] theorem path_openVoting_ok_iff {ballot : BallotId} {xs : List Exchange} {a : Unit} :
    (openVoting ballot).Path xs (.ok a) ↔ xs = [⟨.openVoting ballot, .ok a⟩] :=
  path_ofBallots_ok_iff.trans (by simp)

@[simp] theorem path_tally_ok_iff {ballot : BallotId} {xs : List Exchange} {a : Tally} :
    (tally ballot).Path xs (.ok a) ↔ xs = [⟨.tally ballot, .ok a⟩] :=
  path_ofBallots_ok_iff.trans (by simp)

@[simp] theorem path_openBallot_ok_iff {name : String} {treasury : TreasurySymbol}
    {options : List Account} {begins ends : Timestamp} {xs : List Exchange} {a : BallotId} :
    (openBallot name treasury options begins ends).Path xs (.ok a) ↔
      xs = [⟨.openBallot name treasury options begins ends, .ok a⟩] :=
  path_ofBallots_ok_iff.trans (by simp)

@[simp] theorem path_now_iff {xs : List Exchange} {time : Timestamp} :
    now.Path xs (.ok time) ↔ xs = [⟨.now, time⟩] :=
  path_call_ok_iff

@[simp] theorem path_accountExists_iff {account : Account} {xs : List Exchange} {b : Bool} :
    (accountExists account).Path xs (.ok b) ↔ xs = [⟨.accountExists account, b⟩] :=
  path_call_ok_iff

@[simp] theorem path_isNominee_ok_iff {name : Account} {xs : List Exchange} {b : Bool} :
    (isNominee name).Path xs (.ok b) ↔ ∃ a, b = a.isSome ∧ xs = [⟨.nominee name, .ok a⟩] := by
  simp [isNominee, and_assoc]

@[simp] theorem path_isCandidate_ok_iff {name : Account} {xs : List Exchange} {b : Bool} :
    (isCandidate name).Path xs (.ok b) ↔
      ∃ a, b = a.isSome ∧ xs = [⟨.candidate name, .ok a⟩] := by
  simp [isCandidate, and_assoc]

@[simp] theorem path_isMember_ok_iff {name : Account} {xs : List Exchange} {b : Bool} :
    (isMember name).Path xs (.ok b) ↔ ∃ a, b = a.isSome ∧ xs = [⟨.member name, .ok a⟩] := by
  simp [isMember, and_assoc]

@[simp] theorem path_requireConfig_ok_iff {xs : List Exchange} {c : Config} :
    requireConfig.Path xs (.ok c) ↔ xs = [⟨.config, .ok (some c)⟩] := by
  simp only [requireConfig, path_bind_ok_iff, path_config_ok_iff]
  constructor
  · rintro ⟨_ | _, _, zs, rfl, h, rfl⟩
    · simp at h
    · obtain ⟨rfl, ⟨⟩⟩ := path_pure_iff.1 h
      rfl
  · rintro rfl
    exact ⟨some c, _, [], rfl, .done _, rfl⟩

/-- What the host answers when it denies an authority and nothing else is wrong. -/
def Denied (account : Account) (x : Exchange) : Prop :=
  ∃ named, x = ⟨.authorize account, .error (.missingAuthority named)⟩

@[simp] theorem path_authorize_ok_iff {account : Account} {xs : List Exchange} {u : Unit} :
    (authorize account).Path xs (.ok u) ↔ xs = [⟨.authorize account, .ok ()⟩] := by
  unfold authorize
  rw [path_call_bind_iff]
  constructor
  · rintro ⟨e | _, ys, rfl, h⟩
    · cases e <;> simp at h
    · obtain ⟨rfl, -⟩ := path_pure_iff.1 h
      rfl
  · rintro rfl
    exact ⟨.ok (), [], rfl, .done _⟩

@[simp] theorem path_authorizeEither_ok_iff {first second : Account} {xs : List Exchange}
    {u : Unit} :
    (authorizeEither first second).Path xs (.ok u) ↔
      xs = [⟨.authorize first, .ok ()⟩] ∨
        ∃ x, Denied first x ∧ xs = [x, ⟨.authorize second, .ok ()⟩] := by
  unfold authorizeEither
  rw [path_call_bind_iff]
  constructor
  · rintro ⟨e | _, ys, rfl, h⟩
    · cases e with
      | missingAuthority named =>
        refine .inr ⟨_, ⟨named, rfl⟩, ?_⟩
        obtain ⟨e | _, zs, rfl, rest⟩ := path_call_bind_iff.1 h
        · cases e <;> simp at rest
        · obtain ⟨rfl, -⟩ := path_pure_iff.1 rest
          rfl
      | authorityRejected => simp at h
      | other => simp at h
    · obtain ⟨rfl, -⟩ := path_pure_iff.1 h
      exact .inl rfl
  · rintro (rfl | ⟨_, ⟨named, rfl⟩, rfl⟩)
    · exact ⟨.ok (), [], rfl, .done _⟩
    · exact ⟨_, _, rfl, path_call_bind_iff.2 ⟨.ok (), [], rfl, .done _⟩⟩

/-! ### Programs that ask only some questions -/

/-- On every path, only calls in `allowed` are made. -/
def OnlyAsks (allowed : Call → Prop) : Program α → Prop
  | .done _ => True
  | .ask call next => allowed call ∧ ∀ answer, (next answer).OnlyAsks allowed

theorem OnlyAsks.mono {p : Program α} {allowed allowed' : Call → Prop} (h : p.OnlyAsks allowed)
    (hc : ∀ c, allowed c → allowed' c) : p.OnlyAsks allowed' := by
  induction p with
  | done r => trivial
  | ask c next ih => exact ⟨hc c h.1, fun answer => ih answer (h.2 answer)⟩

theorem OnlyAsks.bind {allowed : Call → Prop} {p : Program α} {f : α → Program β}
    (hp : p.OnlyAsks allowed) (hf : ∀ a, (f a).OnlyAsks allowed) :
    (p >>= f).OnlyAsks allowed := by
  induction p with
  | done r =>
    cases r with
    | ok a => exact hf a
    | error e => trivial
  | ask c next ih => exact ⟨hp.1, fun answer => ih answer (hp.2 answer)⟩

/-- The calls on a path are among those the program may make. -/
theorem OnlyAsks.of_mem {allowed : Call → Prop} {p : Program α} {xs : List Exchange}
    {result : Except Refusal α} (h : p.OnlyAsks allowed) (path : p.Path xs result) {x : Exchange}
    (hx : x ∈ xs) : allowed x.call := by
  induction path with
  | done r => cases hx
  | ask answer rest ih =>
    rcases List.mem_cons.1 hx with rfl | hx
    · exact h.1
    · exact ih (h.2 answer) hx

/-- What follows need only be asked of the results that the first part can have. -/
theorem OnlyAsks.bind_of_path {allowed : Call → Prop} {p : Program α} {f : α → Program β}
    (hp : p.OnlyAsks allowed) (hf : ∀ a xs, p.Path xs (.ok a) → (f a).OnlyAsks allowed) :
    (p >>= f).OnlyAsks allowed := by
  induction p with
  | done r =>
    cases r with
    | ok a => exact hf a [] (.done _)
    | error e => trivial
  | ask c next ih =>
    exact ⟨hp.1, fun answer => ih answer (hp.2 answer) fun a xs path => hf a _ (.ask answer path)⟩

section Questions

variable {allowed : Call → Prop} {name account : Account}

theorem onlyAsks_call {c : Call} (h : allowed c) : (call c).OnlyAsks allowed :=
  ⟨h, fun _ => trivial⟩

/-- Covers every single question to the store. -/
theorem OnlyAsks.ofStore {c : Call} (h : allowed c) {read : c.Answer → Except StoreError α} :
    (call c >>= fun x => Program.ofStore (read x)).OnlyAsks allowed :=
  (onlyAsks_call h).bind fun _ => trivial

/-- Covers every single question to the ballot service. -/
theorem OnlyAsks.ofBallots {c : Call} (h : allowed c) {read : c.Answer → Except BallotError α} :
    (call c >>= fun x => Program.ofBallots (read x)).OnlyAsks allowed :=
  (onlyAsks_call h).bind fun _ => trivial

theorem OnlyAsks.isNominee (h : allowed (.nominee name)) : (isNominee name).OnlyAsks allowed :=
  OnlyAsks.bind (.ofStore h) fun _ => trivial

theorem OnlyAsks.isCandidate (h : allowed (.candidate name)) :
    (isCandidate name).OnlyAsks allowed :=
  OnlyAsks.bind (.ofStore h) fun _ => trivial

theorem OnlyAsks.isMember (h : allowed (.member name)) : (isMember name).OnlyAsks allowed :=
  OnlyAsks.bind (.ofStore h) fun _ => trivial

theorem OnlyAsks.requireConfig (h : allowed .config) : requireConfig.OnlyAsks allowed :=
  OnlyAsks.bind (.ofStore h) fun stored => by cases stored <;> trivial

theorem OnlyAsks.authorize (h : allowed (.authorize account)) :
    (authorize account).OnlyAsks allowed := by
  refine (onlyAsks_call h).bind fun answer => ?_
  split <;> trivial

theorem OnlyAsks.authorizeEither {first second : Account} (h : allowed (.authorize first))
    (h' : allowed (.authorize second)) : (authorizeEither first second).OnlyAsks allowed := by
  refine (onlyAsks_call h).bind fun answer => ?_
  split
  · trivial
  · refine (onlyAsks_call h').bind fun answer => ?_
    split <;> trivial
  · trivial

end Questions

theorem onlyAsks_ofStore (c : Call) {read : c.Answer → Except StoreError α} (h : c.IsQuery) :
    (call c >>= fun x => ofStore (read x)).OnlyAsks Call.IsQuery :=
  .ofStore h

theorem OnlyAsks.queries {p : Program α} (h : p.OnlyAsks Call.IsLookup) :
    p.OnlyAsks Call.IsQuery :=
  h.mono fun _ => And.left

theorem onlyLooksUp_ofStore (c : Call) {read : c.Answer → Except StoreError α} (h : c.IsLookup) :
    (call c >>= fun x => ofStore (read x)).OnlyAsks Call.IsLookup :=
  .ofStore h

theorem onlyLooksUp_isNominee (name : Account) : (isNominee name).OnlyAsks Call.IsLookup :=
  .isNominee ⟨trivial, id⟩

theorem onlyLooksUp_isCandidate (name : Account) : (isCandidate name).OnlyAsks Call.IsLookup :=
  .isCandidate ⟨trivial, id⟩

theorem onlyLooksUp_requireConfig : requireConfig.OnlyAsks Call.IsLookup :=
  .requireConfig ⟨trivial, id⟩

theorem onlyAsks_requireConfig : requireConfig.OnlyAsks Call.IsQuery :=
  onlyLooksUp_requireConfig.queries

theorem onlyAsks_authorize (account : Account) : (authorize account).OnlyAsks Call.IsQuery :=
  .authorize trivial

theorem onlyAsks_authorizeEither (first second : Account) :
    (authorizeEither first second).OnlyAsks Call.IsQuery :=
  .authorizeEither trivial trivial

end Program

end TrusteeBoard
