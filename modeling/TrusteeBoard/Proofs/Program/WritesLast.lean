import TrusteeBoard.Proofs.Program.Path

/-!
# Programs that write last

A program writes last (`Program.WritesLast`) when a write to the store that goes through is followed
by nothing but the result, and only refusals follow a write that fails or no write at all. Such a
program changes the store once or not at all: `Path.stored_of_ok` and `Path.unstored_of_error` read
this off a path. Programs that never write may come first (`WritesLast.bind`). The parameter
`pushes` says whether the program may push an authority to the host (`WritesLast.noPush`).
-/

namespace TrusteeBoard

/-- Whether the exchange is a write that was carried out. -/
def Exchange.IsStored : Exchange → Prop
  | ⟨.apply _, .ok _⟩ => True
  | _ => False

theorem Exchange.isWrite_of_isStored {x : Exchange} (h : x.IsStored) : x.call.IsWrite := by
  obtain ⟨c, a⟩ := x
  cases c <;> first | exact h.elim | trivial

/-- Whether the call leaves the store, and the authority too unless `pushes`. -/
def Call.Spares (pushes : Prop) (c : Call) : Prop :=
  c.IsQuiet ∨ pushes ∧ c.IsPush

theorem Call.Spares.not_isWrite {pushes : Prop} {c : Call} (h : c.Spares pushes) : ¬c.IsWrite := by
  rcases h with h | ⟨-, h⟩
  · exact h.not_isWrite
  · cases c <;> first | exact h.elim | exact id

namespace Program

variable {α β : Type} {pushes : Prop}

/-- On every path, nothing is written and the end is a refusal. -/
def GivesUp (pushes : Prop) : Program α → Prop
  | .done (.ok _) => False
  | .done (.error _) => True
  | .ask call next => call.Spares pushes ∧ ∀ answer, (next answer).GivesUp pushes

/-- On every path, the one write that goes through is followed by the result, and everything else
ends in a refusal. Unless `pushes`, no authority is pushed. -/
inductive WritesLast (pushes : Prop) : Program α → Prop
  | refuse (e : Refusal) : WritesLast pushes (.done (.error e))
  | ask {call : Call} {next : call.Answer → Program α} (spares : call.Spares pushes)
      (rest : ∀ answer, WritesLast pushes (next answer)) : WritesLast pushes (.ask call next)
  | write {changes : List Change} {next : (Call.apply changes).Answer → Program α} {a : α}
      (stored : next (.ok ()) = .done (.ok a)) (failed : ∀ e, (next (.error e)).GivesUp pushes) :
      WritesLast pushes (.ask (.apply changes) next)

/-! ### Rules for writing last -/

theorem WritesLast.bind {p : Program α} {f : α → Program β} (hp : p.OnlyAsks (·.Spares pushes))
    (hf : ∀ a, (f a).WritesLast pushes) : (p >>= f).WritesLast pushes := by
  induction p with
  | done r =>
    cases r with
    | ok a => exact hf a
    | error e => exact .refuse e
  | ask c next ih => exact .ask hp.1 fun answer => ih answer (hp.2 answer)

theorem WritesLast.query {p : Program α} {f : α → Program β} (hp : p.OnlyAsks Call.IsQuery)
    (hf : ∀ a, (f a).WritesLast pushes) : (p >>= f).WritesLast pushes :=
  .bind (hp.mono fun _ hc => .inl hc.isQuiet) hf

theorem GivesUp.bind {p : Program α} (hp : p.GivesUp pushes) (f : α → Program β) :
    (p >>= f).GivesUp pushes := by
  induction p with
  | done r =>
    cases r with
    | ok a => exact hp.elim
    | error e => trivial
  | ask c next ih => exact ⟨hp.1, fun answer => ih answer (hp.2 answer)⟩

/-- What is done with the result of a program does not matter. -/
theorem WritesLast.andThen {p : Program α} (hp : p.WritesLast pushes) (g : α → β) :
    (p >>= fun a => pure (g a)).WritesLast pushes := by
  induction hp with
  | refuse e => exact .refuse e
  | ask spares rest ih => exact .ask spares ih
  | @write changes next a stored failed =>
    refine .write (a := g a) ?_ fun e => (failed e).bind _
    show (next (.ok ())).bind _ = _
    rw [stored]
    rfl

theorem writesLast_apply (changes : List Change) : (apply changes).WritesLast pushes :=
  .write rfl fun _ => trivial

theorem GivesUp.onlyAsks {p : Program α} (h : p.GivesUp pushes) :
    p.OnlyAsks (·.Spares pushes) := by
  induction p with
  | done r => trivial
  | ask c next ih => exact ⟨h.1, fun answer => ih answer (h.2 answer)⟩

theorem WritesLast.noPush {p : Program α} (hp : p.WritesLast pushes) (h : ¬pushes) :
    p.OnlyAsks fun c => ¬c.IsPush := by
  have quiet {c : Call} (hc : c.Spares pushes) : ¬c.IsPush :=
    (hc.resolve_right fun hpush => h hpush.1).not_isPush
  induction hp with
  | refuse e => trivial
  | ask spares rest ih => exact ⟨quiet spares, ih⟩
  | write stored failed =>
    refine ⟨id, fun answer => ?_⟩
    cases answer with
    | ok u =>
      rw [stored]
      trivial
    | error e => exact (failed e).onlyAsks.mono fun _ => quiet

/-! ### Paths of programs that write last -/

theorem GivesUp.not_ok {p : Program α} {xs : List Exchange} {a : α} (h : p.GivesUp pushes) :
    ¬p.Path xs (.ok a) := by
  induction p generalizing xs with
  | done r =>
    intro path
    obtain ⟨-, rfl⟩ := path_done_iff.1 path
    exact h
  | ask c next ih =>
    intro path
    obtain ⟨answer, ys, rfl, rest⟩ := path_ask_iff.1 path
    exact ih answer (h.2 answer) rest

/-- A refused program has carried out no write. -/
theorem Path.unstored_of_error {p : Program α} {xs : List Exchange} {e : Refusal}
    (path : p.Path xs (.error e)) (h : p.WritesLast pushes) : ∀ x ∈ xs, ¬x.IsStored := by
  induction h generalizing xs with
  | refuse e' =>
    obtain ⟨rfl, -⟩ := path_done_iff.1 path
    simp
  | ask spares rest ih =>
    obtain ⟨answer, ys, rfl, tail⟩ := path_ask_iff.1 path
    intro x hx
    rcases List.mem_cons.1 hx with rfl | hx
    · exact fun hs => spares.not_isWrite (Exchange.isWrite_of_isStored hs)
    · exact ih answer tail x hx
  | write stored failed =>
    obtain ⟨_ | ⟨⟩, ys, rfl, tail⟩ := path_ask_iff.1 path
    · intro x hx
      rcases List.mem_cons.1 hx with rfl | hx
      · exact id
      · have spares := (failed _).onlyAsks.of_mem tail hx
        exact fun hs => spares.not_isWrite (Exchange.isWrite_of_isStored hs)
    · rw [stored, path_done_iff] at tail
      cases tail.2

/-- A program that succeeds has asked first and written last. -/
theorem Path.stored_of_ok {p : Program α} {xs : List Exchange} {a : α} (path : p.Path xs (.ok a))
    (h : p.WritesLast pushes) : ∃ ys changes, xs = ys ++ [⟨.apply changes, .ok ()⟩] ∧
      ∀ y ∈ ys, ¬y.call.IsWrite := by
  induction h generalizing xs with
  | refuse e => cases (path_done_iff.1 path).2
  | ask spares rest ih =>
    obtain ⟨answer, zs, rfl, tail⟩ := path_ask_iff.1 path
    obtain ⟨ys, changes, rfl, reads⟩ := ih answer tail
    refine ⟨_ :: ys, changes, rfl, fun y hy => ?_⟩
    rcases List.mem_cons.1 hy with rfl | hy
    · exact spares.not_isWrite
    · exact reads y hy
  | @write changes next b stored failed =>
    obtain ⟨_ | ⟨⟩, zs, rfl, tail⟩ := path_ask_iff.1 path
    · exact ((failed _).not_ok tail).elim
    · rw [stored, path_done_iff] at tail
      obtain ⟨rfl, -⟩ := tail
      exact ⟨[], changes, rfl, by simp⟩

end Program

end TrusteeBoard
