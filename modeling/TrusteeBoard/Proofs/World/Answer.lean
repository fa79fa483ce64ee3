import TrusteeBoard.World.Run

/-!
# Answers of worlds

An answer of a world is that of its collaborator or a planted failure (`World.answer_eq`). The
lemmas below say which part of the world a call can change.
-/

namespace TrusteeBoard.World

variable {σ : Type} [Store σ]

theorem respond_faults (w : World σ) (faults : List Fault) (c : Call) :
    ({ w with faults } : World σ).respond c =
      ((w.respond c).1, { (w.respond c).2 with faults }) := by
  cases c <;> rfl

theorem respond_history (w : World σ) (c : Call) : (w.respond c).2.history = w.history := by
  cases c <;> rfl

theorem respondOrFail_eq (w : World σ) (c : Call) : ∃ faults,
    (∃ failure a, c.failing failure = some a ∧ w.respondOrFail c = (a, { w with faults })) ∨
    w.respondOrFail c = ((w.respond c).1, { (w.respond c).2 with faults }) := by
  unfold respondOrFail
  cases c.target? with
  | none => exact ⟨(w.respond c).2.faults, .inr rfl⟩
  | some target =>
    refine ⟨(takeFault target w.faults).2, ?_⟩
    dsimp only
    split
    · next a ha =>
      obtain ⟨f, -, hf⟩ := Option.bind_eq_some_iff.1 ha
      exact .inl ⟨f, a, hf, rfl⟩
    · exact .inr (respond_faults w _ c)

/-- A call is made to fail by a fault, and then reaches no collaborator, or it is answered by its
collaborator. -/
theorem answer_eq (c : Call) (w : World σ) : ∃ faults,
    (∃ failure a, c.failing failure = some a ∧
      answer c w = (a, { w with faults, history := w.history ++ [⟨c, a⟩] })) ∨
    answer c w = ((w.respond c).1,
      { (w.respond c).2 with faults, history := w.history ++ [⟨c, (w.respond c).1⟩] }) := by
  obtain ⟨faults, ⟨failure, a, hf, h⟩ | h⟩ := respondOrFail_eq w c
  · refine ⟨faults, .inl ⟨failure, a, hf, ?_⟩⟩
    rw [answer, h]
  · refine ⟨faults, .inr ?_⟩
    rw [answer, h, ← respond_history w c]

theorem answer_of_no_faults {w : World σ} (h : w.faults = []) (c : Call) : answer c w =
    ((w.respond c).1,
      { (w.respond c).2 with history := w.history ++ [⟨c, (w.respond c).1⟩] }) := by
  have undisturbed : w.respondOrFail c = w.respond c := by
    obtain ⟨host, ballots, store, faults, history⟩ := w
    obtain rfl : faults = [] := h
    unfold respondOrFail
    split <;> rfl
  rw [answer, undisturbed, ← respond_history w c]

/-- Without faults, a program goes on with the answer of the collaborator. -/
theorem perform_call_bind {w : World σ} (h : w.faults = []) {c : Call} {α : Type}
    (f : c.Answer → Program α) : w.perform (Program.call c >>= f) =
      perform (f (w.respond c).1)
        { (w.respond c).2 with history := w.history ++ [⟨c, (w.respond c).1⟩] } := by
  show (f (answer c w).1).run answer (answer c w).2 = _
  rw [answer_of_no_faults h]
  rfl

/-! ### What a call leaves alone -/

/-- Only authorities are changed at the host. -/
theorem respond_host (w : World σ) (c : Call) : ∃ authorities pushes failNextPush,
    (w.respond c).2.host = { w.host with authorities, pushes, failNextPush } := by
  cases c with
  | setAuthority account authority =>
    show ∃ authorities pushes failNextPush, (w.host.setAuthority account authority).2 =
      { w.host with authorities, pushes, failNextPush }
    unfold Host.setAuthority
    split
    · exact ⟨_, _, _, rfl⟩
    · split <;> exact ⟨_, _, _, rfl⟩
  | _ => exact ⟨_, _, _, rfl⟩

theorem answer_host (c : Call) (w : World σ) : ∃ authorities pushes failNextPush,
    (answer c w).2.host = { w.host with authorities, pushes, failNextPush } := by
  obtain ⟨faults, ⟨failure, a, -, h⟩ | h⟩ := answer_eq c w
  · rw [h]
    exact ⟨_, _, _, rfl⟩
  · rw [h]
    exact respond_host w c

theorem run_host {α : Type} (p : Program α) (w : World σ) : ∃ authorities pushes failNextPush,
    (p.run answer w).2.host = { w.host with authorities, pushes, failNextPush } := by
  induction p generalizing w with
  | done result => exact ⟨_, _, _, rfl⟩
  | ask c next ih =>
    obtain ⟨_, _, _, first⟩ := answer_host c w
    obtain ⟨_, _, _, rest⟩ := ih (answer c w).1 (answer c w).2
    rw [first] at rest
    exact ⟨_, _, _, rest⟩

theorem respond_store (w : World σ) {c : Call} (h : ∀ changes, c ≠ .apply changes) :
    (w.respond c).2.store = w.store := by
  cases c <;> first | rfl | exact (h _ rfl).elim

end TrusteeBoard.World
