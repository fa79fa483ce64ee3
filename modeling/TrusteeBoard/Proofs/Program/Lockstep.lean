import TrusteeBoard.Proofs.Program.Path

/-!
# Programs in lockstep

Two sides go through a program in lockstep when they answer alike whatever it may ask
(`AnswerAlike`, `OnlyAsks.lockstep`): the same questions with the same answers, the same result, and
states that are still related. A program can also succeed alike on both sides without the same
questions (`Carries`), as one does that need not ask a second time, or end alike but for some
refusals (`Concurs`), as one does that asks for a number and only compares it with a limit.
-/

namespace TrusteeBoard.Program

variable {α β σ τ : Type} {answer : (c : Call) → σ → c.Answer × σ}
  {answer' : (c : Call) → τ → c.Answer × τ} {R : σ → τ → Prop} {allowed : Call → Prop}
  {p : Program α}

/-- Related states give the same answers to the allowed calls and are related after them. -/
def AnswerAlike (answer : (c : Call) → σ → c.Answer × σ) (answer' : (c : Call) → τ → c.Answer × τ)
    (R : σ → τ → Prop) (allowed : Call → Prop) : Prop :=
  ∀ {c s t}, allowed c → R s t →
    (answer' c t).1 = (answer c s).1 ∧ R (answer c s).2 (answer' c t).2

theorem OnlyAsks.lockstep (h : p.OnlyAsks allowed) (alike : AnswerAlike answer answer' R allowed)
    {s : σ} {t : τ} (related : R s t) :
    p.exchanges answer' t = p.exchanges answer s ∧ (p.run answer' t).1 = (p.run answer s).1 ∧
      R (p.run answer s).2 (p.run answer' t).2 := by
  induction p generalizing s t with
  | done result => exact ⟨rfl, rfl, related⟩
  | ask c next ih =>
    obtain ⟨same, related⟩ := alike h.1 related
    obtain ⟨asked, result, after⟩ := ih (answer c s).1 (h.2 _) related
    show ⟨c, (answer' c t).1⟩ :: (next (answer' c t).1).exchanges answer' (answer' c t).2 =
        ⟨c, (answer c s).1⟩ :: (next (answer c s).1).exchanges answer (answer c s).2 ∧
      ((next (answer' c t).1).run answer' (answer' c t).2).1 = _ ∧
      R _ ((next (answer' c t).1).run answer' (answer' c t).2).2
    rw [same]
    exact ⟨congrArg _ asked, result, after⟩

/-! ### Success carried over -/

/-- Where the program succeeds, it succeeds in every related state with the same result, and the
states after it are related. -/
def Carries (answer : (c : Call) → σ → c.Answer × σ) (answer' : (c : Call) → τ → c.Answer × τ)
    (R : σ → τ → Prop) (p : Program α) : Prop :=
  ∀ {s t a}, R s t → (p.run answer s).1 = .ok a →
    (p.run answer' t).1 = .ok a ∧ R (p.run answer s).2 (p.run answer' t).2

theorem OnlyAsks.carries (h : p.OnlyAsks allowed) (alike : AnswerAlike answer answer' R allowed) :
    p.Carries answer answer' R := by
  intro s t a related done
  obtain ⟨-, same, after⟩ := h.lockstep alike related
  exact ⟨same.trans done, after⟩

theorem run_bind_of_ok {f : α → Program β} {s : σ} {a : α} (h : (p.run answer s).1 = .ok a) :
    (p >>= f).run answer s = (f a).run answer (p.run answer s).2 := by
  induction p generalizing s with
  | done result =>
    obtain rfl : result = .ok a := h
    rfl
  | ask c next ih => exact ih _ h

theorem run_bind_of_error {f : α → Program β} {s : σ} {e : Refusal}
    (h : (p.run answer s).1 = .error e) : ((p >>= f).run answer s).1 = .error e := by
  induction p generalizing s with
  | done result =>
    obtain rfl : result = .error e := h
    rfl
  | ask c next ih => exact ih _ h

theorem run_bind_snd_of_error {f : α → Program β} {s : σ} {e : Refusal}
    (h : (p.run answer s).1 = .error e) : ((p >>= f).run answer s).2 = (p.run answer s).2 := by
  induction p generalizing s with
  | done result =>
    obtain rfl : result = .error e := h
    rfl
  | ask c next ih => exact ih _ h

theorem Carries.bind {f : α → Program β} (first : p.Carries answer answer' R)
    (rest : ∀ a, (f a).Carries answer answer' R) : (p >>= f).Carries answer answer' R := by
  intro s t b related done
  cases result : (p.run answer s).1 with
  | error e => cases (run_bind_of_error result).symm.trans done
  | ok a =>
    obtain ⟨same, after⟩ := first related result
    rw [run_bind_of_ok result] at done ⊢
    rw [run_bind_of_ok same]
    exact rest a after done

/-! ### Excused refusals -/

/-- From related states the program ends alike and leaves related states, unless one of the two
runs is refused with an excuse. -/
def Concurs (answer : (c : Call) → σ → c.Answer × σ) (answer' : (c : Call) → τ → c.Answer × τ)
    (R : σ → τ → Prop) (excused : Refusal → Prop) (p : Program α) : Prop :=
  ∀ {s t}, R s t → (∀ e, (p.run answer s).1 = .error e → ¬excused e) →
    (∀ e, (p.run answer' t).1 = .error e → ¬excused e) →
    (p.run answer' t).1 = (p.run answer s).1 ∧ R (p.run answer s).2 (p.run answer' t).2

variable {excused : Refusal → Prop}

theorem OnlyAsks.concurs (h : p.OnlyAsks allowed) (alike : AnswerAlike answer answer' R allowed) :
    p.Concurs answer answer' R excused :=
  fun related _ _ => (h.lockstep alike related).2

theorem Concurs.bind {f : α → Program β} (first : p.Concurs answer answer' R excused)
    (rest : ∀ a xs, p.Path xs (.ok a) → (f a).Concurs answer answer' R excused) :
    (p >>= f).Concurs answer answer' R excused := by
  intro s t related here there
  obtain ⟨same, after⟩ := first related (fun e refused => here e (run_bind_of_error refused))
    fun e refused => there e (run_bind_of_error refused)
  cases result : (p.run answer s).1 with
  | error e =>
    have result' := same.trans result
    rw [run_bind_of_error result, run_bind_of_error result', run_bind_snd_of_error result,
      run_bind_snd_of_error result']
    exact ⟨rfl, after⟩
  | ok a =>
    have path := path_run answer p s
    rw [result] at path
    rw [run_bind_of_ok result] at here ⊢
    rw [run_bind_of_ok (same.trans result)] at there ⊢
    exact rest a _ path after here there

end TrusteeBoard.Program
