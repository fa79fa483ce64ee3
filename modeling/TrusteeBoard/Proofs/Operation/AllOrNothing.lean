import TrusteeBoard.Proofs.Operation.WritesLast
import TrusteeBoard.Proofs.Sample
import TrusteeBoard.Proofs.World.Answer
import TrusteeBoard.Store.Bytes

/-!
# Operations are all or nothing

Where writes to the store are atomic (`AtomicWrites`), an operation changes the store once or not at
all, whoever answers its questions: refused, it leaves the store as it was; done, its last call was
its one write, and that write went through (`run_all_or_nothing`). Worlds over either kind of store
have atomic writes (`World.atomicWrites`).
-/

namespace TrusteeBoard

open Program Sample

/-- What `contents` shows of the collaborators changes only by writes that go through. -/
structure AtomicWrites {σ ρ : Type} (answer : (c : Call) → σ → c.Answer × σ) (contents : σ → ρ) :
    Prop where
  other : ∀ (c : Call) (s : σ), ¬c.IsWrite → contents (answer c s).2 = contents s
  failed : ∀ (changes : List Change) (s : σ) (e : StoreError),
    (answer (.apply changes) s).1 = .error e → contents (answer (.apply changes) s).2 = contents s

variable (settings : Settings) {α σ ρ : Type} {answer : (c : Call) → σ → c.Answer × σ}
  {contents : σ → ρ}

theorem AtomicWrites.answer_eq (atomic : AtomicWrites answer contents) {c : Call} {s : σ}
    (h : ¬Exchange.IsStored ⟨c, (answer c s).1⟩) : contents (answer c s).2 = contents s := by
  by_cases hc : c.IsWrite
  · cases c <;> try exact hc.elim
    rename_i changes
    cases ha : (answer (.apply changes) s).1 with
    | error e => exact atomic.failed changes s e ha
    | ok u => simp [ha, Exchange.IsStored] at h
  · exact atomic.other c s hc

theorem AtomicWrites.run_eq (atomic : AtomicWrites answer contents) {p : Program α} {s : σ}
    (h : ∀ x ∈ p.exchanges answer s, ¬x.IsStored) :
    contents (p.run answer s).2 = contents s := by
  induction p generalizing s with
  | done r => rfl
  | ask c next ih =>
    calc contents ((next (answer c s).1).run answer (answer c s).2).2
        = contents (answer c s).2 := ih _ fun x hx => h x (List.mem_cons_of_mem _ hx)
      _ = contents s := atomic.answer_eq (h _ List.mem_cons_self)

/-- The state before the last exchange of a run. -/
theorem AtomicWrites.exists_before_last (atomic : AtomicWrites answer contents) {p : Program α}
    {s : σ} {ys : List Exchange} {x : Exchange} (h : p.exchanges answer s = ys ++ [x])
    (hys : ∀ y ∈ ys, ¬y.IsStored) :
    ∃ s₁, contents s₁ = contents s ∧ answer x.call s₁ = (x.answer, (p.run answer s).2) := by
  induction p generalizing s ys with
  | done r => simp [exchanges] at h
  | ask c next ih =>
    change ⟨c, (answer c s).1⟩ :: (next (answer c s).1).exchanges answer (answer c s).2 = _ at h
    cases ys with
    | nil =>
      obtain ⟨rfl, hnext⟩ := List.cons.inj h
      refine ⟨s, rfl, ?_⟩
      show answer c s = ((answer c s).1, ((next (answer c s).1).run answer (answer c s).2).2)
      cases hn : next (answer c s).1 with
      | done r => rfl
      | ask c' next' => simp [hn, exchanges] at hnext
    | cons y ys =>
      obtain ⟨rfl, hnext⟩ := List.cons.inj h
      obtain ⟨s₁, hs₁, hlast⟩ := ih _ hnext fun y hy => hys y (List.mem_cons_of_mem _ hy)
      exact ⟨s₁, hs₁.trans (atomic.answer_eq (hys _ List.mem_cons_self)), hlast⟩

/-! ### Worlds -/

/-- Worlds have atomic writes when their store has. -/
theorem World.atomicWrites [Store σ] {contents : σ → ρ}
    (h : ∀ (s : σ) (changes : List Change) (e : StoreError),
      (Store.apply s changes).1 = .error e → contents (Store.apply s changes).2 = contents s) :
    AtomicWrites (World.answer : (c : Call) → World σ → c.Answer × World σ)
      fun w => contents w.store where
  other c w hc := by
    have store : (w.respond c).2.store = w.store :=
      World.respond_store w fun changes hw => hc (hw ▸ trivial)
    obtain ⟨faults, ⟨failure, a, -, ha⟩ | ha⟩ := World.answer_eq c w
    · rw [ha]
    · rw [ha]
      exact congrArg contents store
  failed changes w e he := by
    obtain ⟨faults, ⟨failure, a, -, ha⟩ | ha⟩ := World.answer_eq (.apply changes) w
    · rw [ha]
    · rw [ha] at he ⊢
      exact h w.store changes e he

theorem MemoryStore.apply_atomic (s : MemoryStore) (changes : List Change) (e : StoreError)
    (h : (Store.apply s changes).1 = .error e) :
    (Store.apply s changes).2.records = s.records := by
  change (s.apply changes).1 = _ at h
  change (s.apply changes).2.records = _
  by_cases hs : s.failNextApply <;> simp_all [MemoryStore.apply]

theorem ByteStore.apply_atomic (s : ByteStore) (changes : List Change) (e : StoreError)
    (h : (Store.apply s changes).1 = .error e) : (Store.apply s changes).2 = s := by
  change (s.apply changes).1 = _ at h
  change (s.apply changes).2 = _
  by_cases hs : s.isOpen <;> simp_all [ByteStore.apply]

/-! ### Operations -/

/-- Whoever answers, an operation that is refused leaves the store as it was, and an operation that
is done ends with its only write, which went through. -/
theorem run_all_or_nothing (atomic : AtomicWrites answer contents) (op : Operation) (s : σ) :
    (∀ e, ((op.program settings).run answer s).1 = .error e →
      contents ((op.program settings).run answer s).2 = contents s) ∧
    (∀ receipt, ((op.program settings).run answer s).1 = .ok receipt →
      ∃ reads changes s₁,
        (op.program settings).exchanges answer s = reads ++ [⟨.apply changes, .ok ()⟩] ∧
        (∀ x ∈ reads, ¬x.call.IsWrite) ∧ contents s₁ = contents s ∧
        answer (.apply changes) s₁ = (.ok (), ((op.program settings).run answer s).2)) := by
  have path := path_run answer (op.program settings) s
  refine ⟨fun e he => ?_, fun receipt hr => ?_⟩
  · rw [he] at path
    exact atomic.run_eq (path.unstored_of_error (op.writesLast settings))
  · rw [hr] at path
    obtain ⟨reads, changes, hxs, hreads⟩ := path.stored_of_ok (op.writesLast settings)
    obtain ⟨s₁, hs₁, hlast⟩ := atomic.exists_before_last hxs fun y hy hstored =>
      hreads y hy (Exchange.isWrite_of_isStored hstored)
    exact ⟨reads, changes, s₁, hxs, hreads, hs₁, hlast⟩

/-- A write that fails leaves the board unseated; one that goes through seats it. -/
theorem run_all_or_nothing_seating :
    (Sample.failing.perform ((Operation.seatBoard [alice, bob]).program {})).2.store.records =
        Sample.failing.store.records ∧
      ∃ reads changes w,
        ((Operation.seatBoard [alice, bob]).program {}).exchanges World.answer Sample.configured =
          reads ++ [⟨.apply changes, .ok ()⟩] ∧
        (∀ x ∈ reads, ¬x.call.IsWrite) ∧ w.store.records = Sample.configured.store.records ∧
        World.answer (.apply changes) w =
          (.ok (), (Sample.configured.perform ((Operation.seatBoard [alice, bob]).program {})).2) :=
  have atomic := World.atomicWrites MemoryStore.apply_atomic
  ⟨(run_all_or_nothing {} atomic _ Sample.failing).1 (.store (.backend "disk full")) rfl,
    (run_all_or_nothing {} atomic _ Sample.configured).2
      (.committed ⟨[alice, bob], [], ⟨2, [alice, bob].map ThresholdRule.signer⟩⟩) rfl⟩

end TrusteeBoard
