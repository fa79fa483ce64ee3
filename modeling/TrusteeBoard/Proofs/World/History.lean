import TrusteeBoard.Proofs.History
import TrusteeBoard.Proofs.World.Answer
import TrusteeBoard.Store.Memory

/-!
# Histories of worlds

What is carried out in a world over a store in memory is a history (`World.history_of_empty`): its
store fails by a fault or tells the truth.
-/

namespace TrusteeBoard.World

variable (settings : Settings)

/-- The operations that `events` carry out. -/
def entries {σ : Type} [Store σ] (w : World σ) : List Event → List Entry
  | [] => []
  | .perform op :: events =>
    { settings, operation := op, exchanges := (op.program settings).exchanges answer w,
      result := (w.perform (op.program settings)).1 } ::
      entries (w.after settings (.perform op)) events
  | event :: events => entries (w.after settings event) events

variable {settings}

theorem afterAll_append {σ : Type} [Store σ] (w : World σ) (events later : List Event) :
    w.afterAll settings (events ++ later) = (w.afterAll settings events).afterAll settings later :=
  List.foldl_append

theorem entries_append {σ : Type} [Store σ] (w : World σ) (events later : List Event) :
    w.entries settings (events ++ later) =
      w.entries settings events ++ (w.afterAll settings events).entries settings later := by
  induction events generalizing w with
  | nil => rfl
  | cons event rest ih =>
    cases event with
    | perform op => exact congrArg _ (ih (w.after settings (.perform op)))
    | _ => exact ih _

theorem perform_mem_of_mem_entries {σ : Type} [Store σ] {w : World σ} {events : List Event}
    {e : Entry} (h : e ∈ w.entries settings events) : Event.perform e.operation ∈ events := by
  induction events generalizing w with
  | nil => cases h
  | cons event rest ih =>
    cases event with
    | perform op =>
      rcases List.mem_cons.1 h with rfl | h
      · exact List.mem_cons_self
      · exact List.mem_cons_of_mem _ (ih h)
    | _ => exact List.mem_cons_of_mem _ (ih h)

theorem settings_of_mem_entries {σ : Type} [Store σ] {w : World σ} {events : List Event} {e : Entry}
    (h : e ∈ w.entries settings events) : e.settings = settings := by
  induction events generalizing w with
  | nil => cases h
  | cons event rest ih =>
    cases event with
    | perform op =>
      rcases List.mem_cons.1 h with rfl | h
      · rfl
      · exact ih h
    | _ => exact ih h

theorem failing_serves {c : Call} {failure : Failure} {a : c.Answer}
    (h : c.failing failure = some a) (r : Records) :
    r.Tells ⟨c, a⟩ ∧ r.afterExchange ⟨c, a⟩ = r := by
  cases c <;> cases failure <;> simp [Call.failing] at h <;> subst h <;> exact ⟨trivial, rfl⟩

theorem respond_serves (c : Call) (w : World MemoryStore) :
    w.store.records.Tells ⟨c, (w.respond c).1⟩ ∧
      (w.respond c).2.store.records = w.store.records.afterExchange ⟨c, (w.respond c).1⟩ := by
  cases c with
  | apply changes =>
    refine ⟨trivial, ?_⟩
    show (w.store.apply changes).2.records =
      w.store.records.afterExchange ⟨.apply changes, (w.store.apply changes).1⟩
    unfold MemoryStore.apply
    split <;> rfl
  | _ => exact ⟨by trivial, rfl⟩

theorem answer_serves (c : Call) (w : World MemoryStore) :
    w.store.records.Tells ⟨c, (answer c w).1⟩ ∧
      (answer c w).2.store.records = w.store.records.afterExchange ⟨c, (answer c w).1⟩ := by
  obtain ⟨faults, ⟨failure, a, hf, h⟩ | h⟩ := answer_eq c w
  · rw [h]
    exact (failing_serves hf _).imp_right Eq.symm
  · rw [h]
    exact respond_serves c w

theorem run_serves {α : Type} (p : Program α) (w : World MemoryStore) :
    w.store.records.Serves (p.exchanges answer w) (p.run answer w).2.store.records := by
  induction p generalizing w with
  | done result => rfl
  | ask c next ih =>
    obtain ⟨tells, after⟩ := answer_serves c w
    have rest := ih (answer c w).1 (answer c w).2
    rw [after] at rest
    exact ⟨tells, rest⟩

/-- A program that ends in a result has taken a path to it. -/
theorem path_perform {σ α : Type} [Store σ] {w : World σ} {p : Program α}
    {result : Except Refusal α} (h : (w.perform p).1 = result) :
    p.Path (p.exchanges answer w) result :=
  h ▸ Program.path_run answer p w

variable (settings) in
/-- The operation as it is carried out in the world. -/
def entry {σ : Type} [Store σ] (w : World σ) (op : Operation) : Entry where
  settings := settings
  operation := op
  exchanges := (op.program settings).exchanges answer w
  result := (w.perform (op.program settings)).1

theorem entry_path {σ : Type} [Store σ] (w : World σ) (op : Operation) :
    (op.program settings).Path (w.entry settings op).exchanges (w.entry settings op).result :=
  path_perform rfl

theorem entry_serves (w : World MemoryStore) (op : Operation) :
    w.store.records.Serves (w.entry settings op).exchanges
      (w.after settings (.perform op)).store.records :=
  run_serves _ w

/-- Events carry a history on. -/
theorem history_afterAll {w : World MemoryStore} {es : List Entry} (h : History es w.store.records)
    (events : List Event) :
    History (es ++ w.entries settings events) (w.afterAll settings events).store.records := by
  induction events generalizing w es with
  | nil => simpa [entries, afterAll] using h
  | cons event rest ih =>
    cases event with
    | perform op =>
      have next := h.perform (w.entry settings op) (w.entry_path op) (w.entry_serves op)
      rw [entries, List.append_cons]
      exact ih next
    | _ => exact ih h

theorem history_of_empty {w : World MemoryStore} (h : w.store.records = {}) (events : List Event) :
    History (w.entries settings events) (w.afterAll settings events).store.records := by
  have empty : History [] w.store.records := h ▸ .start
  simpa using history_afterAll empty events

end TrusteeBoard.World
