import TrusteeBoard.Proofs.Operation.Step

/-!
# Histories

A `History` is a run of operations on a store that is empty at first, as a list of what was asked,
answered and returned, with the records at the end. The store may fail at any read or write but does
not lie; the host and the ballot service may answer anything; settings may differ from one operation
to the next. `History.invariant` reduces what holds of the records after every history to the steps
of single operations.
-/

namespace TrusteeBoard

/-- An operation that was carried out. -/
structure Entry where
  settings : Settings
  operation : Operation
  exchanges : List Exchange
  result : Except Refusal Receipt

/-- Operations from an empty store on, the oldest first, and the records they leave. -/
inductive History : List Entry → Records → Prop
  | start : History [] {}
  | perform {es : List Entry} {r r' : Records} (past : History es r) (e : Entry)
    (path : (e.operation.program e.settings).Path e.exchanges e.result)
    (serves : r.Serves e.exchanges r') : History (es ++ [e]) r'

namespace History

variable {es : List Entry} {r : Records}

theorem filed (h : History es r) : r.Filed := by
  induction h with
  | start => exact Records.filed_empty
  | perform past e path serves ih => exact ih.of_serves serves

/-- Every operation of a history was carried out after the history before it. -/
theorem exists_perform {before later : List Entry} {e : Entry}
    (h : History (before ++ e :: later) r) : ∃ r₀ r₁, History before r₀ ∧
      (e.operation.program e.settings).Path e.exchanges e.result ∧ r₀.Serves e.exchanges r₁ := by
  induction later using List.reverseRecOn generalizing r with
  | nil =>
    generalize hes : before ++ [e] = es at h
    cases h with
    | start => simp at hes
    | @perform es r₀ r₁ past e' path serves =>
      obtain ⟨rfl, same⟩ := List.append_inj' hes rfl
      cases same
      exact ⟨r₀, r, past, path, serves⟩
  | append_singleton later last ih =>
    generalize hes : before ++ e :: (later ++ [last]) = es at h
    cases h with
    | start => simp at hes
    | perform past e' path serves =>
      rw [← List.cons_append, ← List.append_assoc] at hes
      obtain ⟨rfl, -⟩ := List.append_inj' hes rfl
      exact ih past

/-- What was asked and answered determines the records. -/
theorem unique {r' : Records} (h : History es r) (h' : History es r') : r' = r := by
  induction h generalizing r' with
  | start =>
    generalize hes : ([] : List Entry) = es' at h'
    cases h' with
    | start => rfl
    | perform past e path serves => simp at hes
  | @perform es r s past e path serves ih =>
    generalize hes : es ++ [e] = es' at h'
    cases h' with
    | start => simp at hes
    | perform past' e' path' serves' =>
      obtain ⟨rfl, same⟩ := List.append_inj' hes rfl
      cases same
      rw [ih past'] at serves'
      exact serves.unique serves'

/-- What holds at the start, survives every refusal and follows from every step holds of all
histories. -/
theorem by_steps {I : List Entry → Records → Prop} (h : History es r) (start : I [] {})
    (refused : ∀ {es r e refusal}, I es r → e.result = .error refusal → I (es ++ [e]) r)
    (done : ∀ {es r e receipt r'}, History es r → I es r → e.result = .ok receipt →
      Step e.settings r e.exchanges e.operation receipt r' → I (es ++ [e]) r') : I es r := by
  induction h with
  | start => exact start
  | @perform es r r' past e path serves ih =>
    cases hresult : e.result with
    | error refusal =>
      rw [hresult] at path
      rw [serves.of_error path (e.operation.writesLast e.settings)]
      exact refused ih hresult
    | ok receipt =>
      rw [hresult] at path
      exact done past ih hresult (step_of_path path serves)

/-- What holds of no records and is kept by every operation that succeeds holds after every history
of such operations. -/
theorem invariant {I : Records → Prop} {allowed : Operation → Prop} (start : I {})
    (step : ∀ {settings r xs op receipt r'}, r.Filed → I r → allowed op →
      Step settings r xs op receipt r' → I r')
    (h : History es r) (hes : ∀ e ∈ es, allowed e.operation) : I r := by
  induction h with
  | start => exact start
  | @perform es r r' past e path serves ih =>
    have hr := ih fun e he => hes e (List.mem_append_left _ he)
    obtain ⟨settings, op, xs, result⟩ := e
    cases result with
    | error refusal => rwa [serves.of_error path (op.writesLast settings)]
    | ok receipt => exact step past.filed hr (hes _ (by simp)) (step_of_path path serves)

end History

end TrusteeBoard
