import TrusteeBoard.Proofs.World.Ballots
import TrusteeBoard.Proofs.World.History

/-!
# Facts that last

A fact about worlds lasts (`World.Lasting`) when no answer and nothing that happens between
operations ends it. What an exchange has established then holds at the end of every run in which it
occurs (`World.Lasting.of_mem_entries`). So an account that the host has vouched for exists from
then on, and a ballot that was opened can be found from then on.
-/

namespace TrusteeBoard

namespace Ballots

variable {m : Ballots} {ballot : BallotId}

/-- Ballots are never deleted. -/
theorem mem_keys_afterExchange (h : ballot ∈ m.keys) (x : Exchange) :
    ballot ∈ (m.afterExchange x).keys := by
  unfold afterExchange
  split
  · exact OrderedMap.mem_keys_insert.2 (.inr h)
  · rwa [keys_edit]
  · rwa [keys_edit]
  · rwa [keys_edit]
  · exact h

end Ballots

namespace World

variable {σ : Type} [Store σ] (settings : Settings)

/-- No answer and no event between operations ends the fact. -/
structure Lasting (fact : World σ → Prop) : Prop where
  answer : ∀ {c : Call} {w : World σ}, fact w → fact (answer c w).2
  between : ∀ {event : Event} {w : World σ}, (∀ op, event ≠ .perform op) → fact w →
    fact (w.after settings event)

/-- Whoever gets the answer in the exchange `x` establishes the fact. -/
def Establishes (x : Exchange) (fact : World σ → Prop) : Prop :=
  ∀ (c : Call) (w : World σ), ⟨c, (answer c w).1⟩ = x → fact (answer c w).2

namespace Lasting

variable {settings} {fact : World σ → Prop} {x : Exchange}

theorem run {α : Type} (lasting : Lasting settings fact) {w : World σ} (h : fact w)
    (p : Program α) : fact (p.run World.answer w).2 := by
  induction p generalizing w with
  | done result => exact h
  | ask c next ih => exact ih (World.answer c w).1 (lasting.answer h)

theorem afterAll (lasting : Lasting settings fact) {w : World σ} (h : fact w)
    (events : List Event) : fact (w.afterAll settings events) := by
  induction events generalizing w with
  | nil => exact h
  | cons event rest ih =>
    refine ih ?_
    cases event with
    | perform op => exact lasting.run h _
    | _ => exact lasting.between nofun h

theorem of_mem_exchanges {α : Type} (lasting : Lasting settings fact) (made : Establishes x fact)
    {p : Program α} {w : World σ} (hx : x ∈ p.exchanges World.answer w) :
    fact (p.run World.answer w).2 := by
  induction p generalizing w with
  | done result => cases hx
  | ask c next ih =>
    rcases List.mem_cons.1 hx with now | later
    · exact lasting.run (made c w now.symm) (next (World.answer c w).1)
    · exact ih _ later

/-- What an exchange has established holds at the end of a run. -/
theorem of_mem_entries (lasting : Lasting settings fact) (made : Establishes x fact)
    {w : World σ} {events : List Event} {e : Entry} (he : e ∈ w.entries settings events)
    (hx : x ∈ e.exchanges) : fact (w.afterAll settings events) := by
  induction events generalizing w with
  | nil => cases he
  | cons event rest ih =>
    cases event with
    | perform op =>
      rcases List.mem_cons.1 he with rfl | he
      · exact lasting.afterAll (lasting.of_mem_exchanges made hx) rest
      · exact ih he
    | _ => exact ih he

end Lasting

/-! ### Accounts of the host -/

variable {settings}

theorem answer_accounts (c : Call) (w : World σ) :
    (answer c w).2.host.accounts = w.host.accounts := by
  obtain ⟨_, _, _, h⟩ := answer_host c w
  rw [h]

theorem mem_addAccounts {h : Host} {name : Account} (names : List Account)
    (known : name ∈ h.accounts.keys) : name ∈ (h.addAccounts names).accounts.keys := by
  show name ∈ (names.foldl (fun s a => s.insert a ()) h.accounts).keys
  induction names generalizing h with
  | nil => exact known
  | cons a rest ih =>
    exact ih (h := { h with accounts := h.accounts.insert a () })
      (OrderedMap.mem_keys_insert.2 (.inr known))

theorem subset_addAccounts (h : Host) (names : List Account) :
    names ⊆ (h.addAccounts names).accounts.keys := by
  intro name added
  refine OrderedMap.mem_keys_iff.2 ⟨(), ?_⟩
  exact (OrderedMap.find?_foldl_insert names (fun _ => ()) h.accounts name).trans (if_pos added)

theorem lasting_account (name : Account) :
    Lasting settings fun w : World σ => name ∈ w.host.accounts.keys where
  answer known := by rwa [answer_accounts]
  between {event _} idle known := by
    cases event with
    | addAccounts names => exact mem_addAccounts names known
    | perform op => exact (idle op rfl).elim
    | _ => exact known

/-- No fault forges the answer whether an account exists. -/
theorem establishes_account (name : Account) :
    Establishes ⟨.accountExists name, true⟩ fun w : World σ => name ∈ w.host.accounts.keys := by
  intro c w same
  obtain ⟨rfl, vouched⟩ := Exchange.mk.inj same
  have known : w.host.accounts.contains name = true := eq_of_heq vouched
  exact OrderedMap.contains_iff.1 known

/-! ### Ballots of the service -/

theorem lasting_ballot (ballot : BallotId) :
    Lasting settings fun w : World σ => ballot ∈ w.ballots.ballots.keys where
  answer {c w} opened := by
    rw [(answer_ballots c w).2]
    exact Ballots.mem_keys_afterExchange opened _
  between {event w} idle opened := by
    cases event with
    | setTally other tally =>
      show ballot ∈ (w.ballots.setTally other tally).ballots.keys
      rwa [BallotService.setTally_ballots, Ballots.keys_edit]
    | perform op => exact (idle op rfl).elim
    | _ => exact opened

theorem establishes_ballot (name : String) (treasury : TreasurySymbol) (options : List Account)
    (begins ends : Timestamp) (ballot : BallotId) :
    Establishes ⟨.openBallot name treasury options begins ends, .ok ballot⟩
      fun w : World σ => ballot ∈ w.ballots.ballots.keys := by
  intro c w same
  rw [(answer_ballots c w).2, same]
  exact OrderedMap.mem_keys_insert.2 (.inl rfl)

end World

end TrusteeBoard
