import TrusteeBoard.Proofs.Operation.Authorization
import TrusteeBoard.Proofs.Program.Lockstep
import TrusteeBoard.Proofs.Sample
import TrusteeBoard.Proofs.World.Answer

/-!
# Signers

What a call can do depends on the accounts that sign it in one direction only: without any of the
accounts that an operation needs nothing but queries is made, and what succeeds with some signers
succeeds with more of them, alike but for the questions for authority (`World.Widens`). An operation
that accepts either of two accounts then asks for one authority less, so the two runs need not be in
lockstep.
-/

namespace TrusteeBoard

open Program Sample

def Exchange.asksAuthority : Exchange → Bool
  | ⟨.authorize _, _⟩ => true
  | _ => false

theorem Exchange.asksAuthority_eq_false {x : Exchange} (h : ¬x.call.AsksAuthority) :
    x.asksAuthority = false := by
  obtain ⟨c, a⟩ := x
  cases c <;> first | rfl | exact (h trivial).elim

/-- A question for something else is no question for authority. -/
theorem filter_append_of_trusting {x : Exchange} (h : ¬x.call.AsksAuthority)
    (past : List Exchange) : (past ++ [x]).filter (fun x => !x.asksAuthority) =
      past.filter (fun x => !x.asksAuthority) ++ [x] := by
  rw [List.filter_append, List.filter_singleton, Exchange.asksAuthority_eq_false h]
  rfl

namespace World

variable {σ : Type}

/-- The calls so far that were no questions for an authority, with their answers. -/
def effects (w : World σ) : List Exchange :=
  w.history.filter fun x => !x.asksAuthority

/-- The same world with more callers; it may differ in the questions for authority in the past. No
fault is pending. -/
structure Widens (w w' : World σ) : Prop where
  world : w' = { w with host := { w.host with callers := w'.host.callers }, history := w'.history }
  callers : ∀ a ∈ w.host.callers.keys, a ∈ w'.host.callers.keys
  undisturbed : w.faults = []
  effects : w'.effects = w.effects

/-- The world once the authority of an account has been asked for. -/
def asked (w : World σ) (account : Account) : World σ :=
  { w with history := w.history ++ [⟨.authorize account, w.host.authorize account⟩] }

variable {w w' : World σ} {account : Account}

/-! ### Questions for authority -/

theorem effects_asked (w : World σ) (account : Account) :
    (w.asked account).effects = w.effects := by
  simp [effects, asked, Exchange.asksAuthority]

theorem Widens.asked (h : w.Widens w') (account : Account) :
    (w.asked account).Widens (w'.asked account) := by
  refine ⟨?_, h.callers, h.undisturbed, ?_⟩
  · rw [h.world]
    rfl
  · rw [effects_asked, effects_asked, h.effects]

/-- The second of two questions can be left out. -/
theorem Widens.asked_once (h : w.Widens w') (account : Account) :
    (w.asked account).Widens w' := by
  refine ⟨?_, h.callers, h.undisturbed, ?_⟩
  · exact h.world
  · rw [effects_asked, h.effects]

theorem Widens.faults (h : w.Widens w') : w'.faults = [] := by
  rw [h.world]
  exact h.undisturbed

theorem Widens.contains (h : w.Widens w') (granted : w.host.callers.contains account = true) :
    w'.host.callers.contains account = true :=
  OrderedMap.contains_iff.2 (h.callers account (OrderedMap.contains_iff.1 granted))

variable [Store σ]

theorem perform_ask_bind {α : Type} (h : w.faults = []) (account : Account)
    (f : Except HostError Unit → Program α) : w.perform (call (.authorize account) >>= f) =
      (w.asked account).perform (f (w.host.authorize account)) := by
  rw [perform_call_bind h]
  rfl

theorem perform_authorize (h : w.faults = []) (account : Account) :
    w.perform (authorize account) =
      (if w.host.callers.contains account then .ok () else .error (.unauthorized account),
        w.asked account) := by
  rw [authorize, perform_ask_bind h, Host.authorize]
  by_cases granted : w.host.callers.contains account = true
  · rw [if_pos granted, if_pos granted]
    rfl
  · rw [if_neg granted, if_neg granted]
    rfl

theorem perform_authorizeEither (h : w.faults = []) (first second : Account) :
    w.perform (authorizeEither first second) =
      if w.host.callers.contains first then (.ok (), w.asked first)
      else (if w.host.callers.contains second then .ok () else .error (.unauthorized first),
        (w.asked first).asked second) := by
  rw [authorizeEither, perform_ask_bind h, Host.authorize]
  by_cases granted : w.host.callers.contains first = true
  · rw [if_pos granted, if_pos granted]
    rfl
  · rw [if_neg granted, if_neg granted]
    dsimp only
    rw [perform_ask_bind (w := w.asked first) h, Host.authorize]
    by_cases granted' : w.host.callers.contains second = true
    · rw [if_pos granted', if_pos (c := (w.asked first).host.callers.contains second) granted']
      rfl
    · rw [if_neg granted', if_neg (c := (w.asked first).host.callers.contains second) granted']
      rfl

theorem carries_authorize (account : Account) :
    (authorize account).Carries answer answer (Widens (σ := σ)) := by
  intro w w' u h done
  have ran := perform_authorize h.undisturbed account
  have ran' := perform_authorize h.faults account
  unfold perform at ran ran'
  rw [ran] at done ⊢
  rw [ran']
  dsimp only at done ⊢
  split at done
  · next granted =>
    rw [if_pos (h.contains granted)]
    exact ⟨done, h.asked account⟩
  · cases done

theorem carries_authorizeEither (first second : Account) :
    (authorizeEither first second).Carries answer answer (Widens (σ := σ)) := by
  intro w w' u h done
  have ran := perform_authorizeEither h.undisturbed first second
  have ran' := perform_authorizeEither h.faults first second
  unfold perform at ran ran'
  rw [ran] at done ⊢
  rw [ran']
  by_cases granted : w.host.callers.contains first = true
  · rw [if_pos granted] at done ⊢
    rw [if_pos (h.contains granted)]
    exact ⟨done, h.asked first⟩
  · rw [if_neg granted] at done ⊢
    dsimp only at done ⊢
    split at done
    · next granted' =>
      by_cases sooner : w'.host.callers.contains first = true
      · rw [if_pos sooner]
        exact ⟨done, (h.asked first).asked_once second⟩
      · rw [if_neg sooner, if_pos (h.contains granted')]
        exact ⟨done, (h.asked first).asked second⟩
    · cases done

/-! ### Everything else -/

theorem respond_callers (w : World σ) (callers : OrderedSet Account) (history : List Exchange)
    {c : Call} (h : ¬c.AsksAuthority) :
    ({ w with host := { w.host with callers }, history } : World σ).respond c = ((w.respond c).1,
      { (w.respond c).2 with host := { (w.respond c).2.host with callers }, history }) := by
  cases c with
  | authorize account => exact (h trivial).elim
  | setAuthority account authority =>
    unfold respond Host.setAuthority
    dsimp only
    split
    · rfl
    · split <;> rfl
  | _ => rfl

theorem respond_faults_eq (w : World σ) (c : Call) : (w.respond c).2.faults = w.faults := by
  cases c <;> rfl

theorem answerAlike_widens :
    AnswerAlike answer answer (Widens (σ := σ)) fun c => ¬c.AsksAuthority := by
  intro c w w' trusting h
  obtain ⟨callers, history, rfl⟩ : ∃ (callers : OrderedSet Account) (history : List Exchange),
      w' = { w with host := { w.host with callers }, history } := ⟨_, _, h.world⟩
  rw [answer_of_no_faults h.faults, answer_of_no_faults h.undisturbed,
    respond_callers w callers history trusting]
  refine ⟨rfl, rfl, ?_, (respond_faults_eq w c).trans h.undisturbed, ?_⟩
  · obtain ⟨_, _, _, same⟩ := respond_host w c
    rw [same]
    exact h.callers
  · show (history ++ [_]).filter _ = (w.history ++ [_]).filter _
    rw [filter_append_of_trusting trusting, filter_append_of_trusting trusting]
    exact congrArg (· ++ _) h.effects

/-! ### Gated programs -/

theorem perform_config (h : w.faults = []) : w.perform config =
    ((Store.config w.store).mapError .store,
      { w with history := w.history ++ [⟨.config, Store.config w.store⟩] }) := by
  rw [config, perform_call_bind h]
  rfl

/-- A gated program that succeeds with some callers succeeds with more. -/
theorem widens_of_gated {α : Type} {stored : Option Config} {authorizers : List Account}
    {p : Program α} (h : p.Gated stored authorizers) {a : α}
    (told : ∀ c, Store.config w.store = .ok c → c = stored) (widens : w.Widens w')
    (done : (w.perform p).1 = .ok a) :
    (w'.perform p).1 = .ok a ∧ (w.perform p).2.Widens (w'.perform p).2 := by
  induction h generalizing w w' with
  | refuse e => cases done
  | @config f rest ih =>
    have read : config.Carries answer answer (Widens (σ := σ)) :=
      (onlyLooksUp_ofStore .config ⟨trivial, id⟩).trusting.carries answerAlike_widens
    have asked := perform_config widens.undisturbed
    unfold perform at asked done ⊢
    cases answered : Store.config w.store with
    | error e =>
      rw [answered] at asked
      cases (run_bind_of_error (congrArg Prod.fst asked)).symm.trans done
    | ok c =>
      obtain rfl := told c answered
      rw [answered] at asked
      have known := congrArg Prod.fst asked
      obtain ⟨known', after⟩ := read widens known
      rw [run_bind_of_ok known] at done ⊢
      rw [run_bind_of_ok known']
      refine ih (fun c => ?_) after done
      rw [asked]
      exact told c
  | authorize authorized rest =>
    exact Carries.bind (carries_authorize _) (fun _ => rest.carries answerAlike_widens) widens done
  | authorizeEither authorized authorized' rest =>
    exact Carries.bind (carries_authorizeEither _ _)
      (fun _ => rest.carries answerAlike_widens) widens done

/-! ### What a run tells about its start -/

theorem answer_callers (c : Call) (w : World σ) :
    (answer c w).2.host.callers = w.host.callers := by
  obtain ⟨_, _, _, h⟩ := answer_host c w
  rw [h]

/-- No fault forges an authority. -/
theorem mem_callers_of_answer {c : Call}
    (h : (⟨.authorize account, .ok ()⟩ : Exchange) = ⟨c, (answer c w).1⟩) :
    account ∈ w.host.callers.keys := by
  obtain ⟨faults, ⟨failure, a, failed, answered⟩ | answered⟩ := answer_eq c w
  · rw [answered] at h
    cases h
    cases failure <;> cases failed
  · rw [answered] at h
    obtain ⟨rfl, granted⟩ := Exchange.mk.inj h
    have granted : w.host.authorize account = .ok () := (eq_of_heq granted).symm
    unfold Host.authorize at granted
    split at granted
    · next listed => exact OrderedMap.contains_iff.1 listed
    · cases granted

theorem mem_callers_of_signed {α : Type} {p : Program α}
    (h : Signed account (p.exchanges answer w)) : account ∈ w.host.callers.keys := by
  induction p generalizing w with
  | done result => cases h
  | ask c next ih =>
    rcases List.mem_cons.1 h with now | later
    · exact mem_callers_of_answer now
    · rw [← answer_callers c w]
      exact ih _ later

/-- The host tells the time it has at the start. -/
theorem now_of_exchanges {α : Type} {p : Program α} {w : World σ} {time : Timestamp}
    (asked : ⟨.now, time⟩ ∈ p.exchanges answer w) : time = w.host.clock := by
  induction p generalizing w with
  | done result => cases asked
  | ask c next ih =>
    rw [exchanges_ask] at asked
    rcases List.mem_cons.1 asked with first | later
    · obtain ⟨faults, ⟨failure, a, failed, answered⟩ | answered⟩ := answer_eq c w
      · rw [answered] at first
        cases first
        cases failure <;> cases failed
      · rw [answered] at first
        cases first
        rfl
    · obtain ⟨_, _, _, same⟩ := answer_host c w
      rw [ih _ later, same]

theorem answer_store (w : World σ) {c : Call} (h : ¬c.IsWrite) :
    (answer c w).2.store = w.store := by
  obtain ⟨faults, ⟨failure, a, -, answered⟩ | answered⟩ := answer_eq c w
  · rw [answered]
  · rw [answered]
    refine respond_store w ?_
    rintro changes rfl
    exact h trivial

/-- What is read before anything but queries is what the store says at the start. -/
theorem config_of_exchanges {α : Type} {p : Program α} {ys zs : List Exchange} {c : Option Config}
    (h : p.exchanges answer w = ys ++ ⟨.config, .ok c⟩ :: zs)
    (queries : ∀ y ∈ ys, y.call.IsQuery) : Store.config w.store = .ok c := by
  induction p generalizing w ys with
  | done result => exact (List.append_ne_nil_of_right_ne_nil ys (List.cons_ne_nil _ _) h.symm).elim
  | ask call next ih =>
    rw [exchanges_ask] at h
    cases ys with
    | nil =>
      obtain ⟨now, -⟩ := List.cons.inj h
      obtain ⟨faults, ⟨failure, a, failed, answered⟩ | answered⟩ := answer_eq call w
      · rw [answered] at now
        cases now
        cases failure <;> cases failed
      · rw [answered] at now
        obtain ⟨rfl, told⟩ := Exchange.mk.inj now
        exact eq_of_heq told
    | cons y ys =>
      obtain ⟨rfl, later⟩ := List.cons.inj h
      obtain ⟨query, queries⟩ := List.forall_mem_cons.1 queries
      rw [← answer_store w query.isQuiet.not_isWrite]
      exact ih _ later queries

/-! ### Operations and their signers -/

/-- The record that the store answers, if it does. -/
def record (w : World σ) : Option Config :=
  (Store.config w.store).toOption.join

theorem eq_record {c : Option Config} (h : Store.config w.store = .ok c) : c = w.record := by
  rw [record, h]
  rfl

/-- In any world, an operation that none of the accounts it needs has signed is refused after
queries alone. Where nothing fails, more signers change nothing about an operation that succeeds. -/
theorem authority_gates (settings : Settings) (op : Operation) (w : World σ) :
    ((∀ a ∈ op.authorizers settings w.record, a ∉ w.host.callers.keys) →
      (∃ e, (w.perform (op.program settings)).1 = .error e) ∧
        ∀ x ∈ (op.program settings).exchanges answer w, x.call.IsQuery) ∧
    ∀ (few many : List Account) (receipt : Receipt), w.faults = [] → (∀ a ∈ few, a ∈ many) →
      ((w.after settings (.signAs few)).perform (op.program settings)).1 = .ok receipt →
      ((w.after settings (.signAs many)).perform (op.program settings)).1 = .ok receipt ∧
        (w.afterAll settings [.signAs few, .perform op]).Widens
          (w.afterAll settings [.signAs many, .perform op]) := by
  constructor
  · intro unsigned
    refine (op.gated settings w.record).refused (path_run answer _ w) ?_ ?_
    · intro c ys zs split queries
      exact eq_record (config_of_exchanges split queries)
    · exact fun a ha signed => unsigned a ha (mem_callers_of_signed signed)
  · intro few many receipt undisturbed sub done
    have widens : (w.after settings (.signAs few)).Widens (w.after settings (.signAs many)) :=
      ⟨rfl, fun a ha => OrderedSet.mem_keys_ofList.2 (sub a (OrderedSet.mem_keys_ofList.1 ha)),
        undisturbed, rfl⟩
    exact widens_of_gated (op.gated settings w.record) (fun c => eq_record) widens done

/-- The nomination of alice can be dropped by the publisher or by alice, but not by bob. When both
sign, the publisher is not asked. -/
theorem authority_gates_droppedNomination :
    let w := configured.after {} (.perform (.nominate alice bob))
    (∃ e, ((w.after {} (.signAs [bob])).perform
        ((Operation.unnominate alice).program {})).1 = .error e) ∧
      ((w.after {} (.signAs [publisher, alice])).perform
        ((Operation.unnominate alice).program {})).1 = .ok (.nominee ⟨alice, bob, ⟨1000⟩⟩) := by
  have refused := (authority_gates {} (.unnominate alice)
    ((configured.after {} (.perform (.nominate alice bob))).after {} (.signAs [bob]))).1
    (by decide +kernel)
  have carried := (authority_gates {} (.unnominate alice)
    (configured.after {} (.perform (.nominate alice bob)))).2 [publisher] [publisher, alice]
    (.nominee ⟨alice, bob, ⟨1000⟩⟩) (by decide +kernel) (by decide) (by decide +kernel)
  exact ⟨refused.1, carried.1⟩

end World

end TrusteeBoard
