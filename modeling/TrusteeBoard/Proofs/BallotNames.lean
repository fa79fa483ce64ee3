import Mathlib.Algebra.Group.Nat.Defs
import Mathlib.Data.List.Nodup
import TrusteeBoard.Proofs.Cycle
import TrusteeBoard.Proofs.Operation.Deed

/-!
# Names of ballots

A ballot is named by the number of its election. Only elections that are recorded count, and a
ballot cannot be withdrawn: if the store fails to write the election, the ballot of the next attempt
gets the same name (`openedNames_repeat`). This is the only way a name comes back
(`History.namesBallots`): the ballots of recorded elections are numbered from one on.
-/

namespace TrusteeBoard

open Sample

/-- The name under which an exchange opened a ballot. -/
def Exchange.openedName? : Exchange → Option String
  | ⟨.openBallot name _ _ _ _, .ok _⟩ => some name
  | _ => none

/-- The names under which an operation opened ballots. -/
def Entry.openedNames (e : Entry) : List String :=
  e.exchanges.filterMap Exchange.openedName?

/-- The names under which ballots were opened, the oldest first. -/
def openedNames (es : List Entry) : List String :=
  es.flatMap Entry.openedNames

/-- The operation opened an election and succeeded, so that the election is recorded. -/
def Entry.recordsElection (e : Entry) : Bool :=
  e.turn?.any Turn.isOpening

/-- The number of elections that were opened and recorded. -/
def electionsRecorded (es : List Entry) : Nat :=
  es.countP Entry.recordsElection

/-- How ballots are named. An operation opens at most one, under the number of the next election. A
later ballot gets the same name only if no election was recorded from the earlier one on, up to a
multiple of `2 ^ 64`. -/
structure NamesBallots (settings : Settings) (es : List Entry) : Prop where
  single : ∀ e ∈ es, e.openedNames.length ≤ 1
  numbered : ∀ before e later, es = before ++ e :: later → ∀ name ∈ e.openedNames,
    name = settings.ballotName (UInt64.ofNat (electionsRecorded before + 1))
  reused_iff : ∀ before e between e' later, es = before ++ e :: (between ++ e' :: later) →
    ∀ name ∈ e.openedNames, ∀ name' ∈ e'.openedNames,
      (name = name' ↔ 2 ^ 64 ∣ electionsRecorded (e :: between))
  recorded : electionsRecorded es ≤ 2 ^ 64 →
    (openedNames (es.filter Entry.recordsElection)).Nodup

variable {settings : Settings} {es : List Entry} {e : Entry} {r r' : Records}

theorem Settings.ballotName_inj {m n : UInt64} :
    settings.ballotName m = settings.ballotName n ↔ m = n := by
  refine ⟨fun same => UInt64.toNat_inj.1 ?_, congrArg _⟩
  have written : Nat.repr m.toNat = Nat.repr n.toNat :=
    (String.append_right_inj (settings.ballotPrefix ++ ".")).1 same
  rw [Nat.repr_eq_ofList_toDigits, Nat.repr_eq_ofList_toDigits, String.ofList_inj] at written
  rw [← Nat.ofDigitChars_ten_toDigits (n := m.toNat), written, Nat.ofDigitChars_ten_toDigits]

/-- Numbers that differ give different names, as far as they differ as words. -/
theorem Settings.ballotName_ofNat_inj {m n : Nat} :
    settings.ballotName (UInt64.ofNat (m + 1)) = settings.ballotName (UInt64.ofNat (n + 1)) ↔
      m % 2 ^ 64 = n % 2 ^ 64 := by
  rw [ballotName_inj, ← UInt64.toNat_inj, UInt64.toNat_ofNat', UInt64.toNat_ofNat']
  omega

theorem Exchange.openedName?_eq_none {x : Exchange} (h : ¬x.ChangesBallot) :
    x.openedName? = none := by
  obtain ⟨c, a⟩ := x
  cases c with
  | openBallot =>
    cases a with
    | ok ballot => exact (h trivial).elim
    | error e => rfl
  | _ => rfl

theorem filterMap_openedName?_eq_nil {xs : List Exchange} (h : ∀ x ∈ xs, ¬x.ChangesBallot) :
    xs.filterMap Exchange.openedName? = [] :=
  List.filterMap_eq_nil_iff.2 fun x hx => Exchange.openedName?_eq_none (h x hx)

theorem countP_isOpening_turns (es : List Entry) :
    (turns es).countP Turn.isOpening = electionsRecorded es := by
  refine List.countP_filterMap.trans (List.countP_congr fun e _ => ?_)
  unfold Entry.recordsElection
  cases e.turn? <;> rfl

/-! ### One operation -/

/-- The record has the number of the next election. -/
theorem History.electionsHeld_add_one (past : History es r) {c : Config}
    (configured : r.config = some c) :
    c.electionsHeld + 1 = UInt64.ofNat (electionsRecorded es + 1) := by
  have current := (Records.inCycle_of_config configured).1 past.inCycle
  rw [current.held, countP_isOpening_turns, UInt64.ofNat_add]
  rfl

/-- An operation opens no ballot, or one for the next election. -/
theorem History.openedNames_cases (past : History es r)
    (path : (e.operation.program e.settings).Path e.exchanges e.result)
    (serves : r.Serves e.exchanges r') : e.openedNames = [] ∨
      e.openedNames = [e.settings.ballotName (UInt64.ofNat (electionsRecorded es + 1))] := by
  unfold Entry.openedNames
  rcases deed_of_path path serves with
    spared | ⟨ys, zs, deed, changes, undo, split, queries, done, course, -⟩
  · exact .inl (filterMap_openedName?_eq_nil spared)
  · rw [split, List.filterMap_append, filterMap_openedName?_eq_nil fun y hy =>
      Exchange.not_changesBallot_of_isQuery (queries y hy), List.nil_append]
    generalize e.operation = op at done
    cases done with
    | makeElection configured planned =>
      rw [← past.electionsHeld_add_one configured]
      cases course <;> exact .inr rfl
    | addCandidate | removeCandidate | startElection => cases course <;> exact .inl rfl

/-- A recorded election has a ballot of the next number. -/
theorem History.openedNames_of_recordsElection (past : History es r)
    (path : (e.operation.program e.settings).Path e.exchanges e.result)
    (serves : r.Serves e.exchanges r') (recorded : e.recordsElection) :
    e.openedNames = [e.settings.ballotName (UInt64.ofNat (electionsRecorded es + 1))] := by
  refine (past.openedNames_cases path serves).resolve_left fun none => ?_
  have unopened := List.filterMap_eq_nil_iff.1 none
  obtain ⟨turn, made, opening⟩ := (Option.any_eq_true _ _).1 recorded
  cases done : e.result with
  | error refusal => cases (Entry.turn?_of_error done).symm.trans made
  | ok receipt =>
    rw [done] at path
    have step := step_of_path path serves
    cases did : e.operation with
    | makeElection holder =>
      rw [did] at step
      cases step with
      | makeElection signed configured asked planned opened => cases unopened _ opened
      | roster prepared => cases prepared
    | startElection | endElection =>
      cases (Entry.turn?_eq did done).symm.trans made
      cases opening
    | _ => cases (Entry.turn?_eq did done).symm.trans made

/-! ### Histories -/

/-- The ballots of recorded elections are numbered from one on. -/
theorem History.openedNames_filter (past : History es r) (fixed : ∀ e ∈ es, e.settings = settings) :
    openedNames (es.filter Entry.recordsElection) =
      (List.range (electionsRecorded es)).map
        fun n => settings.ballotName (UInt64.ofNat (n + 1)) := by
  induction past with
  | start => rfl
  | @perform es r r' past e path serves ih =>
    have before := ih fun e he => fixed e (List.mem_append_left _ he)
    unfold openedNames electionsRecorded at before ⊢
    rw [List.filter_append, List.flatMap_append, before, List.countP_append]
    by_cases recorded : e.recordsElection
    · have names := past.openedNames_of_recordsElection path serves recorded
      rw [fixed e (by simp)] at names
      simp [recorded, names, List.range_succ, electionsRecorded]
    · simp [recorded]

/-- A ballot has the number of the next election that is going to be recorded. -/
theorem History.openedName_eq (past : History es r) (fixed : ∀ e ∈ es, e.settings = settings)
    {before later : List Entry} (split : es = before ++ e :: later) {name : String}
    (opened : name ∈ e.openedNames) :
    name = settings.ballotName (UInt64.ofNat (electionsRecorded before + 1)) := by
  subst split
  obtain ⟨r₀, r₁, earlier, path, serves⟩ := past.exists_perform
  rcases earlier.openedNames_cases path serves with names | names
  · rw [names] at opened
    cases opened
  · rw [names, fixed e (by simp)] at opened
    exact List.mem_singleton.1 opened

/-- In every history with fixed settings, a name is used again only where no election was recorded
since. -/
theorem History.namesBallots (past : History es r) (fixed : ∀ e ∈ es, e.settings = settings) :
    NamesBallots settings es where
  single e he := by
    obtain ⟨before, later, rfl⟩ := List.append_of_mem he
    obtain ⟨r₀, r₁, earlier, path, serves⟩ := past.exists_perform
    rcases earlier.openedNames_cases path serves with names | names <;> simp [names]
  numbered before e later split name opened := past.openedName_eq fixed split opened
  reused_iff before e between e' later split name opened name' opened' := by
    have later' : es = (before ++ e :: between) ++ e' :: later := by simp [split]
    have counted : electionsRecorded (before ++ e :: between) =
        electionsRecorded before + electionsRecorded (e :: between) :=
      List.countP_append
    rw [past.openedName_eq fixed split opened, past.openedName_eq fixed later' opened',
      Settings.ballotName_ofNat_inj, counted]
    omega
  recorded bound := by
    rw [past.openedNames_filter fixed]
    refine List.nodup_range.map_on fun m hm n hn same => ?_
    rw [Settings.ballotName_ofNat_inj] at same
    rw [List.mem_range] at hm hn
    omega

/-- The attempt that fails and the one after it open ballots of one name. The next election gets
another one. -/
theorem History.namesBallots_brokenOpening :
    let es := world.entries {} brokenOpening
    openedNames es = ["tfboard.1", "tfboard.1", "tfboard.2"] ∧
      (openedNames (es.filter Entry.recordsElection)).Nodup := by
  intro es
  have past : History es (world.afterAll {} brokenOpening).store.records :=
    World.history_of_empty rfl brokenOpening
  have named := past.namesBallots fun e he => World.settings_of_mem_entries he
  exact ⟨by decide +kernel, named.recorded (by decide +kernel)⟩

/-- A name is used twice when the store fails to write an election. -/
theorem openedNames_repeat : ¬(openedNames (world.entries {} brokenOpening)).Nodup := by
  decide +kernel

end TrusteeBoard
