import Mathlib.Algebra.BigOperators.Fin
import TrusteeBoard.Proofs.Tenure
import TrusteeBoard.Proofs.World.Candidacies

/-!
# Nominees and candidates

Candidates are nominees, there are candidates only while an election is active, and no more than the
limit (`Records.Registered`), unless the limit is the largest word (`candidates_exceed_limit`). The
collections are written by different operations, so that each relies on what another one has
checked: a nomination is dropped only where no candidate has it, or with all candidates. Whoever is
named in a collection was known to the host when it was entered (`History.vouched`).
-/

namespace TrusteeBoard

open Sample

variable {settings : Settings} {es : List Entry} {r r' : Records} {xs : List Exchange}
  {name : Account} {limit : UInt32}

/-! ### Roster changes and nominees -/

theorem Records.nominees_after_rosterChange (r : Records) (c : Config) (after : Board)
    (changes : List Change) (time : Timestamp) :
    (r.after (r.rosterChange settings c after changes time).changes).nominees =
      (r.after changes).nominees := by
  rw [rosterChange, after_between]

theorem Records.after_dropNominees (r : Records) (names : List Account) (c : Config) :
    r.after (names.map .dropNominee ++ [.putConfig c]) =
      { r with config := some c, nominees := names.foldl OrderedMap.erase r.nominees } := by
  induction names generalizing r with
  | nil => rfl
  | cons name rest ih => exact ih _

theorem Records.after_resolution (r : Records) (names : List Account) (c : Config) :
    r.after (Candidacy.resolution names ++ [.putConfig c]) =
      { r with
        config := some c
        candidates := .empty
        nominees := names.foldl OrderedMap.erase r.nominees } :=
  after_dropNominees { r with candidates := .empty } names c

/-! ### Registrations -/

/-- Candidates are nominees, none of them without an active election, and as many of them as a word
can count are within the limit. -/
structure Records.Registered (r : Records) (limit : UInt32) : Prop where
  nominated : ∀ name ∈ r.candidates.keys, name ∈ r.nominees.keys
  standing : r.candidates.keys ≠ [] → ∃ c, r.config = some c ∧ c.electionActive = true
  limited : min r.candidates.size 0xFFFFFFFF ≤ limit.toNat

namespace Records

theorem registered_of_none (h : r.candidates.keys = []) : r.Registered limit where
  nominated name hname := by
    rw [h] at hname
    cases hname
  standing some := absurd h some
  limited := by
    rw [← OrderedMap.length_keys, h]
    exact Nat.zero_le _

theorem Registered.none_of_inactive (h : r.Registered limit)
    (inactive : ∀ c, r.config = some c → c.electionActive = false) : r.candidates.keys = [] := by
  by_contra some
  obtain ⟨c, configured, active⟩ := h.standing some
  cases (inactive c configured).symm.trans active

/-- With candidates that are withdrawn or stay, nominees that stay and the election that was
active. -/
theorem Registered.of_sub (h : r.Registered limit)
    (nominees : ∀ name ∈ r'.candidates.keys, name ∈ r.nominees.keys → name ∈ r'.nominees.keys)
    (candidates : ∀ name ∈ r'.candidates.keys, name ∈ r.candidates.keys)
    (active : ∀ c, r.config = some c → c.electionActive = true →
      ∃ c', r'.config = some c' ∧ c'.electionActive = true) : r'.Registered limit where
  nominated name hname := nominees name hname (h.nominated name (candidates name hname))
  standing some := by
    obtain ⟨name, hname⟩ := List.exists_mem_of_ne_nil _ some
    obtain ⟨c, configured, on⟩ := h.standing (List.ne_nil_of_mem (candidates name hname))
    exact active c configured on
  limited := by
    have fewer : r'.candidates.size ≤ r.candidates.size := by
      rw [← OrderedMap.length_keys, ← OrderedMap.length_keys]
      exact (r'.candidates.nodup_keys.subperm candidates).length_le
    have := h.limited
    omega

/-- A registration that leaves room. -/
theorem Registered.register (h : r.Registered limit) {candidate : Account} {c : Config}
    (configured : r.config = some c) (active : c.electionActive = true) {record : Nominee}
    (listed : r.nominees.find? candidate = some record)
    (unregistered : r.candidates.find? candidate = none)
    (room : ¬limit < UInt32.ofNat r.candidates.size + 1) (entered : Candidate) :
    Records.Registered { r with candidates := r.candidates.insert candidate entered } limit where
  nominated name hname := by
    rcases OrderedMap.mem_keys_insert.1 hname with rfl | hname
    · exact OrderedMap.mem_keys_iff.2 ⟨record, listed⟩
    · exact h.nominated name hname
  standing _ := ⟨c, configured, active⟩
  limited := by
    have fresh : candidate ∉ r.candidates.keys := by
      rw [OrderedMap.mem_keys_iff, unregistered]
      simp
    show min (r.candidates.insert candidate entered).size _ ≤ _
    rw [OrderedMap.size_insert_of_notMem fresh]
    have before := h.limited
    rw [UInt32.lt_iff_toNat_lt, UInt32.toNat_add, UInt32.toNat_ofNat', UInt32.toNat_one] at room
    omega

end Records

theorem registered_of_step (h : r.Registered limit) (within : settings.maxCandidates ≤ limit)
    {op : Operation} {receipt : Receipt} (step : Step settings r xs op receipt r') :
    r'.Registered limit := by
  cases step with
  | setConfig current owned signed inactive sound =>
    refine Records.registered_of_none (h.none_of_inactive fun c configured => ?_)
    rw [configured] at current
    cases current
    exact inactive
  | nominate signed known asked fresh eligible =>
    exact h.of_sub (fun name _ listed => OrderedMap.mem_keys_insert.2 (.inr listed))
      (fun _ => id) fun c configured active => ⟨c, configured, active⟩
  | @unnominate nominee record signed listed unregistered =>
    refine h.of_sub (fun name registered stays => OrderedMap.mem_keys_erase.2 ⟨?_, stays⟩)
      (fun _ => id) fun c configured active => ⟨c, configured, active⟩
    rintro rfl
    obtain ⟨found, present⟩ := OrderedMap.mem_keys_iff.1 registered
    cases unregistered.symm.trans present
  | addCandidate signed configured asked window listed unregistered room added =>
    obtain ⟨active, -⟩ := Config.candidacyBallot_eq_ok_iff.1 window
    refine h.register configured active listed unregistered (fun beyond => room ?_) _
    exact UInt32.lt_of_le_of_lt within beyond
  | removeCandidate configured signed asked window registered removed =>
    exact h.of_sub (fun _ _ => id) (fun name hname => (OrderedMap.mem_keys_erase.1 hname).2)
      fun c configured active => ⟨c, configured, active⟩
  | makeElection => exact Records.registered_of_none rfl
  | startElection signed configured asked begun opened =>
    obtain ⟨active, -, -, -, rfl⟩ := Config.beginVoting_eq_ok_iff.1 begun
    exact h.of_sub (fun _ _ => id) (fun _ => id) fun _ _ _ => ⟨_, rfl, active⟩
  | roster prepared pushed =>
    cases prepared with
    | removeMember signed configured left asked | resign signed configured left asked =>
      refine h.of_sub ?_ ?_ fun c stored active => ⟨_, Records.config_after_rosterChange .., ?_⟩
      · rw [Records.nominees_after_rosterChange]
        exact fun _ _ => id
      · rw [Records.candidates_after_rosterChange]
        exact fun _ => id
      · cases configured.symm.trans stored
        exact active
    | endElection signed configured asked begun counted elected closed =>
      refine Records.registered_of_none ?_
      rw [Records.candidates_after_rosterChange, Records.after_resolution]
      rfl
    | seatBoard configured signed inactive vacant known seated asked =>
      refine Records.registered_of_none ?_
      rw [Records.candidates_after_rosterChange, Records.after_dropNominees]
      refine h.none_of_inactive fun c stored => ?_
      cases configured.symm.trans stored
      exact inactive

/-- Under settings whose limits are within `limit`, every history keeps the registrations. -/
theorem History.registered (h : History es r)
    (within : ∀ e ∈ es, e.settings.maxCandidates ≤ limit) : r.Registered limit := by
  revert within
  refine h.by_steps (I := fun es r =>
    (∀ e ∈ es, e.settings.maxCandidates ≤ limit) → r.Registered limit) ?_ ?_ ?_
  · exact fun _ => Records.registered_of_none rfl
  · exact fun before _ within => before fun e he => within e (List.mem_append_left _ he)
  · intro es r e receipt r' _ before _ step within
    have registered := before fun e he => within e (List.mem_append_left _ he)
    exact registered_of_step registered (within e (by simp)) step

/-- In every history, whatever the limits, candidates are nominees. -/
theorem History.nominated (h : History es r) :
    ∀ name ∈ r.candidates.keys, name ∈ r.nominees.keys := by
  have within : ∀ e ∈ es, e.settings.maxCandidates ≤ 0xFFFFFFFF := fun e _ =>
    UInt32.le_iff_toNat_le.2 (Nat.le_of_lt_succ e.settings.maxCandidates.toNat_lt)
  exact (h.registered within).nominated

/-! ### Known accounts -/

/-- Whoever is named after an operation was named before it, or the host has vouched for the
account. -/
theorem vouched_of_step (filed : r.Filed)
    (nominated : ∀ name ∈ r.candidates.keys, name ∈ r.nominees.keys) {op : Operation}
    {receipt : Receipt} (step : Step settings r xs op receipt r')
    (named : name ∈ r'.nominees.keys ∨ name ∈ r'.members.keys) :
    (name ∈ r.nominees.keys ∨ name ∈ r.members.keys) ∨ ⟨.accountExists name, true⟩ ∈ xs := by
  cases step with
  | setConfig | addCandidate | removeCandidate | makeElection | startElection => exact .inl named
  | nominate signed known asked fresh eligible =>
    rcases named with listed | seated
    · rcases OrderedMap.mem_keys_insert.1 listed with rfl | listed
      · exact .inr known
      · exact .inl (.inl listed)
    · exact .inl (.inr seated)
  | unnominate signed listed unregistered =>
    exact .inl (named.imp_left fun listed => (OrderedMap.mem_keys_erase.1 listed).2)
  | roster prepared pushed =>
    cases prepared with
    | removeMember signed configured left asked | resign signed configured left asked =>
      rw [Records.nominees_after_rosterChange] at named
      exact .inl (named.imp_right fun seated => ((mem_keys_after_leave filed left _).1 seated).2)
    | @endElection holder stored c finished ballot tally after time signed configured asked begun
        counted elected closed =>
      rw [Records.nominees_after_rosterChange, Records.after_resolution,
        Records.keys_members_after_rosterChange _ filed _ _ (resolution_keeps _ _)] at named
      refine .inl ?_
      rcases named with listed | seated
      · exact .inl (OrderedMap.mem_keys_foldl_erase.1 listed).2
      · -- who is seated had a seat, or won and was registered, so nominated
        rcases (Board.grows_afterElection elected).added name seated with kept | won
        · split at kept
          · cases kept
          · rw [Records.keys_board filed] at kept
            exact .inr kept
        · exact .inl (nominated name (candidate_of_winner filed won).1)
    | seatBoard configured signed inactive vacant known founded asked =>
      rw [Records.nominees_after_rosterChange, Records.after_dropNominees,
        Records.keys_members_after_rosterChange _ filed _ _ (dropNominees_keep _ _)] at named
      rcases named with listed | seated
      · exact .inl (.inl (OrderedMap.mem_keys_foldl_erase.1 listed).2)
      · rcases (Board.grows_foldlM_seat founded).added name seated with kept | founds
        · rw [Records.keys_board filed] at kept
          exact .inl (.inr kept)
        · exact .inr (known name founds)

/-- The host has vouched for every account that is named in a history. -/
theorem History.vouched (h : History es r)
    (named : name ∈ r.nominees.keys ∨ name ∈ r.members.keys) :
    ∃ e ∈ es, ⟨.accountExists name, true⟩ ∈ e.exchanges := by
  have earlier {es : List Entry} {e : Entry}
      (vouched : ∃ x ∈ es, ⟨.accountExists name, true⟩ ∈ x.exchanges) :
      ∃ x ∈ es ++ [e], ⟨.accountExists name, true⟩ ∈ x.exchanges := by
    obtain ⟨x, hx, vouched⟩ := vouched
    exact ⟨x, List.mem_append_left _ hx, vouched⟩
  revert named
  refine h.by_steps (I := fun es r => name ∈ r.nominees.keys ∨ name ∈ r.members.keys →
    ∃ e ∈ es, ⟨.accountExists name, true⟩ ∈ e.exchanges) ?_ ?_ ?_
  · rintro (listed | seated) <;> contradiction
  · exact fun before _ named => earlier (before named)
  · intro es r e receipt r' past before _ step named
    rcases vouched_of_step past.filed past.nominated step named with named | vouched
    · exact earlier (before named)
    · exact ⟨e, by simp, vouched⟩

/-! ### Runs -/

namespace World

variable (settings) in
/-- In every run from an empty store, candidates are nominees, there are none of them without an
active election, and everyone who is named exists on the host. The number of candidates is within
the limit, unless that is the largest word and the host has more accounts than a word can count. -/
theorem candidacy_invariant {w : World MemoryStore} (empty : w.store.records = {})
    (events : List Event) :
    let ended := w.afterAll settings events
    let r := ended.store.records
    (∀ name ∈ r.candidates.keys, name ∈ r.nominees.keys) ∧
      (r.candidates.keys ≠ [] → ∃ c, r.config = some c ∧ c.electionActive = true) ∧
      (settings.maxCandidates < 0xFFFFFFFF ∨ ended.host.accounts.size < 2 ^ 32 →
        r.candidates.size ≤ settings.maxCandidates.toNat) ∧
      ∀ name, name ∈ r.nominees.keys ∨ name ∈ r.candidates.keys ∨ name ∈ r.members.keys →
        name ∈ ended.host.accounts.keys := by
  intro ended r
  have history : History (w.entries settings events) r := history_of_empty empty events
  have within : ∀ e ∈ w.entries settings events,
      e.settings.maxCandidates ≤ settings.maxCandidates := by
    intro e he
    rw [settings_of_mem_entries he]
    exact UInt32.le_refl _
  have registered := history.registered within
  have known (name : Account)
      (named : name ∈ r.nominees.keys ∨ name ∈ r.candidates.keys ∨ name ∈ r.members.keys) :
      name ∈ ended.host.accounts.keys := by
    have listed : name ∈ r.nominees.keys ∨ name ∈ r.members.keys := by
      rcases named with listed | registers | seated
      · exact .inl listed
      · exact .inl (registered.nominated name registers)
      · exact .inr seated
    obtain ⟨e, he, vouched⟩ := history.vouched listed
    exact (lasting_account name).of_mem_entries (establishes_account name) he vouched
  refine ⟨registered.nominated, registered.standing, fun countable => ?_, known⟩
  have fewer : r.candidates.size ≤ ended.host.accounts.size := by
    rw [← OrderedMap.length_keys, ← OrderedMap.length_keys]
    refine (r.candidates.nodup_keys.subperm fun name hname => ?_).length_le
    exact known name (.inr (.inl hname))
  have limited := registered.limited
  rcases countable with small | few
  · rw [UInt32.lt_iff_toNat_lt] at small
    have : (0xFFFFFFFF : UInt32).toNat = 0xFFFFFFFF := rfl
    omega
  · omega

/-- The candidate of the succession, before the election is closed. -/
theorem candidacy_invariant_succession :
    let ended := world.afterAll {} succession
    let r := ended.store.records
    r.candidates.keys = [alice] ∧ alice ∈ r.nominees.keys ∧
      (∃ c, r.config = some c ∧ c.electionActive = true) ∧
      r.candidates.size ≤ ({} : Settings).maxCandidates.toNat ∧
      alice ∈ ended.host.accounts.keys := by
  intro ended r
  obtain ⟨nominated, standing, limited, known⟩ :=
    candidacy_invariant {} (w := world) rfl succession
  have registers : r.candidates.keys = [alice] := by
    decide +kernel
  have listed : alice ∈ r.candidates.keys := by
    rw [registers]
    exact List.mem_singleton.2 rfl
  exact ⟨registers, nominated alice listed, standing (List.ne_nil_of_mem listed),
    limited (.inl (by decide)), known alice (.inr (.inl listed))⟩

end World

/-! ### The largest limit -/

/-- Settings under which the largest word is the limit. -/
def boundless : Settings where
  maxCandidates := 0xFFFFFFFF

/-- Everyone stands in the first election. -/
def registrations (names : List Account) : List Event :=
  [.perform (.setConfig publisher {}), .perform (.makeElection publisher)] ++
    .addAccounts names :: names.flatMap World.candidacy

/-- Under the largest limit everyone is registered. -/
theorem size_candidates_registrations {names : List Account} (distinct : names.Nodup) :
    (world.afterAll boundless (registrations names)).store.records.candidates.size =
      names.length := by
  have begins : world.Completes boundless
      [.perform (.setConfig publisher {}), .perform (.makeElection publisher)]
      fun w => ∃ c, w.Accepting c ⟨1⟩ [] :=
    ⟨List.forall_mem_cons.2 ⟨⟨_, rfl⟩, List.forall_mem_singleton.2 ⟨_, rfl⟩⟩,
      _, ⟨rfl, rfl, rfl, rfl⟩, rfl, rfl, ⟨_, rfl, nofun, nofun⟩, rfl, nofun, nofun, rfl⟩
  have completes : world.Completes boundless (registrations names) fun w =>
      w.store.records.candidates.size = [].length + names.length :=
    World.completes_append begins fun w ⟨c, accepting⟩ => .addAccounts <|
      (accepting.addAccounts names).completes_candidacies rfl distinct
        (List.disjoint_nil_right _) (World.subset_addAccounts w.host names)
  exact completes.2.trans (Nat.zero_add _)

/-- One of sixteen letters. -/
def accountLetter (d : Fin 16) : Char :=
  Char.ofNat ('a'.toNat + d)

theorem isAccountName_ofFn (digits : Fin 8 → Fin 16) :
    isAccountName (List.ofFn fun k => accountLetter (digits k)) = true := by
  have letters : ∀ d, isAccountLetter (accountLetter d) = true ∧ accountLetter d ≠ '.' := by
    decide
  simp [isAccountName, letters]

/-- The account whose name is a number written with eight letters. -/
def numbered (n : Fin (16 ^ 8)) : Account :=
  ⟨List.ofFn fun k => accountLetter (finFunctionFinEquiv.symm n k), isAccountName_ofFn _⟩

theorem numbered_injective : Function.Injective numbered := by
  intro m n same
  have letters : Function.Injective accountLetter := by
    decide
  have written : List.ofFn (fun k => accountLetter (finFunctionFinEquiv.symm m k)) =
      List.ofFn fun k => accountLetter (finFunctionFinEquiv.symm n k) :=
    congrArg Account.letters same
  exact finFunctionFinEquiv.symm.injective
    (funext fun k => letters (congrFun (List.ofFn_injective written) k))

/-- As many accounts as there are words. -/
def crowd : List Account :=
  (List.finRange (16 ^ 8)).map numbered

/-- Under the largest limit there can be more candidates than the limit, since the count of a
registration is taken modulo `2 ^ 32`. -/
theorem candidates_exceed_limit :
    boundless.maxCandidates.toNat <
      (world.afterAll boundless (registrations crowd)).store.records.candidates.size := by
  have distinct : crowd.Nodup := (List.nodup_finRange _).map numbered_injective
  rw [size_candidates_registrations distinct, crowd, List.length_map, List.length_finRange]
  decide

end TrusteeBoard
