import TrusteeBoard.Proofs.Store.Bytes
import TrusteeBoard.World.Basic

/-!
# The two stores agree

A store of byte maps mirrors a store in memory (`ByteStore.Mirrors`) when it is open and its maps
hold the records of the other. Writing keeps it so, and so does closing and opening again. Stores of
which one mirrors the other answer alike, and so nothing that is run over them can tell them apart
(`World.perform_withStore`).
-/

namespace TrusteeBoard

/-- Two stores answer every read alike. -/
structure Store.Agree {σ τ : Type} [Store σ] [Store τ] (s : σ) (t : τ) : Prop where
  config : Store.config s = Store.config t
  nominee : ∀ name, Store.nominee s name = Store.nominee t name
  nominees : Store.nominees s = Store.nominees t
  candidate : ∀ name, Store.candidate s name = Store.candidate t name
  candidates : Store.candidates s = Store.candidates t
  member : ∀ name, Store.member s name = Store.member t name
  members : Store.members s = Store.members t
  memberCount : Store.memberCount s = Store.memberCount t

namespace ByteStore

/-- The store is open, and its maps hold the records of a store in memory that does not fail. -/
structure Mirrors (t : ByteStore) (s : MemoryStore) : Prop where
  isOpen : t.isOpen = true
  disk : t.disk = s.records.bytes
  sound : s.failNextApply = false

variable {t : ByteStore} {s : MemoryStore}

theorem mirrors_fresh : fresh.Mirrors {} :=
  ⟨rfl, rfl, rfl⟩

theorem Mirrors.maps (h : t.Mirrors s) : t.maps = s.records.bytes := by
  rw [ByteStore.maps, if_pos h.isOpen, h.disk]

theorem Mirrors.agree (h : t.Mirrors s) : Store.Agree s t := by
  have collection {α : Type} {layout : Layout α} (faithful : layout.Faithful)
      {m : OrderedMap Account α} {map : ByteMap} (held : map = m.toBytes layout) :
      (∀ name, .ok (m.find? name) = ByteMaps.record layout map name.keyBytes) ∧
        .ok m.values = ByteMaps.records layout map := by
    subst held
    exact ⟨fun name => (ByteMaps.record_toBytes faithful m name).symm,
      (ByteMaps.records_toBytes faithful m).symm⟩
  have nominees := collection Nominee.faithful_layout (congrArg ByteMaps.nominees h.maps)
  have candidates := collection Candidate.faithful_layout (congrArg ByteMaps.candidates h.maps)
  have members := collection Member.faithful_layout (congrArg ByteMaps.board h.maps)
  refine ⟨?_, nominees.1, nominees.2, candidates.1, candidates.2, members.1, members.2, ?_⟩
  · show .ok s.records.config = ByteMaps.record Config.layout t.maps.config ByteMaps.configKey
    rw [h.maps, s.records.record_config_bytes]
  · show Except.ok (UInt32.ofNat s.records.members.size) =
      .ok (UInt32.ofNat t.maps.board.size)
    have size : (s.records.members.toBytes Member.layout).size = s.records.members.size :=
      OrderedMap.size_recode _
    rw [h.maps]
    exact congrArg (fun n => Except.ok (UInt32.ofNat n)) size.symm

theorem Mirrors.apply (h : t.Mirrors s) (changes : List Change) :
    Store.apply t changes = (.ok (), (Store.apply t changes).2) ∧
      Store.apply s changes = (.ok (), (Store.apply s changes).2) ∧
      (Store.apply t changes).2.Mirrors (Store.apply s changes).2 := by
  have recorded : Store.apply s changes =
      (.ok (), { s with records := s.records.after changes, applied := s.applied + 1 }) :=
    if_neg (by simp [h.sound])
  rw [apply_bytes h.isOpen h.disk, recorded]
  exact ⟨rfl, rfl, h.isOpen, rfl, h.sound⟩

theorem Mirrors.reopen (h : t.Mirrors s) : t.reopen = (.ok (), t) := by
  rw [ByteStore.reopen, h.disk, s.records.opened_bytes, ← h.disk, ← h.isOpen]

end ByteStore

/-! ### Worlds over both stores -/

namespace World

variable {σ τ : Type}

/-- The same world over another store. -/
def withStore (w : World σ) (t : τ) : World τ :=
  ⟨w.host, w.ballots, t, w.faults, w.history⟩

variable {t : ByteStore}

theorem respond_withStore {w : World MemoryStore} (h : t.Mirrors w.store) (c : Call) :
    ∃ t' : ByteStore, t'.Mirrors (w.respond c).2.store ∧
      (w.withStore t).respond c = ((w.respond c).1, (w.respond c).2.withStore t') := by
  have agree := h.agree
  cases c with
  | apply changes =>
    obtain ⟨written, recorded, mirrors⟩ := h.apply changes
    refine ⟨_, mirrors, ?_⟩
    show (let (answer, store) := Store.apply t changes; (answer, w.withStore store)) =
      (let (answer, store) := Store.apply w.store changes; (answer, withStore { w with store } _))
    rw [written, recorded]
    rfl
  | config => exact ⟨t, h, Prod.ext agree.config.symm rfl⟩
  | nominee name => exact ⟨t, h, Prod.ext (agree.nominee name).symm rfl⟩
  | nominees => exact ⟨t, h, Prod.ext agree.nominees.symm rfl⟩
  | candidate name => exact ⟨t, h, Prod.ext (agree.candidate name).symm rfl⟩
  | candidates => exact ⟨t, h, Prod.ext agree.candidates.symm rfl⟩
  | member name => exact ⟨t, h, Prod.ext (agree.member name).symm rfl⟩
  | members => exact ⟨t, h, Prod.ext agree.members.symm rfl⟩
  | memberCount => exact ⟨t, h, Prod.ext agree.memberCount.symm rfl⟩
  | _ => exact ⟨t, h, rfl⟩

theorem respondOrFail_withStore {w : World MemoryStore} (h : t.Mirrors w.store) (c : Call) :
    ∃ t' : ByteStore, t'.Mirrors (w.respondOrFail c).2.store ∧
      (w.withStore t).respondOrFail c =
        ((w.respondOrFail c).1, (w.respondOrFail c).2.withStore t') := by
  unfold respondOrFail
  cases c.target? with
  | none => exact respond_withStore h c
  | some target =>
    dsimp only [withStore]
    cases (takeFault target w.faults).1.bind c.failing with
    | some a => exact ⟨t, h, rfl⟩
    | none => exact respond_withStore (w := { w with faults := (takeFault target w.faults).2 }) h c

theorem answer_withStore {w : World MemoryStore} (h : t.Mirrors w.store) (c : Call) :
    ∃ t' : ByteStore, t'.Mirrors (answer c w).2.store ∧
      answer c (w.withStore t) = ((answer c w).1, (answer c w).2.withStore t') := by
  obtain ⟨t', mirrors, same⟩ := respondOrFail_withStore h c
  refine ⟨t', mirrors, ?_⟩
  rw [answer, same]
  rfl

/-- Over either store a program has the same result and leaves the same world but for the store. -/
theorem perform_withStore {α : Type} (p : Program α) {w : World MemoryStore}
    (h : t.Mirrors w.store) :
    ∃ t' : ByteStore, t'.Mirrors (w.perform p).2.store ∧
      (w.withStore t).perform p = ((w.perform p).1, (w.perform p).2.withStore t') := by
  induction p generalizing w t with
  | done result => exact ⟨t, h, rfl⟩
  | ask c next ih =>
    obtain ⟨t', mirrors, same⟩ := answer_withStore h c
    obtain ⟨t'', later, rest⟩ := ih (answer c w).1 mirrors
    refine ⟨t'', later, ?_⟩
    show (next (answer c (w.withStore t)).1).run answer (answer c (w.withStore t)).2 = _
    rw [same]
    exact rest

end World

/-! ### Lists of changes with closing and opening between them -/

/-- What happens to a store. -/
inductive StoreEvent where
  | apply (changes : List Change)
  | reopen

/-- The store in memory after an event; it is never closed. -/
def MemoryStore.afterEvent (s : MemoryStore) : StoreEvent → MemoryStore
  | .apply changes => (Store.apply s changes).2
  | .reopen => s

/-- The store of byte maps after an event. -/
def ByteStore.afterEvent (t : ByteStore) : StoreEvent → ByteStore
  | .apply changes => (Store.apply t changes).2
  | .reopen => t.reopen.2

theorem ByteStore.Mirrors.afterEvents {t : ByteStore} {s : MemoryStore} (h : t.Mirrors s)
    (events : List StoreEvent) :
    (events.foldl ByteStore.afterEvent t).Mirrors (events.foldl MemoryStore.afterEvent s) := by
  induction events generalizing t s with
  | nil => exact h
  | cons event rest ih =>
    refine ih ?_
    cases event with
    | apply changes => exact (h.apply changes).2.2
    | reopen =>
      show t.reopen.2.Mirrors s
      rwa [h.reopen]

/-- Whatever is written to both from their beginnings, and whenever the byte maps are closed and
opened again, the two stores answer every read alike, each takes the next list of changes, and every
program has the same result over both, a check whether a name is filed among them. -/
theorem stores_agree (events : List StoreEvent) :
    let memory := events.foldl MemoryStore.afterEvent {}
    let bytes := events.foldl ByteStore.afterEvent ByteStore.fresh
    Store.Agree memory bytes ∧ bytes.reopen.1 = .ok () ∧
      (∀ changes, (Store.apply memory changes).1 = .ok () ∧
        (Store.apply bytes changes).1 = .ok ()) ∧
      ∀ {α : Type} (p : Program α) (host : Host) (ballots : BallotService) (faults : List Fault),
        (World.perform p { host, ballots, store := memory, faults }).1 =
          (World.perform p { host, ballots, store := bytes, faults }).1 := by
  intro memory bytes
  have mirrors : bytes.Mirrors memory := ByteStore.mirrors_fresh.afterEvents events
  refine ⟨mirrors.agree, by rw [mirrors.reopen], fun changes => ?_,
    fun p host ballots faults => ?_⟩
  · obtain ⟨written, recorded, -⟩ := mirrors.apply changes
    exact ⟨by rw [recorded], by rw [written]⟩
  · obtain ⟨_, -, same⟩ :=
      World.perform_withStore p (w := { host, ballots, store := memory, faults }) mirrors
    exact (congrArg Prod.fst same).symm

end TrusteeBoard
