import TrusteeBoard.Proofs.Store.Agreement
import TrusteeBoard.Store.Integrity
import TrusteeBoard.World.Run

/-!
# Stores on disk stay healthy

Byte maps that hold records have nothing but records in them, each under its own name
(`Records.checkIntegrity_bytes`). Whatever is run over a new store of byte maps, and however often
it is closed and opened again, the maps hold records (`World.exists_mirrors_after`), so that an
integrity check finds nothing wrong with them.
-/

namespace TrusteeBoard

open ByteMaps

/-! ### Maps that hold records -/

namespace Layout

variable {α : Type} {layout : Layout α}

/-- A map of values that the layout has written has no bad record. -/
theorem Faithful.decodable (faithful : layout.Faithful) {map : ByteMap}
    (written : ∀ e ∈ map.entries, ∃ a, e.2 = layout.write a) :
    map.entries.filter (fun e => (layout.decode? e.2).isNone) = [] := by
  refine List.filter_eq_nil_iff.2 fun e he => ?_
  obtain ⟨a, value⟩ := written e he
  rw [value, (faithful a).decode?_write]
  exact Bool.false_ne_true

theorem Faithful.decodable_toBytes (faithful : layout.Faithful) (m : OrderedMap Account α) :
    (m.toBytes layout).entries.filter (fun e => (layout.decode? e.2).isNone) = [] := by
  refine faithful.decodable fun e he => ?_
  obtain ⟨⟨name, a⟩, -, rfl⟩ := List.mem_map.1 he
  exact ⟨a, rfl⟩

end Layout

namespace Records

theorem badRecords_bytes (r : Records) (name : MapName) : r.bytes.badRecords name = [] := by
  have none_bad {α : Type} {layout : Layout α} {map : ByteMap}
      (sound : map.entries.filter (fun e => (layout.decode? e.2).isNone) = []) :
      ((map.entries.filter fun e => (layout.decode? e.2).isNone).map
        fun e => (⟨name, e.1⟩ : BadRecord)) = [] := by
    rw [sound, List.map_nil]
  cases name with
  | config =>
    refine none_bad (Config.faithful_layout.decodable fun e he => ?_)
    cases hc : r.config with
    | none =>
      rw [bytes, hc] at he
      exact (List.not_mem_nil he).elim
    | some c =>
      rw [bytes, hc] at he
      exact ⟨c, congrArg Prod.snd (List.mem_singleton.1 he)⟩
  | nominees => exact none_bad (Nominee.faithful_layout.decodable_toBytes r.nominees)
  | candidates => exact none_bad (Candidate.faithful_layout.decodable_toBytes r.candidates)
  | board => exact none_bad (Member.faithful_layout.decodable_toBytes r.members)
  | stamps => rfl

/-- One entry for the stamp, one for the governance record if there is one, and one for each record
of a collection. -/
theorem checkIntegrity_bytes (r : Records) : r.bytes.checkIntegrity =
    { mapsChecked := 5
      entries := 1 + r.config.toList.length + r.nominees.values.length +
        r.candidates.values.length + r.members.values.length
      badRecords := [] } := by
  have collection {α : Type} (layout : Layout α) (m : OrderedMap Account α) :
      (m.toBytes layout).entries.length = m.values.length :=
    (OrderedMap.size_recode m).trans (List.length_map _).symm
  have config : r.bytes.config.entries.length = r.config.toList.length := by
    cases hc : r.config <;> rw [bytes, hc] <;> rfl
  have counted : (MapName.all.flatMap fun name => (r.bytes.get name).entries).length =
      r.config.toList.length + (r.nominees.values.length + (r.candidates.values.length +
        (r.members.values.length + 1))) := by
    simp only [MapName.all, List.flatMap_cons, List.flatMap_nil, List.length_append]
    rw [← config, ← collection Nominee.layout, ← collection Candidate.layout,
      ← collection Member.layout]
    rfl
  unfold checkIntegrity
  rw [counted, List.flatMap_eq_nil_iff.2 fun name _ => r.badRecords_bytes name]
  exact congrArg (IntegrityReport.mk 5 · []) (by omega)

end Records

/-! ### Runs over a store on disk -/

/-- What happens to a world over a store on disk. -/
inductive DiskEvent where
  | event (event : Event)
  | reopen

namespace World

variable (settings : Settings)

/-- The world after one event or after the store is closed and opened again. -/
def afterOnDisk (w : World ByteStore) : DiskEvent → World ByteStore
  | .event event => w.after settings event
  | .reopen => { w with store := w.store.reopen.2 }

variable {settings} {w : World ByteStore} {s : MemoryStore}

/-- Whatever happens, the maps hold records. -/
theorem exists_mirrors_after (h : w.store.Mirrors s) (event : DiskEvent) :
    ∃ s', (w.afterOnDisk settings event).store.Mirrors s' := by
  cases event with
  | event event =>
    cases event with
    | perform op =>
      obtain ⟨t, mirrors, same⟩ := perform_withStore (op.program settings) (w := w.withStore s) h
      have stored : (w.after settings (.perform op)).store = t :=
        congrArg (fun done => done.2.store) same
      exact ⟨_, stored ▸ mirrors⟩
    | _ => exact ⟨s, h⟩
  | reopen =>
    refine ⟨s, ?_⟩
    show w.store.reopen.2.Mirrors s
    rwa [h.reopen]

theorem exists_mirrors_afterAll (h : w.store.Mirrors s) (events : List DiskEvent) :
    ∃ s', (events.foldl (afterOnDisk settings) w).store.Mirrors s' := by
  induction events generalizing w s with
  | nil => exact ⟨s, h⟩
  | cons event rest ih =>
    obtain ⟨s', after⟩ := exists_mirrors_after h event
    exact ih after

variable (settings) in
/-- After every run over a new store on disk, an integrity check of all five maps finds no bad
record and as many entries as can be read, with the stamp; and opening the store again changes no
answer. -/
theorem persisted_runs_healthy (host : Host) (ballots : BallotService) (faults : List Fault)
    (events : List DiskEvent) :
    let store := (events.foldl (afterOnDisk settings)
      { host, ballots, store := ByteStore.fresh, faults }).store
    ∃ config nominees candidates members, Store.config store = .ok config ∧
      Store.nominees store = .ok nominees ∧ Store.candidates store = .ok candidates ∧
      Store.members store = .ok members ∧
      store.maps.checkIntegrity =
        { mapsChecked := 5
          entries := 1 + config.toList.length + nominees.length + candidates.length +
            members.length
          badRecords := [] } ∧
      store.reopen.1 = .ok () ∧ Store.Agree store.reopen.2 store := by
  intro store
  obtain ⟨s, mirrors⟩ : ∃ s, store.Mirrors s :=
    exists_mirrors_afterAll ByteStore.mirrors_fresh events
  have agree := mirrors.agree
  refine ⟨s.records.config, s.records.nominees.values, s.records.candidates.values,
    s.records.members.values, agree.config.symm, agree.nominees.symm, agree.candidates.symm,
    agree.members.symm, ?_, ?_⟩
  · rw [mirrors.maps]
    exact s.records.checkIntegrity_bytes
  · rw [mirrors.reopen]
    exact ⟨rfl, rfl, fun _ => rfl, rfl, fun _ => rfl, rfl, fun _ => rfl, rfl, rfl⟩

end World

end TrusteeBoard
