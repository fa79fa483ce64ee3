import TrusteeBoard.Proofs.Sample
import TrusteeBoard.Proofs.Store.Bytes
import TrusteeBoard.Store.Integrity

/-!
# Corruption is reported

The integrity check goes through the maps on its own and decodes their values for itself. It lists
the entries whose value is no record of their map (`ByteMaps.mem_badRecords_iff`), in the order of
maps and keys. A read of the store fails on one of these and on nothing else, so that whoever heeds
the check is not surprised by a read (`ByteStore.corruption_reported`).
-/

namespace TrusteeBoard

/-- Some read of the store fails. -/
inductive Store.ReadFails {σ : Type} [Store σ] (s : σ) : Prop
  | config (failed : (Store.config s).isOk = false)
  | nominee (name : Account) (failed : (Store.nominee s name).isOk = false)
  | nominees (failed : (Store.nominees s).isOk = false)
  | candidate (name : Account) (failed : (Store.candidate s name).isOk = false)
  | candidates (failed : (Store.candidates s).isOk = false)
  | member (name : Account) (failed : (Store.member s name).isOk = false)
  | members (failed : (Store.members s).isOk = false)
  | memberCount (failed : (Store.memberCount s).isOk = false)

/-- Whether a value is decoded as a record of its map. Stamps are no records. -/
def MapName.decodes (name : MapName) (value : List UInt8) : Bool :=
  match name with
  | .config => (ByteMaps.decode Config.layout value).isOk
  | .nominees => (ByteMaps.decode Nominee.layout value).isOk
  | .candidates => (ByteMaps.decode Candidate.layout value).isOk
  | .board => (ByteMaps.decode Member.layout value).isOk
  | .stamps => true

/-- The place of a map in the order of maps. -/
def MapName.place : MapName → Nat
  | .config => 0
  | .nominees => 1
  | .candidates => 2
  | .board => 3
  | .stamps => 4

/-- The order of maps, and of keys in one map. -/
def BadRecord.Precedes (x y : BadRecord) : Prop :=
  x.map.place < y.map.place ∨ x.map = y.map ∧ compare x.key y.key = .lt

namespace ByteMaps

variable {α : Type} {layout : Layout α} {map : ByteMap} {key : List UInt8}

/-! ### Reads -/

theorem isOk_record : (record layout map key).isOk =
    (map.find? key).all fun value => (decode layout value).isOk := by
  unfold record
  cases map.find? key with
  | none => rfl
  | some value =>
    show (some <$> decode layout value).isOk = (decode layout value).isOk
    cases decode layout value <;> rfl

theorem isOk_records : (records layout map).isOk =
    map.values.all fun value => (decode layout value).isOk := by
  unfold records
  induction map.values with
  | nil => rfl
  | cons value rest ih =>
    rw [List.mapM_cons, List.all_cons, ← ih]
    cases decode layout value with
    | error e => rfl
    | ok a => cases rest.mapM (decode layout) <;> rfl

theorem record_fails_iff : (record layout map key).isOk = false ↔
    ∃ value, map.find? key = some value ∧ (decode layout value).isOk = false := by
  rw [isOk_record]
  cases map.find? key <;> simp

theorem records_fail_iff : (records layout map).isOk = false ↔
    ∃ key value, map.find? key = some value ∧ (decode layout value).isOk = false := by
  rw [isOk_records, List.all_eq_false]
  simp only [OrderedMap.values, List.mem_map, OrderedMap.find?_eq_some_iff, Bool.not_eq_true]
  constructor
  · rintro ⟨_, ⟨⟨key, value⟩, listed, rfl⟩, bad⟩
    exact ⟨key, value, listed, bad⟩
  · rintro ⟨key, value, listed, bad⟩
    exact ⟨value, ⟨(key, value), listed, rfl⟩, bad⟩

/-! ### The check -/

variable (m : ByteMaps)

theorem badRecords_eq (name : MapName) : m.badRecords name =
    ((m.get name).entries.filter fun e => !name.decodes e.2).map fun e => ⟨name, e.1⟩ := by
  have agree {α : Type} (layout : Layout α) (value : List UInt8) :
      (layout.decode? value).isNone = !(decode layout value).isOk := by
    unfold decode
    cases layout.decode? value <;> rfl
  cases name with
  | stamps => simp [badRecords, MapName.decodes]
  | config | nominees | candidates | board => simp only [badRecords, MapName.decodes, agree]

/-- What is listed are the entries whose value is no record of their map. -/
theorem mem_badRecords_iff {bad : BadRecord} : bad ∈ m.checkIntegrity.badRecords ↔
    ∃ value, (m.get bad.map).find? bad.key = some value ∧ bad.map.decodes value = false := by
  obtain ⟨name, key⟩ := bad
  have listed : name ∈ MapName.all := by cases name <;> decide
  simp [checkIntegrity, badRecords_eq, OrderedMap.find?_eq_some_iff, listed]

theorem length_badRecords : m.checkIntegrity.badRecords.length =
    m.config.entries.countP (fun e => !(decode Config.layout e.2).isOk) +
    m.nominees.entries.countP (fun e => !(decode Nominee.layout e.2).isOk) +
    m.candidates.entries.countP (fun e => !(decode Candidate.layout e.2).isOk) +
    m.board.entries.countP (fun e => !(decode Member.layout e.2).isOk) := by
  have one (name : MapName) : (m.badRecords name).length =
      (m.get name).entries.countP fun e => !name.decodes e.2 := by
    rw [badRecords_eq, List.length_map, List.countP_eq_length_filter]
  have stamps : (m.badRecords .stamps).length = 0 := rfl
  simp only [checkIntegrity, MapName.all, List.flatMap_cons, List.flatMap_nil, List.length_append,
    List.length_nil, stamps, one]
  simp only [Nat.add_zero, Nat.add_assoc]
  rfl

theorem pairwise_badRecords : m.checkIntegrity.badRecords.Pairwise BadRecord.Precedes := by
  have places : MapName.all.Pairwise fun name other => name.place < other.place := by decide
  have placed {name : MapName} {bad : BadRecord} (h : bad ∈ m.badRecords name) :
      bad.map = name := by
    rw [badRecords_eq] at h
    obtain ⟨e, -, rfl⟩ := List.mem_map.1 h
    rfl
  refine List.pairwise_flatMap.2 ⟨fun name _ => ?_, places.imp fun before x hx y hy => .inl ?_⟩
  · rw [badRecords_eq, List.pairwise_map]
    exact ((m.get name).ascending.sublist List.filter_sublist).imp fun before => .inr ⟨rfl, before⟩
  · rwa [placed hx, placed hy]

end ByteMaps

namespace ByteStore

open ByteMaps Sample

/-- A read fails on what the check reports, and it fails on any of it but a value beside the
governance record that no read asks for. -/
theorem readFails_iff (s : ByteStore) : Store.ReadFails s ↔
    ∃ bad ∈ s.maps.checkIntegrity.badRecords, bad.map = .config → bad.key = configKey := by
  constructor
  · intro fails
    have reported (name : MapName) (key value : List UInt8)
        (found : (s.maps.get name).find? key = some value) (bad : name.decodes value = false)
        (asked : name = .config → key = configKey) :
        ∃ bad ∈ s.maps.checkIntegrity.badRecords, bad.map = .config → bad.key = configKey :=
      ⟨⟨name, key⟩, s.maps.mem_badRecords_iff.2 ⟨value, found, bad⟩, asked⟩
    cases fails with
    | config failed =>
      obtain ⟨value, found, bad⟩ := record_fails_iff.1 failed
      exact reported .config _ value found bad fun _ => rfl
    | nominee name failed =>
      obtain ⟨value, found, bad⟩ := record_fails_iff.1 failed
      exact reported .nominees _ value found bad nofun
    | nominees failed =>
      obtain ⟨key, value, found, bad⟩ := records_fail_iff.1 failed
      exact reported .nominees key value found bad nofun
    | candidate name failed =>
      obtain ⟨value, found, bad⟩ := record_fails_iff.1 failed
      exact reported .candidates _ value found bad nofun
    | candidates failed =>
      obtain ⟨key, value, found, bad⟩ := records_fail_iff.1 failed
      exact reported .candidates key value found bad nofun
    | member name failed =>
      obtain ⟨value, found, bad⟩ := record_fails_iff.1 failed
      exact reported .board _ value found bad nofun
    | members failed =>
      obtain ⟨key, value, found, bad⟩ := records_fail_iff.1 failed
      exact reported .board key value found bad nofun
    | memberCount failed => cases failed
  · rintro ⟨⟨name, key⟩, reported, asked⟩
    obtain ⟨value, found, bad⟩ := s.maps.mem_badRecords_iff.1 reported
    cases name with
    | config =>
      obtain rfl : key = configKey := asked rfl
      exact .config (record_fails_iff.2 ⟨value, found, bad⟩)
    | nominees => exact .nominees (records_fail_iff.2 ⟨key, value, found, bad⟩)
    | candidates => exact .candidates (records_fail_iff.2 ⟨key, value, found, bad⟩)
    | board => exact .members (records_fail_iff.2 ⟨key, value, found, bad⟩)
    | stamps => cases bad

/-- Whatever the maps hold, the check is not satisfied where some read fails. It lists the entries
whose value is not decoded as a record of their map, each once, in the order of maps and keys; and a
read fails on these only, and on each of them but values that stand beside the governance record. -/
theorem corruption_reported (s : ByteStore) :
    let report := s.maps.checkIntegrity
    (Store.ReadFails s → report.isHealthy = false) ∧
    (Store.ReadFails s ↔
      ∃ bad ∈ report.badRecords, bad.map = .config → bad.key = configKey) ∧
    report.badRecords.length =
      s.maps.config.entries.countP (fun e => !(decode Config.layout e.2).isOk) +
      s.maps.nominees.entries.countP (fun e => !(decode Nominee.layout e.2).isOk) +
      s.maps.candidates.entries.countP (fun e => !(decode Candidate.layout e.2).isOk) +
      s.maps.board.entries.countP (fun e => !(decode Member.layout e.2).isOk) ∧
    (∀ bad, bad ∈ report.badRecords ↔
      ∃ value, (s.maps.get bad.map).find? bad.key = some value ∧
        bad.map.decodes value = false) ∧
    report.badRecords.Pairwise BadRecord.Precedes := by
  refine ⟨fun fails => ?_, s.readFails_iff, s.maps.length_badRecords,
    fun _ => s.maps.mem_badRecords_iff, s.maps.pairwise_badRecords⟩
  obtain ⟨bad, reported, -⟩ := s.readFails_iff.1 fails
  rw [IntegrityReport.isHealthy, List.isEmpty_eq_false_iff]
  exact List.ne_nil_of_mem reported

/-- Among the nominees, a candidate is no record: the check says so, as the nominee cannot be read.
-/
theorem corruption_reported_misfiled :
    let s : ByteStore :=
      { ByteStore.fresh with
        disk.nominees :=
          OrderedMap.empty.insert alice.keyBytes (Candidate.layout.write ⟨alice, ⟨258⟩⟩) }
    Store.ReadFails s ∧ s.maps.checkIntegrity.isHealthy = false := by
  intro s
  have fails : Store.ReadFails s := .nominee alice (by decide +kernel)
  exact ⟨fails, s.corruption_reported.1 fails⟩

end ByteStore

end TrusteeBoard
