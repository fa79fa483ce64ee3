import TrusteeBoard.Proofs.Layout.Canonical

/-!
# Opening a store

What becomes of a store when it is opened depends on the stamp under `ByteMaps.versionKey` alone: it
is missing, or the four bytes of a version, or of another length. A store that opens is what it was
but for that stamp (`ByteStore.Continues`), so opening it again does nothing, and one that does not
open stays as it is on disk (`ByteStore.reopen_safe`).
-/

namespace TrusteeBoard

namespace ByteMaps

open Layout

/-! ### Stamps -/

/-- Four bytes are those of a version, the lowest first. -/
theorem exists_eq_write {bytes : List UInt8} (four : bytes.length = 4) :
    ∃ version, bytes = word32.write version := by
  have small : ofBytes bytes < 256 ^ 4 := four ▸ ofBytes_lt bytes
  refine ⟨UInt32.ofNat (ofBytes bytes), ?_⟩
  show bytes = bytesOf 4 (UInt32.ofNat (ofBytes bytes)).toNat
  rw [UInt32.toNat_ofNat_of_lt' small, ← four, bytesOf_ofBytes]

theorem readVersion_write (version : UInt32) :
    readVersion (word32.write version) = .ok version := by
  have four : (word32.write version).length = 4 := length_bytesOf ..
  have value : ofBytes (word32.write version) = version.toNat := ofBytes_bytesOf version.toNat_lt
  rw [readVersion, if_pos four, value, UInt32.ofNat_toNat]

example : word32.write currentVersion = [1, 0, 0, 0] := by decide

/-! ### Maps by their stamp -/

variable {m : ByteMaps}

theorem version_of_current (h : m.stamps.find? versionKey = some (word32.write currentVersion)) :
    m.version = .ok currentVersion := by
  rw [version, h]
  exact readVersion_write _

theorem opened_of_current (h : m.stamps.find? versionKey = some (word32.write currentVersion)) :
    m.opened = .ok m := by
  rw [opened, h]
  show (readVersion _ >>= _) = _
  rw [readVersion_write]
  rfl

theorem opened_of_other {version : UInt32} (other : version ≠ currentVersion)
    (h : m.stamps.find? versionKey = some (word32.write version)) :
    m.opened = .error (.versionMismatch version currentVersion) := by
  rw [opened, h]
  show (readVersion _ >>= _) = _
  rw [readVersion_write]
  exact if_neg other

theorem opened_of_illegible {bytes : List UInt8} (length : bytes.length ≠ 4)
    (h : m.stamps.find? versionKey = some bytes) :
    m.opened = .error (.undecodable "schema_version has unexpected byte length") := by
  rw [opened, h]
  show (readVersion _ >>= _) = _
  rw [readVersion, if_neg length]
  rfl

/-- The maps with the stamp of the current version. -/
def stamped (m : ByteMaps) : ByteMaps :=
  { m with stamps := m.stamps.insert versionKey (word32.write currentVersion) }

theorem find?_stamps_stamped (m : ByteMaps) (key : List UInt8) : m.stamped.stamps.find? key =
    if key = versionKey then some (word32.write currentVersion) else m.stamps.find? key :=
  OrderedMap.find?_insert ..

theorem opened_of_unstamped (h : m.stamps.find? versionKey = none) : m.opened = .ok m.stamped := by
  rw [opened, h]
  rfl

end ByteMaps

namespace ByteStore

open ByteMaps

/-- What the store on disk is stamped with. -/
def stamp (s : ByteStore) : Option (List UInt8) :=
  s.disk.stamps.find? versionKey

/-- `t` is open and holds what `s` does, and its stamp is that of the current version. -/
structure Continues (t s : ByteStore) : Prop where
  isOpen : t.isOpen = true
  records : ∀ name, name ≠ .stamps → t.disk.get name = s.disk.get name
  stamps : ∀ key, key ≠ versionKey → t.disk.stamps.find? key = s.disk.stamps.find? key
  version : t.maps.version = .ok currentVersion
  again : t.reopen = (.ok (), t)

variable {s : ByteStore} {disk : ByteMaps}

theorem reopen_of_ok (h : s.disk.opened = .ok disk) : s.reopen = (.ok (), ⟨disk, true⟩) := by
  rw [reopen, h]

theorem reopen_of_error {e : EnvironmentError} (h : s.disk.opened = .error e) :
    s.reopen = (.error e, { s with isOpen := false }) := by
  rw [reopen, h]

/-- An open store with the current stamp is as a store is after it has been opened. -/
theorem Continues.of_stamp
    (current : disk.stamps.find? versionKey = some (Layout.word32.write currentVersion))
    (records : ∀ name, name ≠ .stamps → disk.get name = s.disk.get name)
    (stamps : ∀ key, key ≠ versionKey → disk.stamps.find? key = s.disk.stamps.find? key) :
    Continues ⟨disk, true⟩ s :=
  ⟨rfl, records, stamps, version_of_current current, reopen_of_ok (opened_of_current current)⟩

theorem reopen_of_unstamped (h : s.stamp = none) :
    s.reopen.1 = .ok () ∧ s.reopen.2.Continues s := by
  rw [reopen_of_ok (opened_of_unstamped h)]
  refine ⟨rfl, .of_stamp ?_ (fun name records => ?_) fun key other => ?_⟩
  · rw [find?_stamps_stamped, if_pos rfl]
  · cases name with
    | stamps => contradiction
    | config | nominees | candidates | board => rfl
  · rw [find?_stamps_stamped, if_neg other]

theorem reopen_of_current (h : s.stamp = some (Layout.word32.write currentVersion)) :
    s.reopen.1 = .ok () ∧ s.reopen.2.Continues s := by
  rw [reopen_of_ok (opened_of_current h)]
  exact ⟨rfl, .of_stamp h (fun _ _ => rfl) fun _ _ => rfl⟩

/-- A store opens iff it has no stamp or the current one. It is then as it was but for the stamp,
and opening it again changes nothing. Any other version is reported, and so is a stamp that is none;
neither changes what is on disk. -/
theorem reopen_safe (s : ByteStore) :
    (s.reopen.1 = .ok () ↔
      s.stamp = none ∨ s.stamp = some (Layout.word32.write currentVersion)) ∧
    (s.reopen.1 = .ok () → s.reopen.2.Continues s) ∧
    (∀ bytes, s.stamp = some bytes → bytes.length = 4 → ∃ version,
      bytes = Layout.word32.write version ∧ (version ≠ currentVersion →
        s.reopen.1 = .error (.versionMismatch version currentVersion))) ∧
    (∀ bytes, s.stamp = some bytes → bytes.length ≠ 4 →
      s.reopen.1 = .error (.undecodable "schema_version has unexpected byte length")) ∧
    (s.reopen.1 ≠ .ok () → s.reopen.2.disk = s.disk) := by
  have other {version : UInt32} (h : s.stamp = some (Layout.word32.write version))
      (other : version ≠ currentVersion) := reopen_of_error (opened_of_other other h)
  have illegible {bytes : List UInt8} (h : s.stamp = some bytes) (length : bytes.length ≠ 4) :=
    reopen_of_error (opened_of_illegible length h)
  have opens : s.stamp = none ∨ s.stamp = some (Layout.word32.write currentVersion) →
      s.reopen.1 = .ok () ∧ s.reopen.2.Continues s := by
    rintro (missing | current)
    · exact reopen_of_unstamped missing
    · exact reopen_of_current current
  -- Any other stamp fails, and the store is closed as it is.
  have fails (h : ¬(s.stamp = none ∨ s.stamp = some (Layout.word32.write currentVersion))) :
      s.reopen.1 ≠ .ok () ∧ s.reopen.2.disk = s.disk := by
    rw [not_or] at h
    obtain ⟨bytes, stamp⟩ := Option.ne_none_iff_exists'.1 h.1
    by_cases length : bytes.length = 4
    · obtain ⟨version, rfl⟩ := exists_eq_write length
      rw [other stamp fun same => h.2 (same ▸ stamp)]
      exact ⟨nofun, rfl⟩
    · rw [illegible stamp length]
      exact ⟨nofun, rfl⟩
  have iff : s.reopen.1 = .ok () ↔
      s.stamp = none ∨ s.stamp = some (Layout.word32.write currentVersion) :=
    ⟨fun h => by_contra fun stamp => (fails stamp).1 h, fun h => (opens h).1⟩
  refine ⟨iff, fun h => (opens (iff.1 h)).2, fun bytes stamp length => ?_,
    fun bytes stamp length => by rw [illegible stamp length], fun h => (fails (mt iff.2 h)).2⟩
  obtain ⟨version, rfl⟩ := exists_eq_write length
  exact ⟨version, rfl, fun h => by rw [other stamp h]⟩

/-- A closed store with an unreadable seat and the given stamps. -/
def withStamps (stamps : List (List UInt8 × List UInt8)) : ByteStore :=
  ⟨{ board := OrderedMap.ofList [([7], [255])], stamps := OrderedMap.ofList stamps }, false⟩

theorem reopen_safe_withStamps :
    (withStamps [([1], [9])]).reopen.2.Continues (withStamps [([1], [9])]) ∧
      (withStamps [(versionKey, [1, 2, 0, 0])]).reopen.1 =
        .error (.versionMismatch 513 currentVersion) ∧
      (withStamps [(versionKey, [1])]).reopen.1 =
        .error (.undecodable "schema_version has unexpected byte length") ∧
      (withStamps [(versionKey, [1])]).reopen.2.disk = (withStamps [(versionKey, [1])]).disk := by
  obtain ⟨opens, continues, -⟩ := reopen_safe (withStamps [([1], [9])])
  obtain ⟨-, -, mismatch, -⟩ := reopen_safe (withStamps [(versionKey, [1, 2, 0, 0])])
  obtain ⟨-, -, -, illegible, unchanged⟩ := reopen_safe (withStamps [(versionKey, [1])])
  have refused := illegible [1] (by decide) (by decide)
  refine ⟨continues (opens.2 (.inl (by decide))), ?_, refused, unchanged (by rw [refused]; nofun)⟩
  obtain ⟨version, written, refused⟩ := mismatch [1, 2, 0, 0] (by decide) rfl
  have value : version = 513 := by
    have := congrArg readVersion written
    rw [readVersion_write] at this
    exact (Except.ok.inj this).symm
  rw [← value]
  exact refused (by rw [value]; decide)

end ByteStore

end TrusteeBoard
