import TrusteeBoard.Proofs.Layout.RoundTrip
import TrusteeBoard.Proofs.OrderedMap
import TrusteeBoard.Store.Bytes
import TrusteeBoard.Store.Memory

/-!
# Records as bytes

`Records.bytes` is how records stand in the maps of bytes: every collection under the bytes of its
names, which keep the order of names (`Account.compare_keyBytes`), and the stamp of the layout. A
change does the same to records and to their bytes (`Records.bytes_change`), a store with them opens
and keeps them (`Records.opened_bytes`), and reading gives the records back.
-/

namespace TrusteeBoard

/-! ### Names as keys -/

theorem toNat_lt_of_isAccountLetter {c : Char} (h : isAccountLetter c = true) : c.toNat < 256 := by
  simp only [isAccountLetter, Bool.or_eq_true, Bool.and_eq_true, decide_eq_true_eq,
    beq_iff_eq] at h
  rcases h with (⟨-, h⟩ | ⟨-, h⟩) | rfl
  · exact Nat.lt_of_le_of_lt (UInt32.le_iff_toNat_le.1 h) (by decide)
  · exact Nat.lt_of_le_of_lt (UInt32.le_iff_toNat_le.1 h) (by decide)
  · decide

theorem compare_letterBytes {c d : Char} (hc : c.toNat < 256) (hd : d.toNat < 256) :
    compare c.toNat.toUInt8 d.toNat.toUInt8 = compare c d := by
  have bytes (e : Char) (he : e.toNat < 256) : e.toNat.toUInt8.toNat = e.toNat :=
    UInt8.toNat_ofNat_of_lt' he
  have lt : c.toNat.toUInt8 < d.toNat.toUInt8 ↔ c < d := by
    rw [UInt8.lt_iff_toNat_lt, bytes c hc, bytes d hd]
    exact UInt32.lt_iff_toNat_lt.symm
  have eq : c.toNat.toUInt8 = d.toNat.toUInt8 ↔ c = d := by
    rw [← UInt8.toNat_inj, bytes c hc, bytes d hd]
    exact Char.toNat_inj
  show compareOfLessAndEq _ _ = compareOfLessAndEq _ _
  simp only [compareOfLessAndEq, lt, eq]

/-- Names and their bytes are in the same order. -/
theorem Account.compare_keyBytes (a b : Account) :
    compare a.keyBytes b.keyBytes = compare a b := by
  have bytes (a : Account) : ∀ c ∈ a.letters, c.toNat < 256 := by
    have wellFormed := a.wellFormed
    simp only [isAccountName, Bool.and_eq_true, List.all_eq_true] at wellFormed
    exact fun c hc => toNat_lt_of_isAccountLetter (wellFormed.2 c hc)
  have key : ∀ cs ds : List Char, (∀ c ∈ cs, c.toNat < 256) → (∀ d ∈ ds, d.toNat < 256) →
      compare (cs.map fun c => c.toNat.toUInt8) (ds.map fun d => d.toNat.toUInt8) =
        compare cs ds := by
    intro cs
    induction cs with
    | nil => rintro (_ | ⟨d, ds⟩) - - <;> rfl
    | cons c cs ih =>
      rintro (_ | ⟨d, ds⟩) hc hd
      · rfl
      · rw [List.forall_mem_cons] at hc hd
        simp only [List.map_cons, List.compare_cons_cons, compare_letterBytes hc.1 hd.1,
          ih ds hc.2 hd.2]
  exact key a.letters b.letters (bytes a) (bytes b)

/-! ### Collections -/

/-- A collection under the bytes of its names. -/
def OrderedMap.toBytes {α : Type} (layout : Layout α) (m : OrderedMap Account α) : ByteMap :=
  m.recode Account.keyBytes layout.write Account.compare_keyBytes

theorem OrderedMap.toBytes_insert {α : Type} (layout : Layout α) (m : OrderedMap Account α)
    (name : Account) (a : α) :
    (m.toBytes layout).insert name.keyBytes (layout.write a) = (m.insert name a).toBytes layout :=
  (recode_insert m name a).symm

theorem OrderedMap.toBytes_erase {α : Type} (layout : Layout α) (m : OrderedMap Account α)
    (name : Account) : (m.toBytes layout).erase name.keyBytes = (m.erase name).toBytes layout :=
  (recode_erase m name).symm

namespace ByteMaps

variable {α : Type} {layout : Layout α}

theorem decode_eq_ok_iff {bytes : List UInt8} {a : α} :
    decode layout bytes = .ok a ↔ layout.decode? bytes = some a := by
  unfold decode
  cases layout.decode? bytes <;> simp

theorem exists_decode_eq_error_iff {bytes : List UInt8} :
    (∃ e, decode layout bytes = .error e) ↔ layout.decode? bytes = none := by
  unfold decode
  cases layout.decode? bytes <;> simp

theorem decode_write (h : layout.Faithful) (a : α) : decode layout (layout.write a) = .ok a := by
  rw [decode, (h a).decode?_write]

theorem record_toBytes (h : layout.Faithful) (m : OrderedMap Account α) (name : Account) :
    record layout (m.toBytes layout) name.keyBytes = .ok (m.find? name) := by
  rw [record, OrderedMap.toBytes, OrderedMap.find?_recode]
  cases m.find? name with
  | none => rfl
  | some a =>
    show some <$> decode layout (layout.write a) = _
    rw [decode_write h]
    rfl

theorem records_toBytes (h : layout.Faithful) (m : OrderedMap Account α) :
    records layout (m.toBytes layout) = .ok m.values := by
  rw [records, OrderedMap.toBytes, OrderedMap.values_recode]
  induction m.values with
  | nil => rfl
  | cons a rest ih =>
    rw [List.map_cons, List.mapM_cons, decode_write h, ih]
    rfl

end ByteMaps

/-! ### Records -/

namespace Records

/-- The maps of bytes that hold the records. -/
def bytes (r : Records) : ByteMaps where
  config :=
    match r.config with
    | none => .empty
    | some c => OrderedMap.empty.insert ByteMaps.configKey (Config.layout.write c)
  nominees := r.nominees.toBytes Nominee.layout
  candidates := r.candidates.toBytes Candidate.layout
  board := r.members.toBytes Member.layout
  stamps :=
    OrderedMap.empty.insert ByteMaps.versionKey (Layout.word32.write ByteMaps.currentVersion)

/-- A change does to the bytes what it does to the records. -/
theorem bytes_change (r : Records) (change : Change) :
    r.bytes.change change = (r.change change).bytes := by
  cases change with
  | putConfig c =>
    have overwritten : r.bytes.config.insert ByteMaps.configKey (Config.layout.write c) =
        OrderedMap.empty.insert ByteMaps.configKey (Config.layout.write c) := by
      refine OrderedMap.ext_find? fun k => ?_
      rw [OrderedMap.find?_insert, OrderedMap.find?_insert]
      split
      · rfl
      · next other =>
        cases hc : r.config with
        | none => simp [bytes, hc]
        | some c => simp [bytes, hc, OrderedMap.find?_insert, other]
    rw [ByteMaps.change, overwritten]
    rfl
  | putNominee y =>
    exact congrArg (fun m => { r.bytes with nominees := m }) (r.nominees.toBytes_insert ..)
  | dropNominee name =>
    exact congrArg (fun m => { r.bytes with nominees := m }) (r.nominees.toBytes_erase ..)
  | putCandidate y =>
    exact congrArg (fun m => { r.bytes with candidates := m }) (r.candidates.toBytes_insert ..)
  | dropCandidate name =>
    exact congrArg (fun m => { r.bytes with candidates := m }) (r.candidates.toBytes_erase ..)
  | clearCandidates => rfl
  | putMember y =>
    exact congrArg (fun m => { r.bytes with board := m }) (r.members.toBytes_insert ..)
  | dropMember name =>
    exact congrArg (fun m => { r.bytes with board := m }) (r.members.toBytes_erase ..)

theorem bytes_after (r : Records) (changes : List Change) :
    r.bytes.after changes = (r.after changes).bytes := by
  induction changes generalizing r with
  | nil => rfl
  | cons change rest ih =>
    show (r.bytes.change change).after rest = ((r.change change).after rest).bytes
    rw [bytes_change, ih]

/-- Maps that hold records carry the current stamp, so they open as they are. -/
theorem opened_bytes (r : Records) : r.bytes.opened = .ok r.bytes := rfl

theorem record_config_bytes (r : Records) :
    ByteMaps.record Config.layout r.bytes.config ByteMaps.configKey = .ok r.config := by
  cases hc : r.config with
  | none => simp [bytes, hc, ByteMaps.record]
  | some c =>
    have found : r.bytes.config.find? ByteMaps.configKey = some (Config.layout.write c) := by
      simp [bytes, hc, OrderedMap.find?_insert]
    rw [ByteMaps.record, found]
    show some <$> ByteMaps.decode Config.layout (Config.layout.write c) = _
    rw [ByteMaps.decode_write Config.faithful_layout]
    rfl

end Records

/-- An open store that holds records is changed as they are. -/
theorem ByteStore.apply_bytes {t : ByteStore} {r : Records} (opened : t.isOpen = true)
    (held : t.disk = r.bytes) (changes : List Change) :
    Store.apply t changes = (.ok (), { t with disk := (r.after changes).bytes }) := by
  show ByteStore.apply t changes = _
  rw [ByteStore.apply, if_pos opened, held, r.bytes_after]

end TrusteeBoard
