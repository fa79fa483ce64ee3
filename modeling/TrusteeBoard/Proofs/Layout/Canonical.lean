import TrusteeBoard.Proofs.Store.Bytes

/-!
# Records are canonical

A layout is canonical (`Layout.Canonical`) when it reads a value only from the bytes that it writes
of it. Each way to put layouts together keeps this, as long as a value that stands for another
stands for only one. Together with the round trip it says which bytes are accepted as a record:
those that begin with what is written of it (`Layout.decode_eq_ok_iff`).

Names are read from text, and a record begins with its names. Whatever else stands in the place of
one of them is refused (`Layout.ExpectsNames`).
-/

namespace TrusteeBoard

namespace Layout

variable {α β : Type} {l : Layout α} {m : Layout β} {bytes rest : List UInt8}

/-- A value is read only from the bytes that are written of it. -/
def Canonical (l : Layout α) : Prop :=
  ∀ bytes a rest, l.read bytes = some (a, rest) → bytes = l.write a ++ rest

/-! ### Combinators -/

theorem Canonical.seq (hl : l.Canonical) (hm : m.Canonical) : (l.seq m).Canonical := by
  rintro bytes ⟨a, b⟩ rest h
  obtain ⟨⟨a', middle⟩, first, h⟩ := Option.bind_eq_some_iff.1 h
  obtain ⟨⟨b', rest'⟩, second, h⟩ := Option.bind_eq_some_iff.1 h
  cases h
  show bytes = l.write a ++ m.write b ++ rest
  rw [hl _ _ _ first, hm _ _ _ second, List.append_assoc]

/-- What stands for a value has to be determined by it. -/
theorem Canonical.refine {ofValue? : α → Option β} {toValue : β → α} (h : l.Canonical)
    (back : ∀ a b, ofValue? a = some b → toValue b = a) :
    (l.refine ofValue? toValue).Canonical := by
  intro bytes b rest read
  obtain ⟨⟨a, rest'⟩, first, read⟩ := Option.bind_eq_some_iff.1 read
  obtain ⟨b', stands, read⟩ := Option.bind_eq_some_iff.1 read
  cases read
  show bytes = l.write (toValue b) ++ rest
  rw [back a b stands]
  exact h _ _ _ first

theorem Canonical.iso {ofValue : α → β} {toValue : β → α} (h : l.Canonical)
    (back : ∀ a, toValue (ofValue a) = a) : (l.iso ofValue toValue).Canonical :=
  h.refine fun a b stands => by
    cases stands
    exact back a

/-! ### Numbers -/

theorem ofBytes_lt (bytes : List UInt8) : ofBytes bytes < 256 ^ bytes.length := by
  induction bytes with
  | nil => exact Nat.one_pos
  | cons b rest ih =>
    have := b.toNat_lt
    rw [ofBytes, List.length_cons, Nat.pow_succ]
    omega

theorem bytesOf_ofBytes (bytes : List UInt8) : bytesOf bytes.length (ofBytes bytes) = bytes := by
  induction bytes with
  | nil => rfl
  | cons b rest ih =>
    have := b.toNat_lt
    have lowest : (b.toNat + 256 * ofBytes rest) % 256 = b.toNat := by omega
    have others : (b.toNat + 256 * ofBytes rest) / 256 = ofBytes rest := by omega
    rw [ofBytes, List.length_cons, bytesOf, lowest, others, ih, UInt8.ofNat_toNat]

theorem splitBytes_eq_some_iff {n : Nat} {front : List UInt8} :
    splitBytes n bytes = some (front, rest) ↔ front.length = n ∧ bytes = front ++ rest := by
  constructor
  · intro h
    unfold splitBytes at h
    split at h
    · next fits =>
      cases h
      exact ⟨List.length_take_of_le fits, (List.take_append_drop n bytes).symm⟩
    · cases h
  · rintro ⟨rfl, rfl⟩
    exact splitBytes_append front rest

/-- A word of `width` bytes. -/
theorem canonical_word {width : Nat} {ofNat : Nat → α} {toNat : α → Nat}
    (back : ∀ n < 256 ^ width, toNat (ofNat n) = n) :
    ((number width).iso ofNat toNat).Canonical := by
  intro bytes a rest h
  obtain ⟨⟨n, rest'⟩, first, h⟩ := Option.bind_eq_some_iff.1 h
  cases h
  obtain ⟨⟨front, rest'⟩, split, h⟩ := Option.bind_eq_some_iff.1 first
  cases h
  obtain ⟨rfl, rfl⟩ := splitBytes_eq_some_iff.1 split
  show front ++ rest = bytesOf front.length (toNat (ofNat (ofBytes front))) ++ rest
  rw [back _ (ofBytes_lt front), bytesOf_ofBytes]

theorem canonical_byte : byte.Canonical :=
  canonical_word fun _ h => UInt8.toNat_ofNat_of_lt' h

theorem canonical_word32 : word32.Canonical :=
  canonical_word fun _ h => UInt32.toNat_ofNat_of_lt' h

theorem canonical_word64 : word64.Canonical :=
  canonical_word fun _ h => UInt64.toNat_ofNat_of_lt' h

theorem canonical_bool : bool.Canonical := by
  refine canonical_byte.refine fun b flag stands => ?_
  split at stands
  · next zero =>
    cases stands
    exact zero.symm
  · split at stands
    · next one =>
      cases stands
      exact one.symm
    · cases stands

/-! ### Text, optional values and cases -/

theorem utf8Bytes_of_ofUtf8Bytes? {s : String} (h : ofUtf8Bytes? bytes = some s) :
    utf8Bytes s = bytes := by
  unfold ofUtf8Bytes? String.fromUTF8? at h
  split at h
  · cases h
    rfl
  · cases h

theorem canonical_string : string.Canonical := by
  intro bytes s rest h
  obtain ⟨⟨size, middle⟩, first, h⟩ := Option.bind_eq_some_iff.1 h
  obtain ⟨⟨front, rest'⟩, split, h⟩ := Option.bind_eq_some_iff.1 h
  obtain ⟨s', text, h⟩ := Option.bind_eq_some_iff.1 h
  cases h
  obtain ⟨length, rfl⟩ := splitBytes_eq_some_iff.1 split
  show bytes = word64.write (UInt64.ofNat (utf8Bytes s).length) ++ utf8Bytes s ++ rest
  rw [utf8Bytes_of_ofUtf8Bytes? text, length, UInt64.ofNat_toNat, List.append_assoc]
  exact canonical_word64 _ _ _ first

theorem Canonical.option (h : l.Canonical) : l.option.Canonical := by
  intro bytes a rest read
  simp only [Layout.option] at read
  split at read
  · cases read
    rfl
  · obtain ⟨⟨b, rest'⟩, content, read⟩ := Option.bind_eq_some_iff.1 read
    cases read
    exact congrArg (List.cons 1) (h _ _ _ content)
  · cases read

theorem canonical_cases [BEq α] [LawfulBEq α] {all : List α} (distinct : all.Nodup) :
    (cases all).Canonical := by
  refine canonical_word32.refine fun i a stands => ?_
  obtain ⟨within, rfl⟩ := List.getElem?_eq_some_iff.1 stands
  rw [distinct.idxOf_getElem, UInt32.ofNat_toNat]

/-! ### What is accepted -/

/-- The bytes that begin with what is written of a value are those that it is decoded from. -/
theorem decode_eq_ok_iff (faithful : l.Faithful) (canonical : l.Canonical) {a : α} :
    ByteMaps.decode l bytes = .ok a ↔ l.write a <+: bytes := by
  rw [ByteMaps.decode_eq_ok_iff, decode?, Option.map_eq_some_iff]
  constructor
  · rintro ⟨⟨_, rest⟩, read, rfl⟩
    exact ⟨rest, (canonical _ _ _ read).symm⟩
  · rintro ⟨rest, rfl⟩
    exact ⟨(a, rest), faithful a rest, rfl⟩

/-- No valid name stands at the front of the bytes: no text at all, or one that is no name. -/
def LacksName (bytes : List UInt8) : Prop :=
  ∀ raw rest, string.read bytes = some (raw, rest) → isAccountName raw.toList = false

/-- Bytes are refused unless valid names stand in the first `count` places. -/
def ExpectsNames (l : Layout α) (count : Nat) : Prop :=
  ∀ (names : List Account) (bytes : List UInt8), names.length < count → LacksName bytes →
    l.read (names.flatMap Account.layout.write ++ bytes) = none

theorem expectsNames_zero : l.ExpectsNames 0 :=
  fun _ _ few => (Nat.not_lt_zero _ few).elim

theorem ExpectsNames.iso {count : Nat} {ofValue : α → β} {toValue : β → α}
    (h : l.ExpectsNames count) : (l.iso ofValue toValue).ExpectsNames count := by
  intro names bytes few lacks
  show (l.read _ >>= _) = none
  rw [h names bytes few lacks]
  rfl

end Layout

open Layout

/-! ### Names -/

namespace Account

theorem canonical_layout : layout.Canonical :=
  canonical_string.refine fun _ _ => toString_of_ofString?

theorem read_layout_of_lacksName {bytes : List UInt8} (h : LacksName bytes) :
    layout.read bytes = none := by
  show (string.read bytes >>= _) = none
  cases text : string.read bytes with
  | none => rfl
  | some front =>
    obtain ⟨raw, rest⟩ := front
    have refused : ofString? raw = none := by
      unfold ofString? ofLetters?
      rw [dif_neg (by simp [h raw rest text])]
    show (ofString? raw >>= _) = none
    rw [refused]
    rfl

/-- A name in front of a record is one more that is expected. -/
theorem expectsNames_seq {α : Type} {m : Layout α} {count : Nat} (h : m.ExpectsNames count) :
    (layout.seq m).ExpectsNames (count + 1) := by
  intro names bytes few lacks
  show (layout.read _ >>= _) = none
  cases names with
  | nil =>
    show (layout.read bytes >>= _) = none
    rw [read_layout_of_lacksName lacks]
    rfl
  | cons name names =>
    rw [List.flatMap_cons, List.append_assoc, faithful_layout name]
    show (m.read (names.flatMap layout.write ++ bytes) >>= _) = none
    rw [h names bytes (Nat.lt_of_succ_lt_succ few) lacks]
    rfl

end Account

/-! ### Records -/

theorem Timestamp.canonical_layout : Timestamp.layout.Canonical :=
  canonical_word64.iso fun _ => rfl

theorem BallotId.canonical_layout : BallotId.layout.Canonical :=
  canonical_word64.iso fun _ => rfl

theorem Phase.canonical_layout : Phase.layout.Canonical :=
  canonical_cases (by decide)

theorem Config.canonical_layout : Config.layout.Canonical :=
  (Account.canonical_layout.seq <| canonical_word32.seq <| canonical_word32.seq <|
    canonical_word32.seq <| canonical_word32.seq <| canonical_word64.seq <|
    canonical_word64.seq <| canonical_word64.seq <| canonical_word64.seq <|
    Timestamp.canonical_layout.seq <| Timestamp.canonical_layout.seq <|
    BallotId.canonical_layout.option.seq <| canonical_bool.seq <| Phase.canonical_layout.seq <|
    canonical_bool.seq canonical_word64).iso fun _ => rfl

theorem Nominee.canonical_layout : Nominee.layout.Canonical :=
  (Account.canonical_layout.seq <| Account.canonical_layout.seq
    Timestamp.canonical_layout).iso fun _ => rfl

theorem Candidate.canonical_layout : Candidate.layout.Canonical :=
  (Account.canonical_layout.seq Timestamp.canonical_layout).iso fun _ => rfl

theorem Member.canonical_layout : Member.layout.Canonical :=
  (Account.canonical_layout.seq Timestamp.canonical_layout).iso fun _ => rfl

/-- A record that begins with `names` is decoded from the bytes that begin with what is written of
it, and from no others; its names are valid, and anything else in their place is refused. -/
structure Layout.AcceptsRecords {α : Type} (l : Layout α) (names : List (α → Account)) : Prop where
  decodes_iff : ∀ bytes a, ByteMaps.decode l bytes = .ok a ↔ l.write a <+: bytes
  same_record : ∀ bytes bytes' a, ByteMaps.decode l bytes = .ok a →
    ByteMaps.decode l bytes' = .ok a →
    ∃ rest rest', bytes = l.write a ++ rest ∧ bytes' = l.write a ++ rest'
  names_first : ∀ a, names.flatMap (fun name => Account.layout.write (name a)) <+: l.write a
  names_valid : ∀ bytes a, ByteMaps.decode l bytes = .ok a →
    ∀ name ∈ names, isAccountName (name a).toString.toList = true
  malformed_refused : ∀ (before : List Account) (bytes : List UInt8),
    before.length < names.length → LacksName bytes →
    ∃ e, ByteMaps.decode l (before.flatMap Account.layout.write ++ bytes) = .error e

theorem Layout.Canonical.acceptsRecords {α : Type} {l : Layout α} {names : List (α → Account)}
    (canonical : l.Canonical) (faithful : l.Faithful) (expects : l.ExpectsNames names.length)
    (first : ∀ a, names.flatMap (fun name => Account.layout.write (name a)) <+: l.write a) :
    l.AcceptsRecords names where
  decodes_iff bytes a := Layout.decode_eq_ok_iff faithful canonical
  same_record bytes bytes' a h h' := by
    obtain ⟨rest, rfl⟩ := (Layout.decode_eq_ok_iff faithful canonical).1 h
    obtain ⟨rest', rfl⟩ := (Layout.decode_eq_ok_iff faithful canonical).1 h'
    exact ⟨rest, rest', rfl, rfl⟩
  names_first := first
  names_valid bytes a _ name _ := by
    rw [Account.toString, String.toList_ofList]
    exact (name a).wellFormed
  malformed_refused before bytes few lacks := by
    rw [ByteMaps.exists_decode_eq_error_iff, decode?, expects before bytes few lacks]
    rfl

/-- What is decoded of the bytes in a store is a record with valid names, and its own bytes stand in
front. -/
theorem stored_records_canonical :
    Config.layout.AcceptsRecords [Config.publisher] ∧
    Nominee.layout.AcceptsRecords [Nominee.name, Nominee.nominatedBy] ∧
    Candidate.layout.AcceptsRecords [Candidate.name] ∧
    Member.layout.AcceptsRecords [Member.name] := by
  have one {α : Type} {m : Layout α} : (Account.layout.seq m).ExpectsNames 1 :=
    Account.expectsNames_seq expectsNames_zero
  have stands {front rest : List UInt8} : front ++ [] <+: front ++ rest :=
    (List.prefix_append_right_inj front).2 List.nil_prefix
  exact ⟨Config.canonical_layout.acceptsRecords Config.faithful_layout one.iso fun _ => stands,
    Nominee.canonical_layout.acceptsRecords Nominee.faithful_layout
      (Account.expectsNames_seq one).iso fun _ => (List.prefix_append_right_inj _).2 stands,
    Candidate.canonical_layout.acceptsRecords Candidate.faithful_layout one.iso fun _ => stands,
    Member.canonical_layout.acceptsRecords Member.faithful_layout one.iso fun _ => stands⟩

/-- A name in capital letters is refused in the place of a candidate. -/
example : ByteMaps.decode Candidate.layout
    [3, 0, 0, 0, 0, 0, 0, 0, 66, 79, 66, 2, 1, 0, 0, 0, 0, 0, 0] =
      .error (.undecodable "undecodable record") := by
  decide +kernel

end TrusteeBoard
