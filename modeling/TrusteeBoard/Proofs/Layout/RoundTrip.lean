import Mathlib.Algebra.Group.Nat.Defs
import TrusteeBoard.Layout.Records
import TrusteeBoard.Proofs.Names

/-!
# Round trips of layouts

A value is restored by a layout (`Layout.Restores`) when it reads back from the front of its bytes,
whatever follows them. Each way to put layouts together restores the values whose parts are
restored, and the layouts of the stored records restore every record (`Layout.Faithful`).
-/

namespace TrusteeBoard

namespace Layout

variable {α β : Type} {l : Layout α} {m : Layout β} {a : α} {b : β}

/-- The value reads back from the front of its bytes, and the bytes after it are left. -/
def Restores (l : Layout α) (a : α) : Prop :=
  ∀ rest, l.read (l.write a ++ rest) = some (a, rest)

/-- Every value reads back. -/
def Faithful (l : Layout α) : Prop :=
  ∀ a, l.Restores a

theorem Restores.decode?_write (h : l.Restores a) : l.decode? (l.write a) = some a := by
  have whole := h []
  rw [List.append_nil] at whole
  rw [decode?, whole]
  rfl

/-! ### Combinators -/

theorem Restores.seq (ha : l.Restores a) (hb : m.Restores b) : (l.seq m).Restores (a, b) := by
  intro rest
  show (l.read (l.write a ++ m.write b ++ rest) >>= _) = _
  rw [List.append_assoc, ha]
  show (m.read (m.write b ++ rest) >>= _) = _
  rw [hb]
  rfl

theorem Restores.refine {ofValue? : α → Option β} {toValue : β → α} (h : l.Restores (toValue b))
    (back : ofValue? (toValue b) = some b) : (l.refine ofValue? toValue).Restores b := by
  intro rest
  show (l.read (l.write (toValue b) ++ rest) >>= _) = _
  rw [h]
  show (ofValue? (toValue b) >>= _) = _
  rw [back]
  rfl

theorem Restores.iso {ofValue : α → β} {toValue : β → α} (h : l.Restores (toValue b))
    (back : ofValue (toValue b) = b) : (l.iso ofValue toValue).Restores b :=
  h.refine (congrArg some back)

theorem Faithful.seq (hl : l.Faithful) (hm : m.Faithful) : (l.seq m).Faithful :=
  fun p => (hl p.1).seq (hm p.2)

theorem Faithful.iso {ofValue : α → β} {toValue : β → α} (h : l.Faithful)
    (back : ∀ b, ofValue (toValue b) = b) : (l.iso ofValue toValue).Faithful :=
  fun b => (h _).iso (back b)

/-! ### Numbers -/

theorem length_bytesOf (width n : Nat) : (bytesOf width n).length = width := by
  induction width generalizing n with
  | zero => rfl
  | succ width ih => simp [bytesOf, ih]

theorem ofBytes_bytesOf {width n : Nat} (h : n < 256 ^ width) : ofBytes (bytesOf width n) = n := by
  induction width generalizing n with
  | zero =>
    rw [Nat.pow_zero] at h
    exact (Nat.lt_one_iff.1 h).symm
  | succ width ih =>
    have rest : n / 256 < 256 ^ width := by
      rw [Nat.pow_succ] at h
      omega
    have lowest : (UInt8.ofNat (n % 256)).toNat = n % 256 := by
      rw [UInt8.toNat_ofNat']
      omega
    rw [bytesOf, ofBytes, ih rest, lowest]
    omega

theorem splitBytes_append (bytes rest : List UInt8) :
    splitBytes bytes.length (bytes ++ rest) = some (bytes, rest) := by
  simp [splitBytes]

theorem restores_number {width n : Nat} (h : n < 256 ^ width) : (number width).Restores n := by
  intro rest
  have split := splitBytes_append (bytesOf width n) rest
  rw [length_bytesOf] at split
  show (splitBytes width (bytesOf width n ++ rest) >>= _) = _
  rw [split]
  show some (ofBytes (bytesOf width n), rest) = _
  rw [ofBytes_bytesOf h]

theorem faithful_byte : byte.Faithful := fun a =>
  (restores_number a.toNat_lt).iso UInt8.ofNat_toNat

theorem faithful_word32 : word32.Faithful := fun a =>
  (restores_number a.toNat_lt).iso UInt32.ofNat_toNat

theorem faithful_word64 : word64.Faithful := fun a =>
  (restores_number a.toNat_lt).iso UInt64.ofNat_toNat

theorem faithful_bool : bool.Faithful := fun a => by
  refine (faithful_byte _).refine ?_
  cases a <;> rfl

/-! ### Text, optional values and cases -/

theorem ofUtf8Bytes?_utf8Bytes (s : String) : ofUtf8Bytes? (utf8Bytes s) = some s := by
  show String.fromUTF8? s.toByteArray = some s
  rw [String.fromUTF8?, dif_pos s.isValidUTF8]
  rfl

theorem utf8Bytes_ofList (cs : List Char) :
    utf8Bytes (String.ofList cs) = cs.flatMap String.utf8EncodeChar := by
  rw [utf8Bytes, String.toUTF8_eq_toByteArray, String.toByteArray_ofList, List.utf8Encode]
  simp

theorem length_utf8Bytes_ofList_le (cs : List Char) :
    (utf8Bytes (String.ofList cs)).length ≤ 4 * cs.length := by
  rw [utf8Bytes_ofList]
  induction cs with
  | nil => exact Nat.le_refl _
  | cons c cs ih =>
    have := c.utf8Size_le_four
    rw [List.flatMap_cons, List.length_append, String.length_utf8EncodeChar, List.length_cons]
    omega

/-- Text reads back when its length in bytes fits the number in front of it. -/
theorem restores_string {s : String} (h : (utf8Bytes s).length < 2 ^ 64) : string.Restores s := by
  intro rest
  have size : (UInt64.ofNat (utf8Bytes s).length).toNat = (utf8Bytes s).length :=
    UInt64.toNat_ofNat_of_lt' h
  show (word64.read (word64.write _ ++ utf8Bytes s ++ rest) >>= _) = _
  rw [List.append_assoc, faithful_word64]
  show (splitBytes (UInt64.ofNat (utf8Bytes s).length).toNat (utf8Bytes s ++ rest) >>= _) = _
  rw [size, splitBytes_append]
  show (ofUtf8Bytes? (utf8Bytes s) >>= _) = _
  rw [ofUtf8Bytes?_utf8Bytes]
  rfl

theorem Faithful.option (h : l.Faithful) : l.option.Faithful := by
  rintro (_ | a) rest
  · rfl
  · show (l.read (l.write a ++ rest) >>= _) = _
    rw [h]
    rfl

theorem restores_cases [BEq α] [LawfulBEq α] {all : List α} (h : a ∈ all)
    (few : all.length < 2 ^ 32) : (cases all).Restores a := by
  have position : all.idxOf a < all.length := List.idxOf_lt_length_of_mem h
  refine (faithful_word32 _).refine ?_
  rw [UInt32.toNat_ofNat_of_lt' (Nat.lt_trans position few), List.getElem?_eq_getElem position]
  exact congrArg some (List.getElem_idxOf position)

end Layout

open Layout

/-! ### Records -/

theorem Account.length_letters_le (a : Account) : a.letters.length ≤ 12 := by
  have wellFormed := a.wellFormed
  simp only [isAccountName, Bool.and_eq_true, decide_eq_true_eq] at wellFormed
  exact wellFormed.1.1.2

theorem Account.faithful_layout : Account.layout.Faithful := fun a => by
  have short : (utf8Bytes a.toString).length < 2 ^ 64 := by
    have := length_utf8Bytes_ofList_le a.letters
    have := a.length_letters_le
    show (utf8Bytes (String.ofList a.letters)).length < 2 ^ 64
    omega
  exact (restores_string short).refine a.ofString?_toString

theorem Timestamp.faithful_layout : Timestamp.layout.Faithful :=
  faithful_word64.iso fun _ => rfl

theorem BallotId.faithful_layout : BallotId.layout.Faithful :=
  faithful_word64.iso fun _ => rfl

theorem Phase.faithful_layout : Phase.layout.Faithful := fun a =>
  restores_cases (by cases a <;> decide) (by decide)

theorem Config.faithful_layout : Config.layout.Faithful :=
  (Account.faithful_layout.seq <| faithful_word32.seq <| faithful_word32.seq <|
    faithful_word32.seq <| faithful_word32.seq <| faithful_word64.seq <| faithful_word64.seq <|
    faithful_word64.seq <| faithful_word64.seq <| Timestamp.faithful_layout.seq <|
    Timestamp.faithful_layout.seq <| BallotId.faithful_layout.option.seq <| faithful_bool.seq <|
    Phase.faithful_layout.seq <| faithful_bool.seq faithful_word64).iso fun _ => rfl

theorem Nominee.faithful_layout : Nominee.layout.Faithful :=
  (Account.faithful_layout.seq <| Account.faithful_layout.seq Timestamp.faithful_layout).iso
    fun _ => rfl

theorem Candidate.faithful_layout : Candidate.layout.Faithful :=
  (Account.faithful_layout.seq Timestamp.faithful_layout).iso fun _ => rfl

theorem Member.faithful_layout : Member.layout.Faithful :=
  (Account.faithful_layout.seq Timestamp.faithful_layout).iso fun _ => rfl

end TrusteeBoard
