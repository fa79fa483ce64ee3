import Mathlib.Data.List.Basic
import TrusteeBoard.Proofs.Json.Text
import TrusteeBoard.Toml.Number

/-!
# TOML numbers read back

A natural number that fits the integers of the format reads back from its digits up to the end of
the line (`Toml.number?_toDigits`). What is tried before an integer does not succeed on digits alone:
points in time and floats, whose digits are followed by another mark (`char?_of_digits`).
-/

namespace TrusteeBoard.Toml

/-! ### Digits -/

section Digits

variable {ds rest : List Char}

theorem groupedTail_append (digits : ∀ d ∈ ds, d.isDigit = true) (rest : List Char) :
    groupedTail Char.isDigit (ds ++ '\n' :: rest) = (ds, '\n' :: rest) := by
  induction ds with
  | nil =>
    rw [List.nil_append, groupedTail]
    · rfl
    all_goals simp
  | cons d ds ih =>
    obtain ⟨first, digits⟩ := List.forall_mem_cons.1 digits
    rw [List.cons_append, groupedTail, if_pos first, ih digits]
    rintro _ _ rfl
    cases first

theorem grouped?_append (digits : ∀ d ∈ ds, d.isDigit = true) (written : ds ≠ [])
    (rest : List Char) : grouped? Char.isDigit (ds ++ '\n' :: rest) = some (ds, '\n' :: rest) := by
  cases ds with
  | nil => exact absurd rfl written
  | cons d ds =>
    obtain ⟨first, digits⟩ := List.forall_mem_cons.1 digits
    rw [List.cons_append, grouped?, if_pos first, groupedTail_append digits]

/-- Digits at the end of a line are followed by digits or by the end of the line only. -/
theorem char?_of_digits (digits : ∀ d ∈ ds, d.isDigit = true) (front : List Char) {back : List Char}
    (split : ds ++ '\n' :: rest = front ++ back) (first : ∀ d ∈ front, d.isDigit = true) {c : Char}
    (other : c.isDigit = false) (newline : c ≠ '\n') : char? c back = none := by
  have stop : ∀ ds : List Char, (∀ d ∈ ds, d.isDigit = true) →
      char? c (ds ++ '\n' :: rest) = none := by
    rintro (_ | ⟨d, ds⟩) digits
    · simp [char?, newline]
    · have := Json.ne_of_isDigit (digits d List.mem_cons_self) other
      simp [char?, this.symm]
  rcases List.append_eq_append_iff.1 split with ⟨between, rfl, eq⟩ | ⟨more, rfl, rfl⟩
  · cases between with
    | nil =>
      rw [← List.nil_append back, ← eq]
      exact stop [] nofun
    | cons d between =>
      cases (List.cons.inj eq).1
      cases first '\n' (by simp)
  · exact stop more fun d hd => digits d (List.mem_append_right _ hd)

theorem date?_of_digits (digits : ∀ d ∈ ds, d.isDigit = true) :
    date? (ds ++ '\n' :: rest) = none := by
  unfold date?
  split
  · next a b c d back split =>
    split
    · rfl
    · next first =>
      have := char?_of_digits digits [a, b, c, d] split (by simpa using first)
        (c := '-') rfl (by decide)
      rw [this]
      rfl
  · rfl

theorem time?_of_digits (digits : ∀ d ∈ ds, d.isDigit = true) :
    time? (ds ++ '\n' :: rest) = none := by
  unfold time?
  match split : ds ++ '\n' :: rest with
  | [] | [_] => rfl
  | a :: b :: back =>
    unfold two?
    dsimp only
    split
    · next first =>
      simp only [Bool.and_eq_true] at first
      have := char?_of_digits digits [a, b] split (by simp [first]) (c := ':') rfl
        (by decide)
      show (char? ':' back >>= _) = none
      rw [this]
      rfl
    · rfl

end Digits

/-! ### Numbers -/

theorem sign_of_isDigit {d : Char} (digit : d.isDigit = true) (cs : List Char) :
    sign (d :: cs) = (false, d :: cs) := by
  unfold sign
  split
  case h_3 => rfl
  all_goals
    next eq =>
      cases (List.cons.inj eq).1
      cases digit

theorem special?_of_isDigit {d : Char} (digit : d.isDigit = true) (cs : List Char) :
    special? (d :: cs) = none := by
  unfold special?
  split
  case h_3 => rfl
  all_goals
    next eq =>
      cases (List.cons.inj eq).1
      cases digit

theorem ofDigits_toDigits (n : Nat) : ofDigits 10 (Nat.toDigits 10 n) = n := by
  have digit {d : Char} (h : d ∈ Nat.toDigits 10 n) :
      (Json.hexValue? d).getD 0 = d.toNat - '0'.toNat := by
    rw [Json.hexValue?, if_pos (Json.isDigit_of_mem_toDigits h), Option.getD_some]
  calc ofDigits 10 (Nat.toDigits 10 n)
      = Nat.ofDigitChars 10 (Nat.toDigits 10 n) 0 := by
        rw [ofDigits, Nat.ofDigitChars]
        exact List.foldl_ext _ _ _ fun m d h => by rw [digit h, Nat.mul_comm]
    _ = n := Nat.ofDigitChars_ten_toDigits

section

variable (n : Nat) (rest : List Char)

theorem decimal?_toDigits : decimal? (Nat.toDigits 10 n ++ '\n' :: rest) =
    some (Nat.toDigits 10 n, '\n' :: rest) := by
  by_cases zero : n = 0
  · subst zero
    rfl
  · obtain ⟨d, ds, written, -, leading⟩ := Json.exists_toDigits_eq_cons n
    have digits := grouped?_append (fun _ => Json.isDigit_of_mem_toDigits)
      (Nat.toDigits_ne_nil (n := n) (b := 10)) rest
    rw [written] at digits ⊢
    rw [List.cons_append, decimal?]
    · exact digits
    · exact fun _ eq => zero (leading (List.cons.inj eq).1)

theorem float?_toDigits : float? (Nat.toDigits 10 n ++ '\n' :: rest) = none := by
  have decimal := decimal?_toDigits n rest
  obtain ⟨d, ds, written, digit, -⟩ := Json.exists_toDigits_eq_cons n
  rw [written, List.cons_append] at decimal ⊢
  unfold float?
  simp only [sign_of_isDigit digit, special?_of_isDigit digit, decimal]
  simp [fraction?, exponent?]

theorem integer?_toDigits (h : n < 0x8000000000000000) :
    integer? (Nat.toDigits 10 n ++ '\n' :: rest) = some (.integer n, '\n' :: rest) := by
  have digits : ∀ d ∈ Nat.toDigits 10 n, d.isDigit = true := fun _ => Json.isDigit_of_mem_toDigits
  have decimal := decimal?_toDigits n rest
  have value := ofDigits_toDigits n
  have fits : inRange n = some (.integer n) := by
    rw [inRange, if_pos (by omega)]
  have base {c : Char} {back : List Char} (other : c.isDigit = false) (newline : c ≠ '\n')
      (eq : Nat.toDigits 10 n ++ '\n' :: rest = '0' :: c :: back) : False := by
    have := char?_of_digits digits ['0'] eq (List.forall_mem_singleton.2 rfl) other newline
    simp [char?] at this
  obtain ⟨d, ds, written, digit, -⟩ := Json.exists_toDigits_eq_cons n
  rw [written] at value
  rw [written, List.cons_append] at decimal base ⊢
  unfold integer?
  split
  · next eq => exact (base rfl (by decide) eq).elim
  · next eq => exact (base rfl (by decide) eq).elim
  · next eq => exact (base rfl (by decide) eq).elim
  · rw [sign_of_isDigit digit]
    simp only [decimal]
    rw [Option.bind_eq_bind, Option.bind_some, if_neg Bool.false_ne_true, value, fits]
    rfl

theorem number?_toDigits (h : n < 0x8000000000000000) :
    number? (Nat.toDigits 10 n ++ '\n' :: rest) = some (.integer n, '\n' :: rest) := by
  have digits : ∀ d ∈ Nat.toDigits 10 n, d.isDigit = true := fun _ => Json.isDigit_of_mem_toDigits
  unfold number? dateTime?
  rw [date?_of_digits digits, time?_of_digits digits, float?_toDigits, integer?_toDigits n rest h]
  rfl

end

end TrusteeBoard.Toml
