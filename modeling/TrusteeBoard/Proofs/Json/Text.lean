import Mathlib.Tactic.SplitIfs
import TrusteeBoard.Json.Parser

/-!
# JSON text read back

What is ever written consists of natural numbers, truth values, texts, lists and records
(`Json.Plain`). Its text is read as the value it was written from, whatever characters the texts in
it are made of (`Json.Plain.parse?_compact`). A value reads back from the front of a longer text
(`Json.ReadsBack`) as soon as its parts do; what follows it must not prolong a number.
-/

namespace TrusteeBoard.Json

/-! ### Strings -/

theorem hexValue?_digitChar {n : Nat} (h : n < 16) : hexValue? (Nat.digitChar n) = some n := by
  revert n
  decide

theorem codes?_quote (rest : List Char) : codes? ('"' :: rest) = some ([], rest) := by
  rw [codes?]

theorem codes?_simpleEscape {e c : Char} (h : simpleEscape? e = some c) (rest : List Char) :
    codes? ('\\' :: e :: rest) = (codes? rest).map fun p => (c.toNat :: p.1, p.2) := by
  have notHex : e ≠ 'u' := by
    rintro rfl
    cases h
  rw [codes?]
  · rw [h]
    cases codes? rest <;> rfl
  · rintro _ _ _ _ _ rfl
    exact absurd rfl notHex

theorem codes?_hexEscape {n : Nat} (h : n < 32) (rest : List Char) :
    codes? ('\\' :: 'u' :: '0' :: '0' :: Nat.digitChar (n / 16) :: Nat.digitChar (n % 16) :: rest) =
      (codes? rest).map fun p => (n :: p.1, p.2) := by
  have code : hex4? '0' '0' (Nat.digitChar (n / 16)) (Nat.digitChar (n % 16)) = some n := by
    have zero : hexValue? '0' = some 0 := rfl
    have high := hexValue?_digitChar (n := n / 16) (by omega)
    have low := hexValue?_digitChar (n := n % 16) (by omega)
    simp only [hex4?, zero, high, low]
    exact congrArg some (by omega)
  rw [codes?, code]
  cases codes? rest <;> rfl

theorem codes?_unescaped {c : Char} (quote : c ≠ '"') (backslash : c ≠ '\\') (h : ¬c.toNat < 32)
    (rest : List Char) : codes? (c :: rest) = (codes? rest).map fun p => (c.toNat :: p.1, p.2) := by
  rw [codes?]
  · simp only [backslash, h, decide_false, Bool.or_self, Bool.false_eq_true, if_false]
    cases codes? rest <;> rfl
  · exact quote
  · exact fun _ _ _ _ _ eq _ => backslash eq
  · exact fun _ _ eq _ => backslash eq

theorem codes?_charText (c : Char) (rest : List Char) : codes? (charText c ++ rest) =
    (codes? rest).map fun p => (c.toNat :: p.1, p.2) := by
  unfold charText
  split_ifs with quote backslash _ _ _ _ _ control
  -- seven characters have an escape of two letters
  iterate 7
    · subst c
      exact codes?_simpleEscape rfl rest
  · exact codes?_hexEscape control rest
  · exact codes?_unescaped quote backslash control rest

theorem codes?_literal (cs rest : List Char) :
    codes? (cs.flatMap charText ++ '"' :: rest) = some (cs.map Char.toNat, rest) := by
  induction cs with
  | nil => exact codes?_quote rest
  | cons c cs ih => rw [List.flatMap_cons, List.append_assoc, codes?_charText, ih]; rfl

/-- No character is half of a surrogate pair. -/
theorem isSurrogate_toNat (c : Char) :
    isHighSurrogate c.toNat = false ∧ isLowSurrogate c.toNat = false := by
  have valid : c.toNat < 0xD800 ∨ 0xDFFF < c.toNat ∧ c.toNat < 0x110000 := c.valid
  simp only [isHighSurrogate, isLowSurrogate, Bool.and_eq_false_iff, decide_eq_false_iff_not]
  omega

theorem ofCodes?_map_toNat (cs : List Char) : ofCodes? (cs.map Char.toNat) = some cs := by
  induction cs with
  | nil => rfl
  | cons c cs ih =>
    obtain ⟨high, low⟩ := isSurrogate_toNat c
    cases cs with
    | nil => simp [ofCodes?, high, low]
    | cons d ds =>
      rw [List.map_cons] at ih
      rw [List.map_cons, List.map_cons, ofCodes?, ih]
      simp [high, low]

theorem string?_literal (s : String) (rest : List Char) :
    string? (s.toList.flatMap charText ++ '"' :: rest) = some (some s, rest) := by
  simp [string?, codes?_literal, ofCodes?_map_toNat]

/-! ### Numbers -/

/-- The text does not go on with the number in front of it. -/
def Ends (rest : List Char) : Prop :=
  ∀ c ∈ rest.head?, c.isDigit = false ∧ c ≠ '.' ∧ c ≠ 'e' ∧ c ≠ 'E'

theorem isDigit_of_mem_toDigits {n : Nat} {d : Char} (h : d ∈ Nat.toDigits 10 n) :
    d.isDigit = true :=
  Nat.isDigit_of_mem_toDigits (by decide) (by decide) h

/-- A number is written with at least one digit, and the first is no zero except for zero itself. -/
theorem exists_toDigits_eq_cons (n : Nat) :
    ∃ d ds, Nat.toDigits 10 n = d :: ds ∧ d.isDigit = true ∧ (d = '0' → n = 0) := by
  induction n using Nat.strongRecOn with
  | ind n ih =>
    rw [Nat.toDigits_eq_if (by decide)]
    split
    · next small => exact ⟨_, [], rfl, by simp [Nat.isDigit_digitChar, small], by simp⟩
    · obtain ⟨d, ds, written, digit, leading⟩ := ih (n / 10) (by omega)
      refine ⟨d, _, congrArg (· ++ _) written, digit, fun zero => ?_⟩
      have := leading zero
      omega

theorem digits?_append {ds rest : List Char} (written : ds ≠ [])
    (digits : ∀ d ∈ ds, d.isDigit = true) (ends : Ends rest) :
    digits? (ds ++ rest) = some (ds, rest) := by
  have stop : rest.takeWhile Char.isDigit = [] ∧ rest.dropWhile Char.isDigit = rest := by
    cases rest with
    | nil => exact ⟨rfl, rfl⟩
    | cons c cs => simp [(ends c rfl).1]
  unfold digits?
  rw [List.takeWhile_append_of_pos digits, List.dropWhile_append_of_pos digits, stop.1, stop.2,
    List.append_nil]
  split
  · contradiction
  · rfl

theorem whole?_toDigits (n : Nat) {rest : List Char} (ends : Ends rest) :
    whole? (Nat.toDigits 10 n ++ rest) = some (Nat.toDigits 10 n, rest) := by
  by_cases zero : n = 0
  · subst zero
    rfl
  · have digits : digits? (Nat.toDigits 10 n ++ rest) = some (Nat.toDigits 10 n, rest) :=
      digits?_append Nat.toDigits_ne_nil (fun _ => isDigit_of_mem_toDigits) ends
    obtain ⟨d, ds, written, -, leading⟩ := exists_toDigits_eq_cons n
    rw [written] at digits ⊢
    unfold whole?
    split
    · next eq => exact absurd (leading (List.cons.inj eq).1) zero
    · exact digits

theorem fraction?_of_ends {rest : List Char} (ends : Ends rest) :
    fraction? rest = some ([], rest) := by
  unfold fraction?
  split
  · exact absurd rfl (ends '.' rfl).2.1
  · rfl

theorem exponent?_of_ends {rest : List Char} (ends : Ends rest) :
    exponent? rest = some ([], rest) := by
  cases rest with
  | nil => rfl
  | cons c cs =>
    obtain ⟨-, -, lower, upper⟩ := ends c rfl
    simp [exponent?, lower, upper]

theorem number?_toDigits (n : Nat) {rest : List Char} (ends : Ends rest) :
    number? (Nat.toDigits 10 n ++ rest) = some (Nat.toDigits 10 n, rest) := by
  have unsigned : unsigned? (Nat.toDigits 10 n ++ rest) = some (Nat.toDigits 10 n, rest) := by
    simp [unsigned?, whole?_toDigits n ends, fraction?_of_ends ends, exponent?_of_ends ends]
  obtain ⟨d, ds, written, digit, -⟩ := exists_toDigits_eq_cons n
  rw [written] at unsigned ⊢
  unfold number?
  split
  · next eq =>
    cases (List.cons.inj eq).1
    cases digit
  · exact unsigned

/-! ### Values -/

/-- The text of the value begins with neither a blank nor a closing bracket, and the value reads
back from the front of it with fuel for two steps a character. -/
structure ReadsBack (j : Json) : Prop where
  starts : ∃ c cs, j.text = c :: cs ∧ isBlank c = false ∧ c ≠ ']'
  step : ∀ {fuel rest}, 2 * j.text.length ≤ fuel + 1 → Ends rest →
    value? (fuel + 1) (j.text ++ rest) = some (j, rest)

theorem ReadsBack.value? {j : Json} (h : j.ReadsBack) {fuel : Nat} {rest : List Char}
    (enough : 2 * j.text.length ≤ fuel) (ends : Ends rest) :
    value? fuel (j.text ++ rest) = some (j, rest) := by
  cases fuel with
  | zero =>
    obtain ⟨c, cs, written, -⟩ := h.starts
    simp [written] at enough
  | succ fuel => exact h.step enough ends

theorem skipBlanks_cons {c : Char} (h : isBlank c = false) (cs : List Char) :
    skipBlanks (c :: cs) = c :: cs := by
  simp [skipBlanks, h]

theorem readsBack_null : ReadsBack .null where
  starts := ⟨_, _, rfl, rfl, by decide⟩
  step _ _ := rfl

theorem readsBack_bool (b : Bool) : ReadsBack (.bool b) where
  starts := by cases b <;> exact ⟨_, _, rfl, rfl, by decide⟩
  step _ _ := by cases b <;> rfl

theorem ne_of_isDigit {d c : Char} (digit : d.isDigit = true) (h : c.isDigit = false) : d ≠ c := by
  rintro rfl
  exact Bool.noConfusion (h.symm.trans digit)

theorem isBlank_of_isDigit {d : Char} (digit : d.isDigit = true) : isBlank d = false := by
  simp [isBlank, ne_of_isDigit digit]

/-- A value that begins with a digit is a number. -/
theorem value?_of_isDigit {d : Char} (digit : d.isDigit = true) (fuel : Nat) (cs : List Char) :
    value? (fuel + 1) (d :: cs) = (number? (d :: cs)).map fun p => (.number p.1, p.2) := by
  rw [value?, skipBlanks_cons (isBlank_of_isDigit digit)]
  split
  case h_7 => cases number? (d :: cs) <;> rfl
  -- no other form begins with a digit
  all_goals
    next eq =>
      cases (List.cons.inj eq).1
      cases digit

theorem readsBack_nat (n : Nat) : ReadsBack (.nat n) where
  starts := by
    obtain ⟨d, ds, written, digit, -⟩ := exists_toDigits_eq_cons n
    exact ⟨d, ds, written, isBlank_of_isDigit digit, ne_of_isDigit digit rfl⟩
  step {fuel rest} _ ends := by
    show value? (fuel + 1) (Nat.toDigits 10 n ++ rest) = _
    have number := number?_toDigits n ends
    obtain ⟨d, ds, written, digit, -⟩ := exists_toDigits_eq_cons n
    rw [written, List.cons_append] at number ⊢
    rw [value?_of_isDigit digit, number, nat, written]
    rfl

theorem stringText_append (s : String) (rest : List Char) :
    stringText (some s) ++ rest = '"' :: (s.toList.flatMap charText ++ '"' :: rest) := by
  show '"' :: s.toList.flatMap charText ++ ['"'] ++ rest = _
  rw [List.cons_append, List.cons_append, List.append_assoc]
  rfl

theorem text_str (s : String) : (str s).text = '"' :: (s.toList.flatMap charText ++ ['"']) := by
  rw [str, Json.text]
  rfl

theorem readsBack_str (s : String) : ReadsBack (.str s) where
  starts := ⟨_, _, text_str s, rfl, by decide⟩
  step {fuel rest} _ _ := by
    rw [text_str, List.cons_append, List.append_assoc, Json.value?, skipBlanks_cons rfl]
    simp only [List.cons_append, List.nil_append, string?_literal]
    rfl

/-! ### Lists and records -/

theorem items?_last {fuel : Nat} {cs rest : List Char} {item : Json}
    (last : value? fuel cs = some (item, ']' :: rest)) :
    items? (fuel + 1) cs = some ([item], rest) := by
  rw [items?, last]
  rfl

theorem items?_cons {fuel : Nat} {cs cs' rest : List Char} {item : Json} {items : List Json}
    (first : value? fuel cs = some (item, ',' :: cs'))
    (others : items? fuel cs' = some (items, rest)) :
    items? (fuel + 1) cs = some (item :: items, rest) := by
  rw [items?, first]
  show (items? fuel cs' >>= _) = _
  rw [others]
  rfl

/-- A step of `items?` takes one unit of fuel for the item and its comma, which have two characters
at least. -/
theorem items?_text {item : Json} {items : List Json} (first : item.ReadsBack)
    (others : ∀ j ∈ items, j.ReadsBack) {fuel : Nat} {rest : List Char}
    (enough : 2 * (item.text ++ itemsText items).length ≤ fuel) :
    items? fuel (item.text ++ (itemsText items ++ rest)) = some (item :: items, rest) := by
  induction items generalizing item fuel with
  | nil =>
    rw [itemsText, List.length_append, List.length_singleton] at enough
    obtain ⟨fuel, rfl⟩ : ∃ f, fuel = f + 1 := ⟨fuel - 1, by omega⟩
    exact items?_last (first.value? (by omega) (by rintro c ⟨⟩; decide))
  | cons next items ih =>
    obtain ⟨second, others⟩ := List.forall_mem_cons.1 others
    rw [itemsText, List.length_append, List.cons_append, List.length_cons] at enough
    obtain ⟨fuel, rfl⟩ : ∃ f, fuel = f + 1 := ⟨fuel - 1, by omega⟩
    rw [itemsText, List.cons_append, List.cons_append, List.append_assoc]
    exact items?_cons (first.value? (by omega) (by rintro c ⟨⟩; decide))
      (ih second others (by omega))

theorem readsBack_array {items : List Json} (h : ∀ j ∈ items, j.ReadsBack) :
    ReadsBack (.array items) where
  starts := by cases items <;> exact ⟨_, _, rfl, rfl, by decide⟩
  step {fuel rest} enough _ := by
    cases items with
    | nil => rfl
    | cons item items =>
      obtain ⟨first, others⟩ := List.forall_mem_cons.1 h
      rw [text, List.cons_append, List.length_cons] at enough
      have read : items? fuel (item.text ++ (itemsText items ++ rest)) =
          some (item :: items, rest) :=
        items?_text first others (by omega)
      obtain ⟨c, cs, written, blank, unclosed⟩ := first.starts
      rw [text, List.cons_append, List.cons_append, List.append_assoc, Json.value?,
        skipBlanks_cons rfl]
      rw [written, List.cons_append] at read ⊢
      simp only [skipBlanks_cons blank]
      split
      · next eq => exact absurd (List.cons.inj eq).1 unclosed
      · rw [read]
        rfl

theorem members?_last {fuel : Nat} {cs rest : List Char} (key : String) {value : Json}
    (last : value? fuel cs = some (value, '\x7d' :: rest)) :
    members? (fuel + 1) (stringText (some key) ++ ':' :: cs) =
      some ([(some key, value)], rest) := by
  rw [members?, stringText_append, skipBlanks_cons rfl]
  simp only [string?_literal, Option.bind_eq_bind, Option.bind_some, skipBlanks_cons (c := ':') rfl]
  rw [last]
  rfl

theorem members?_cons {fuel : Nat} {cs cs' rest : List Char} (key : String) {value : Json}
    {members : List (Option String × Json)} (first : value? fuel cs = some (value, ',' :: cs'))
    (others : members? fuel cs' = some (members, rest)) :
    members? (fuel + 1) (stringText (some key) ++ ':' :: cs) =
      some ((some key, value) :: members, rest) := by
  rw [members?, stringText_append, skipBlanks_cons rfl]
  simp only [string?_literal, Option.bind_eq_bind, Option.bind_some, skipBlanks_cons (c := ':') rfl]
  rw [first]
  show (members? fuel cs' >>= _) = _
  rw [others]
  rfl

/-- The members of a record as those of an object. -/
def keyed (members : List (String × Json)) : List (Option String × Json) :=
  members.map fun m => (some m.1, m.2)

theorem members?_text {key : String} {value : Json} {members : List (String × Json)}
    (first : value.ReadsBack) (others : ∀ m ∈ members, m.2.ReadsBack) {fuel : Nat}
    {rest : List Char}
    (enough : 2 * (value.text ++ membersText (keyed members)).length ≤ fuel) :
    members? fuel (stringText (some key) ++
        ':' :: (value.text ++ (membersText (keyed members) ++ rest))) =
      some (keyed ((key, value) :: members), rest) := by
  induction members generalizing key value fuel with
  | nil =>
    rw [keyed, List.map_nil, membersText, List.length_append, List.length_singleton] at enough
    obtain ⟨fuel, rfl⟩ : ∃ f, fuel = f + 1 := ⟨fuel - 1, by omega⟩
    exact members?_last key (first.value? (by omega) (by rintro c ⟨⟩; decide))
  | cons next members ih =>
    obtain ⟨second, others⟩ := List.forall_mem_cons.1 others
    have text : membersText (keyed (next :: members)) = ',' :: stringText (some next.1) ++
      ':' :: next.2.text ++ membersText (keyed members) := by
      rw [keyed, List.map_cons, membersText, keyed]
    rw [text] at enough ⊢
    simp only [List.length_append, List.length_cons] at enough
    obtain ⟨fuel, rfl⟩ : ∃ f, fuel = f + 1 := ⟨fuel - 1, by omega⟩
    simp only [List.cons_append, List.append_assoc]
    exact members?_cons key (first.value? (by omega) (by rintro c ⟨⟩; decide))
      (ih second others (by rw [List.length_append]; omega))

theorem readsBack_record {members : List (String × Json)} (h : ∀ m ∈ members, m.2.ReadsBack) :
    ReadsBack (.record members) where
  starts := by cases members <;> exact ⟨_, _, rfl, rfl, by decide⟩
  step {fuel rest} enough _ := by
    cases members with
    | nil => rfl
    | cons m members =>
      obtain ⟨first, others⟩ := List.forall_mem_cons.1 h
      have text : (record (m :: members)).text = '\x7b' :: (stringText (some m.1) ++
          ':' :: (m.2.text ++ membersText (keyed members))) := by
        rw [record, List.map_cons, Json.text, keyed]
        simp only [List.cons_append, List.append_assoc]
      rw [text] at enough ⊢
      simp only [List.length_cons, List.length_append] at enough
      have read : members? fuel (stringText (some m.1) ++
          ':' :: (m.2.text ++ (membersText (keyed members) ++ rest))) =
            some (keyed (m :: members), rest) :=
        members?_text first others (by rw [List.length_append]; omega)
      simp only [List.cons_append, List.append_assoc]
      rw [Json.value?, skipBlanks_cons rfl]
      rw [stringText_append] at read ⊢
      simp only [skipBlanks_cons (c := '"') rfl]
      rw [read]
      rfl

/-! ### Plain values -/

/-- The values that are written: natural numbers, truth values and texts, and lists and records of
them. -/
inductive Plain : Json → Prop where
  | null : Plain .null
  | bool (b : Bool) : Plain (.bool b)
  | nat (n : Nat) : Plain (.nat n)
  | str (s : String) : Plain (.str s)
  | array {items : List Json} (h : ∀ j ∈ items, Plain j) : Plain (.array items)
  | record {members : List (String × Json)} (h : ∀ m ∈ members, Plain m.2) :
    Plain (.record members)

attribute [simp] Plain.null Plain.bool Plain.nat Plain.str

theorem Plain.readsBack {j : Json} (h : Plain j) : j.ReadsBack := by
  induction h with
  | null => exact readsBack_null
  | bool b => exact readsBack_bool b
  | nat n => exact readsBack_nat n
  | str s => exact readsBack_str s
  | array _ ih => exact readsBack_array ih
  | record _ ih => exact readsBack_record ih

/-- The text of a plain value is read as that value. -/
theorem Plain.parse?_compact {j : Json} (h : Plain j) : parse? j.compact = some j := by
  have read : value? (2 * j.text.length + 2) (j.text ++ []) = some (j, []) :=
    h.readsBack.value? (by omega) nofun
  rw [List.append_nil] at read
  rw [parse?, compact, String.toList_ofList]
  simp only [read]
  rfl

end TrusteeBoard.Json
