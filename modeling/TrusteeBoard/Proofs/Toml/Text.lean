import Mathlib.Tactic.SplitIfs
import TrusteeBoard.Proofs.Json.Text
import TrusteeBoard.Toml.Lexical
import TrusteeBoard.Toml.Text

/-!
# TOML strings read back

Whatever characters a string is made of, it reads back from its text (`Toml.string?_stringText`).
Both kinds between double quotes take a character from its escape or as it stands (`ReadsEscapes`).
On several lines a quote may belong to the closing ones, so the quotes just before what is read are
carried along: there are at most two of them, the third being escaped or excluded by the choice of
the kind.
-/

namespace TrusteeBoard.Toml

open Json (hexValue? hex4?)

/-! ### Characters between double quotes -/

theorem hexValue?_codeDigit {n : Nat} (h : n < 16) : hexValue? (codeDigit n) = some n := by
  revert n
  decide

theorem ofCode?_toNat (c : Char) : ofCode? c.toNat = some c := by
  have valid : c.toNat.isValidChar := c.valid
  rw [ofCode?, if_pos valid, Char.ofNat_toNat]

theorem hex4?_codeDigit {n : Nat} (h : n < 256) :
    hex4? '0' '0' (codeDigit (n / 16)) (codeDigit (n % 16)) = some n := by
  have zero : hexValue? '0' = some 0 := rfl
  have high := hexValue?_codeDigit (n := n / 16) (by omega)
  have low := hexValue?_codeDigit (n := n % 16) (by omega)
  simp only [hex4?, zero, high, low]
  exact congrArg some (by omega)

theorem isPlain_of_needsEscape {c : Char} (h : needsEscape c = false) (newline : c ≠ '\n') :
    isPlain c = true := by
  by_cases tab : c = '\t'
  · rw [tab]
    rfl
  · simp only [needsEscape, isPlain, tab, newline, ne_eq, not_false_eq_true, decide_true,
      Bool.true_and, Bool.or_eq_false_iff, decide_eq_false_iff_not, decide_false, Bool.false_or,
      Bool.and_eq_true, decide_eq_true_eq] at h ⊢
    omega

/-- How a string between double quotes is read character by character: as an escape or as it stands.
-/
structure ReadsEscapes (body : List Char → Option (List Char × List Char)) : Prop where
  simple : ∀ {e c : Char}, simpleEscape? e = some c → ∀ rest,
    body ('\\' :: e :: rest) = consChar c <$> body rest
  code : ∀ {a b d : Char} {n : Nat} {c : Char}, hex4? '0' a b d = some n → ofCode? n = some c →
    ∀ rest, body ('\\' :: 'u' :: '0' :: a :: b :: d :: rest) = consChar c <$> body rest
  plain : ∀ {c : Char}, isPlain c = true → c ≠ '"' → c ≠ '\\' → ∀ rest,
    body (c :: rest) = consChar c <$> body rest

theorem ReadsEscapes.charText {body : List Char → Option (List Char × List Char)}
    (h : ReadsEscapes body) {c : Char} (quote : c ≠ '"') (newline : c ≠ '\n') (rest : List Char) :
    body (charText c ++ rest) = consChar c <$> body rest := by
  unfold Toml.charText
  split_ifs with backslash _ tab _ _ control
  · exact h.simple (by rw [backslash]; rfl) rest
  iterate 4
    · subst c
      exact h.simple rfl rest
  · have small : c.toNat < 256 := by
      simp only [needsEscape, Bool.and_eq_true, Bool.or_eq_true, decide_eq_true_eq] at control
      omega
    exact h.code (hex4?_codeDigit small) (ofCode?_toNat c) rest
  · have plain := isPlain_of_needsEscape (Bool.eq_false_iff.2 control) newline
    exact h.plain plain quote backslash rest

theorem readsEscapes_basicBody : ReadsEscapes basicBody where
  simple {e c} h rest := by
    rw [basicBody]
    · rw [h]
      cases basicBody rest <;> rfl
    all_goals
      rintro _ _ _ _
      intros
      subst_vars
      cases h
  code {a b d n c} number char rest := by
    rw [basicBody, number]
    show (do return consChar (← ofCode? n) (← basicBody rest)) = _
    rw [char]
    cases basicBody rest <;> rfl
  plain {c} plain quote backslash rest := by
    rw [basicBody]
    · simp [plain, backslash]
    all_goals simp_all

theorem endsLine_of_simpleEscape? {e c : Char} (h : simpleEscape? e = some c) (rest : List Char) :
    endsLine (e :: rest) = false := by
  unfold simpleEscape? at h
  split at h
  case h_8 => cases h
  all_goals rfl

theorem ne_newline_of_isPlain {c : Char} (plain : isPlain c = true) : c ≠ '\n' ∧ c ≠ '\r' := by
  constructor <;>
    rintro rfl <;>
    cases plain

theorem readsEscapes_multiBasicBody : ReadsEscapes (multiBasicBody false) where
  simple {e c} h rest := by
    rw [multiBasicBody]
    · rw [endsLine_of_simpleEscape? h, h]
      cases multiBasicBody false rest <;> rfl
    all_goals
      rintro _ _ _ _
      intros
      subst_vars
      cases h
  code {a b d n c} number char rest := by
    rw [multiBasicBody, number]
    show (do return consChar (← ofCode? n) (← multiBasicBody false rest)) = _
    rw [char]
    cases multiBasicBody false rest <;> rfl
  plain {c} plain quote backslash rest := by
    obtain ⟨newline, carriage⟩ := ne_newline_of_isPlain plain
    rw [multiBasicBody]
    · simp [plain, backslash]
    all_goals simp_all

/-! ### Strings on one line -/

theorem basicBody_text (cs rest : List Char) :
    basicBody (cs.flatMap basicCharText ++ '"' :: rest) = some (cs, rest) := by
  induction cs with
  | nil => rw [List.flatMap_nil, List.nil_append, basicBody]
  | cons c cs ih =>
    have step (rest : List Char) :
        basicBody (basicCharText c ++ rest) = consChar c <$> basicBody rest := by
      unfold basicCharText
      split_ifs with quote newline
      · exact readsEscapes_basicBody.simple (by rw [quote]; rfl) rest
      · exact readsEscapes_basicBody.simple (by rw [newline]; rfl) rest
      · exact readsEscapes_basicBody.charText quote newline rest
    rw [List.flatMap_cons, List.append_assoc, step, ih]
    rfl

theorem literalBody_append {cs : List Char} (plain : ∀ c ∈ cs, isPlain c = true)
    (unquoted : '\'' ∉ cs) (rest : List Char) :
    literalBody (cs ++ '\'' :: rest) = some (cs, rest) := by
  induction cs with
  | nil => rw [List.nil_append, literalBody]
  | cons c cs ih =>
    obtain ⟨first, plain⟩ := List.forall_mem_cons.1 plain
    rw [List.mem_cons, not_or] at unquoted
    rw [List.cons_append, literalBody, if_pos first, ih plain unquoted.2]
    · rfl
    · exact Ne.symm unquoted.1

/-! ### Strings of several lines -/

/-- How quotes are read in a string of several lines: three of them end it, and a quote before
anything else belongs to it. -/
structure ReadsQuotes (quote : Char) (body : List Char → Option (List Char × List Char)) :
    Prop where
  noNewline : quote ≠ '\n'
  triple : ∀ rest, body (quote :: quote :: quote :: rest) = some (closing quote rest)
  single : ∀ {cs : List Char}, (∀ rest, cs ≠ quote :: quote :: rest) →
    body (quote :: cs) = consChar quote <$> body cs

section ReadsQuotes

variable {quote : Char} {body : List Char → Option (List Char × List Char)} {run : Nat}

/-- Up to two quotes before another character belong to the string. -/
theorem ReadsQuotes.pending (h : ReadsQuotes quote body) (few : run ≤ 2) {d : Char}
    {ds cs rest : List Char} (other : d ≠ quote) (read : body (d :: ds) = some (cs, rest)) :
    body (List.replicate run quote ++ d :: ds) = some (List.replicate run quote ++ cs, rest) := by
  have one : body (quote :: d :: ds) = some (quote :: cs, rest) := by
    rw [h.single (fun _ eq => other (List.cons.inj eq).1), read]
    rfl
  match run, few with
  | 0, _ => exact read
  | 1, _ => exact one
  | 2, _ =>
    show body (quote :: quote :: d :: ds) = _
    rw [h.single (fun _ eq => other (List.cons.inj (List.cons.inj eq).2).1), one]
    rfl

/-- Up to two quotes before the three at the end of a line belong to the string. -/
theorem ReadsQuotes.close (h : ReadsQuotes quote body) (few : run ≤ 2) (rest : List Char) :
    body (List.replicate run quote ++ quote :: quote :: quote :: '\n' :: rest) =
      some (List.replicate run quote, '\n' :: rest) := by
  have newline := h.noNewline.symm
  match run, few with
  | 0, _ =>
    refine (h.triple _).trans ?_
    cases rest <;> simp [closing, newline]
  | 1, _ => exact (h.triple _).trans (by simp [closing, newline])
  | 2, _ => exact (h.triple _).trans (by simp [closing])

end ReadsQuotes

theorem readsQuotes_multiBasicBody : ReadsQuotes '"' (multiBasicBody false) where
  noNewline := by decide
  triple rest := by rw [multiBasicBody]
  single {cs} h := by
    rw [multiBasicBody]
    · rfl
    all_goals simp_all

theorem readsQuotes_multiLiteralBody : ReadsQuotes '\'' multiLiteralBody where
  noNewline := by decide
  triple rest := by rw [multiLiteralBody]
  single {cs} h := by
    rw [multiLiteralBody]
    · rfl
    all_goals simp_all

/-- The text of a character begins with a backslash or with the character. -/
theorem exists_charText_eq_cons {c : Char} (quote : c ≠ '"') (newline : c ≠ '\n') :
    ∃ d ds, charText c = d :: ds ∧ d ≠ '"' ∧ d ≠ '\n' ∧ d ≠ '\r' := by
  unfold charText
  split_ifs with _ _ _ _ carriage _
  case neg => exact ⟨c, [], rfl, quote, newline, carriage⟩
  all_goals exact ⟨_, _, rfl, by decide⟩

/-- The induction is on the string; `run` quotes before it have been written and not yet read. -/
theorem multiBasicBody_text {run : Nat} (few : run ≤ 2) (cs rest : List Char) :
    multiBasicBody false (List.replicate run '"' ++
        (multiBasicText run cs ++ '"' :: '"' :: '"' :: '\n' :: rest)) =
      some (List.replicate run '"' ++ cs, '\n' :: rest) := by
  have quotes := readsQuotes_multiBasicBody
  have escapes := readsEscapes_multiBasicBody
  induction cs generalizing run with
  | nil =>
    rw [multiBasicText, List.nil_append, List.append_nil]
    exact quotes.close few rest
  | cons c cs ih =>
    have unquoted := ih (Nat.zero_le 2)
    rw [List.replicate_zero, List.nil_append, List.nil_append] at unquoted
    rw [multiBasicText]
    split_ifs with quote third newline
    · subst quote
      rw [List.cons_append, List.cons_append]
      refine quotes.pending few (by decide) ?_
      rw [escapes.simple rfl, unquoted]
      rfl
    · subst quote
      have next := @ih (run + 1) (by omega)
      rw [List.replicate_succ', List.append_assoc, List.append_assoc] at next
      exact next
    · subst newline
      rw [List.cons_append]
      refine quotes.pending few (by decide) ?_
      rw [multiBasicBody, if_neg Bool.false_ne_true, unquoted]
      rfl
    · have step := escapes.charText quote newline
        (multiBasicText 0 cs ++ '"' :: '"' :: '"' :: '\n' :: rest)
      obtain ⟨d, ds, written, other, -⟩ := exists_charText_eq_cons quote newline
      rw [← List.append_assoc, written, unquoted, List.cons_append] at step
      rw [written, List.cons_append, List.cons_append]
      exact quotes.pending few other step

/-- The induction is on the string; it continues a run of quotes that is not yet read. -/
theorem multiLiteralBody_append {run : Nat} {cs : List Char}
    (controls : ∀ c ∈ cs, needsEscape c = false) (few : longestRun '\'' run cs ≤ 2)
    (rest : List Char) :
    multiLiteralBody (List.replicate run '\'' ++
        (cs ++ '\'' :: '\'' :: '\'' :: '\n' :: rest)) =
      some (List.replicate run '\'' ++ cs, '\n' :: rest) := by
  have quotes := readsQuotes_multiLiteralBody
  induction cs generalizing run with
  | nil =>
    rw [List.nil_append, List.append_nil]
    exact quotes.close few rest
  | cons c cs ih =>
    rw [List.forall_mem_cons] at controls
    rw [longestRun] at few
    split_ifs at few with quote
    · subst quote
      have next := ih controls.2 few
      rw [List.replicate_succ', List.append_assoc, List.append_assoc] at next
      exact next
    · have unquoted := @ih 0 controls.2 (by omega)
      rw [List.replicate_zero, List.nil_append, List.nil_append] at unquoted
      rw [List.cons_append]
      refine quotes.pending (by omega) quote ?_
      by_cases newline : c = '\n'
      · subst newline
        rw [multiLiteralBody, unquoted]
        rfl
      · have plain := isPlain_of_needsEscape controls.1 newline
        rw [multiLiteralBody, if_pos plain, unquoted]
        · rfl
        all_goals simp_all [ne_newline_of_isPlain plain]

/-! ### The kinds of strings -/

theorem le_longestRun (c : Char) (run : Nat) (cs : List Char) : run ≤ longestRun c run cs := by
  induction cs generalizing run with
  | nil => exact Nat.le_refl _
  | cons d cs ih =>
    rw [longestRun]
    split
    · exact Nat.le_of_succ_le (ih (run + 1))
    · exact Nat.le_max_left ..

theorem notMem_of_longestRun {c : Char} {run : Nat} {cs : List Char}
    (h : longestRun c run cs = 0) : c ∉ cs := by
  induction cs generalizing run with
  | nil => exact List.not_mem_nil
  | cons d cs ih =>
    rw [longestRun] at h
    split at h
    · have := le_longestRun c (run + 1) cs
      omega
    · next other => simp [Ne.symm other, @ih 0 (by omega)]

theorem StringKind.of_eq_literal {cs : List Char} (h : of cs = .literal) :
    (∀ c ∈ cs, isPlain c = true) ∧ '\'' ∉ cs := by
  dsimp only [of] at h
  split_ifs at h with basic literal
  simp only [Bool.and_eq_true, Bool.not_eq_true', decide_eq_true_eq, List.any_eq_false,
    List.contains_eq_mem, decide_eq_false_iff_not] at literal
  obtain ⟨⟨controls, newline⟩, singles⟩ := literal
  refine ⟨fun c hc => ?_, notMem_of_longestRun singles⟩
  have kept := Bool.eq_false_iff.2 (controls c hc)
  exact isPlain_of_needsEscape kept (ne_of_mem_of_not_mem hc newline)

theorem StringKind.of_eq_multiLiteral {cs : List Char} (h : of cs = .multiLiteral) :
    (∀ c ∈ cs, needsEscape c = false) ∧ longestRun '\'' 0 cs ≤ 2 := by
  dsimp only [of] at h
  split_ifs at h with basic literal multiBasic multiLiteral
  simp only [Bool.and_eq_true, Bool.not_eq_true', decide_eq_true_eq, List.any_eq_false]
    at multiLiteral
  exact ⟨fun c hc => Bool.eq_false_iff.2 (multiLiteral.1 c hc), multiLiteral.2⟩

theorem dropNewline_openingLine {cs text : List Char}
    (h : '\n' ∉ cs → ∀ c ∈ text.head?, c ≠ '\n' ∧ c ≠ '\r') :
    dropNewline (openingLine cs ++ text) = text := by
  unfold openingLine
  split
  · rfl
  · next none =>
    have starts := h (by simpa using none)
    match text with
    | [] => rfl
    | c :: rest =>
      obtain ⟨newline, carriage⟩ := starts c rfl
      simp [dropNewline, newline?, newline, carriage]

theorem starts_multiBasicText {cs : List Char} (newline : '\n' ∉ cs) (rest : List Char) :
    ∀ c ∈ (multiBasicText 0 cs ++ '"' :: rest).head?, c ≠ '\n' ∧ c ≠ '\r' := by
  cases cs with
  | nil =>
    rintro c ⟨⟩
    decide
  | cons c cs =>
    rw [List.mem_cons, not_or] at newline
    by_cases quote : c = '"'
    · subst quote
      rintro c ⟨⟩
      decide
    · obtain ⟨d, ds, written, -, starts⟩ := exists_charText_eq_cons quote (Ne.symm newline.1)
      rw [multiBasicText, if_neg quote, if_neg (Ne.symm newline.1), written]
      rintro c ⟨⟩
      exact starts

theorem starts_of_needsEscape {cs : List Char} (controls : ∀ c ∈ cs, needsEscape c = false)
    (newline : '\n' ∉ cs) (rest : List Char) :
    ∀ c ∈ (cs ++ '\'' :: rest).head?, c ≠ '\n' ∧ c ≠ '\r' := by
  cases cs with
  | nil =>
    rintro c ⟨⟩
    decide
  | cons c cs =>
    rw [List.mem_cons, not_or] at newline
    rintro c ⟨⟩
    have plain := isPlain_of_needsEscape (controls c List.mem_cons_self) (Ne.symm newline.1)
    exact ne_newline_of_isPlain plain

/-- A string is read from its text, up to the end of the line. -/
theorem string?_stringText (cs rest : List Char) :
    string? (stringText cs ++ '\n' :: rest) = some (cs, '\n' :: rest) := by
  unfold stringText
  split <;> simp only [List.cons_append, List.nil_append, List.append_assoc]
  · have read := basicBody_text cs ('\n' :: rest)
    rw [string?]
    · exact read
    · -- two more quotes would be the end of the string and another character
      intro _ eq
      rw [eq, basicBody] at read
      cases read
  · next kind =>
    obtain ⟨plain, unquoted⟩ := StringKind.of_eq_literal kind
    have read := literalBody_append plain unquoted ('\n' :: rest)
    rw [string?]
    · exact read
    · intro _ eq
      rw [eq, literalBody] at read
      cases read
  · rw [string?, dropNewline_openingLine fun newline => starts_multiBasicText newline _]
    exact multiBasicBody_text (Nat.zero_le 2) cs rest
  · next kind =>
    obtain ⟨controls, few⟩ := StringKind.of_eq_multiLiteral kind
    rw [string?, dropNewline_openingLine fun newline => starts_of_needsEscape controls newline _]
    exact multiLiteralBody_append controls few rest

end TrusteeBoard.Toml
