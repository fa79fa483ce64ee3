import TrusteeBoard.Proofs.Toml.Number
import TrusteeBoard.Proofs.Toml.Text
import TrusteeBoard.Toml.Parser

/-!
# TOML documents read back

A document is written as lines of keys and values and then as tables, each under a header of its
own. It is read as the entries it was written from (`Toml.parse?_written`) when every value reads
back up to the end of its line (`Line.ReadsBack`) and no key is written twice. Strings and natural
numbers do so.
-/

namespace TrusteeBoard.Toml

/-! ### Keys -/

/-- The key is written without quotes. -/
def IsBare (key : String) : Prop :=
  key.toList ≠ [] ∧ key.toList.all isBareKeyChar = true

instance (key : String) : Decidable (IsBare key) := inferInstanceAs (Decidable (_ ∧ _))

theorem IsBare.all {key : String} (h : IsBare key) : ∀ c ∈ key.toList, isBareKeyChar c = true :=
  List.all_eq_true.1 h.2

theorem IsBare.exists_toList_eq_cons {key : String} (h : IsBare key) :
    ∃ c cs, key.toList = c :: cs ∧ isBareKeyChar c = true := by
  cases eq : key.toList with
  | nil => exact absurd eq h.1
  | cons c cs => exact ⟨c, cs, rfl, h.all c (eq ▸ List.mem_cons_self)⟩

theorem ne_of_isBareKeyChar {c d : Char} (bare : isBareKeyChar c = true)
    (other : isBareKeyChar d = false) : c ≠ d := by
  rintro rfl
  exact Bool.noConfusion (other.symm.trans bare)

theorem skipBlanks_cons {c : Char} (h : isBlank c = false) (cs : List Char) :
    skipBlanks (c :: cs) = c :: cs := by
  simp [skipBlanks, h]

theorem isBlank_of_isBareKeyChar {c : Char} (bare : isBareKeyChar c = true) :
    isBlank c = false := by
  simp [isBlank, ne_of_isBareKeyChar bare (d := ' ') rfl, ne_of_isBareKeyChar bare (d := '\t') rfl]

theorem simpleKey?_bare {key : String} (h : IsBare key) {rest : List Char}
    (ends : ∀ c ∈ rest.head?, isBareKeyChar c = false) :
    simpleKey? (key.toList ++ rest) = some (key.toList, rest) := by
  have stop : rest.takeWhile isBareKeyChar = [] ∧ rest.dropWhile isBareKeyChar = rest := by
    cases rest with
    | nil => exact ⟨rfl, rfl⟩
    | cons c cs => simp [ends c rfl]
  have taken : (key.toList ++ rest).takeWhile isBareKeyChar = key.toList := by
    rw [List.takeWhile_append_of_pos h.all, stop.1, List.append_nil]
  have left : (key.toList ++ rest).dropWhile isBareKeyChar = rest := by
    rw [List.dropWhile_append_of_pos h.all, stop.2]
  obtain ⟨c, cs, written, bare⟩ := h.exists_toList_eq_cons
  rw [written] at taken left ⊢
  unfold simpleKey?
  split
  · next eq => exact absurd (List.cons.inj eq).1 (ne_of_isBareKeyChar bare rfl)
  · next eq => exact absurd (List.cons.inj eq).1 (ne_of_isBareKeyChar bare rfl)
  · rw [taken, left]

theorem key?_bare {key : String} (h : IsBare key) {rest : List Char}
    (ends : ∀ c ∈ rest.head?, isBareKeyChar c = false)
    (alone : ∀ c ∈ (skipBlanks rest).head?, c ≠ '.') :
    key? (key.toList ++ rest) = some ([key], skipBlanks rest) := by
  have read := simpleKey?_bare h ends
  obtain ⟨c, cs, written, bare⟩ := h.exists_toList_eq_cons
  have front : skipBlanks (key.toList ++ rest) = key.toList ++ rest := by
    rw [written, List.cons_append, skipBlanks_cons (isBlank_of_isBareKeyChar bare)]
  show keyPath? (78 + 1) _ = _
  rw [keyPath?, front, read]
  simp only [Option.bind_eq_bind, Option.bind_some, String.ofList_toList]
  split
  · next eq => exact absurd rfl (alone '.' (by rw [eq]; rfl))
  · rfl

/-! ### Lines -/

/-- A line of a key and a value, with the text of the value. -/
structure Line where
  key : String
  text : List Char
  value : Toml

namespace Line

def written (l : Line) : List Char :=
  lineText l.key l.text

def pair (l : Line) : Pair :=
  ⟨[], l.key, l.value⟩

def entry (l : Line) : String × Toml :=
  (l.key, l.value)

/-- The key is written without quotes, and the value reads back up to the end of the line. -/
structure ReadsBack (l : Line) : Prop where
  bare : IsBare l.key
  starts : ∀ c ∈ l.text.head?, isBlank c = false
  reads : ∀ fuel depth rest,
    value? (fuel + 1) depth (l.text ++ '\n' :: rest) = some (l.value, '\n' :: rest)

variable {l : Line}

theorem written_append (l : Line) (rest : List Char) :
    l.written ++ rest = l.key.toList ++ ' ' :: '=' :: ' ' :: (l.text ++ '\n' :: rest) := by
  simp [written, lineText]

theorem ReadsBack.pairLine? (h : l.ReadsBack) (rest : List Char) :
    pairLine? (l.written ++ rest) = some (l.pair, rest) := by
  have key : key? (l.written ++ rest) =
      some ([l.key], '=' :: ' ' :: (l.text ++ '\n' :: rest)) := by
    rw [written_append]
    refine key?_bare h.bare ?_ ?_
    · rintro c ⟨⟩
      rfl
    · rintro c ⟨⟩
      decide
  have front : skipBlanks (' ' :: (l.text ++ '\n' :: rest)) = l.text ++ '\n' :: rest := by
    show skipBlanks (l.text ++ '\n' :: rest) = _
    have starts := h.starts
    cases eq : l.text with
    | nil => rfl
    | cons c cs => exact skipBlanks_cons (starts c (by rw [eq]; rfl)) _
  rw [Toml.pairLine?, key]
  simp only [Option.bind_eq_bind, Option.bind_some, char?, if_true, front, h.reads]
  rfl

theorem ReadsBack.document? (h : l.ReadsBack) (fuel : Nat) (rest : List Char) :
    document? (fuel + 1) (l.written ++ rest) =
      (document? fuel rest).map (Document.consPair l.pair) := by
  have read := h.pairLine? rest
  obtain ⟨c, cs, key, bare⟩ := h.bare.exists_toList_eq_cons
  rw [written_append, key, List.cons_append] at read ⊢
  have other {d : Char} (h : isBareKeyChar d = false) : c ≠ d := ne_of_isBareKeyChar bare h
  rw [Toml.document?, skipBlanks_cons (isBlank_of_isBareKeyChar bare)]
  split
  · next eq => cases eq
  · next eq => exact absurd (List.cons.inj eq).1 (other rfl)
  · next eq => exact absurd (List.cons.inj eq).1 (other rfl)
  · next eq =>
    cases eq
    rw [read]
    simp only [other (d := '#') rfl, other (d := '\n') rfl, other (d := '\r') rfl, decide_false,
      Bool.or_self, Bool.false_eq_true, if_false, Option.bind_eq_bind, Option.bind_some]
    cases Toml.document? fuel rest <;> rfl

end Line

/-! ### Strings and numbers -/

/-- A value that begins like no array, table or truth value is a string or a number. -/
theorem value?_cons {c : Char} (others : c ∉ ['[', '\x7b', 't', 'f']) (fuel depth : Nat)
    (cs : List Char) : value? (fuel + 1) depth (c :: cs) =
      if c = '"' || c = '\'' then
        (string? (c :: cs)).map fun p => (.text (String.ofList p.1), p.2)
      else number? (c :: cs) := by
  simp only [List.mem_cons, List.not_mem_nil, or_false, not_or] at others
  rw [value?]
  · split
    · cases string? (c :: cs) <;> rfl
    · rfl
  all_goals simp [others]

theorem exists_stringText_eq_cons (cs : List Char) :
    ∃ q rest, stringText cs = q :: rest ∧ (q = '"' ∨ q = '\'') := by
  unfold stringText
  split
  · exact ⟨_, _, rfl, .inl rfl⟩
  · exact ⟨_, _, rfl, .inr rfl⟩
  · exact ⟨_, _, rfl, .inl rfl⟩
  · exact ⟨_, _, rfl, .inr rfl⟩

namespace Line

/-- A line with a string. -/
def ofString (key s : String) : Line :=
  ⟨key, stringText s.toList, .text s⟩

/-- A line with a natural number. -/
def ofNat (key : String) (n : Nat) : Line :=
  ⟨key, Nat.toDigits 10 n, .integer n⟩

theorem readsBack_ofString {key : String} (bare : IsBare key) (s : String) :
    (ofString key s).ReadsBack where
  bare := bare
  starts := by
    obtain ⟨q, text, written, rfl | rfl⟩ := exists_stringText_eq_cons s.toList <;>
      show ∀ c ∈ (stringText s.toList).head?, _ <;>
      rw [written] <;>
      rintro c ⟨⟩ <;>
      rfl
  reads fuel depth rest := by
    show value? (fuel + 1) depth (stringText s.toList ++ '\n' :: rest) = _
    have read := string?_stringText s.toList rest
    obtain ⟨q, text, written, quote⟩ := exists_stringText_eq_cons s.toList
    rw [written, List.cons_append] at read ⊢
    rw [value?_cons (by rcases quote with rfl | rfl <;> decide), if_pos (by simpa using quote),
      read, Option.map_some, String.ofList_toList]
    rfl

theorem readsBack_ofNat {key : String} (bare : IsBare key) {n : Nat} (h : n < 0x8000000000000000) :
    (ofNat key n).ReadsBack where
  bare := bare
  starts := by
    obtain ⟨d, ds, written, digit, -⟩ := Json.exists_toDigits_eq_cons n
    show ∀ c ∈ (Nat.toDigits 10 n).head?, _
    rw [written]
    rintro c ⟨⟩
    simp [isBlank, Json.ne_of_isDigit digit]
  reads fuel depth rest := by
    show value? (fuel + 1) depth (Nat.toDigits 10 n ++ '\n' :: rest) = _
    have read := number?_toDigits n rest h
    obtain ⟨d, ds, written, digit, -⟩ := Json.exists_toDigits_eq_cons n
    have other {c : Char} (h : c.isDigit = false) : d ≠ c := Json.ne_of_isDigit digit h
    rw [written, List.cons_append] at read ⊢
    rw [value?_cons, if_neg, read]
    · rfl
    · simp [other (c := '"') rfl, other (c := '\'') rfl]
    · simp [other (c := '[') rfl, other (c := '\x7b') rfl, other (c := 't') rfl,
        other (c := 'f') rfl]

end Line

/-! ### Tables -/

/-- A table under a header of its own. -/
structure Table where
  key : String
  lines : List Line

namespace Table

def written (t : Table) : List Char :=
  headerText t.key ++ t.lines.flatMap Line.written

def toSection (t : Table) : Section :=
  ⟨false, [t.key], t.lines.map Line.pair⟩

def entry (t : Table) : String × Toml :=
  (t.key, .table .header (t.lines.map Line.entry))

/-- The header is written without quotes, and the lines under it read back. -/
structure ReadsBack (t : Table) : Prop where
  bare : IsBare t.key
  lines : ∀ l ∈ t.lines, l.ReadsBack

end Table

theorem headerLine?_bare {key : String} (h : IsBare key) (rest : List Char) :
    headerLine? false (key.toList ++ ']' :: '\n' :: rest) = some (⟨false, [key], []⟩, rest) := by
  have read : key? (key.toList ++ ']' :: '\n' :: rest) = some ([key], ']' :: '\n' :: rest) := by
    refine key?_bare h ?_ ?_
    · rintro c ⟨⟩
      rfl
    · rintro c ⟨⟩
      decide
  rw [headerLine?, read]
  rfl

theorem document?_header {key : String} (h : IsBare key) (fuel : Nat) (rest : List Char) :
    document? (fuel + 2) (headerText key ++ rest) =
      (document? fuel rest).map (Document.consHeader ⟨false, [key], []⟩) := by
  have text : headerText key ++ rest = '\n' :: '[' :: (key.toList ++ ']' :: '\n' :: rest) := by
    simp [headerText]
  have emptyLine : document? (fuel + 2) (headerText key ++ rest) =
      document? (fuel + 1) ('[' :: (key.toList ++ ']' :: '\n' :: rest)) := by
    rw [text, document?]
    rfl
  have header := headerLine?_bare h rest
  obtain ⟨c, cs, written, bare⟩ := h.exists_toList_eq_cons
  rw [written, List.cons_append] at header emptyLine
  rw [emptyLine, document?, skipBlanks_cons rfl]
  split
  · next eq => cases eq
  · next eq =>
    exact absurd (List.cons.inj (List.cons.inj eq).2).1 (ne_of_isBareKeyChar bare rfl)
  · next eq =>
    cases eq
    rw [header]
    show (document? fuel rest >>= _) = _
    cases document? fuel rest <;> rfl
  · next other eq =>
    cases eq
    exact (other rfl).elim

/-! ### Documents -/

/-- The document is what the lines of a text amount to. -/
def Document.ReadsFrom (d : Document) (text : List Char) : Prop :=
  ∀ fuel, text.length < fuel → document? fuel text = some d

theorem readsFrom_nil : Document.ReadsFrom ⟨[], []⟩ [] := by
  rintro (_ | fuel) enough
  · cases enough
  · rfl

/-- The induction is on the lines, and each takes one unit of fuel. -/
theorem Document.ReadsFrom.lines {d : Document} {rest : List Char} (h : d.ReadsFrom rest)
    {lines : List Line} (reads : ∀ l ∈ lines, l.ReadsBack) :
    Document.ReadsFrom ⟨lines.map Line.pair ++ d.pairs, d.sections⟩
      (lines.flatMap Line.written ++ rest) := by
  induction lines with
  | nil => exact h
  | cons l lines ih =>
    obtain ⟨first, reads⟩ := List.forall_mem_cons.1 reads
    rw [List.flatMap_cons, List.append_assoc]
    rintro (_ | fuel) enough
    · cases enough
    · have length : l.written.length = l.key.toList.length + l.text.length + 4 := by
        simp [Line.written, lineText]
        omega
      rw [List.length_append, length] at enough
      rw [first.document?, ih reads fuel (by omega)]
      rfl

theorem Document.ReadsFrom.table {d : Document} {rest : List Char} (h : d.ReadsFrom rest)
    (noPairs : d.pairs = []) {t : Table} (reads : t.ReadsBack) :
    Document.ReadsFrom ⟨[], t.toSection :: d.sections⟩ (t.written ++ rest) := by
  have lines := h.lines reads.lines
  rw [noPairs, List.append_nil] at lines
  intro fuel enough
  have length : t.written.length =
      t.key.toList.length + 4 + (t.lines.flatMap Line.written).length := by
    simp [Table.written, headerText]
    omega
  rw [List.length_append, length] at enough
  obtain ⟨fuel, rfl⟩ : ∃ f, fuel = f + 2 := ⟨fuel - 2, by omega⟩
  rw [Table.written, List.append_assoc, document?_header reads.bare,
    lines fuel (by rw [List.length_append]; omega)]
  rfl

theorem readsFrom_tables {tables : List Table} (reads : ∀ t ∈ tables, t.ReadsBack) :
    Document.ReadsFrom ⟨[], tables.map Table.toSection⟩ (tables.flatMap Table.written) := by
  induction tables with
  | nil => exact readsFrom_nil
  | cons t tables ih =>
    obtain ⟨first, reads⟩ := List.forall_mem_cons.1 reads
    exact (ih reads).table rfl first

/-! ### Entries -/

section Entries

variable {entries : Entries} {key : String}

theorem Entries.find?_eq_none (fresh : key ∉ entries.map Prod.fst) : entries.find? key = none := by
  refine List.lookup_eq_none_iff.2 fun e he => ?_
  rw [bne_iff_ne]
  exact fun same => fresh (same ▸ List.mem_map_of_mem he)

theorem Entries.find?_of_mem (keys : (entries.map Prod.fst).Nodup) {value : Toml}
    (h : (key, value) ∈ entries) : entries.find? key = some value := by
  obtain ⟨before, after, rfl⟩ := List.append_of_mem h
  refine List.lookup_eq_some_iff.2 ⟨before, after, rfl, fun e he => ?_⟩
  rw [List.map_append, List.map_cons] at keys
  rw [bne_iff_ne]
  exact ((List.nodup_append.1 keys).2.2 _ (List.mem_map_of_mem he) _ List.mem_cons_self).symm

theorem Entries.set_of_fresh (fresh : key ∉ entries.map Prod.fst) (value : Toml) :
    entries.set key value = entries ++ [(key, value)] := by
  induction entries with
  | nil => rfl
  | cons e entries ih =>
    rw [List.map_cons, List.mem_cons, not_or] at fresh
    rw [Entries.set, if_neg (Ne.symm fresh.1), ih fresh.2]
    rfl

/-- Lines with keys of their own are added at the end. -/
theorem insertPairs_lines (entries : Entries) {lines : List Line}
    (fresh : (entries.map Prod.fst ++ lines.map Line.key).Nodup) :
    insertPairs .header entries (lines.map Line.pair) = some (entries ++ lines.map Line.entry) := by
  induction lines generalizing entries with
  | nil => rw [List.map_nil, List.map_nil, List.append_nil]; rfl
  | cons l lines ih =>
    have new : l.key ∉ entries.map Prod.fst := fun h =>
      (List.nodup_append.1 fresh).2.2 _ h _ List.mem_cons_self rfl
    have one : insertPair .header entries l.pair = some (entries ++ [l.entry]) := by
      show insertAt l.pair [] .header entries = _
      rw [insertAt, if_neg (by simp [Line.pair])]
      dsimp only [Line.pair]
      rw [Entries.find?_eq_none new]
      rfl
    have rest : ((entries ++ [l.entry]).map Prod.fst ++ lines.map Line.key).Nodup := by
      rw [List.map_append, List.append_assoc]
      exact fresh
    show (insertPair .header entries l.pair >>= fun es => insertPairs .header es _) = _
    rw [one]
    show insertPairs .header (entries ++ [l.entry]) (lines.map Line.pair) = _
    rw [ih _ rest, List.append_assoc]
    rfl

theorem insertSection_table {t : Table} (new : t.key ∉ entries.map Prod.fst)
    (fresh : (t.lines.map Line.key).Nodup) :
    insertSection entries t.toSection = some (entries ++ [t.entry]) := by
  have lines : insertPairs .header [] (t.lines.map Line.pair) = some (t.lines.map Line.entry) :=
    insertPairs_lines [] fresh
  show (sectionValue t.toSection (entries.find? t.key) >>= _) = _
  rw [Entries.find?_eq_none new]
  show (Toml.table .header <$> insertPairs .header [] (t.lines.map Line.pair) >>= _) = _
  rw [lines]
  exact congrArg some (Entries.set_of_fresh new _)

theorem foldlM_insertSection {tables : List Table}
    (keys : (entries.map Prod.fst ++ tables.map Table.key).Nodup)
    (fresh : ∀ t ∈ tables, (t.lines.map Line.key).Nodup) :
    (tables.map Table.toSection).foldlM insertSection entries =
      some (entries ++ tables.map Table.entry) := by
  induction tables generalizing entries with
  | nil => rw [List.map_nil, List.map_nil, List.append_nil]; rfl
  | cons t tables ih =>
    obtain ⟨first, fresh⟩ := List.forall_mem_cons.1 fresh
    have new : t.key ∉ entries.map Prod.fst := fun h =>
      (List.nodup_append.1 keys).2.2 _ h _ List.mem_cons_self rfl
    have rest : ((entries ++ [t.entry]).map Prod.fst ++ tables.map Table.key).Nodup := by
      rw [List.map_append, List.append_assoc]
      exact keys
    rw [List.map_cons, List.foldlM_cons, insertSection_table new first]
    show (tables.map Table.toSection).foldlM insertSection (entries ++ [t.entry]) = _
    rw [ih rest fresh, List.append_assoc]
    rfl

end Entries

theorem dropByteOrderMark_cons {c : Char} (h : c ≠ '\ufeff') (cs : List Char) :
    dropByteOrderMark (c :: cs) = c :: cs := by
  unfold dropByteOrderMark
  split
  · next eq => exact absurd (List.cons.inj eq).1 h
  · rfl

/-- No byte order mark is written. -/
theorem dropByteOrderMark_written {lines : List Line} (reads : ∀ l ∈ lines, l.ReadsBack)
    (tables : List Table) :
    dropByteOrderMark (lines.flatMap Line.written ++ tables.flatMap Table.written) =
      lines.flatMap Line.written ++ tables.flatMap Table.written := by
  cases lines with
  | nil =>
    cases tables with
    | nil => rfl
    | cons t tables => exact dropByteOrderMark_cons (c := '\n') (by decide) _
  | cons l lines =>
    obtain ⟨c, cs, written, bare⟩ := (reads l List.mem_cons_self).bare.exists_toList_eq_cons
    rw [List.flatMap_cons, List.append_assoc, Line.written_append, written]
    exact dropByteOrderMark_cons (ne_of_isBareKeyChar bare rfl) _

/-- What is written without repeating a key is read back. -/
theorem parse?_written {lines : List Line} {tables : List Table}
    (readLines : ∀ l ∈ lines, l.ReadsBack) (readTables : ∀ t ∈ tables, t.ReadsBack)
    (keys : (lines.map Line.key ++ tables.map Table.key).Nodup)
    (fresh : ∀ t ∈ tables, (t.lines.map Line.key).Nodup) :
    parse? (String.ofList (lines.flatMap Line.written ++ tables.flatMap Table.written)) =
      some (lines.map Line.entry ++ tables.map Table.entry) := by
  have read := (readsFrom_tables readTables).lines readLines
  rw [List.append_nil] at read
  have entries : Document.entries? ⟨lines.map Line.pair, tables.map Table.toSection⟩ =
      some (lines.map Line.entry ++ tables.map Table.entry) := by
    have flat : insertPairs .header [] (lines.map Line.pair) = some (lines.map Line.entry) :=
      insertPairs_lines [] (List.nodup_append.1 keys).1
    rw [Document.entries?, flat]
    refine foldlM_insertSection ?_ fresh
    rw [List.map_map]
    exact keys
  rw [parse?, String.toList_ofList, dropByteOrderMark_written readLines]
  show (document? _ _ >>= _) = _
  rw [read _ (Nat.lt_succ_self _)]
  exact entries

end TrusteeBoard.Toml
