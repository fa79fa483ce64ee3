import Mathlib.Algebra.Order.Group.Nat
import Mathlib.Data.List.Chain
import Mathlib.Data.List.TakeWhile
import TrusteeBoard.Duration
import TrusteeBoard.Proofs.Json.Text

/-!
# What the text of a span tells

A text of one term or of two is read back as a number of seconds (`secondsTold?`). The text of a
span below a minute tells the span itself. A longer span is told in the largest unit within it and
the next one, and less than one of the smaller unit is dropped (`SpanTerm.Brackets`). So the seconds
told are never more than the span, and no fewer for a longer span (`describeSpan_rounds_down`). They
are none for no time at all and for nothing else (`describeSpan_eq_zero_iff`).
-/

namespace TrusteeBoard

/-! ### Terms -/

/-- A number of units. -/
structure SpanTerm where
  count : Nat
  unit : Nat × String

namespace SpanTerm

def secs (t : SpanTerm) : Nat :=
  t.count * t.unit.1

def text (t : SpanTerm) : String :=
  s!"{t.count}{t.unit.2}"

/-- The term in front of a text: digits, and the letter of a unit. -/
def read? (cs : List Char) : Option (SpanTerm × List Char) :=
  match Json.digits? cs with
  | some (digits, letter :: rest) =>
    (spanUnits.find? (·.2.toList = [letter])).map fun unit =>
      (⟨Nat.ofDigitChars 10 digits 0, unit⟩, rest)
  | _ => none

theorem exists_letter {unit : Nat × String} (listed : unit ∈ spanUnits) :
    ∃ letter, unit.2.toList = [letter] ∧ spanUnits.find? (·.2.toList = [letter]) = some unit ∧
      ∀ rest, Json.Ends (letter :: rest) := by
  simp only [spanUnits, List.mem_cons, List.not_mem_nil, or_false] at listed
  rcases listed with rfl | rfl | rfl | rfl | rfl <;>
    exact ⟨_, rfl, by decide, fun rest c h => by cases h; decide⟩

theorem read?_append (t : SpanTerm) (listed : t.unit ∈ spanUnits) (rest : List Char) :
    read? (t.text.toList ++ rest) = some (t, rest) := by
  obtain ⟨letter, named, found, ends⟩ := exists_letter listed
  have written : t.text.toList ++ rest = Nat.toDigits 10 t.count ++ letter :: rest := by
    rw [text, String.toList_append, Nat.toString_eq_repr, Nat.toList_repr, List.append_assoc]
    exact congrArg (fun cs => Nat.toDigits 10 t.count ++ (cs ++ rest)) named
  have digits := Json.digits?_append Nat.toDigits_ne_nil
    (fun _ => Json.isDigit_of_mem_toDigits (n := t.count)) (ends rest)
  rw [read?, written, digits]
  show (spanUnits.find? _).map _ = _
  rw [found, Nat.ofDigitChars_ten_toDigits]
  rfl

theorem read?_text (t : SpanTerm) (listed : t.unit ∈ spanUnits) :
    read? t.text.toList = some (t, []) := by
  simpa using t.read?_append listed []

end SpanTerm

/-- The seconds told by one term, or by two with a blank between them. -/
def secondsTold? (text : String) : Option Nat :=
  match SpanTerm.read? text.toList with
  | some (t, []) => some t.secs
  | some (t, ' ' :: rest) =>
    match SpanTerm.read? rest with
    | some (t', []) => some (t.secs + t'.secs)
    | _ => none
  | _ => none

theorem secondsTold?_term (t : SpanTerm) (listed : t.unit ∈ spanUnits) :
    secondsTold? t.text = some t.secs := by
  rw [secondsTold?, t.read?_text listed]

theorem secondsTold?_terms (major minor : SpanTerm) (listed : major.unit ∈ spanUnits)
    (listed' : minor.unit ∈ spanUnits) :
    secondsTold? s!"{major.text} {minor.text}" = some (major.secs + minor.secs) := by
  have written : s!"{major.text} {minor.text}".toList =
      major.text.toList ++ ' ' :: minor.text.toList := by
    show (major.text ++ " " ++ minor.text).toList = _
    simp
  simp [secondsTold?, written, major.read?_append listed, minor.read?_text listed']

/-! ### Units -/

theorem descending_spanUnits : spanUnits.Pairwise fun u v => v.1 < u.1 := by
  decide

variable {secs later : Nat} {u v w : Nat × String} {smaller : List (Nat × String)}

/-- Every unit but the last is a minute at least, and a multiple of the unit after it. -/
theorem multiple_of_adjacent (adjacent : [u, v] <:+: spanUnits) :
    60 ≤ u.1 ∧ 0 < v.1 ∧ v.1 < u.1 ∧ v.1 ∣ u.1 := by
  have table : spanUnits.IsChain fun u v => 60 ≤ u.1 ∧ 0 < v.1 ∧ v.1 < u.1 ∧ v.1 ∣ u.1 := by
    decide
  have pair := List.IsChain.infix table adjacent
  rwa [List.isChain_pair] at pair

/-- The unit after another is the largest below it. -/
theorem le_of_adjacent (adjacent : [u, v] <:+: spanUnits) (listed : w ∈ spanUnits)
    (below : w.1 < u.1) : w.1 ≤ v.1 := by
  have table : ∀ u ∈ spanUnits, ∀ v ∈ spanUnits, [u, v] <:+: spanUnits →
      ∀ w ∈ spanUnits, w.1 < u.1 → w.1 ≤ v.1 := by
    decide
  exact table u (adjacent.subset (by simp)) v (adjacent.subset (by simp)) adjacent w listed below

/-- The largest unit within a span and the units below it. -/
def unitsWithin (secs : Nat) : List (Nat × String) :=
  spanUnits.dropWhile (secs < ·.1)

theorem mem_unitsWithin (listed : u ∈ spanUnits) (within : u.1 ≤ secs) : u ∈ unitsWithin secs := by
  rw [← List.takeWhile_append_dropWhile (p := (secs < ·.1)) (l := spanUnits)] at listed
  rcases List.mem_append.1 listed with beyond | kept
  · have beyond := List.mem_takeWhile_imp beyond
    rw [decide_eq_true_eq] at beyond
    omega
  · exact kept

theorem le_of_unitsWithin (kept : unitsWithin secs = u :: smaller) : u.1 ≤ secs := by
  have stop := List.head?_dropWhile_not (secs < ·.1) spanUnits
  rw [← unitsWithin, kept] at stop
  simpa using stop

theorem largest_of_unitsWithin (kept : unitsWithin secs = u :: smaller) (listed : v ∈ spanUnits)
    (within : v.1 ≤ secs) : v.1 ≤ u.1 := by
  have descending : (unitsWithin secs).Pairwise fun u v => v.1 < u.1 :=
    descending_spanUnits.sublist (List.dropWhile_suffix _).sublist
  have found := mem_unitsWithin listed within
  rw [kept] at descending found
  rcases List.mem_cons.1 found with rfl | found
  · exact Nat.le_refl _
  · exact (List.rel_of_pairwise_cons descending found).le

/-- A span is told in the first two units that are left when those beyond it are dropped. -/
theorem describeIn_eq (units : List (Nat × String)) (secs : Nat) :
    describeIn units secs =
      match units.dropWhile (secs < ·.1) with
      | [] => "0s"
      | [u] => s!"{secs}{u.2}"
      | u :: v :: _ => s!"{secs / u.1}{u.2} {secs % u.1 / v.1}{v.2}" := by
  induction units with
  | nil => rfl
  | cons u smaller ih =>
    by_cases beyond : secs < u.1
    · simp [describeIn, beyond, ih]
    · cases smaller <;> simp [describeIn, beyond]

/-! ### Spans -/

/-- Two terms tell a span in the largest unit within it and the unit after that one. What they leave
out is less than one of the smaller unit. -/
structure SpanTerm.Brackets (secs : Nat) (major minor : SpanTerm) : Prop where
  adjacent : [major.unit, minor.unit] <:+: spanUnits
  smaller : minor.unit.1 < major.unit.1
  within : major.unit.1 ≤ secs
  largest : ∀ unit ∈ spanUnits, unit.1 ≤ secs → unit.1 ≤ major.unit.1
  one_le : 1 ≤ major.count
  minor_lt : minor.count * minor.unit.1 < major.unit.1
  le : major.count * major.unit.1 + minor.count * minor.unit.1 ≤ secs
  lt : secs < major.count * major.unit.1 + (minor.count + 1) * minor.unit.1

/-- How a span is told, and the seconds told. -/
inductive ShowsSpan (secs : Nat) : String → Nat → Prop
  | seconds (few : secs < 60) : ShowsSpan secs s!"{secs}s" secs
  | terms (major minor : SpanTerm) (brackets : SpanTerm.Brackets secs major minor) :
    ShowsSpan secs s!"{major.text} {minor.text}" (major.secs + minor.secs)

namespace SpanTerm.Brackets

variable {major minor major' minor' : SpanTerm}

theorem listed (h : Brackets secs major minor) :
    major.unit ∈ spanUnits ∧ minor.unit ∈ spanUnits :=
  ⟨h.adjacent.subset (by simp), h.adjacent.subset (by simp)⟩

theorem minute_le (h : Brackets secs major minor) : 60 ≤ major.secs + minor.secs := by
  have minute := (multiple_of_adjacent h.adjacent).1
  have whole : major.unit.1 ≤ major.secs := Nat.le_mul_of_pos_left _ h.one_le
  omega

theorem dvd (h : Brackets secs major minor) : minor.unit.1 ∣ major.secs + minor.secs := by
  obtain ⟨-, -, -, multiple⟩ := multiple_of_adjacent h.adjacent
  exact Nat.dvd_add (Nat.dvd_mul_left_of_dvd multiple _) (Nat.dvd_mul_left _ _)

theorem lt_add (h : Brackets secs major minor) :
    secs < major.secs + minor.secs + minor.unit.1 := by
  have lt := h.lt
  rwa [Nat.succ_mul, ← Nat.add_assoc] at lt

/-- The seconds told do not shrink as the span grows. -/
theorem mono (h : Brackets secs major minor) (h' : Brackets later major' minor')
    (le : secs ≤ later) : major.secs + minor.secs ≤ major'.secs + minor'.secs := by
  have units : major.unit.1 ≤ major'.unit.1 := h'.largest _ h.listed.1 (h.within.trans le)
  rcases units.lt_or_eq with larger | same
  · -- the span has not reached the larger unit
    have short : secs < major'.unit.1 := by
      by_contra reached
      exact larger.not_ge (h.largest _ h'.listed.1 (not_lt.1 reached))
    calc major.secs + minor.secs ≤ secs := h.le
      _ ≤ major'.unit.1 := short.le
      _ ≤ major'.secs := Nat.le_mul_of_pos_left _ h'.one_le
      _ ≤ major'.secs + minor'.secs := Nat.le_add_right _ _
  · -- both are multiples of the same smaller unit
    have grain : minor.unit.1 = minor'.unit.1 := Nat.le_antisymm
      (le_of_adjacent h'.adjacent h.listed.2 (h.smaller.trans_eq same))
      (le_of_adjacent h.adjacent h'.listed.2 (h'.smaller.trans_eq same.symm))
    exact Nat.le_of_lt_add_of_dvd ((h.le.trans le).trans_lt h'.lt_add) (grain ▸ h.dvd) h'.dvd

end SpanTerm.Brackets

namespace ShowsSpan

variable {text text' : String} {told told' : Nat}

theorem secondsTold?_eq (h : ShowsSpan secs text told) : secondsTold? text = some told := by
  cases h with
  | seconds few =>
    have second : (1, "s") ∈ spanUnits := by decide
    have read := secondsTold?_term ⟨secs, 1, "s"⟩ second
    rwa [SpanTerm.secs, Nat.mul_one] at read
  | terms major minor brackets =>
    exact secondsTold?_terms major minor brackets.listed.1 brackets.listed.2

theorem le (h : ShowsSpan secs text told) : told ≤ secs := by
  cases h with
  | seconds few => exact Nat.le_refl _
  | terms major minor brackets => exact brackets.le

theorem mono (h : ShowsSpan secs text told) (h' : ShowsSpan later text' told') (le : secs ≤ later) :
    told ≤ told' := by
  cases h' with
  | seconds few => exact h.le.trans le
  | terms major' minor' brackets' =>
    cases h with
    | seconds few => exact few.le.trans brackets'.minute_le
    | terms major minor brackets => exact brackets.mono brackets' le

theorem eq_zero (h : ShowsSpan secs text told) (zero : told = 0) : secs = 0 := by
  cases h with
  | seconds few => exact zero
  | terms major minor brackets =>
    have minute := brackets.minute_le
    omega

end ShowsSpan

/-- Dividing by the two units, the second time what the first division leaves. -/
theorem brackets_div (adjacent : [u, v] <:+: spanUnits) (within : u.1 ≤ secs)
    (largest : ∀ unit ∈ spanUnits, unit.1 ≤ secs → unit.1 ≤ u.1) :
    SpanTerm.Brackets secs ⟨secs / u.1, u⟩ ⟨secs % u.1 / v.1, v⟩ := by
  obtain ⟨minute, positive, smaller, -⟩ := multiple_of_adjacent adjacent
  have whole : secs / u.1 * u.1 + secs % u.1 = secs := Nat.div_add_mod' secs u.1
  have below : secs % u.1 < u.1 := Nat.mod_lt _ (by omega)
  have told : secs % u.1 / v.1 * v.1 ≤ secs % u.1 := Nat.div_mul_le_self _ _
  have dropped : secs % u.1 < (secs % u.1 / v.1 + 1) * v.1 := by
    rw [Nat.mul_comm]
    exact Nat.lt_mul_div_succ _ positive
  exact
    { adjacent
      smaller
      within
      largest
      one_le := Nat.div_pos within (by omega)
      minor_lt := told.trans_lt below
      le := (Nat.add_le_add_left told _).trans whole.le
      lt := whole.symm.trans_lt (Nat.add_lt_add_left dropped _) }

theorem exists_brackets (minute : 60 ≤ secs) : ∃ major minor : SpanTerm,
    describeIn spanUnits secs = s!"{major.text} {minor.text}" ∧
      SpanTerm.Brackets secs major minor := by
  have text := describeIn_eq spanUnits secs
  rw [← unitsWithin] at text
  have minutes : (60, "m") ∈ unitsWithin secs := mem_unitsWithin (by decide) minute
  have seconds : (1, "s") ∈ unitsWithin secs := mem_unitsWithin (by decide) (by omega)
  match kept : unitsWithin secs with
  | [] =>
    rw [kept] at minutes
    cases minutes
  | [u] =>
    rw [kept, List.mem_singleton] at minutes seconds
    cases minutes.trans seconds.symm
  | u :: v :: rest =>
    rw [kept] at text
    have adjacent : [u, v] <:+: spanUnits :=
      List.IsInfix.trans ⟨[], rest, kept.symm⟩ (List.dropWhile_suffix _).isInfix
    exact ⟨⟨secs / u.1, u⟩, ⟨secs % u.1 / v.1, v⟩, text.trans (String.append_assoc ..),
      brackets_div adjacent (le_of_unitsWithin kept) fun _ => largest_of_unitsWithin kept⟩

theorem describeIn_of_few (few : secs < 60) : describeIn spanUnits secs = s!"{secs}s" := by
  have beyond {size : Nat} (minute : 60 ≤ size) : secs < size := few.trans_le minute
  rcases Nat.eq_zero_or_pos secs with rfl | pos
  · rfl
  · have kept : spanUnits.dropWhile (secs < ·.1) = [(1, "s")] := by
      simp [spanUnits, beyond, pos.ne']
    rw [describeIn_eq, kept]

theorem exists_shows (secs : UInt64) : ∃ told, ShowsSpan secs.toNat (describeSpan secs) told := by
  rw [describeSpan]
  rcases Nat.lt_or_ge secs.toNat 60 with few | minute
  · rw [describeIn_of_few few]
    exact ⟨_, .seconds few⟩
  · obtain ⟨major, minor, text, brackets⟩ := exists_brackets minute
    rw [text]
    exact ⟨_, .terms major minor brackets⟩

/-- The text of a span can be read back. It tells at most the span, in whole seconds below a minute
and else in two units with less than one of the smaller left out, and for a longer span it tells no
less. -/
theorem describeSpan_rounds_down (secs : UInt64) :
    ∃ told, ShowsSpan secs.toNat (describeSpan secs) told ∧
      secondsTold? (describeSpan secs) = some told ∧ told ≤ secs.toNat ∧
      ∀ later, secs ≤ later →
        ∃ told', secondsTold? (describeSpan later) = some told' ∧ told ≤ told' := by
  obtain ⟨told, shows⟩ := exists_shows secs
  refine ⟨told, shows, shows.secondsTold?_eq, shows.le, fun later le => ?_⟩
  obtain ⟨told', shows'⟩ := exists_shows later
  exact ⟨told', shows'.secondsTold?_eq, shows.mono shows' (UInt64.le_iff_toNat_le.1 le)⟩

/-- An hour and all but a second of the next minute are told as an hour. -/
example : secondsTold? (describeSpan 3659) = some 3600 := by
  decide

/-- Only no time is told as none. -/
theorem describeSpan_eq_zero_iff {secs : UInt64} : describeSpan secs = "0s" ↔ secs = 0 := by
  constructor
  · intro text
    obtain ⟨told, shows⟩ := exists_shows secs
    have zero : secondsTold? "0s" = some 0 := by decide
    rw [← text, shows.secondsTold?_eq, Option.some.injEq] at zero
    exact UInt64.toNat_inj.1 (shows.eq_zero zero)
  · rintro rfl
    rfl

end TrusteeBoard
