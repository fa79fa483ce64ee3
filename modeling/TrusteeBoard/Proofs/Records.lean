import TrusteeBoard.Proofs.OrderedMap
import TrusteeBoard.Proofs.Program.WritesLast
import TrusteeBoard.Store.Memory

/-!
# Records behind a program

`Records.Serves r xs r'` says that a store with the records `r` may have taken part in the exchanges
`xs` and then has the records `r'`: a read fails or tells the truth (`Records.Tells`), and a write
fails or makes its changes. Nothing is said of who answers the other questions.

The records of a store are filed under the names they carry (`Records.Filed`), whatever is written.
-/

namespace TrusteeBoard

namespace Records

/-- An answer to a read, when it is not a failure, is that of `r`. -/
def Tells (r : Records) : Exchange → Prop
  | ⟨.config, .ok a⟩ => a = r.config
  | ⟨.nominee name, .ok a⟩ => a = r.nominees.find? name
  | ⟨.nominees, .ok a⟩ => a = r.nominees.values
  | ⟨.candidate name, .ok a⟩ => a = r.candidates.find? name
  | ⟨.candidates, .ok a⟩ => a = r.candidates.values
  | ⟨.member name, .ok a⟩ => a = r.members.find? name
  | ⟨.members, .ok a⟩ => a = r.members.values
  | ⟨.memberCount, .ok a⟩ => a = UInt32.ofNat r.members.size
  | _ => True

/-- The records after one exchange. -/
def afterExchange (r : Records) : Exchange → Records
  | ⟨.apply changes, .ok _⟩ => r.after changes
  | _ => r

/-- Exchanges with a store that has the records `r` before and `r'` after them. -/
def Serves (r : Records) : List Exchange → Records → Prop
  | [], r' => r' = r
  | x :: xs, r' => r.Tells x ∧ (r.afterExchange x).Serves xs r'

variable {r r' : Records}

theorem serves_nil_iff : r.Serves [] r' ↔ r' = r := Iff.rfl

theorem serves_cons_iff {x : Exchange} {xs : List Exchange} :
    r.Serves (x :: xs) r' ↔ r.Tells x ∧ (r.afterExchange x).Serves xs r' := Iff.rfl

theorem serves_append_iff {xs ys : List Exchange} :
    r.Serves (xs ++ ys) r' ↔ ∃ s, r.Serves xs s ∧ s.Serves ys r' := by
  induction xs generalizing r with
  | nil => simp [serves_nil_iff]
  | cons x xs ih => simp [serves_cons_iff, ih, and_assoc]

/-- The exchanges determine the records after them. -/
theorem Serves.unique {xs : List Exchange} {s s' : Records} (h : r.Serves xs s)
    (h' : r.Serves xs s') : s' = s := by
  induction xs generalizing r with
  | nil => exact h'.trans h.symm
  | cons x xs ih => exact ih h.2 h'.2

theorem afterExchange_of_not_isStored {x : Exchange} (h : ¬x.IsStored) : r.afterExchange x = r := by
  obtain ⟨c, a⟩ := x
  cases c with
  | apply changes =>
    cases a with
    | ok u => exact (h trivial).elim
    | error e => rfl
  | _ => rfl

theorem serves_singleton_apply_iff {changes : List Change} :
    r.Serves [⟨.apply changes, .ok ()⟩] r' ↔ r' = r.after changes := by
  simp [serves_cons_iff, serves_nil_iff, Tells, afterExchange]

/-- Without a write that goes through, the records stay and all reads are of the same records. -/
theorem Serves.of_unstored {xs : List Exchange} (h : r.Serves xs r')
    (unstored : ∀ x ∈ xs, ¬x.IsStored) : r' = r ∧ ∀ x ∈ xs, r.Tells x := by
  induction xs with
  | nil => exact ⟨h, by simp⟩
  | cons x xs ih =>
    obtain ⟨tells, rest⟩ := h
    rw [afterExchange_of_not_isStored (unstored x List.mem_cons_self)] at rest
    obtain ⟨same, told⟩ := ih rest fun y hy => unstored y (List.mem_cons_of_mem _ hy)
    refine ⟨same, fun y hy => ?_⟩
    rcases List.mem_cons.1 hy with rfl | hy
    · exact tells
    · exact told y hy

/-- A program that writes last and is refused leaves the records. -/
theorem Serves.of_error {α : Type} {pushes : Prop} {p : Program α} {xs : List Exchange}
    {e : Refusal} (h : r.Serves xs r') (path : p.Path xs (.error e))
    (last : p.WritesLast pushes) : r' = r :=
  (h.of_unstored (path.unstored_of_error last)).1

/-- A program that writes last and succeeds has read the records before it and makes the changes it
has written. -/
theorem Serves.of_ok {α : Type} {pushes : Prop} {p : Program α} {xs : List Exchange} {a : α}
    (h : r.Serves xs r') (path : p.Path xs (.ok a)) (last : p.WritesLast pushes) :
    (∀ x ∈ xs, r.Tells x) ∧ ∀ changes, ⟨.apply changes, .ok ()⟩ ∈ xs → r' = r.after changes := by
  obtain ⟨ys, written, rfl, reads⟩ := path.stored_of_ok last
  obtain ⟨s, hs, hwrite⟩ := serves_append_iff.1 h
  obtain ⟨rfl, told⟩ := hs.of_unstored fun y hy hstored =>
    reads y hy (Exchange.isWrite_of_isStored hstored)
  rw [serves_singleton_apply_iff] at hwrite
  refine ⟨fun x hx => ?_, fun changes hmem => ?_⟩
  · rcases List.mem_append.1 hx with hx | hx
    · exact told x hx
    · rw [List.mem_singleton.1 hx]
      trivial
  · rcases List.mem_append.1 hmem with hmem | hmem
    · exact (reads _ hmem trivial).elim
    · cases List.mem_singleton.1 hmem
      exact hwrite

/-- A program that writes last has read the records before it. -/
theorem Serves.tells {α : Type} {pushes : Prop} {p : Program α} {xs : List Exchange}
    {result : Except Refusal α} (h : r.Serves xs r') (path : p.Path xs result)
    (last : p.WritesLast pushes) : ∀ x ∈ xs, r.Tells x := by
  cases result with
  | ok a => exact (h.of_ok path last).1
  | error e => exact (h.of_unstored (path.unstored_of_error last)).2

/-! ### Changes -/

theorem after_append (changes more : List Change) :
    r.after (changes ++ more) = (r.after changes).after more :=
  List.foldl_append

theorem after_dropMembers (names : List Account) :
    r.after (names.map .dropMember) =
      { r with members := names.foldl OrderedMap.erase r.members } := by
  induction names generalizing r with
  | nil => rfl
  | cons name rest ih => exact ih

theorem after_putMembers (names : List Account) (time : Timestamp) :
    r.after (names.map fun name => .putMember ⟨name, time⟩) =
      { r with members := names.foldl (fun m name => m.insert name ⟨name, time⟩) r.members } := by
  induction names generalizing r with
  | nil => rfl
  | cons name rest ih => exact ih

/-! ### Records under their names -/

/-- Every record is filed under the name it carries. -/
structure Filed (r : Records) : Prop where
  nominees : ∀ {name x}, r.nominees.find? name = some x → x.name = name
  candidates : ∀ {name x}, r.candidates.find? name = some x → x.name = name
  members : ∀ {name x}, r.members.find? name = some x → x.name = name

theorem filed_empty : Filed {} :=
  ⟨nofun, nofun, nofun⟩

theorem filed_insert {α : Type} {m : OrderedMap Account α} {nameOf : α → Account}
    (h : ∀ {name x}, m.find? name = some x → nameOf x = name) (y : α) {name : Account} {x : α}
    (hx : (m.insert (nameOf y) y).find? name = some x) : nameOf x = name := by
  rw [OrderedMap.find?_insert] at hx
  split at hx
  · next heq =>
    cases hx
    exact heq.symm
  · exact h hx

theorem filed_erase {α : Type} {m : OrderedMap Account α} {nameOf : α → Account}
    (h : ∀ {name x}, m.find? name = some x → nameOf x = name) (dropped : Account) {name : Account}
    {x : α} (hx : (m.erase dropped).find? name = some x) : nameOf x = name := by
  rw [OrderedMap.find?_erase] at hx
  split at hx
  · cases hx
  · exact h hx

theorem Filed.change (h : r.Filed) (change : Change) : (r.change change).Filed := by
  cases change with
  | putConfig => exact ⟨h.nominees, h.candidates, h.members⟩
  | putNominee y => exact ⟨filed_insert h.nominees y, h.candidates, h.members⟩
  | dropNominee n => exact ⟨filed_erase h.nominees n, h.candidates, h.members⟩
  | putCandidate y => exact ⟨h.nominees, filed_insert h.candidates y, h.members⟩
  | dropCandidate n => exact ⟨h.nominees, filed_erase h.candidates n, h.members⟩
  | clearCandidates => exact ⟨h.nominees, nofun, h.members⟩
  | putMember y => exact ⟨h.nominees, h.candidates, filed_insert h.members y⟩
  | dropMember n => exact ⟨h.nominees, h.candidates, filed_erase h.members n⟩

theorem Filed.after (h : r.Filed) (changes : List Change) : (r.after changes).Filed := by
  induction changes generalizing r with
  | nil => exact h
  | cons change rest ih => exact ih (h.change change)

/-- The names that filed records carry are the names they are filed under. -/
theorem map_values_eq_keys {α : Type} {m : OrderedMap Account α} {nameOf : α → Account}
    (h : ∀ {name x}, m.find? name = some x → nameOf x = name) : m.values.map nameOf = m.keys := by
  unfold OrderedMap.values OrderedMap.keys
  rw [List.map_map]
  exact List.map_congr_left fun e he => h (OrderedMap.find?_eq_some_iff.2 he)

theorem Filed.of_serves (h : r.Filed) {xs : List Exchange} (serves : r.Serves xs r') :
    r'.Filed := by
  induction xs generalizing r with
  | nil => exact serves ▸ h
  | cons x xs ih =>
    obtain ⟨-, rest⟩ := serves
    refine ih ?_ rest
    unfold afterExchange
    split
    · exact h.after _
    · exact h

end Records

end TrusteeBoard
