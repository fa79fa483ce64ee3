import Mathlib.Algebra.Group.Nat.Defs
import TrusteeBoard.Election
import TrusteeBoard.Operation
import TrusteeBoard.Proofs.Records

/-!
# Boards and roster changes

Seating adds only names that were asked for (`Board.Grows`), and keeps to the seats as long as a
word can count one more member (`Board.size_le_of_seat`). The changes of a roster change turn the
stored members of the board before into those of the board after (`Records.keys_rosterAfter`).
-/

namespace TrusteeBoard

namespace Board

variable {b b' b'' : Board} {names more : List Account}

/-- A board with no more members than seats has a size, also as a word. -/
theorem toNat_size (fits : b.members.size ≤ b.maxSeats.toNat) : b.size.toNat = b.members.size := by
  have := b.maxSeats.toNat_lt
  rw [size, UInt32.toNat_ofNat']
  omega

theorem vacancies_add (fits : b.members.size ≤ b.maxSeats.toNat) :
    b.vacancies.toNat + b.members.size = b.maxSeats.toNat := by
  rw [vacancies, toNat_floorSub32, toNat_size fits]
  omega

theorem vacancies_eq_zero_iff : b.vacancies = 0 ↔ b.maxSeats.toNat ≤ b.size.toNat := by
  rw [← UInt32.toNat_inj, vacancies, toNat_floorSub32, UInt32.toNat_zero]
  omega

theorem contains_iff {name : Account} : b.contains name = true ↔ name ∈ b.members.keys :=
  OrderedMap.contains_iff

theorem mem_without_iff {name : Account} :
    name ∈ b.without b' ↔ name ∈ b.members.keys ∧ name ∉ b'.members.keys := by
  simp [without, ← contains_iff]

theorem without_eq_filter : b.without b' = b.members.keys.filter (· ∉ b'.members.keys) := by
  refine List.filter_congr fun name _ => ?_
  simp [← contains_iff]

/-- Nobody has come and nobody has gone exactly when the members are the same. -/
theorem without_eq_nil_iff :
    b'.without b = [] ∧ b.without b' = [] ↔ b'.members.keys = b.members.keys := by
  constructor
  · rintro ⟨new, gone⟩
    refine OrderedMap.keys_ext fun name => ⟨fun h => ?_, fun h => ?_⟩ <;> by_contra hn
    · simpa [new] using mem_without_iff.2 ⟨h, hn⟩
    · simpa [gone] using mem_without_iff.2 ⟨h, hn⟩
  · intro same
    simp [without_eq_filter, same]

/-! ### Seating -/

theorem seat_eq_ok_iff {name : Account} : b.seat name = .ok b' ↔
    name ∉ b.members.keys ∧ ¬b.maxSeats < b.size + 1 ∧
      b' = { b with members := b.members.insert name () } := by
  unfold seat
  rw [← contains_iff]
  split
  · next h => simp [h]
  · next h =>
    split
    · next hfull => simp [hfull]
    · next hfull => simp [h, hfull, eq_comm]

theorem unseat_eq_ok_iff {name : Account} : b.unseat name = .ok b' ↔
    name ∈ b.members.keys ∧ b' = { b with members := b.members.erase name } := by
  unfold unseat
  rw [← contains_iff]
  split
  · next h => simp [h, eq_comm]
  · next h => simp [h]

/-- `b'` has the members of `b` and perhaps some of `names`. -/
structure Grows (b : Board) (names : List Account) (b' : Board) : Prop where
  maxSeats : b'.maxSeats = b.maxSeats
  kept : ∀ name ∈ b.members.keys, name ∈ b'.members.keys
  added : ∀ name ∈ b'.members.keys, name ∈ b.members.keys ∨ name ∈ names

theorem Grows.refl (b : Board) : b.Grows names b :=
  ⟨rfl, fun _ => id, fun _ => .inl⟩

theorem Grows.mono (h : b.Grows names b') (sub : ∀ name ∈ names, name ∈ more) : b.Grows more b' :=
  ⟨h.maxSeats, h.kept, fun name hname => (h.added name hname).imp_right (sub name)⟩

theorem Grows.trans (h : b.Grows names b') (h' : b'.Grows names b'') : b.Grows names b'' where
  maxSeats := h'.maxSeats.trans h.maxSeats
  kept name hname := h'.kept name (h.kept name hname)
  added name hname := (h'.added name hname).elim (h.added name) .inr

theorem grows_of_seat {name : Account} (h : b.seat name = .ok b') : b.Grows [name] b' := by
  obtain ⟨-, -, rfl⟩ := seat_eq_ok_iff.1 h
  exact ⟨rfl, fun n hn => by simp [hn], fun n hn => by simpa [or_comm] using hn⟩

theorem size_of_seat {name : Account} (h : b.seat name = .ok b') :
    b'.members.size = b.members.size + 1 := by
  obtain ⟨fresh, -, rfl⟩ := seat_eq_ok_iff.1 h
  exact OrderedMap.size_insert_of_notMem fresh ()

/-- Seating keeps to the seats as long as a word can count one more member. -/
theorem size_le_of_seat {name : Account} (h : b.seat name = .ok b')
    (fits : b.members.size ≤ b.maxSeats.toNat) (countable : b.members.size + 1 < 2 ^ 32) :
    b'.members.size ≤ b'.maxSeats.toNat := by
  have size := toNat_size fits
  obtain ⟨-, room, -⟩ := seat_eq_ok_iff.1 h
  rw [UInt32.lt_iff_toNat_lt, UInt32.toNat_add, UInt32.toNat_one] at room
  rw [(grows_of_seat h).maxSeats, size_of_seat h]
  omega

/-- A winner is passed over who has a seat or finds none, and else is seated. -/
theorem seatAll_cons_cases {winner : Account} {rest : List Account}
    (h : afterElection.seatAll b (winner :: rest) = .ok b') :
    winner ∈ b.members.keys ∧ afterElection.seatAll b rest = .ok b' ∨
      b.vacancies = 0 ∧ b' = b ∨
      ∃ next, b.vacancies ≠ 0 ∧ b.seat winner = .ok next ∧
        afterElection.seatAll next rest = .ok b' := by
  rw [afterElection.seatAll] at h
  split at h
  · next seated => exact .inl ⟨contains_iff.1 seated, h⟩
  · split at h
    · next full =>
      cases h
      exact .inr (.inl ⟨full, rfl⟩)
    · next free =>
      cases seats : b.seat winner with
      | error e =>
        rw [seats] at h
        cases h
      | ok next =>
        rw [seats] at h
        exact .inr (.inr ⟨next, free, rfl, h⟩)

theorem grows_seatAll {winners : List Account} (h : afterElection.seatAll b winners = .ok b') :
    b.Grows winners b' := by
  induction winners generalizing b with
  | nil =>
    cases h
    exact .refl _
  | cons winner rest ih =>
    have weaken {c c' : Board} (hc : c.Grows rest c') : c.Grows (winner :: rest) c' :=
      hc.mono fun _ => List.mem_cons_of_mem _
    obtain ⟨-, h⟩ | ⟨-, rfl⟩ | ⟨next, -, seats, h⟩ := seatAll_cons_cases h
    · exact weaken (ih h)
    · exact .refl _
    · exact ((grows_of_seat seats).mono (by simp)).trans (weaken (ih h))

/-- Winners are seated only where there are seats. -/
theorem size_le_of_seatAll {winners : List Account}
    (h : afterElection.seatAll b winners = .ok b') (fits : b.members.size ≤ b.maxSeats.toNat) :
    b'.members.size ≤ b'.maxSeats.toNat := by
  induction winners generalizing b with
  | nil =>
    cases h
    exact fits
  | cons winner rest ih =>
    obtain ⟨-, h⟩ | ⟨-, rfl⟩ | ⟨next, free, seats, h⟩ := seatAll_cons_cases h
    · exact ih h fits
    · exact fits
    · refine ih h (size_le_of_seat seats fits ?_)
      have := b.maxSeats.toNat_lt
      rw [Ne, vacancies_eq_zero_iff, toNat_size fits] at free
      omega

/-- Where there is room for all the winners, all of them are on the board. -/
theorem mem_of_seatAll {winners : List Account} (h : afterElection.seatAll b winners = .ok b')
    (room : b.members.size + winners.length ≤ b.maxSeats.toNat) :
    ∀ name ∈ winners, name ∈ b'.members.keys := by
  induction winners generalizing b with
  | nil => simp
  | cons winner rest ih =>
    have kept := (grows_seatAll h).kept
    rw [List.length_cons] at room
    obtain ⟨seated, h⟩ | ⟨full, -⟩ | ⟨next, -, seats, h⟩ := seatAll_cons_cases h
    · exact List.forall_mem_cons.2 ⟨kept _ seated, ih h (by omega)⟩
    · rw [vacancies_eq_zero_iff, toNat_size (by omega)] at full
      omega
    · have seated : winner ∈ next.members.keys := by
        obtain ⟨-, -, rfl⟩ := seat_eq_ok_iff.1 seats
        exact OrderedMap.mem_keys_insert.2 (.inl rfl)
      refine List.forall_mem_cons.2 ⟨(grows_seatAll h).kept _ seated, ih h ?_⟩
      rw [size_of_seat seats, (grows_of_seat seats).maxSeats]
      omega

theorem mem_seatAll_iff {name : Account} {winners : List Account}
    (h : afterElection.seatAll b winners = .ok b')
    (room : b.members.size + winners.length ≤ b.maxSeats.toNat) :
    name ∈ b'.members.keys ↔ name ∈ b.members.keys ∨ name ∈ winners :=
  ⟨(grows_seatAll h).added name, fun seated =>
    seated.elim ((grows_seatAll h).kept name) (mem_of_seatAll h room name)⟩

theorem foldlM_seat_cons_iff {name : Account} :
    (name :: names).foldlM seat b = .ok b' ↔
      ∃ next, b.seat name = .ok next ∧ names.foldlM seat next = .ok b' := by
  rw [List.foldlM_cons]
  cases b.seat name with
  | error e => exact ⟨nofun, nofun⟩
  | ok next => exact ⟨fun h => ⟨next, rfl, h⟩, fun ⟨_, rfl, h⟩ => h⟩

theorem grows_foldlM_seat (h : names.foldlM seat b = .ok b') : b.Grows names b' := by
  induction names generalizing b with
  | nil =>
    cases h
    exact .refl _
  | cons name rest ih =>
    obtain ⟨next, seats, h⟩ := foldlM_seat_cons_iff.1 h
    exact ((grows_of_seat seats).mono (by simp)).trans
      ((ih h).mono fun _ => List.mem_cons_of_mem _)

/-- Names are seated only where there are seats, as long as a word can count one more than the seats
or all who might be seated. -/
theorem size_le_of_foldlM_seat (h : names.foldlM seat b = .ok b')
    (fits : b.members.size ≤ b.maxSeats.toNat)
    (countable : b.maxSeats.toNat < 0xFFFFFFFF ∨ b.members.size + names.length < 2 ^ 32) :
    b'.members.size ≤ b'.maxSeats.toNat := by
  induction names generalizing b with
  | nil =>
    cases h
    exact fits
  | cons name rest ih =>
    rw [List.length_cons] at countable
    obtain ⟨next, seats, h⟩ := foldlM_seat_cons_iff.1 h
    refine ih h (size_le_of_seat seats fits (by omega)) ?_
    rw [size_of_seat seats, (grows_of_seat seats).maxSeats]
    omega

theorem isEmpty_iff : b.isEmpty = true ↔ b.members.size = 0 := by
  simp [isEmpty, OrderedMap.isEmpty, OrderedMap.size]

/-- The board after an election has some of the winners, and the old members unless the term is over
and anyone won. -/
theorem grows_afterElection {kind : ElectionKind} {winners : List Account}
    (h : b.afterElection kind winners = .ok b') :
    (if kind = .term ∧ winners ≠ [] then b.clear else b).Grows winners b' :=
  grows_seatAll h

/-- With room for the winners, they are the board after a term election that anyone won, and join
the old board after any other. -/
theorem mem_afterElection_iff {kind : ElectionKind} {winners : List Account} {name : Account}
    (elected : b.afterElection kind winners = .ok b')
    (room : (if kind = .term ∧ winners ≠ [] then 0 else b.members.size) + winners.length ≤
      b.maxSeats.toNat) :
    name ∈ b'.members.keys ↔
      if kind = .term ∧ winners ≠ [] then name ∈ winners
      else name ∈ b.members.keys ∨ name ∈ winners := by
  unfold afterElection at elected
  split at room
  · next replaced =>
    rw [if_pos replaced] at elected ⊢
    rw [mem_seatAll_iff elected room]
    exact or_iff_right List.not_mem_nil
  · next joined =>
    rw [if_neg joined] at elected ⊢
    exact mem_seatAll_iff elected room

theorem length_without_add (sub : ∀ name ∈ b.members.keys, name ∈ b'.members.keys) :
    (b'.without b).length + b.members.size = b'.members.size := by
  have difference :
      (b'.without b).toFinset = b'.members.keys.toFinset \ b.members.keys.toFinset := by
    ext name
    simp [mem_without_iff]
  have nodup : (b'.without b).Nodup := b'.members.nodup_keys.filter _
  rw [OrderedMap.size_eq_card, OrderedMap.size_eq_card, ← List.toFinset_card_of_nodup nodup,
    difference, Finset.card_sdiff_add_card_eq_card]
  intro name
  simpa using sub name

end Board

/-! ### Roster changes -/

/-- Whether the change is to the members of the board. -/
def Change.IsMembership : Change → Prop
  | .putMember _ => True
  | .dropMember _ => True
  | _ => False

namespace Records

variable {r : Records} {account fallback : Account} {rule : ThresholdRule} {before after : Board}
  {changes : List Change} {time : Timestamp}

theorem members_after (h : ∀ change ∈ changes, ¬change.IsMembership) :
    (r.after changes).members = r.members := by
  induction changes generalizing r with
  | nil => rfl
  | cons change rest ih =>
    have same : (r.change change).members = r.members := by
      cases change <;> first | rfl | exact (h _ List.mem_cons_self trivial).elim
    exact (ih fun change hc => h change (List.mem_cons_of_mem _ hc)).trans same

/-- The stored members after a roster change. -/
def rosterAfter (members : OrderedMap Account Member) (before after : Board) (time : Timestamp) :
    OrderedMap Account Member :=
  (after.without before).foldl (fun m name => m.insert name ⟨name, time⟩)
    ((before.without after).foldl OrderedMap.erase members)

theorem after_between :
    r.after (RosterChange.between account rule fallback before after changes time).changes =
      { r.after changes with
        members := rosterAfter (r.after changes).members before after time } := by
  rw [RosterChange.between, after_append, after_append, after_dropMembers, after_putMembers]
  rfl

theorem find?_rosterAfter (members : OrderedMap Account Member) (name : Account) :
    (rosterAfter members before after time).find? name =
      if name ∈ after.without before then some ⟨name, time⟩
      else if name ∈ before.without after then none else members.find? name := by
  rw [rosterAfter, OrderedMap.find?_foldl_insert, OrderedMap.find?_foldl_erase]

/-- Of stored members that are those of the board before, a roster change makes those of the board
after. -/
theorem keys_rosterAfter {members : OrderedMap Account Member}
    (h : members.keys = before.members.keys) :
    (rosterAfter members before after time).keys = after.members.keys := by
  refine OrderedMap.keys_ext fun name => ?_
  have stored : (∃ x, members.find? name = some x) ↔ name ∈ before.members.keys := by
    rw [← OrderedMap.mem_keys_iff, h]
  rw [OrderedMap.mem_keys_iff, find?_rosterAfter]
  simp only [Board.mem_without_iff]
  by_cases ha : name ∈ after.members.keys <;> by_cases hb : name ∈ before.members.keys <;>
    simp [ha, hb, stored]

/-- Those who stay keep their records, and those who come get new ones. -/
theorem find?_members_after_between (roster : r.members.keys = before.members.keys)
    (keeps : ∀ change ∈ changes, ¬change.IsMembership) (name : Account) :
    (r.after (RosterChange.between account rule fallback before after changes
      time).changes).members.find? name =
      if name ∈ after.members.keys then
        if name ∈ before.members.keys then r.members.find? name else some ⟨name, time⟩
      else none := by
  rw [after_between]
  show (rosterAfter _ _ _ _).find? name = _
  rw [members_after keeps, find?_rosterAfter]
  simp only [Board.mem_without_iff]
  by_cases stays : name ∈ after.members.keys <;> by_cases seated : name ∈ before.members.keys
  · simp [stays, seated]
  · simp [stays, seated]
  · simp [stays, seated]
  · have absent : r.members.find? name = none := Option.eq_none_iff_forall_ne_some.2
      fun record found => seated (roster ▸ OrderedMap.mem_keys_iff.2 ⟨record, found⟩)
    simp [stays, seated, absent]

end Records

namespace RosterChange

open Program

variable {change : RosterChange} {xs : List Exchange}

/-- The push that goes before the write, accepted. -/
def push (change : RosterChange) : List Exchange :=
  if change.isMembershipChange then [⟨.setAuthority change.account change.next, .ok ()⟩] else []

/-- The courses that a commit can take. -/
inductive Course (change : RosterChange) : List Exchange → Except Refusal Committed → Prop
  | rejected (e : HostError) (moves : change.isMembershipChange = true) :
    Course change [⟨.setAuthority change.account change.next, .error e⟩] (.error (.host e))
  | stored : Course change (change.push ++ [⟨.apply change.changes, .ok ()⟩])
      (.ok ⟨change.seated, change.unseated, change.next⟩)
  | failed (e : StoreError) (stays : change.isMembershipChange = false) :
    Course change [⟨.apply change.changes, .error e⟩] (.error (.store e))
  | takenBack (e : StoreError) (answer : (Call.setAuthority change.account change.previous).Answer)
      (moves : change.isMembershipChange = true) :
    Course change
      [⟨.setAuthority change.account change.next, .ok ()⟩, ⟨.apply change.changes, .error e⟩,
        ⟨.setAuthority change.account change.previous, answer⟩] (.error (.store e))

theorem course_of_path {result : Except Refusal Committed} (path : change.commit.Path xs result) :
    change.Course xs result := by
  unfold commit at path
  split at path
  · next moves =>
    obtain ⟨pushed, ys, rfl, written⟩ := path_ask_iff.1 path
    cases pushed with
    | error e =>
      obtain ⟨rfl, rfl⟩ := path_done_iff.1 written
      exact .rejected e moves
    | ok u =>
      obtain ⟨answer, zs, rfl, restored⟩ := path_ask_iff.1 written
      cases answer with
      | ok v =>
        obtain ⟨rfl, rfl⟩ := path_done_iff.1 restored
        have course : change.Course (change.push ++ _) _ := .stored
        rwa [push, if_pos moves] at course
      | error e =>
        obtain ⟨answer, us, rfl, done⟩ := path_ask_iff.1 restored
        obtain ⟨rfl, rfl⟩ := path_done_iff.1 done
        exact .takenBack e answer moves
  · next stays =>
    obtain ⟨answer, ys, rfl, done⟩ := path_ask_iff.1 path
    cases answer with
    | ok v =>
      obtain ⟨rfl, rfl⟩ := path_done_iff.1 done
      have course : change.Course (change.push ++ _) _ := .stored
      rwa [push, if_neg stays] at course
    | error e =>
      obtain ⟨rfl, rfl⟩ := path_done_iff.1 done
      exact .failed e (Bool.eq_false_iff.2 stays)

theorem isMembershipChange_eq_false_iff : change.isMembershipChange = false ↔
    change.seated = [] ∧ change.unseated = [] := by
  simp [isMembershipChange]

theorem isMembershipChange_between_eq_false_iff {account fallback : Account} {rule : ThresholdRule}
    {before after : Board} {changes : List Change} {time : Timestamp} :
    (between account rule fallback before after changes time).isMembershipChange = false ↔
      after.members.keys = before.members.keys :=
  isMembershipChange_eq_false_iff.trans Board.without_eq_nil_iff

end RosterChange

end TrusteeBoard
