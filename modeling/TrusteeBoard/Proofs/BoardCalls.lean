import TrusteeBoard.Proofs.Board
import TrusteeBoard.Proofs.Sample

/-!
# Calls on a board

Whatever calls a new board answers, to its callers it stays a set of names with room for as many as
it has seats (`Board.after_acts_as_set`): the set made by those of the calls that are not refused.
A board within bounds answers a call in one of six ways (`Board.Course`), and is left within bounds.
-/

namespace TrusteeBoard

/-- The calls that change a board. -/
inductive BoardCall where
  | seat (name : Account)
  | unseat (name : Account)
  | clear
  deriving DecidableEq

/-- What a board answers a call that it does not refuse. -/
inductive BoardAnswer where
  | done
  /-- Those who sat on the board before it was cleared. -/
  | former (names : List Account)
  deriving DecidableEq

/-- What a call makes of a set. -/
def BoardCall.onSet (names : Finset Account) : BoardCall → Finset Account
  | .seat name => insert name names
  | .unseat name => names.erase name
  | .clear => ∅

namespace Board

/-- The answer with the board of a step, or the refusal with the old board. -/
def move (b : Board) : Except Refusal Board → Except Refusal BoardAnswer × Board
  | .ok next => (.ok .done, next)
  | .error refusal => (.error refusal, b)

/-- The answer to a call and the board after it. -/
def perform (b : Board) : BoardCall → Except Refusal BoardAnswer × Board
  | .seat name => b.move (b.seat name)
  | .unseat name => b.move (b.unseat name)
  | .clear => (.ok (.former b.members.keys), b.clear)

/-- The board after calls, refused or not. -/
def after (b : Board) : List BoardCall → Board
  | [] => b
  | call :: rest => (b.perform call).2.after rest

/-- Those of the calls that are not refused. -/
def accepted (b : Board) : List BoardCall → List BoardCall
  | [] => []
  | call :: rest =>
    match b.perform call with
    | (.ok _, next) => call :: next.accepted rest
    | (.error _, next) => next.accepted rest

/-- To its callers the board is a set of names with room for `max`. -/
structure ActsAs (b : Board) (max : UInt32) (names : Finset Account) : Prop where
  ascending : b.members.keys.Pairwise fun name later => compare name later = .lt
  mem_iff : ∀ name, name ∈ b.members.keys ↔ name ∈ names
  contains_iff : ∀ name, b.contains name = true ↔ name ∈ names
  size_eq : b.size.toNat = names.card
  size_add_vacancies : b.size.toNat + b.vacancies.toNat = max.toNat
  seats_iff : ∀ name, (b.perform (.seat name)).1 = .ok .done ↔ name ∉ names ∧ b.size < max
  unseats_iff : ∀ name, (b.perform (.unseat name)).1 = .ok .done ↔ name ∈ names
  clears : b.perform .clear = (.ok (.former b.members.keys), { maxSeats := max })
  refused : ∀ call refusal, (b.perform call).1 = .error refusal → (b.perform call).2 = b
  /-- Also when no seat is free. -/
  duplicate : ∀ name ∈ names, (b.perform (.seat name)).1 = .error (.duplicate .boardMember name)
  full : ∀ name ∉ names, ¬b.size < max → ∃ requested : UInt32,
    requested.toNat = b.size.toNat + 1 ∧
      (b.perform (.seat name)).1 = .error (.capacityExceeded max requested)
  missing : ∀ name ∉ names, (b.perform (.unseat name)).1 = .error (.notFound .boardMember name)

def names (b : Board) : Finset Account :=
  b.members.keys.toFinset

/-- The ways to answer a call, with the board that is left. -/
inductive Course (b : Board) : BoardCall → Except Refusal BoardAnswer → Board → Prop
  | seated (name : Account) (absent : name ∉ b.names) (room : b.size < b.maxSeats) :
    Course b (.seat name) (.ok .done) { b with members := b.members.insert name () }
  | duplicate (name : Account) (present : name ∈ b.names) :
    Course b (.seat name) (.error (.duplicate .boardMember name)) b
  | full (name : Account) (absent : name ∉ b.names) (full : ¬b.size < b.maxSeats) :
    Course b (.seat name) (.error (.capacityExceeded b.maxSeats (b.size + 1))) b
  | unseated (name : Account) (present : name ∈ b.names) :
    Course b (.unseat name) (.ok .done) { b with members := b.members.erase name }
  | missing (name : Account) (absent : name ∉ b.names) :
    Course b (.unseat name) (.error (.notFound .boardMember name)) b
  | cleared : Course b .clear (.ok (.former b.members.keys)) b.clear

variable {b next : Board} {call : BoardCall} {answer : Except Refusal BoardAnswer} {name : Account}

theorem mem_names_iff : name ∈ b.names ↔ name ∈ b.members.keys :=
  List.mem_toFinset

theorem contains_iff_mem_names : b.contains name = true ↔ name ∈ b.names :=
  contains_iff.trans mem_names_iff.symm

/-! ### One call -/

/-- No more members than seats, and fewer seats than a 32-bit word can count. -/
structure Within (b : Board) : Prop where
  size_le : b.members.size ≤ b.maxSeats.toNat
  max_lt : b.maxSeats.toNat < 0xFFFFFFFF

namespace Within

theorem toNat_size_add_one (h : b.Within) : (b.size + 1).toNat = b.size.toNat + 1 := by
  have := toNat_size h.size_le
  have := h.size_le
  have := h.max_lt
  rw [UInt32.toNat_add, UInt32.toNat_one]
  omega

theorem room_iff (h : b.Within) : b.size < b.maxSeats ↔ ¬b.maxSeats < b.size + 1 := by
  rw [UInt32.lt_iff_toNat_lt, UInt32.lt_iff_toNat_lt, h.toNat_size_add_one]
  omega

theorem course (h : b.Within) (call : BoardCall) :
    b.Course call (b.perform call).1 (b.perform call).2 := by
  cases call with
  | seat name =>
    rw [perform, seat]
    split
    · next present => exact .duplicate name (contains_iff_mem_names.1 present)
    · next absent =>
      rw [contains_iff_mem_names] at absent
      split
      · next full => exact .full name absent fun room => h.room_iff.1 room full
      · next room => exact .seated name absent (h.room_iff.2 room)
  | unseat name =>
    rw [perform, unseat]
    split
    · next present => exact .unseated name (contains_iff_mem_names.1 present)
    · next absent =>
      rw [contains_iff_mem_names] at absent
      exact .missing name absent
  | clear => exact .cleared

end Within

namespace Course

theorem maxSeats (course : b.Course call answer next) : next.maxSeats = b.maxSeats := by
  cases course <;> rfl

theorem within (course : b.Course call answer next) (h : b.Within) : next.Within := by
  cases course with
  | duplicate | full | missing => exact h
  | seated name absent room =>
    rw [mem_names_iff] at absent
    have seated := seat_eq_ok_iff.2 ⟨absent, h.room_iff.1 room, rfl⟩
    have := h.size_le
    have := h.max_lt
    exact ⟨size_le_of_seat seated h.size_le (by omega), h.max_lt⟩
  | unseated name present =>
    have := OrderedMap.size_erase_of_mem (mem_names_iff.1 present)
    have := h.size_le
    refine ⟨?_, h.max_lt⟩
    show (b.members.erase name).size ≤ b.maxSeats.toNat
    omega
  | cleared => exact ⟨Nat.zero_le _, h.max_lt⟩

/-- The names change as a set does with the call, unless it is refused. -/
theorem names_eq (course : b.Course call answer next) :
    next.names = match answer with
      | .ok _ => call.onSet b.names
      | .error _ => b.names := by
  cases course with
  | duplicate | full | missing | cleared => rfl
  | seated name | unseated name =>
    ext other
    simp [names, BoardCall.onSet]

theorem refused {refusal : Refusal} (course : b.Course call (.error refusal) next) : next = b := by
  cases course with
  | duplicate | full | missing => rfl

theorem seats_iff (course : b.Course (.seat name) answer next) :
    answer = .ok .done ↔ name ∉ b.names ∧ b.size < b.maxSeats := by
  cases course with
  | seated _ absent room => exact iff_of_true rfl ⟨absent, room⟩
  | duplicate _ present => exact iff_of_false nofun fun h => h.1 present
  | full _ absent full => exact iff_of_false nofun fun h => full h.2

theorem unseats_iff (course : b.Course (.unseat name) answer next) :
    answer = .ok .done ↔ name ∈ b.names := by
  cases course with
  | unseated _ present => exact iff_of_true rfl present
  | missing _ absent => exact iff_of_false nofun absent

theorem eq_duplicate (course : b.Course (.seat name) answer next) (present : name ∈ b.names) :
    answer = .error (.duplicate .boardMember name) := by
  cases course with
  | duplicate => rfl
  | seated _ absent | full _ absent => exact absurd present absent

theorem eq_full (course : b.Course (.seat name) answer next) (absent : name ∉ b.names)
    (full : ¬b.size < b.maxSeats) :
    answer = .error (.capacityExceeded b.maxSeats (b.size + 1)) := by
  cases course with
  | full => rfl
  | seated _ _ room => exact absurd room full
  | duplicate _ present => exact absurd present absent

theorem eq_missing (course : b.Course (.unseat name) answer next) (absent : name ∉ b.names) :
    answer = .error (.notFound .boardMember name) := by
  cases course with
  | missing => rfl
  | unseated _ present => exact absurd present absent

end Course

theorem Within.actsAs (h : b.Within) : b.ActsAs b.maxSeats b.names where
  ascending := b.members.keys_ascending
  mem_iff _ := mem_names_iff.symm
  contains_iff _ := contains_iff_mem_names
  size_eq := (toNat_size h.size_le).trans b.members.size_eq_card
  size_add_vacancies := by
    rw [toNat_size h.size_le, Nat.add_comm]
    exact vacancies_add h.size_le
  seats_iff name := (h.course (.seat name)).seats_iff
  unseats_iff name := (h.course (.unseat name)).unseats_iff
  clears := rfl
  refused call refusal refuses := by
    have course := h.course call
    rw [refuses] at course
    exact course.refused
  duplicate name present := (h.course (.seat name)).eq_duplicate present
  full name absent full :=
    ⟨_, h.toNat_size_add_one, (h.course (.seat name)).eq_full absent full⟩
  missing name absent := (h.course (.unseat name)).eq_missing absent

/-! ### Many calls -/

theorem within_new {max : UInt32} (countable : max.toNat < 0xFFFFFFFF) :
    Within { maxSeats := max } :=
  ⟨Nat.zero_le _, countable⟩

/-- The induction is on the calls, over all boards within bounds. -/
theorem Within.after (h : b.Within) (calls : List BoardCall) :
    (b.after calls).Within ∧ (b.after calls).maxSeats = b.maxSeats ∧
      (b.after calls).names = (b.accepted calls).foldl BoardCall.onSet b.names := by
  induction calls generalizing b with
  | nil => exact ⟨h, rfl, rfl⟩
  | cons call rest ih =>
    have course := h.course call
    rw [Board.after, accepted]
    cases performed : b.perform call with
    | mk answer next =>
      rw [performed] at course
      obtain ⟨within, seats, names⟩ := ih (course.within h)
      rw [course.maxSeats] at seats
      rw [course.names_eq] at names
      cases answer with
      | ok answer => exact ⟨within, seats, names⟩
      | error refusal => exact ⟨within, seats, names⟩

/-- After any calls a new board is to its callers the set that the accepted ones make. -/
theorem after_acts_as_set {max : UInt32} (countable : max.toNat < 0xFFFFFFFF)
    (calls : List BoardCall) :
    (after { maxSeats := max } calls).ActsAs max
      ((accepted { maxSeats := max } calls).foldl BoardCall.onSet ∅) := by
  obtain ⟨within, seats, names⟩ := (within_new countable).after calls
  have acts := within.actsAs
  rw [seats, names] at acts
  exact acts

/-- Two seats are taken, so a third name is refused, and a member as a member. -/
theorem after_acts_as_set_full :
    let calls : List BoardCall :=
      [.seat Sample.carol, .seat Sample.bob, .unseat Sample.carol, .unseat Sample.carol,
        .seat Sample.alice]
    let b := after { maxSeats := 2 } calls
    (2 : UInt32).toNat < 0xFFFFFFFF ∧ b.members.keys = [Sample.alice, Sample.bob] ∧
      (b.perform (.seat Sample.alice)).1 = .error (.duplicate .boardMember Sample.alice) ∧
      (∃ requested : UInt32, requested.toNat = 3 ∧
        (b.perform (.seat Sample.carol)).1 = .error (.capacityExceeded 2 requested)) ∧
      (b.perform (.seat Sample.carol)).2 = b := by
  intro calls b
  have countable : (2 : UInt32).toNat < 0xFFFFFFFF := by decide
  have acts := after_acts_as_set countable calls
  have accepts : accepted { maxSeats := 2 } calls =
      [.seat Sample.carol, .seat Sample.bob, .unseat Sample.carol, .seat Sample.alice] := by
    decide
  rw [accepts] at acts
  obtain ⟨requested, three, full⟩ := acts.full Sample.carol (by decide) (by decide)
  exact ⟨countable, by decide, acts.duplicate Sample.alice (by decide), ⟨requested, three, full⟩,
    acts.refused _ _ full⟩

end Board

end TrusteeBoard
