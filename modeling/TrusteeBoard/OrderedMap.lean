/-!
# Ordered maps

An `OrderedMap κ α` holds its entries in strictly ascending order of keys, so it has one
representation per content: two maps that answer every `find?` alike are equal
(`OrderedMap.ext_find?`). A set of keys is a map to `Unit`.
-/

namespace TrusteeBoard

/-- Strictly ascending keys. -/
def Ascending {κ α : Type} [Ord κ] (entries : List (κ × α)) : Prop :=
  entries.Pairwise fun x y => compare x.1 y.1 = .lt

/-- A finite map, its entries in ascending order of keys. -/
structure OrderedMap (κ α : Type) [Ord κ] where
  entries : List (κ × α)
  ascending : Ascending entries

namespace OrderedMap

variable {κ α : Type} [Ord κ]

def empty : OrderedMap κ α := ⟨[], List.Pairwise.nil⟩

instance : Inhabited (OrderedMap κ α) := ⟨empty⟩

instance [DecidableEq κ] [DecidableEq α] : DecidableEq (OrderedMap κ α) := fun m n =>
  decidable_of_iff (m.entries = n.entries) (by cases m; cases n; simp)

def keys (m : OrderedMap κ α) : List κ :=
  m.entries.map (·.1)

def values (m : OrderedMap κ α) : List α :=
  m.entries.map (·.2)

def size (m : OrderedMap κ α) : Nat :=
  m.entries.length

def isEmpty (m : OrderedMap κ α) : Bool :=
  m.entries.isEmpty

def findIn (k : κ) : List (κ × α) → Option α
  | [] => none
  | (k', a) :: rest => if compare k k' = .eq then some a else findIn k rest

/-- The value under a key. -/
def find? (m : OrderedMap κ α) (k : κ) : Option α :=
  findIn k m.entries

def contains (m : OrderedMap κ α) (k : κ) : Bool :=
  (m.find? k).isSome

def insertIn (k : κ) (a : α) : List (κ × α) → List (κ × α)
  | [] => [(k, a)]
  | (k', a') :: rest =>
    match compare k k' with
    | .lt => (k, a) :: (k', a') :: rest
    | .eq => (k, a) :: rest
    | .gt => (k', a') :: insertIn k a rest

def eraseIn (k : κ) (entries : List (κ × α)) : List (κ × α) :=
  entries.filter fun e => compare k e.1 != .eq

theorem mem_of_mem_insertIn {k : κ} {a : α} {e : κ × α} {l : List (κ × α)}
    (h : e ∈ insertIn k a l) : e = (k, a) ∨ e ∈ l := by
  induction l with
  | nil => simpa [insertIn] using h
  | cons hd tl ih =>
    obtain ⟨k', a'⟩ := hd
    rw [insertIn] at h
    split at h
    · simpa using h
    · rcases List.mem_cons.1 h with h | h
      · exact .inl h
      · exact .inr (List.mem_cons_of_mem _ h)
    · rcases List.mem_cons.1 h with h | h
      · exact .inr (h ▸ List.mem_cons_self)
      · exact (ih h).imp_right (List.mem_cons_of_mem _)

theorem ascending_insertIn [Std.TransOrd κ] (k : κ) (a : α) {l : List (κ × α)}
    (h : Ascending l) : Ascending (insertIn k a l) := by
  induction l with
  | nil => exact List.pairwise_singleton _ _
  | cons hd tl ih =>
    obtain ⟨k', a'⟩ := hd
    obtain ⟨hhd, htl⟩ := List.pairwise_cons.1 h
    rw [insertIn]
    split
    · next hlt =>
      refine List.pairwise_cons.2 ⟨fun e he => ?_, h⟩
      rcases List.mem_cons.1 he with rfl | he
      · exact hlt
      · exact Std.TransCmp.lt_trans hlt (hhd e he)
    · next heq =>
      exact List.pairwise_cons.2
        ⟨fun e he => Std.TransCmp.lt_of_eq_of_lt heq (hhd e he), htl⟩
    · next hgt =>
      refine List.pairwise_cons.2 ⟨fun e he => ?_, ih htl⟩
      rcases mem_of_mem_insertIn he with rfl | he
      · exact Std.OrientedCmp.lt_of_gt hgt
      · exact hhd e he

theorem ascending_eraseIn (k : κ) {l : List (κ × α)} (h : Ascending l) :
    Ascending (eraseIn k l) :=
  h.sublist (List.filter_sublist)

/-- The map with `a` under `k`, in place of what was there. -/
def insert [Std.TransOrd κ] (m : OrderedMap κ α) (k : κ) (a : α) : OrderedMap κ α :=
  ⟨insertIn k a m.entries, ascending_insertIn k a m.ascending⟩

/-- The map with nothing under `k`. -/
def erase (m : OrderedMap κ α) (k : κ) : OrderedMap κ α :=
  ⟨eraseIn k m.entries, ascending_eraseIn k m.ascending⟩

/-- The map of a list of entries; a later entry replaces an earlier one with its key. -/
def ofList [Std.TransOrd κ] (entries : List (κ × α)) : OrderedMap κ α :=
  entries.foldl (fun m e => m.insert e.1 e.2) empty

/-! ### Lookups -/

@[simp] theorem find?_empty (k : κ) : (empty : OrderedMap κ α).find? k = none := rfl

theorem find?_insert [Std.TransOrd κ] [Std.LawfulEqOrd κ] [DecidableEq κ]
    (m : OrderedMap κ α) (k k' : κ) (a : α) :
    (m.insert k a).find? k' = if k' = k then some a else m.find? k' := by
  have key : ∀ l : List (κ × α),
      findIn k' (insertIn k a l) = if k' = k then some a else findIn k' l := by
    intro l
    induction l with
    | nil => simp [insertIn, findIn]
    | cons hd tl ih =>
      obtain ⟨j, b⟩ := hd
      rw [insertIn]
      split
      · simp [findIn]
      · next heq =>
        rw [Std.compare_eq_iff_eq] at heq
        subst heq
        by_cases hk : k' = k <;> simp [findIn, hk]
      · next hgt =>
        have hne : k ≠ j := by
          rintro rfl
          simp at hgt
        by_cases hj : k' = j
        · subst hj
          simp [findIn, Ne.symm hne]
        · simp [findIn, hj, ih]
  exact key m.entries

theorem find?_erase [Std.TransOrd κ] [Std.LawfulEqOrd κ] [DecidableEq κ]
    (m : OrderedMap κ α) (k k' : κ) :
    (m.erase k).find? k' = if k' = k then none else m.find? k' := by
  have key : ∀ l : List (κ × α),
      findIn k' (eraseIn k l) = if k' = k then none else findIn k' l := by
    intro l
    induction l with
    | nil => simp [eraseIn, findIn]
    | cons hd tl ih =>
      obtain ⟨j, b⟩ := hd
      unfold eraseIn at ih ⊢
      rw [List.filter_cons]
      by_cases hkj : k = j
      · subst hkj
        by_cases hk : k' = k <;> simp_all [findIn]
      · by_cases hj : k' = j
        · subst hj
          simp [findIn, hkj, Ne.symm hkj]
        · simp [findIn, hkj, hj, ih]
  exact key m.entries

theorem findIn_eq_none [Std.TransOrd κ] {k : κ} {l : List (κ × α)}
    (h : ∀ e ∈ l, compare k e.1 = .lt) : findIn k l = none := by
  induction l with
  | nil => rfl
  | cons hd tl ih =>
    have := h hd List.mem_cons_self
    simp [findIn, this, ih fun e he => h e (List.mem_cons_of_mem _ he)]

/-- Two maps with the same lookups are the same map. -/
theorem ext_find? [Std.TransOrd κ] [Std.LawfulEqOrd κ] {m n : OrderedMap κ α}
    (h : ∀ k, m.find? k = n.find? k) : m = n := by
  have key : ∀ l l' : List (κ × α), Ascending l → Ascending l' →
      (∀ k, findIn k l = findIn k l') → l = l' := by
    intro l
    induction l with
    | nil =>
      rintro (_ | ⟨e, tl⟩) _ _ h
      · rfl
      · simpa [findIn] using h e.1
    | cons d tl ih =>
      rintro (_ | ⟨e, tl'⟩) hl hl' h
      · simpa [findIn] using h d.1
      · obtain ⟨hd, htl⟩ := List.pairwise_cons.1 hl
        obtain ⟨he, htl'⟩ := List.pairwise_cons.1 hl'
        have hde : compare d.1 e.1 = .eq := by
          cases hc : compare d.1 e.1 with
          | eq => rfl
          | lt =>
            have := h d.1
            rw [findIn_eq_none (l := e :: tl') fun x hx => ?_] at this
            · simp [findIn] at this
            · rcases List.mem_cons.1 hx with rfl | hx
              · exact hc
              · exact Std.TransCmp.lt_trans hc (he x hx)
          | gt =>
            have hc := Std.OrientedCmp.lt_of_gt hc
            have := h e.1
            rw [findIn_eq_none (l := d :: tl) fun x hx => ?_] at this
            · simp [findIn] at this
            · rcases List.mem_cons.1 hx with rfl | hx
              · exact hc
              · exact Std.TransCmp.lt_trans hc (hd x hx)
        have hde := Std.LawfulEqOrd.eq_of_compare hde
        have hval := h d.1
        simp only [findIn, hde, Std.ReflOrd.compare_self, if_true, Option.some.injEq] at hval
        have htail : tl = tl' := by
          refine ih tl' htl htl' fun k => ?_
          by_cases hk : compare k d.1 = .eq
          · have hk := Std.LawfulEqOrd.eq_of_compare hk
            rw [findIn_eq_none fun x hx => hk ▸ hd x hx,
              findIn_eq_none fun x hx => hk ▸ hde ▸ he x hx]
          · have := h k
            rw [findIn, findIn, ← hde, if_neg hk, if_neg hk] at this
            exact this
        rw [htail, Prod.ext hde hval]
  cases m with
  | mk l hl =>
    cases n with
    | mk l' hl' =>
      have := key l l' hl hl' h
      subst this
      rfl

end OrderedMap

/-- A finite set of keys. -/
abbrev OrderedSet (κ : Type) [Ord κ] : Type := OrderedMap κ Unit

namespace OrderedSet

variable {κ : Type} [Ord κ]

/-- The set of the elements of a list. -/
def ofList [Std.TransOrd κ] (ks : List κ) : OrderedSet κ :=
  OrderedMap.ofList (ks.map fun k => (k, ()))

end OrderedSet

end TrusteeBoard
