import Mathlib.Data.Finset.Card
import TrusteeBoard.OrderedMap

/-!
# Keys of ordered maps

The keys of a map are listed in strictly ascending order, so a map's list of keys is determined by
which keys it has (`OrderedMap.keys_ext`). Inserting and erasing act on keys, values and sizes as on
finite sets, and they can as well be done after the keys have been replaced by others in the same
order (`OrderedMap.recode`).
-/

namespace TrusteeBoard

namespace OrderedMap

variable {κ α β : Type} [Ord κ]

theorem length_keys (m : OrderedMap κ α) : m.keys.length = m.size := by
  simp [keys, size]

@[simp] theorem keys_empty : (empty : OrderedMap κ α).keys = [] := rfl

theorem keys_ascending (m : OrderedMap κ α) : m.keys.Pairwise fun k k' => compare k k' = .lt :=
  List.pairwise_map.2 m.ascending

variable [Std.LawfulEqOrd κ]

theorem nodup_keys (m : OrderedMap κ α) : m.keys.Nodup :=
  m.keys_ascending.imp fun h => by
    rintro rfl
    simp at h

/-! ### Lookups and membership -/

theorem findIn_eq_some_iff {l : List (κ × α)} (h : Ascending l) {k : κ} {a : α} :
    findIn k l = some a ↔ (k, a) ∈ l := by
  induction l with
  | nil => simp [findIn]
  | cons e rest ih =>
    obtain ⟨he, hrest⟩ := List.pairwise_cons.1 h
    obtain ⟨k', a'⟩ := e
    by_cases hk : k = k'
    · subst hk
      have : (k, a) ∉ rest := fun hmem => by simpa using he _ hmem
      simp [findIn, this, eq_comm]
    · simp [findIn, hk, ih hrest]

theorem find?_eq_some_iff {m : OrderedMap κ α} {k : κ} {a : α} :
    m.find? k = some a ↔ (k, a) ∈ m.entries :=
  findIn_eq_some_iff m.ascending

theorem mem_keys_iff {m : OrderedMap κ α} {k : κ} : k ∈ m.keys ↔ ∃ a, m.find? k = some a := by
  simp [keys, find?_eq_some_iff]

theorem contains_iff {m : OrderedMap κ α} {k : κ} : m.contains k = true ↔ k ∈ m.keys := by
  simp [contains, mem_keys_iff, Option.isSome_iff_exists]

theorem contains_eq_false_iff {m : OrderedMap κ α} {k : κ} : m.contains k = false ↔ k ∉ m.keys := by
  rw [← contains_iff, Bool.not_eq_true]

theorem size_eq_card [DecidableEq κ] (m : OrderedMap κ α) : m.size = m.keys.toFinset.card := by
  rw [List.toFinset_card_of_nodup m.nodup_keys, length_keys]

/-! ### Inserting and erasing -/

variable [Std.TransOrd κ]

/-- Maps with the same keys list them alike. -/
theorem keys_ext {m : OrderedMap κ α} {n : OrderedMap κ β} (h : ∀ k, k ∈ m.keys ↔ k ∈ n.keys) :
    m.keys = n.keys := by
  have perm : m.keys.Perm n.keys := (List.perm_ext_iff_of_nodup m.nodup_keys n.nodup_keys).2 h
  refine perm.eq_of_pairwise (fun k k' _ _ hlt hgt => ?_) m.keys_ascending n.keys_ascending
  cases hlt.symm.trans (Std.OrientedCmp.gt_of_lt hgt)

variable [DecidableEq κ]

@[simp] theorem mem_keys_insert {m : OrderedMap κ α} {k k' : κ} {a : α} :
    k' ∈ (m.insert k a).keys ↔ k' = k ∨ k' ∈ m.keys := by
  by_cases h : k' = k <;> simp [mem_keys_iff, find?_insert, h]

theorem keys_insert_subset {m : OrderedMap κ α} {k : κ} {ks : List κ} (h : m.keys ⊆ ks) (a : α) :
    (m.insert k a).keys ⊆ k :: ks := by
  intro k' listed
  rcases mem_keys_insert.1 listed with rfl | listed
  · exact List.mem_cons_self
  · exact List.mem_cons_of_mem _ (h listed)

@[simp] theorem mem_keys_erase {m : OrderedMap κ α} {k k' : κ} :
    k' ∈ (m.erase k).keys ↔ k' ≠ k ∧ k' ∈ m.keys := by
  by_cases h : k' = k <;> simp [mem_keys_iff, find?_erase, h]

theorem insert_of_find? {m : OrderedMap κ α} {k : κ} {a : α} (h : m.find? k = some a) :
    m.insert k a = m := by
  refine ext_find? fun k' => ?_
  rw [find?_insert]
  split
  · next same => rw [same, h]
  · rfl

theorem erase_insert_of_notMem {m : OrderedMap κ α} {k : κ} (h : k ∉ m.keys) (a : α) :
    (m.insert k a).erase k = m := by
  refine ext_find? fun k' => ?_
  rw [find?_erase, find?_insert]
  split
  · next same =>
    rw [same, eq_comm, Option.eq_none_iff_forall_ne_some]
    exact fun a found => h (mem_keys_iff.2 ⟨a, found⟩)
  · rfl

theorem insert_erase_of_find? {m : OrderedMap κ α} {k : κ} {a : α} (h : m.find? k = some a) :
    (m.erase k).insert k a = m := by
  refine ext_find? fun k' => ?_
  rw [find?_insert, find?_erase]
  split
  · next same => rw [same, h]
  · rfl

theorem size_insert_of_notMem {m : OrderedMap κ α} {k : κ} (h : k ∉ m.keys) (a : α) :
    (m.insert k a).size = m.size + 1 := by
  have : (m.insert k a).keys.toFinset = Insert.insert k m.keys.toFinset := by
    ext
    simp
  rw [size_eq_card, size_eq_card, this, Finset.card_insert_of_notMem (by simpa using h)]

theorem size_erase_of_mem {m : OrderedMap κ α} {k : κ} (h : k ∈ m.keys) :
    (m.erase k).size + 1 = m.size := by
  have : (m.erase k).keys.toFinset = m.keys.toFinset.erase k := by
    ext
    simp
  rw [size_eq_card, size_eq_card, this, Finset.card_erase_add_one (by simpa using h)]

/-! ### Many keys at once -/

theorem find?_foldl_erase (ks : List κ) (m : OrderedMap κ α) (k : κ) :
    (ks.foldl erase m).find? k = if k ∈ ks then none else m.find? k := by
  induction ks generalizing m with
  | nil => simp
  | cons k' rest ih =>
    rw [List.foldl_cons, ih, find?_erase]
    by_cases hk : k = k' <;> simp [hk]

theorem mem_keys_foldl_erase {ks : List κ} {m : OrderedMap κ α} {k : κ} :
    k ∈ (ks.foldl erase m).keys ↔ k ∉ ks ∧ k ∈ m.keys := by
  rw [mem_keys_iff, mem_keys_iff, find?_foldl_erase]
  split
  · next listed => simp [listed]
  · next unlisted => simp [unlisted]

theorem find?_foldl_insert (ks : List κ) (f : κ → α) (m : OrderedMap κ α) (k : κ) :
    (ks.foldl (fun m k => m.insert k (f k)) m).find? k =
      if k ∈ ks then some (f k) else m.find? k := by
  induction ks generalizing m with
  | nil => simp
  | cons k' rest ih =>
    rw [List.foldl_cons, ih, find?_insert]
    by_cases hk : k = k' <;> simp [hk]

theorem mem_keys_ofList {k : κ} {entries : List (κ × α)} :
    k ∈ (ofList entries).keys ↔ k ∈ entries.map (·.1) := by
  have key : ∀ (entries : List (κ × α)) (m : OrderedMap κ α),
      k ∈ (entries.foldl (fun m e => m.insert e.1 e.2) m).keys ↔
        k ∈ m.keys ∨ k ∈ entries.map (·.1) := by
    intro entries
    induction entries with
    | nil => simp
    | cons e rest ih =>
      intro m
      rw [List.foldl_cons, ih]
      simp [or_assoc, or_left_comm]
  exact (key entries empty).trans (by simp)

/-- A map is rebuilt from its entries. -/
theorem ofList_entries (m : OrderedMap κ α) : ofList m.entries = m := by
  have key : ∀ (l : List (κ × α)) (n : OrderedMap κ α) (k : κ), Ascending l →
      (l.foldl (fun n e => n.insert e.1 e.2) n).find? k = (findIn k l).or (n.find? k) := by
    intro l
    induction l with
    | nil => exact fun _ _ _ => rfl
    | cons e rest ih =>
      intro n k h
      obtain ⟨greater, h⟩ := List.pairwise_cons.1 h
      rw [List.foldl_cons, ih _ _ h, find?_insert, findIn]
      by_cases same : k = e.1
      · subst same
        have later : findIn e.1 rest = none := findIn_eq_none greater
        simp [later]
      · simp [same]
  refine ext_find? fun k => (key m.entries empty k m.ascending).trans ?_
  rw [find?_empty, Option.or_none]
  rfl

/-! ### Other keys and values -/

section Recode

variable {κ κ' α β : Type} [Ord κ] [Ord κ'] {f : κ → κ'} {g : α → β}
  {order : ∀ k k', compare (f k) (f k') = compare k k'}

/-- The map with its keys replaced by others in the same order, and its values too. -/
def recode (f : κ → κ') (g : α → β) (order : ∀ k k', compare (f k) (f k') = compare k k')
    (m : OrderedMap κ α) : OrderedMap κ' β :=
  ⟨m.entries.map fun e => (f e.1, g e.2),
    List.pairwise_map.2 (m.ascending.imp fun h => (order _ _).trans h)⟩

@[simp] theorem recode_empty : (empty : OrderedMap κ α).recode f g order = empty := rfl

@[simp] theorem values_recode (m : OrderedMap κ α) :
    (m.recode f g order).values = m.values.map g := by
  simp [recode, values]

@[simp] theorem size_recode (m : OrderedMap κ α) : (m.recode f g order).size = m.size := by
  simp [recode, size]

theorem find?_recode (m : OrderedMap κ α) (k : κ) :
    (m.recode f g order).find? (f k) = (m.find? k).map g := by
  have key (l : List (κ × α)) :
      findIn (f k) (l.map fun e => (f e.1, g e.2)) = (findIn k l).map g := by
    induction l with
    | nil => rfl
    | cons e rest ih =>
      simp only [List.map_cons, findIn, order, ih]
      split <;> rfl
  exact key m.entries

theorem recode_insert [Std.TransOrd κ] [Std.TransOrd κ'] (m : OrderedMap κ α) (k : κ) (a : α) :
    (m.insert k a).recode f g order = (m.recode f g order).insert (f k) (g a) := by
  have key (l : List (κ × α)) : (insertIn k a l).map (fun e => (f e.1, g e.2)) =
      insertIn (f k) (g a) (l.map fun e => (f e.1, g e.2)) := by
    induction l with
    | nil => rfl
    | cons e rest ih =>
      rw [List.map_cons, insertIn, insertIn, order]
      cases compare k e.1 <;> simp [ih]
  simp only [recode, insert, key]

theorem recode_erase (m : OrderedMap κ α) (k : κ) :
    (m.erase k).recode f g order = (m.recode f g order).erase (f k) := by
  have key (l : List (κ × α)) : (eraseIn k l).map (fun e => (f e.1, g e.2)) =
      eraseIn (f k) (l.map fun e => (f e.1, g e.2)) := by
    rw [eraseIn, eraseIn, List.filter_map]
    exact congrArg _ (List.filter_congr fun e _ => by simp [order])
  simp only [recode, erase, key]

end Recode

end OrderedMap

namespace OrderedSet

variable {κ : Type} [Ord κ] [Std.TransOrd κ] [Std.LawfulEqOrd κ] [DecidableEq κ]

@[simp] theorem mem_keys_ofList {k : κ} {ks : List κ} : k ∈ (ofList ks).keys ↔ k ∈ ks := by
  simp [ofList, OrderedMap.mem_keys_ofList]

/-- The keys of a map as a set have the same keys. -/
theorem keys_ofList_keys {α : Type} (m : OrderedMap κ α) : (ofList m.keys).keys = m.keys :=
  OrderedMap.keys_ext fun _ => mem_keys_ofList

end OrderedSet

end TrusteeBoard
