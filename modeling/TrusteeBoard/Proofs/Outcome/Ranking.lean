import Mathlib.Data.List.SplitBy
import TrusteeBoard.Proofs.Outcome.Turnout

/-!
# The ranking

The ranking lists the contenders (`Contest.contenders`), each once, by descending weight and then by
name (`flatten_groups_pairwise`). Its groups hold contenders of equal weight and descend in weight,
so a group stands where its members have as many contenders above them as precede it, and has as
many members as there are contenders of that weight (`length_flatten_before`, `length_group`).
-/

namespace TrusteeBoard

/-! ### Runs of equal keys -/

section SplitBy

variable {α : Type} {r : α → α → Bool} {f : α → Nat}

theorem splitBy_constant (hr : ∀ x y, r x y = true ↔ f x = f y) {l g : List α}
    (hg : g ∈ l.splitBy r) {x y : α} (hx : x ∈ g) (hy : y ∈ g) : f x = f y := by
  have chain : g.IsChain fun x y => f x = f y :=
    (List.isChain_of_mem_splitBy hg).imp fun x y h => (hr x y).1 h
  have : Std.Symm fun x y => f x = f y := ⟨fun _ _ => Eq.symm⟩
  have : IsTrans α fun x y => f x = f y := ⟨fun _ _ _ => Eq.trans⟩
  exact List.Pairwise.forall_of_forall (R := fun x y => f x = f y) (fun _ _ => rfl)
    (List.isChain_iff_pairwise.1 chain) hx hy

/-- Consecutive groups of descending keys with a break after each descend strictly throughout. -/
theorem descending_of_breaks {gs : List (List α)} (hr : ∀ x y, r x y = true ↔ f x = f y)
    (hconst : ∀ g ∈ gs, ∀ x ∈ g, ∀ y ∈ g, f x = f y)
    (hle : gs.Pairwise fun g h => ∀ x ∈ g, ∀ y ∈ h, f y ≤ f x)
    (hbreak : gs.IsChain fun g h => ∃ hg hh, r (g.getLast hg) (h.head hh) = false) :
    gs.Pairwise fun g h => ∀ x ∈ g, ∀ y ∈ h, f y < f x := by
  induction gs with
  | nil => exact .nil
  | cons g rest ih =>
    obtain ⟨hg, hrest⟩ := List.pairwise_cons.1 hle
    refine List.pairwise_cons.2 ⟨fun h hh x hx y hy => ?_,
      ih (fun g hg => hconst g (List.mem_cons_of_mem _ hg)) hrest hbreak.tail⟩
    cases rest with
    | nil => cases hh
    | cons next rest =>
      obtain ⟨⟨hgne, hnne, hbr⟩, -⟩ := List.isChain_cons_cons.1 hbreak
      -- the break separates the last key of `g` from the first key of the next group
      have hlast : f (g.getLast hgne) = f x :=
        hconst g List.mem_cons_self _ (List.getLast_mem hgne) x hx
      have hhead : f (next.head hnne) < f x := by
        have := hg next List.mem_cons_self _ (List.getLast_mem hgne) _ (List.head_mem hnne)
        have : f (g.getLast hgne) ≠ f (next.head hnne) := fun e => by
          simp [(hr _ _).2 e] at hbr
        omega
      rcases List.mem_cons.1 hh with rfl | hh
      · rwa [hconst h (by simp) y hy _ (List.head_mem hnne)]
      · exact ((List.pairwise_cons.1 hrest).1 h hh _ (List.head_mem hnne) y hy).trans_lt hhead

/-- The runs of equal keys in a descending list. -/
theorem splitBy_descending (hr : ∀ x y, r x y = true ↔ f x = f y) {l : List α}
    (hl : l.Pairwise fun x y => f y ≤ f x) :
    (l.splitBy r).Pairwise fun g h => ∀ x ∈ g, ∀ y ∈ h, f y < f x := by
  have flat : (l.splitBy r).flatten.Pairwise fun x y => f y ≤ f x := by
    rwa [List.flatten_splitBy]
  exact descending_of_breaks hr (fun g hg x hx y hy => splitBy_constant hr hg hx hy)
    (List.pairwise_flatten.1 flat).2 (List.isChain_getLast_head_splitBy r l)

end SplitBy

namespace Contest

/-! ### Contenders -/

/-- The registered candidates with weight. -/
def contenders (c : Contest) : Finset Account :=
  c.registered.filter fun a => c.tally.weightOf a ≠ 0

/-- The number of contenders with more weight than `a`. -/
def above (c : Contest) (a : Account) : Nat :=
  (c.contenders.filter fun b => c.tally.weightOf a < c.tally.weightOf b).card

/-- The number of contenders with the weight of `a`. -/
def level (c : Contest) (a : Account) : Nat :=
  (c.contenders.filter fun b => c.tally.weightOf b = c.tally.weightOf a).card

/-- Whether `a` comes before `b`: more weight, or the same weight and the smaller name. -/
def Outranks (c : Contest) (a b : Account) : Prop :=
  c.tally.weightOf b < c.tally.weightOf a ∨
    c.tally.weightOf a = c.tally.weightOf b ∧ compare a b = .lt

variable (c : Contest)

/-! ### The order of the ranking -/

theorem ranksBefore_iff {x y : Account × Weight} :
    ranksBefore x y = true ↔ y.2 < x.2 ∨ x.2 = y.2 ∧ (compare x.1 y.1).isLE := by
  unfold ranksBefore
  split
  · next h => simp [h]
  · next h => simp [h]

theorem ranksBefore_trans (x y z : Account × Weight) (hxy : ranksBefore x y = true)
    (hyz : ranksBefore y z = true) : ranksBefore x z = true := by
  rw [ranksBefore_iff] at *
  rcases hxy with hxy | ⟨hxy, hn⟩ <;> rcases hyz with hyz | ⟨hyz, hm⟩
  · exact .inl (BitVec.lt_trans hyz hxy)
  · exact .inl (hyz ▸ hxy)
  · exact .inl (hxy ▸ hyz)
  · exact .inr ⟨hxy.trans hyz, Std.TransCmp.isLE_trans hn hm⟩

theorem ranksBefore_total (x y : Account × Weight) :
    (ranksBefore x y || ranksBefore y x) = true := by
  rw [Bool.or_eq_true, ranksBefore_iff, ranksBefore_iff]
  have names : (compare x.1 y.1).isLE ∨ (compare y.1 x.1).isLE := by
    cases h : compare x.1 y.1 with
    | lt => exact .inl rfl
    | eq => exact .inl rfl
    | gt => exact .inr (by rw [Std.OrientedCmp.lt_of_gt h]; rfl)
  rcases BitVec.lt_trichotomy x.2 y.2 with h | h | h
  · exact .inr (.inl h)
  · exact names.imp (fun hn => .inr ⟨h, hn⟩) fun hn => .inr ⟨h.symm, hn⟩
  · exact .inl (.inl h)

theorem mem_ranking {x : Account × Weight} :
    x ∈ c.ranking ↔ x.1 ∈ c.contenders ∧ x.2 = c.tally.weightOf x.1 := by
  obtain ⟨a, w⟩ := x
  rw [ranking, List.mem_mergeSort, List.mem_filter, standings, List.mem_map]
  simp only [mem_registered, contenders, Finset.mem_filter, Prod.mk.injEq, bne_iff_ne]
  constructor
  · rintro ⟨⟨_, ha, rfl, rfl⟩, hw⟩
    exact ⟨⟨ha, hw⟩, rfl⟩
  · rintro ⟨⟨ha, hw⟩, rfl⟩
    exact ⟨⟨a, ha, rfl, rfl⟩, hw⟩

theorem flatten_groups : c.groups.flatten = c.ranking.map (·.1) := by
  rw [groups, ← List.map_flatten, List.flatten_splitBy]

theorem mem_flatten_groups {a : Account} : a ∈ c.groups.flatten ↔ a ∈ c.contenders := by
  simp [flatten_groups, mem_ranking]

theorem nodup_flatten_groups : c.groups.flatten.Nodup := by
  have standings : (c.standings.map (·.1)).Nodup := by
    simpa [Contest.standings, Function.comp_def] using
      OrderedMap.nodup_keys (OrderedSet.ofList c.candidates)
  have perm : c.groups.flatten.Perm ((c.standings.filter fun x => x.2 != 0).map (·.1)) := by
    rw [flatten_groups]
    exact (List.mergeSort_perm _ _).map _
  exact perm.nodup_iff.2 (standings.sublist (List.filter_sublist.map _))

/-- The ranking descends in weight, and then ascends in names. -/
theorem flatten_groups_pairwise : c.groups.flatten.Pairwise c.Outranks := by
  have sorted : c.ranking.Pairwise fun x y => ranksBefore x y = true :=
    List.pairwise_mergeSort ranksBefore_trans ranksBefore_total _
  have distinct : c.ranking.Pairwise fun x y => x.1 ≠ y.1 :=
    List.pairwise_map.1 (c.flatten_groups ▸ c.nodup_flatten_groups)
  rw [flatten_groups, List.pairwise_map]
  refine (sorted.and distinct).imp_of_mem fun {x y} hx hy ⟨hxy, hne⟩ => ?_
  rw [ranksBefore_iff, ((c.mem_ranking).1 hx).2, ((c.mem_ranking).1 hy).2] at hxy
  refine hxy.imp id (And.imp_right fun hn => ?_)
  rw [Ordering.isLE_iff_eq_lt_or_eq_eq] at hn
  exact hn.resolve_right fun heq => hne (Std.LawfulEqOrd.eq_of_compare heq)

/-! ### Groups -/

/-- The runs of equal weight that the groups are the names of. -/
def runs (c : Contest) : List (List (Account × Weight)) :=
  c.ranking.splitBy fun x y => x.2 == y.2

theorem groups_eq : c.groups = c.runs.map (·.map (·.1)) := rfl

theorem weightOf_of_mem_run {run : List (Account × Weight)} (hrun : run ∈ c.runs)
    {x : Account × Weight} (hx : x ∈ run) : x.2 = c.tally.weightOf x.1 := by
  refine (c.mem_ranking.1 ?_).2
  rw [← List.flatten_splitBy (fun x y : Account × Weight => x.2 == y.2) c.ranking]
  exact List.mem_flatten.2 ⟨run, hrun, hx⟩

theorem beq_weight_iff (x y : Account × Weight) :
    (x.2 == y.2) = true ↔ x.2.toNat = y.2.toNat := by
  rw [beq_iff_eq, BitVec.toNat_inj]

theorem weightOf_eq_of_mem_group {g : List Account} (hg : g ∈ c.groups) {a b : Account}
    (ha : a ∈ g) (hb : b ∈ g) : c.tally.weightOf a = c.tally.weightOf b := by
  rw [groups_eq] at hg
  obtain ⟨run, hrun, rfl⟩ := List.mem_map.1 hg
  obtain ⟨x, hx, rfl⟩ := List.mem_map.1 ha
  obtain ⟨y, hy, rfl⟩ := List.mem_map.1 hb
  rw [← c.weightOf_of_mem_run hrun hx, ← c.weightOf_of_mem_run hrun hy]
  exact BitVec.eq_of_toNat_eq (splitBy_constant beq_weight_iff hrun hx hy)

theorem groups_descending : c.groups.Pairwise fun g h =>
    ∀ a ∈ g, ∀ b ∈ h, c.tally.weightOf b < c.tally.weightOf a := by
  have sorted : c.ranking.Pairwise fun x y => y.2.toNat ≤ x.2.toNat :=
    (List.pairwise_mergeSort ranksBefore_trans ranksBefore_total _).imp fun {x y} h => by
      rcases ranksBefore_iff.1 h with h | ⟨h, -⟩
      · exact Nat.le_of_lt h
      · rw [h]
  rw [groups_eq, List.pairwise_map]
  refine (splitBy_descending beq_weight_iff sorted).imp_of_mem fun {g h} hg hh descends => ?_
  rintro _ ha _ hb
  obtain ⟨x, hx, rfl⟩ := List.mem_map.1 ha
  obtain ⟨y, hy, rfl⟩ := List.mem_map.1 hb
  rw [← c.weightOf_of_mem_run hg hx, ← c.weightOf_of_mem_run hh hy]
  exact descends x hx y hy

/-! ### Positions -/

theorem card_contenders_filter (p : Account → Prop) [DecidablePred p] :
    (c.contenders.filter p).card = c.groups.flatten.countP p := by
  have : c.contenders.filter p = (c.groups.flatten.filter p).toFinset := by
    ext a
    rw [List.mem_toFinset, List.mem_filter, mem_flatten_groups, Finset.mem_filter,
      decide_eq_true_iff]
  rw [this, List.toFinset_card_of_nodup (c.nodup_flatten_groups.filter _),
    List.countP_eq_length_filter]

variable {pre post : List (List Account)} {g : List Account} {a : Account}

theorem weights_around (h : c.groups = pre ++ g :: post) (ha : a ∈ g) :
    (∀ b ∈ pre.flatten, c.tally.weightOf a < c.tally.weightOf b) ∧
      (∀ b ∈ g, c.tally.weightOf b = c.tally.weightOf a) ∧
      ∀ b ∈ post.flatten, c.tally.weightOf b < c.tally.weightOf a := by
  have descends := c.groups_descending
  rw [h, List.pairwise_append, List.pairwise_cons] at descends
  obtain ⟨-, ⟨hpost, -⟩, hpre⟩ := descends
  have hg : g ∈ c.groups := by simp [h]
  refine ⟨fun b hb => ?_, fun b hb => c.weightOf_eq_of_mem_group hg hb ha, fun b hb => ?_⟩
  · obtain ⟨g', hg', hb⟩ := List.mem_flatten.1 hb
    exact hpre g' hg' g List.mem_cons_self b hb a ha
  · obtain ⟨g', hg', hb⟩ := List.mem_flatten.1 hb
    exact hpost g' hg' a ha b hb

/-- The groups before that of `a` hold the contenders with more weight. -/
theorem length_flatten_before (h : c.groups = pre ++ g :: post) (ha : a ∈ g) :
    pre.flatten.length = c.above a := by
  obtain ⟨before, within, behind⟩ := c.weights_around h ha
  have hpre : pre.flatten.countP (c.tally.weightOf a < c.tally.weightOf ·) = pre.flatten.length :=
    List.countP_eq_length.2 fun b hb => decide_eq_true (before b hb)
  have hg : g.countP (c.tally.weightOf a < c.tally.weightOf ·) = 0 :=
    List.countP_eq_zero.2 fun b hb => by simp [within b hb]
  have hpost : post.flatten.countP (c.tally.weightOf a < c.tally.weightOf ·) = 0 :=
    List.countP_eq_zero.2 fun b hb => by simpa using BitVec.le_of_lt (behind b hb)
  rw [above, card_contenders_filter, h, List.flatten_append, List.flatten_cons,
    List.countP_append, List.countP_append, hpre, hg, hpost, Nat.add_zero]

/-- The group of `a` holds the contenders with the same weight. -/
theorem length_group (h : c.groups = pre ++ g :: post) (ha : a ∈ g) : g.length = c.level a := by
  obtain ⟨before, within, behind⟩ := c.weights_around h ha
  have hpre : pre.flatten.countP (c.tally.weightOf · = c.tally.weightOf a) = 0 :=
    List.countP_eq_zero.2 fun b hb => by simpa using (BitVec.ne_of_lt (before b hb)).symm
  have hg : g.countP (c.tally.weightOf · = c.tally.weightOf a) = g.length :=
    List.countP_eq_length.2 fun b hb => decide_eq_true (within b hb)
  have hpost : post.flatten.countP (c.tally.weightOf · = c.tally.weightOf a) = 0 :=
    List.countP_eq_zero.2 fun b hb => by simpa using BitVec.ne_of_lt (behind b hb)
  rw [level, card_contenders_filter, h, List.flatten_append, List.flatten_cons,
    List.countP_append, List.countP_append, hpre, hg, hpost, Nat.add_zero]
  omega

end Contest

end TrusteeBoard
