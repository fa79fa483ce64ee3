import Mathlib.Algebra.Group.Nat.Defs
import Mathlib.Data.Finset.Card
import TrusteeBoard.Authority
import TrusteeBoard.Proofs.OrderedMap
import TrusteeBoard.Proofs.Sample

/-!
# Quorums of a roster

Who can act for a roster is decided by the authority built over it. It lists the distinct members
once each, and an empty roster like one of the fallback alone (`ThresholdRule.authorityOver_eq`), so
that it depends on the set of members only and can always be satisfied
(`ThresholdRule.authorityOver_canonical`). A group satisfies it when it holds enough of those who
are listed, and two groups that do so by majority have one of them in common
(`ThresholdRule.authorityOver_quorums`).
-/

namespace TrusteeBoard

open Sample

/-! ### Thresholds -/

namespace ThresholdRule

/-- How many of `n` signers have to sign, if there are any. -/
def required : ThresholdRule → Nat → Nat
  | .simpleMajority, n => n / 2 + 1
  | .unanimous, n => n
  | .atLeast count, n => max 1 (min count.toNat n)

theorem required_bounds (rule : ThresholdRule) {n : Nat} (nonzero : n ≠ 0) :
    1 ≤ rule.required n ∧ rule.required n ≤ n := by
  cases rule with
  | simpleMajority | unanimous =>
    dsimp only [required]
    omega
  | atLeast count =>
    dsimp only [required]
    omega

theorem toNat_thresholdFor (rule : ThresholdRule) {n : Nat} (nonzero : n % 2 ^ 32 ≠ 0) :
    (rule.thresholdFor (UInt64.ofNat n)).toNat = rule.required (n % 2 ^ 32) := by
  have counted : (UInt64.ofNat n).toUInt32.toNat = n % 2 ^ 32 := by
    rw [UInt64.toNat_toUInt32, UInt64.toNat_ofNat']
    omega
  unfold thresholdFor required
  generalize (UInt64.ofNat n).toUInt32 = size at counted
  rw [← counted] at nonzero ⊢
  have bound := size.toNat_lt
  cases rule with
  | simpleMajority =>
    show (size / 2 + 1).toNat = size.toNat / 2 + 1
    rw [UInt32.toNat_add, UInt32.toNat_div, UInt32.toNat_one, show (2 : UInt32).toNat = 2 from rfl]
    omega
  | unanimous =>
    show (max size 1).toNat = size.toNat
    rw [toNat_max32, UInt32.toNat_one]
    omega
  | atLeast count =>
    show (max 1 (min count (max size 1))).toNat = max 1 (min count.toNat size.toNat)
    rw [toNat_max32, toNat_min32, toNat_max32, UInt32.toNat_one]
    omega

/-! ### Signers of weight one -/

variable {rule : ThresholdRule} {fallback : Account} {members : List Account}

theorem weightOf_signers (actors : List Account) :
    Authority.weightOf (actors.map signer) = UInt32.ofNat actors.length := by
  induction actors with
  | nil => rfl
  | cons actor rest ih =>
    show 1 + Authority.weightOf (rest.map signer) = _
    rw [ih, List.length_cons, UInt32.ofNat_add, UInt32.add_comm]
    rfl

/-- The authority in which each of a list of actors signs with weight one. -/
def authorityOf (rule : ThresholdRule) (actors : List Account) : Authority :=
  ⟨rule.thresholdFor (UInt64.ofNat actors.length), actors.map signer⟩

@[simp] theorem actors_authorityOf (rule : ThresholdRule) (actors : List Account) :
    (rule.authorityOf actors).actors = actors := by
  simp [authorityOf, Authority.actors, signer, Function.comp_def]

theorem isSatisfiable_authorityOf (rule : ThresholdRule) {actors : List Account}
    (nonzero : actors.length % 2 ^ 32 ≠ 0) : (rule.authorityOf actors).IsSatisfiable := by
  obtain ⟨positive, reachable⟩ := rule.required_bounds nonzero
  rw [← rule.toNat_thresholdFor nonzero] at positive reachable
  refine ⟨UInt32.lt_iff_toNat_lt.2 positive, ?_⟩
  rw [authorityOf, Authority.totalWeight, weightOf_signers, UInt32.le_iff_toNat_le,
    UInt32.toNat_ofNat']
  exact reachable

/-- A group satisfies the authority when it holds enough of the actors. -/
theorem isSatisfiedBy_authorityOf_iff (rule : ThresholdRule) {actors : List Account}
    (few : actors.length < 2 ^ 32) {group : List Account} :
    (rule.authorityOf actors).IsSatisfiedBy group ↔
      (rule.authorityOf actors).threshold.toNat ≤ (actors.filter (· ∈ group)).length := by
  have counted : (rule.authorityOf actors).signers.filter (fun s => s.actor ∈ group) =
      (actors.filter (· ∈ group)).map signer := List.filter_map
  have fewer := (List.length_filter_le (fun actor => decide (actor ∈ group)) actors).trans_lt few
  rw [Authority.IsSatisfiedBy, counted, weightOf_signers, UInt32.le_iff_toNat_le,
    UInt32.toNat_ofNat_of_lt' fewer]

/-! ### The authority over a roster -/

/-- The accounts that the authority over a roster lists. -/
def listed (fallback : Account) (members : List Account) : List Account :=
  if members = [] then [fallback] else (OrderedSet.ofList members).keys

/-- The accounts whose signatures count for a roster: its members, or the fallback if there are
none. -/
def electorate (fallback : Account) (members : List Account) : Finset Account :=
  if members = [] then {fallback} else members.toFinset

theorem keys_ofList_eq_nil_iff : (OrderedSet.ofList members).keys = [] ↔ members = [] := by
  simp only [List.eq_nil_iff_forall_not_mem, OrderedSet.mem_keys_ofList]

theorem thresholdFor_one (rule : ThresholdRule) : rule.thresholdFor (UInt64.ofNat 1) = 1 := by
  have single : 1 % 2 ^ 32 ≠ 0 := by decide
  have bounds := rule.required_bounds single
  rw [← rule.toNat_thresholdFor single] at bounds
  exact UInt32.toNat_inj.1 (Nat.le_antisymm bounds.2 bounds.1)

/-- The fallback alone is like a roster of one. -/
theorem authorityOver_eq (rule : ThresholdRule) (fallback : Account) (members : List Account) :
    rule.authorityOver fallback members = rule.authorityOf (listed fallback members) := by
  unfold authorityOver listed
  split
  · next empty =>
    rw [if_pos (keys_ofList_eq_nil_iff.1 empty), authorityOf, List.length_singleton,
      thresholdFor_one]
    rfl
  · next occupied =>
    rw [if_neg fun empty => occupied (keys_ofList_eq_nil_iff.2 empty)]
    rfl

theorem listed_ascending (fallback : Account) (members : List Account) :
    (listed fallback members).Pairwise fun name next => compare name next = .lt := by
  unfold listed
  split
  · exact List.pairwise_singleton _ _
  · exact OrderedMap.keys_ascending _

theorem nodup_listed (fallback : Account) (members : List Account) :
    (listed fallback members).Nodup := by
  unfold listed
  split
  · exact List.nodup_singleton _
  · exact OrderedMap.nodup_keys _

theorem toFinset_listed (fallback : Account) (members : List Account) :
    (listed fallback members).toFinset = electorate fallback members := by
  rw [listed, electorate]
  split
  · rfl
  · ext name
    rw [List.mem_toFinset, List.mem_toFinset, OrderedSet.mem_keys_ofList]

theorem length_listed (fallback : Account) (members : List Account) :
    (listed fallback members).length = (electorate fallback members).card := by
  rw [← toFinset_listed, List.toFinset_card_of_nodup (nodup_listed fallback members)]

theorem listed_congr {others : List Account} (same : ∀ name, name ∈ others ↔ name ∈ members) :
    listed fallback others = listed fallback members := by
  have keys : (OrderedSet.ofList others).keys = (OrderedSet.ofList members).keys :=
    OrderedMap.keys_ext fun name => by
      rw [OrderedSet.mem_keys_ofList, OrderedSet.mem_keys_ofList, same]
  have empty : others = [] ↔ members = [] := by
    rw [← keys_ofList_eq_nil_iff, keys, keys_ofList_eq_nil_iff]
  simp only [listed, keys, empty]

/-- At least one signature counts, and no more of them than a word can count. -/
theorem electorate_card_bounds (fallback : Account) (few : members.toFinset.card < 2 ^ 32) :
    0 < (electorate fallback members).card ∧ (electorate fallback members).card < 2 ^ 32 := by
  unfold electorate
  split
  · rw [Finset.card_singleton]
    decide
  · next occupied =>
    exact ⟨Finset.card_pos.2 ((List.toFinset_nonempty_iff members).2 occupied), few⟩

/-- An authority over the roster of a board that is empty, or whose size is not zero as a word. -/
theorem isSatisfiable_authorityOver (rule : ThresholdRule) (fallback : Account)
    {members : OrderedSet Account}
    (h : members.keys = [] ∨ UInt32.ofNat members.size ≠ 0) :
    (rule.authorityOver fallback members.keys).IsSatisfiable := by
  rw [authorityOver_eq]
  refine rule.isSatisfiable_authorityOf ?_
  rw [listed, OrderedSet.keys_ofList_keys]
  split
  · exact Nat.one_ne_zero
  · next occupied =>
    rw [OrderedMap.length_keys, ← UInt32.toNat_ofNat']
    exact fun zero => h.resolve_left occupied (UInt32.toNat_inj.1 zero)

end ThresholdRule

/-! ### The canonical form -/

/-- An authority in the form that hosts accept: each account of an electorate is listed once with
weight one, in ascending order, and together they reach the threshold. -/
structure Authority.IsCanonical (a : Authority) (electorate : Finset Account) : Prop where
  ascending : a.actors.Pairwise fun name next => compare name next = .lt
  listed : ∀ name, name ∈ a.actors ↔ name ∈ electorate
  alike : ∀ s ∈ a.signers, s.permission = "active" ∧ s.weight = 1
  threshold : 1 ≤ a.threshold.toNat ∧ a.threshold.toNat ≤ a.signers.length
  satisfiable : a.IsSatisfiable
  satisfied : a.IsSatisfiedBy a.actors

namespace ThresholdRule

variable {rule : ThresholdRule} {fallback : Account} {members : List Account}

theorem isCanonical_authorityOf (rule : ThresholdRule) {actors : List Account}
    (ascending : actors.Pairwise fun name next => compare name next = .lt)
    (nonempty : 0 < actors.length) (few : actors.length < 2 ^ 32) :
    (rule.authorityOf actors).IsCanonical actors.toFinset := by
  have size : actors.length % 2 ^ 32 = actors.length := Nat.mod_eq_of_lt few
  have counted : actors.length % 2 ^ 32 ≠ 0 := by omega
  have bounds := rule.required_bounds counted
  rw [← rule.toNat_thresholdFor counted, size] at bounds
  exact
    { ascending := by rwa [actors_authorityOf]
      listed := fun name => by rw [actors_authorityOf, List.mem_toFinset]
      alike := fun s listed => by
        obtain ⟨name, -, rfl⟩ := List.mem_map.1 listed
        exact ⟨rfl, rfl⟩
      threshold := by
        rw [authorityOf, List.length_map]
        exact bounds
      satisfiable := rule.isSatisfiable_authorityOf counted
      satisfied := by
        rw [actors_authorityOf, rule.isSatisfiedBy_authorityOf_iff few,
          List.filter_eq_self.2 fun name listed => decide_eq_true listed]
        exact bounds.2 }

/-- The authority over a roster is in canonical form for its members, or for the fallback if there
are none. It depends on who is a member only. -/
theorem authorityOver_canonical (rule : ThresholdRule) (fallback : Account)
    (few : members.toFinset.card < 2 ^ 32) :
    (rule.authorityOver fallback members).IsCanonical (electorate fallback members) ∧
      ∀ others : List Account, (∀ name, name ∈ others ↔ name ∈ members) →
        rule.authorityOver fallback others = rule.authorityOver fallback members := by
  have bounds := electorate_card_bounds fallback few
  rw [← length_listed] at bounds
  refine ⟨?_, fun others same => ?_⟩
  · rw [authorityOver_eq, ← toFinset_listed]
    exact rule.isCanonical_authorityOf (listed_ascending fallback members) bounds.1 bounds.2
  · rw [authorityOver_eq, authorityOver_eq, listed_congr same]

/-- Of four members, one named twice, not more than three have to sign. -/
theorem authorityOver_canonical_repeated :
    [carol, alice, bob, alice].toFinset.card < 2 ^ 32 ∧
      ((atLeast 9).authorityOver publisher [carol, alice, bob, alice]).IsCanonical
        [carol, alice, bob, alice].toFinset ∧
      (atLeast 9).authorityOver publisher [alice, bob, carol] =
        (atLeast 9).authorityOver publisher [carol, alice, bob, alice] := by
  have few : [carol, alice, bob, alice].toFinset.card < 2 ^ 32 := by decide
  obtain ⟨canonical, congr⟩ := (atLeast 9).authorityOver_canonical publisher few
  refine ⟨few, canonical, congr _ fun name => ?_⟩
  simp only [List.mem_cons, List.not_mem_nil, or_false]
  tauto

/-! ### Groups that sign -/

theorem isSatisfiedBy_authorityOver_iff (rule : ThresholdRule) (fallback : Account)
    (few : members.toFinset.card < 2 ^ 32) (group : List Account) :
    (rule.authorityOver fallback members).IsSatisfiedBy group ↔
      (rule.authorityOver fallback members).threshold.toNat ≤
        (group.toFinset ∩ electorate fallback members).card := by
  have bounds := electorate_card_bounds fallback few
  rw [← length_listed] at bounds
  have inside : ((listed fallback members).filter (· ∈ group)).length =
      (group.toFinset ∩ electorate fallback members).card := by
    rw [← List.toFinset_card_of_nodup ((nodup_listed fallback members).filter _)]
    congr 1
    rw [← toFinset_listed]
    ext name
    simp [and_comm]
  rw [authorityOver_eq, rule.isSatisfiedBy_authorityOf_iff bounds.2, inside]

/-- Twice the threshold of a majority is more than there are. -/
theorem card_electorate_lt_two_mul_threshold (fallback : Account)
    (few : members.toFinset.card < 2 ^ 32) :
    (electorate fallback members).card <
      2 * (simpleMajority.authorityOver fallback members).threshold.toNat := by
  have bounds := electorate_card_bounds fallback few
  have counted : (listed fallback members).length % 2 ^ 32 =
      (electorate fallback members).card := by
    rw [length_listed]
    exact Nat.mod_eq_of_lt bounds.2
  have needed : (simpleMajority.authorityOver fallback members).threshold.toNat =
      (electorate fallback members).card / 2 + 1 := by
    rw [authorityOver_eq, authorityOf, toNat_thresholdFor _ (counted ▸ bounds.1.ne'), counted]
    rfl
  omega

/-- A group can act for a roster exactly when enough of those whose signatures count are in it, and
so can every larger one. By majority, two such groups have one of those in common. -/
theorem authorityOver_quorums (rule : ThresholdRule) (fallback : Account)
    (few : members.toFinset.card < 2 ^ 32) :
    let authority := rule.authorityOver fallback members
    (∀ group : List Account, authority.IsSatisfiedBy group ↔
        authority.threshold.toNat ≤ (group.toFinset ∩ electorate fallback members).card) ∧
      (∀ group more : List Account, group ⊆ more → authority.IsSatisfiedBy group →
        authority.IsSatisfiedBy more) ∧
      (rule = .simpleMajority → ∀ group other : List Account, authority.IsSatisfiedBy group →
        authority.IsSatisfiedBy other →
        ∃ name ∈ electorate fallback members, name ∈ group ∧ name ∈ other) := by
  intro authority
  have counts := rule.isSatisfiedBy_authorityOver_iff fallback few
  refine ⟨counts, fun group more sub satisfied => ?_, ?_⟩
  · rw [counts] at satisfied ⊢
    refine satisfied.trans (Finset.card_le_card (Finset.inter_subset_inter_right ?_))
    exact fun name signs => List.mem_toFinset.2 (sub (List.mem_toFinset.1 signs))
  · rintro rfl group other first second
    -- more than the whole electorate signs in all, so somebody signs both times
    have majority := card_electorate_lt_two_mul_threshold fallback few
    rw [counts] at first second
    obtain ⟨name, both⟩ : ((group.toFinset ∩ electorate fallback members) ∩
        (other.toFinset ∩ electorate fallback members)).Nonempty :=
      Finset.inter_nonempty_of_card_lt_card_add_card Finset.inter_subset_right
        Finset.inter_subset_right (by omega)
    simp only [Finset.mem_inter, List.mem_toFinset] at both
    exact ⟨name, both.1.2, both.1.1, both.2.1⟩

/-- Two of three members can act, with or without an outsider, and one of them is in every other
pair. -/
theorem authorityOver_quorums_outsider :
    let authority := simpleMajority.authorityOver publisher [alice, bob, carol]
    [alice, bob, carol].toFinset.card < 2 ^ 32 ∧ authority.IsSatisfiedBy [bob, carol, bob] ∧
      authority.IsSatisfiedBy [carol, alice, publisher] ∧
      ¬authority.IsSatisfiedBy [alice, publisher, alice] ∧
      ∃ name ∈ electorate publisher [alice, bob, carol],
        name ∈ [bob, carol, bob] ∧ name ∈ [carol, alice, publisher] := by
  intro authority
  have few : [alice, bob, carol].toFinset.card < 2 ^ 32 := by decide
  obtain ⟨counts, more, meet⟩ := simpleMajority.authorityOver_quorums publisher few
  have first : authority.IsSatisfiedBy [bob, carol, bob] := (counts _).2 (by decide +kernel)
  have pair : authority.IsSatisfiedBy [carol, alice] := (counts _).2 (by decide +kernel)
  have second : authority.IsSatisfiedBy [carol, alice, publisher] :=
    more _ _ (List.subset_append_left _ [publisher]) pair
  exact ⟨few, first, second, (counts _).not.2 (by decide +kernel), meet rfl _ _ first second⟩

end ThresholdRule

end TrusteeBoard
