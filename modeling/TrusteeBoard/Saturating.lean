/-!
# Saturating arithmetic on words

Sums stop at the largest word and differences at zero. The `toNat` lemmas say so in `Nat`, so that
nothing above them has to reason about overflow.
-/

namespace TrusteeBoard

/-- The sum of two 64-bit words, or the largest word when the sum is out of range. -/
def capAdd (a b : UInt64) : UInt64 :=
  if a.toNat + b.toNat ≤ 0xFFFFFFFFFFFFFFFF then a + b else 0xFFFFFFFFFFFFFFFF

/-- The difference of two 64-bit words, or zero when the second is larger. -/
def floorSub (a b : UInt64) : UInt64 :=
  if b ≤ a then a - b else 0

/-- The difference of two 32-bit words, or zero when the second is larger. -/
def floorSub32 (a b : UInt32) : UInt32 :=
  if b ≤ a then a - b else 0

theorem toNat_capAdd (a b : UInt64) :
    (capAdd a b).toNat = min (a.toNat + b.toNat) 0xFFFFFFFFFFFFFFFF := by
  unfold capAdd
  split
  · rw [UInt64.toNat_add]
    omega
  · show 0xFFFFFFFFFFFFFFFF = _
    omega

theorem toNat_floorSub (a b : UInt64) : (floorSub a b).toNat = a.toNat - b.toNat := by
  unfold floorSub
  split
  · next h => exact UInt64.toNat_sub_of_le a b h
  · next h =>
    rw [UInt64.le_iff_toNat_le] at h
    show 0 = _
    omega

theorem toNat_floorSub32 (a b : UInt32) : (floorSub32 a b).toNat = a.toNat - b.toNat := by
  unfold floorSub32
  split
  · next h => exact UInt32.toNat_sub_of_le a b h
  · next h =>
    rw [UInt32.le_iff_toNat_le] at h
    show 0 = _
    omega

theorem toNat_min32 (a b : UInt32) : (min a b).toNat = min a.toNat b.toNat := by
  rw [show min a b = if a ≤ b then a else b from rfl]
  split
  · next h =>
    rw [UInt32.le_iff_toNat_le] at h
    omega
  · next h =>
    rw [UInt32.le_iff_toNat_le] at h
    omega

theorem toNat_max32 (a b : UInt32) : (max a b).toNat = max a.toNat b.toNat := by
  rw [show max a b = if a ≤ b then b else a from rfl]
  split
  · next h =>
    rw [UInt32.le_iff_toNat_le] at h
    omega
  · next h =>
    rw [UInt32.le_iff_toNat_le] at h
    omega

theorem floorSub32_le (a b : UInt32) : floorSub32 a b ≤ a := by
  rw [UInt32.le_iff_toNat_le, toNat_floorSub32]
  omega

theorem min32_le_right (a b : UInt32) : min a b ≤ b := by
  rw [UInt32.le_iff_toNat_le, toNat_min32]
  omega

end TrusteeBoard
