import Mathlib

/-! # Fields of a word

A field is cut out of a word with a shift and a mask, and put into it with a shift and an or. As numbers these are a
quotient with a remainder, and a sum.
-/

namespace BitField

variable {w : ℕ}

theorem toNat_and_mask (word : BitVec w) (width : ℕ) (mask : BitVec w) (ones : mask.toNat = 2 ^ width - 1) :
    (word &&& mask).toNat = word.toNat % 2 ^ width := by
  rw [BitVec.toNat_and, ones, Nat.and_two_pow_sub_one_eq_mod]

theorem toNat_shiftRight (word : BitVec w) (offset : ℕ) : (word >>> offset).toNat = word.toNat / 2 ^ offset := by
  rw [BitVec.toNat_ushiftRight, Nat.shiftRight_eq_div_pow]

theorem toNat_shiftLeft (word : BitVec w) (offset : ℕ) (fits : word.toNat * 2 ^ offset < 2 ^ w) :
    (word <<< offset).toNat = word.toNat * 2 ^ offset := by
  rw [BitVec.toNat_shiftLeft, Nat.shiftLeft_eq, Nat.mod_eq_of_lt fits]

theorem toNat_or (high low : BitVec w) (offset : ℕ) (aligned : 2 ^ offset ∣ high.toNat) (small : low.toNat < 2 ^ offset) :
    (high ||| low).toNat = high.toNat + low.toNat := by
  obtain ⟨quotient, is⟩ := aligned
  rw [BitVec.toNat_or, is, Nat.two_pow_add_eq_or_of_lt small]

theorem toNat_placed {v : ℕ} (field : BitVec v) (offset : ℕ) (fits : v + offset ≤ w) :
    (field.setWidth w <<< offset).toNat = field.toNat * 2 ^ offset := by
  have placed : field.toNat * 2 ^ offset < 2 ^ w := by
    calc field.toNat * 2 ^ offset < 2 ^ v * 2 ^ offset := Nat.mul_lt_mul_of_pos_right field.isLt (Nat.two_pow_pos offset)
      _ = 2 ^ (v + offset) := (Nat.pow_add 2 v offset).symm
      _ ≤ 2 ^ w := Nat.pow_le_pow_right (by decide) fits
  have widened : (field.setWidth w).toNat = field.toNat := by
    rw [BitVec.toNat_setWidth, Nat.mod_eq_of_lt (field.isLt.trans_le (Nat.pow_le_pow_right (by decide) (by omega)))]
  rw [toNat_shiftLeft _ _ (widened ▸ placed), widened]

end BitField
