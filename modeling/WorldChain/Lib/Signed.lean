import Mathlib

/-! # Signed words of 64 bits

An operation on signed words is exact if the result over the integers fits into a word, and wraps around otherwise.
-/

namespace Signed

/-- A word can hold the integer. -/
def Fits (value : ℤ) : Prop := -2 ^ 63 ≤ value ∧ value < 2 ^ 63

instance (value : ℤ) : Decidable (Fits value) := inferInstanceAs (Decidable (_ ∧ _))

theorem fits_toInt (word : Int64) : Fits word.toInt := ⟨word.le_toInt, word.toInt_lt⟩

variable {value : ℤ}

theorem Fits.of_between {low high : ℤ} (isLow : Fits low) (isHigh : Fits high) (below : low ≤ value)
    (above : value ≤ high) : Fits value :=
  ⟨isLow.1.trans below, above.trans_lt isHigh.2⟩

theorem Fits.bmod_eq (fits : Fits value) : value.bmod (2 ^ 64) = value :=
  Int.bmod_eq_of_le fits.1 fits.2

theorem tdiv_between {low high divisor : ℤ} (positive : 0 < divisor) (below : low * divisor ≤ value)
    (above : value ≤ high * divisor) : low ≤ value.tdiv divisor ∧ value.tdiv divisor ≤ high := by
  have lower := Int.tdiv_le_tdiv positive below
  have upper := Int.tdiv_le_tdiv positive above
  rw [Int.mul_tdiv_cancel _ positive.ne'] at lower upper
  exact ⟨lower, upper⟩

theorem Fits.tdiv {divisor : ℤ} (fits : Fits value) (positive : 0 < divisor) : Fits (value.tdiv divisor) := by
  obtain ⟨below, above⟩ := fits
  obtain ⟨lower, upper⟩ : -2 ^ 63 ≤ value.tdiv divisor ∧ value.tdiv divisor ≤ 2 ^ 63 - 1 :=
    tdiv_between positive (by omega) (by omega)
  exact ⟨lower, by omega⟩

variable {left right : Int64}

theorem toInt_add (fits : Fits (left.toInt + right.toInt)) : (left + right).toInt = left.toInt + right.toInt := by
  rw [Int64.toInt_add, fits.bmod_eq]

theorem toInt_sub (fits : Fits (left.toInt - right.toInt)) : (left - right).toInt = left.toInt - right.toInt := by
  rw [Int64.toInt_sub, fits.bmod_eq]

theorem toInt_mul (fits : Fits (left.toInt * right.toInt)) : (left * right).toInt = left.toInt * right.toInt := by
  rw [Int64.toInt_mul, fits.bmod_eq]

theorem toInt_div (fits : Fits (left.toInt.tdiv right.toInt)) :
    (left / right).toInt = left.toInt.tdiv right.toInt := by
  rw [Int64.toInt_div, fits.bmod_eq]

theorem toInt_max : (max left right).toInt = max left.toInt right.toInt := by
  have isMax : max left right = if left ≤ right then right else left := rfl
  rw [isMax, max_def, apply_ite Int64.toInt]
  exact if_congr Int64.le_iff_toInt_le rfl rfl

end Signed
