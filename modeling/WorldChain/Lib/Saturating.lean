import Mathlib

/-! # Saturating arithmetic on machine words

A sum that does not fit in a word is the largest word, and a difference below zero is zero.
-/

namespace Saturating

def add (left right : UInt64) : UInt64 := .ofNatClamp (left.toNat + right.toNat)

def sub (left right : UInt64) : UInt64 := .ofNat (left.toNat - right.toNat)

theorem toNat_add_eq_min (left right : UInt64) : (add left right).toNat = min (left.toNat + right.toNat) (2 ^ 64 - 1) := by
  rw [add, UInt64.ofNatClamp]
  split
  · next fits =>
    have bound : left.toNat + right.toNat < 2 ^ 64 := fits
    rw [min_eq_left (by omega)]
    rfl
  · next exceeds =>
    have bound : ¬ left.toNat + right.toNat < 2 ^ 64 := exceeds
    rw [min_eq_right (by omega)]
    rfl

theorem toNat_add {left right : UInt64} (fits : left.toNat + right.toNat < 2 ^ 64) :
    (add left right).toNat = left.toNat + right.toNat := by
  rw [toNat_add_eq_min, min_eq_left (by omega)]

theorem toNat_foldl_add_eq_min (words : List UInt64) (start : UInt64) :
    (words.foldl add start).toNat = min (start.toNat + (words.map UInt64.toNat).sum) (2 ^ 64 - 1) := by
  induction words generalizing start with
  | nil =>
    have word := start.toNat_lt
    rw [List.foldl_nil, List.map_nil, List.sum_nil, Nat.add_zero, min_eq_left (by omega)]
  | cons word rest ih =>
    rw [List.foldl_cons, ih, toNat_add_eq_min, List.map_cons, List.sum_cons]
    omega

theorem toNat_foldl_add {words : List UInt64} {start : UInt64}
    (fits : start.toNat + (words.map UInt64.toNat).sum < 2 ^ 64) :
    (words.foldl add start).toNat = start.toNat + (words.map UInt64.toNat).sum := by
  rw [toNat_foldl_add_eq_min, min_eq_left (by omega)]

theorem foldl_add_le_of_sublist {words others : List UInt64} (sublist : words.Sublist others) (start : UInt64) :
    words.foldl add start ≤ others.foldl add start := by
  rw [UInt64.le_iff_toNat_le, toNat_foldl_add_eq_min, toNat_foldl_add_eq_min]
  have totals := (sublist.map UInt64.toNat).sum_le_sum fun _ _ => Nat.zero_le _
  omega

end Saturating
