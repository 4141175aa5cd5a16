import Mathlib

/-! # Balances over a finite set of accounts

A ledger assigns an amount to every account. Crediting and debiting one account move the total by exactly the amount.
-/

namespace Ledger

open Finset

variable {α : Type*} [DecidableEq α]

/-- Add `amount` to one account. -/
def credit (ledger : α → ℕ) (account : α) (amount : ℕ) : α → ℕ :=
  Function.update ledger account (ledger account + amount)

def debit (ledger : α → ℕ) (account : α) (amount : ℕ) : α → ℕ :=
  Function.update ledger account (ledger account - amount)

@[simp] theorem credit_self (ledger : α → ℕ) (account : α) (amount : ℕ) :
    credit ledger account amount account = ledger account + amount := by
  simp [credit]

theorem credit_of_ne (ledger : α → ℕ) {account other : α} (amount : ℕ) (distinct : other ≠ account) :
    credit ledger account amount other = ledger other := by
  simp [credit, distinct]

theorem credit_apply (ledger : α → ℕ) (account other : α) (amount : ℕ) :
    credit ledger account amount other = ledger other + if other = account then amount else 0 := by
  by_cases same : other = account
  · simp [same]
  · simp [credit_of_ne _ _ same, same]

theorem eq_or_ne_zero_of_credit {ledger : α → ℕ} {account other : α} {amount : ℕ}
    (funded : credit ledger account amount other ≠ 0) : other = account ∨ ledger other ≠ 0 := by
  rw [credit_apply] at funded
  split at funded
  · next same => exact .inl same
  · exact .inr (by omega)

theorem sum_map_filter {β : Type*} (value : β → ℕ) (keep : β → Bool) (entries : List β)
    (kept : ∀ entry ∈ entries, value entry ≠ 0 → keep entry = true) :
    ((entries.filter keep).map value).sum = (entries.map value).sum := by
  induction entries with
  | nil => rfl
  | cons entry rest ih =>
    have tail := ih (fun other member => kept other (List.mem_cons_of_mem _ member))
    by_cases keeps : keep entry = true
    · simp only [List.filter_cons_of_pos keeps, List.map_cons, List.sum_cons, tail]
    · have zero : value entry = 0 := by
        by_contra funded
        exact keeps (kept entry List.mem_cons_self funded)
      simp only [List.filter_cons_of_neg keeps, List.map_cons, List.sum_cons, tail, zero, Nat.zero_add]

section Totals

variable [Fintype α]

theorem sum_credit (ledger : α → ℕ) (account : α) (amount : ℕ) :
    ∑ other, credit ledger account amount other = ∑ other, ledger other + amount := by
  simp only [credit_apply, sum_add_distrib, sum_ite_eq', mem_univ, if_true]

theorem sum_debit (ledger : α → ℕ) (account : α) (amount : ℕ) (covered : amount ≤ ledger account) :
    ∑ other, debit ledger account amount other + amount = ∑ other, ledger other := by
  have restored : credit (debit ledger account amount) account amount = ledger := by
    funext other
    by_cases same : other = account
    · subst same
      simp [debit, Nat.sub_add_cancel covered]
    · simp [credit_of_ne _ _ same, debit, same]
  rw [← sum_credit, restored]

theorem sum_update_add {β : Type*} (value : β → ℕ) (entries : α → β) (key : α) (entry : β) :
    ∑ other, value (Function.update entries key entry other) + value (entries key) =
      ∑ other, value (entries other) + value entry := by
  have updated : (fun other => value (Function.update entries key entry other)) =
      Function.update (fun other => value (entries other)) key (value entry) := by
    funext other
    exact Function.apply_update (fun _ => value) entries key entry other
  rw [updated, sum_update_of_mem (mem_univ key), add_right_comm,
    ← add_sum_erase univ (fun other => value (entries other)) (mem_univ key), sdiff_singleton_eq_erase]
  omega

theorem sum_map_of_covers (ledger : α → ℕ) {accounts : List α} (once : accounts.Nodup)
    (covers : ∀ account, ledger account ≠ 0 → account ∈ accounts) :
    (accounts.map ledger).sum = ∑ account, ledger account := by
  rw [← List.sum_toFinset ledger once]
  apply sum_subset (subset_univ _)
  intro account _ absent
  by_contra funded
  exact absent (List.mem_toFinset.mpr (covers account funded))

end Totals

end Ledger
