import Mathlib

/-! # Ordered maps that forget their lowest keys

A map with natural keys that is cut down to its highest keys, and the entries of an interval of keys. Where an interval
has as many entries as keys, its entries are those of its keys, in order.
-/

namespace OrderedMap

open Std (ExtTreeMap)

variable {α : Type*}

/-- Remove the entry with the lowest key. -/
def popFirst (map : ExtTreeMap ℕ α) : ExtTreeMap ℕ α :=
  match map.toList with
  | [] => map
  | (key, _) :: _ => map.erase key

def truncate (depth : ℕ) (map : ExtTreeMap ℕ α) : ExtTreeMap ℕ α := popFirst^[map.size - depth] map

def range (start stop : ℕ) (map : ExtTreeMap ℕ α) : List α :=
  (map.toList.filter fun entry => start ≤ entry.1 ∧ entry.1 ≤ stop).map Prod.snd

variable {map : ExtTreeMap ℕ α} {depth start stop key : ℕ} {value : α}

theorem getElem?_of_popFirst (present : (popFirst map)[key]? = some value) : map[key]? = some value := by
  rw [popFirst] at present
  split at present
  · exact present
  · rw [ExtTreeMap.getElem?_erase] at present
    split at present
    · cases present
    · exact present

theorem getElem?_of_truncate (present : (truncate depth map)[key]? = some value) : map[key]? = some value := by
  have left (count : ℕ) (rest : ExtTreeMap ℕ α) (present : (popFirst^[count] rest)[key]? = some value) :
      rest[key]? = some value := by
    induction count generalizing rest with
    | zero => exact present
    | succ count ih => exact getElem?_of_popFirst (ih (popFirst rest) present)
  exact left (map.size - depth) map present

theorem truncate_of_size_le (small : map.size ≤ depth) : truncate depth map = map := by
  rw [truncate, Nat.sub_eq_zero_of_le small, Function.iterate_zero_apply]

theorem eq_range' {numbers : List ℕ} {length : ℕ} (ascending : numbers.Pairwise (· < ·))
    (within : ∀ number ∈ numbers, start ≤ number ∧ number < start + length) (all : numbers.length = length) :
    numbers = List.range' start length := by
  have distinct : numbers.Nodup := ascending.imp Nat.ne_of_lt
  have same : numbers.toFinset = (List.range' start length).toFinset := by
    apply Finset.eq_of_subset_of_card_le
    · intro number member
      rw [List.mem_toFinset, List.mem_range'_1]
      exact within number (List.mem_toFinset.mp member)
    · rw [List.toFinset_card_of_nodup distinct, all]
      exact (List.toFinset_card_le _).trans List.length_range'.le
  have perm := List.perm_of_nodup_nodup_toFinset_eq distinct List.nodup_range' same
  exact perm.eq_of_pairwise (fun _ _ _ _ => le_antisymm) (ascending.imp le_of_lt) List.pairwise_le_range'

theorem range_complete (complete : (range start stop map).length = stop + 1 - start) :
    List.Forall₂ (fun key value => map[key]? = some value) (List.range' start (stop + 1 - start))
      (range start stop map) := by
  rw [range, List.length_map] at complete
  have keys : (map.toList.filter fun entry => start ≤ entry.1 ∧ entry.1 ≤ stop).map Prod.fst =
      List.range' start (stop + 1 - start) := by
    apply eq_range'
    · rw [List.pairwise_map]
      exact (ExtTreeMap.ordered_keys_toList.filter _).imp fun {_ _} less => Nat.compare_eq_lt.mp less
    · intro number member
      obtain ⟨entry, selected, rfl⟩ := List.mem_map.mp member
      have := of_decide_eq_true (List.mem_filter.mp selected).2
      omega
    · rw [List.length_map, complete]
  rw [range, ← keys, List.forall₂_map_left_iff, List.forall₂_map_right_iff, List.forall₂_same]
  intro entry selected
  exact ExtTreeMap.mem_toList_iff_getElem?_eq_some.mp (List.mem_filter.mp selected).1

end OrderedMap
