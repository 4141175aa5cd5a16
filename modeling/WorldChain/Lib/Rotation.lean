import Mathlib

/-! # Serving items in rotation

Items are kept sorted. A pass goes through them from the first one after a cursor, around to the cursor, and serves at
most as many as its budget allows; the cursor moves to the last one that was served.
-/

namespace Rotation

variable {α : Type*} [LinearOrder α]

/-- Begin after the cursor, and go around. -/
def startAfter (cursor : Option α) (sorted : List α) : List α :=
  match cursor with
  | none => sorted
  | some last => sorted.rotate (sorted.takeWhile (· ≤ last)).length

/-- What a pass serves. -/
def served (budget : ℕ) (cursor : Option α) (sorted : List α) : List α := (startAfter cursor sorted).take budget

/-- The cursor after a pass. -/
def advance (budget : ℕ) (cursor : Option α) (sorted : List α) : Option α :=
  (served budget cursor sorted).getLast?.or cursor

variable {sorted : List α} {cursor : Option α} {budget : ℕ}

theorem startAfter_eq_rotate (cursor : Option α) (sorted : List α) :
    ∃ count, startAfter cursor sorted = sorted.rotate count := by
  cases cursor with
  | none => exact ⟨0, (List.rotate_zero _).symm⟩
  | some last => exact ⟨_, rfl⟩

@[simp] theorem length_startAfter : (startAfter cursor sorted).length = sorted.length := by
  obtain ⟨count, rotated⟩ := startAfter_eq_rotate cursor sorted
  rw [rotated, List.length_rotate]

@[simp] theorem mem_startAfter {item : α} : item ∈ startAfter cursor sorted ↔ item ∈ sorted := by
  obtain ⟨count, rotated⟩ := startAfter_eq_rotate cursor sorted
  rw [rotated, List.mem_rotate]

/-! ## The order of a pass -/

theorem span_eq_filter (strict : sorted.Pairwise (· < ·)) (last : α) :
    sorted.takeWhile (· ≤ last) = sorted.filter (· ≤ last) ∧
      sorted.dropWhile (· ≤ last) = sorted.filter (last < ·) := by
  induction sorted with
  | nil => simp
  | cons first rest ih =>
    rw [List.pairwise_cons] at strict
    obtain ⟨taken, dropped⟩ := ih strict.2
    by_cases before : first ≤ last
    · simp [before, taken, dropped]
    · -- Nothing after `first` is up to the cursor either.
      have above : ∀ item ∈ rest, last < item := fun item member => (not_le.mp before).trans (strict.1 item member)
      have nothing : rest.filter (· ≤ last) = [] := by simpa using above
      have everything : rest.filter (last < ·) = rest := by simpa using above
      simp [before, not_le.mp before, nothing, everything]

theorem startAfter_some (strict : sorted.Pairwise (· < ·)) (last : α) :
    startAfter (some last) sorted = sorted.filter (last < ·) ++ sorted.filter (· ≤ last) := by
  obtain ⟨taken, dropped⟩ := span_eq_filter strict last
  have parts : sorted = sorted.takeWhile (· ≤ last) ++ sorted.dropWhile (· ≤ last) :=
    List.takeWhile_append_dropWhile.symm
  rw [startAfter]
  conv_lhs => enter [1]; rw [parts]
  rw [List.rotate_append_length_eq, taken, dropped]

theorem filter_startAfter (strict : sorted.Pairwise (· < ·)) (keep : α → Bool) :
    (startAfter cursor sorted).filter keep = startAfter cursor (sorted.filter keep) := by
  cases cursor with
  | none => rfl
  | some last =>
    rw [startAfter_some strict, startAfter_some (strict.filter _), List.filter_append]
    simp only [List.filter_filter, Bool.and_comm]

theorem filter_sort (items : Finset α) (keep : α → Bool) :
    (items.sort (· ≤ ·)).filter keep = (items.filter fun item => keep item = true).sort (· ≤ ·) := by
  refine List.Perm.eq_of_pairwise (fun _ _ _ _ => le_antisymm) ((items.pairwise_sort _).filter _)
    (Finset.pairwise_sort _ _) ((List.perm_ext_iff_of_nodup ?_ (Finset.sort_nodup _ _)).mpr ?_)
  · exact (Finset.sort_nodup _ _).filter _
  · simp

/-! ## The order of the next pass -/

section

variable (strict : sorted.Pairwise (· < ·))

include strict

theorem length_takeWhile_getElem {position : ℕ} (inside : position < sorted.length) :
    (sorted.takeWhile (· ≤ sorted[position])).length = position + 1 := by
  induction sorted generalizing position with
  | nil => cases inside
  | cons first rest ih =>
    rw [List.pairwise_cons] at strict
    cases position with
    | zero =>
      cases rest with
      | nil => simp
      | cons second rest => simp [strict.1 second List.mem_cons_self]
    | succ position =>
      have inside : position < rest.length := Nat.lt_of_succ_lt_succ inside
      have before : first ≤ rest[position] := (strict.1 _ (List.getElem_mem inside)).le
      rw [List.getElem_cons_succ, List.takeWhile_cons_of_pos (by simpa using before), List.length_cons,
        ih strict.2 inside]

theorem startAfter_getElem {position : ℕ} (inside : position < (startAfter cursor sorted).length) :
    startAfter (some (startAfter cursor sorted)[position]) sorted =
      (startAfter cursor sorted).rotate (position + 1) := by
  obtain ⟨count, rotated⟩ := startAfter_eq_rotate cursor sorted
  have within : position < sorted.length := by simpa using inside
  have wrapped : (position + count) % sorted.length < sorted.length := Nat.mod_lt _ (by omega)
  have item : (startAfter cursor sorted)[position] = sorted[(position + count) % sorted.length] := by
    simp only [rotated, List.getElem_rotate]
  rw [item, startAfter, length_takeWhile_getElem strict, rotated, List.rotate_rotate,
    ← List.rotate_mod sorted ((position + count) % sorted.length + 1),
      ← List.rotate_mod sorted (count + (position + 1)),
    Nat.mod_add_mod, show position + count + 1 = count + (position + 1) by omega]

theorem startAfter_advance :
    startAfter (advance budget cursor sorted) sorted =
      (startAfter cursor sorted).rotate (served budget cursor sorted).length := by
  rw [advance, List.getLast?_eq_getElem?]
  by_cases idle : (served budget cursor sorted).length = 0
  · rw [List.length_eq_zero_iff] at idle
    simp [idle]
  · have last : (served budget cursor sorted).length - 1 < (served budget cursor sorted).length := by omega
    have bound : (served budget cursor sorted).length ≤ (startAfter cursor sorted).length := by simp [served]
    have inside : (served budget cursor sorted).length - 1 < (startAfter cursor sorted).length := by omega
    have item : (served budget cursor sorted)[(served budget cursor sorted).length - 1] =
        (startAfter cursor sorted)[(served budget cursor sorted).length - 1] := by
      simp only [served, List.getElem_take]
    rw [List.getElem?_eq_getElem last, Option.some_or, item, startAfter_getElem strict inside,
      Nat.sub_add_cancel (by omega)]

theorem mem_served_or_advance {rest : ℕ} {item : α} (member : item ∈ served (budget + rest) cursor sorted) :
    item ∈ served budget cursor sorted ∨ item ∈ served rest (advance budget cursor sorted) sorted := by
  rw [served, List.take_add, List.mem_append] at member
  rcases member with now | later
  · exact .inl now
  · by_cases short : (startAfter cursor sorted).length ≤ budget
    · rw [List.drop_eq_nil_of_le short] at later
      simp at later
    · have full : (served budget cursor sorted).length = budget := by
        rw [served, List.length_take]
        omega
      right
      rw [served, startAfter_advance strict, full, List.rotate_eq_drop_append_take (by omega), List.take_append]
      exact List.mem_append_left _ later

end

theorem mem_served_of_length_le (enough : sorted.length ≤ budget) {item : α} (member : item ∈ sorted) :
    item ∈ served budget cursor sorted := by
  rw [served, List.take_of_length_le (by simpa using enough)]
  simpa using member

end Rotation
