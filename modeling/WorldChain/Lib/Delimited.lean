import Mathlib

/-! # Segments that begin with a delimiter

A segment is a delimiter and then symbols that are not the delimiter. Segments written one after another can be told
apart again. Behind a text that does not contain what every segment contains, they also can be told from the text.
-/

namespace Delimited

variable {α : Type*} {delimiter : α}

/-- A delimiter, and no other one. -/
def IsSegment (delimiter : α) (segment : List α) : Prop :=
  ∃ rest, segment = delimiter :: rest ∧ delimiter ∉ rest

def Begins (delimiter : α) (text : List α) : Prop := ∀ symbol ∈ text.head?, symbol = delimiter

theorem begins_flatten {segments : List (List α)} (all : ∀ segment ∈ segments, IsSegment delimiter segment) :
    Begins delimiter segments.flatten := by
  cases segments with
  | nil => simp [Begins]
  | cons segment rest =>
    obtain ⟨symbols, rfl, -⟩ := all segment List.mem_cons_self
    simp [Begins]

theorem IsSegment.cut {segment rest before after : List α} (isSegment : IsSegment delimiter segment)
    (same : segment ++ rest = before ++ after) (begins : Begins delimiter after) :
    before = [] ∨ segment <+: before := by
  rcases List.append_eq_append_iff.mp same with ⟨gap, rfl, -⟩ | ⟨gap, split, rfl⟩
  · exact .inr (List.prefix_append ..)
  · cases gap with
    | nil => exact .inr (by rw [split, List.append_nil])
    | cons symbol gap =>
      -- The cut would be followed by the delimiter, which stands only at the start of the segment.
      obtain rfl : symbol = delimiter := begins symbol (by simp)
      obtain ⟨symbols, rfl, once⟩ := isSegment
      cases before with
      | nil => exact .inl rfl
      | cons first before =>
        have inside : symbols = before ++ symbol :: gap := (List.cons.inj split).2
        exact absurd (by simp [inside]) once

section

variable {segments others : List (List α)} (all : ∀ segment ∈ segments, IsSegment delimiter segment)
  (allOthers : ∀ segment ∈ others, IsSegment delimiter segment)

include all allOthers

theorem flatten_inj (same : segments.flatten = others.flatten) : segments = others := by
  have nonempty {segment : List α} (isSegment : IsSegment delimiter segment) : segment ≠ [] := by
    obtain ⟨_, rfl, -⟩ := isSegment
    simp
  induction segments generalizing others with
  | nil =>
    cases others with
    | nil => rfl
    | cons other rest =>
      simp only [List.flatten_nil, List.flatten_cons, List.nil_eq, List.append_eq_nil_iff] at same
      exact absurd same.1 (nonempty (allOthers other (by simp)))
  | cons segment rest ih =>
    cases others with
    | nil =>
      simp only [List.flatten_nil, List.flatten_cons, List.append_eq_nil_iff] at same
      exact absurd same.1 (nonempty (all segment (by simp)))
    | cons other later =>
      obtain ⟨here, restAll⟩ := List.forall_mem_cons.mp all
      obtain ⟨there, laterAll⟩ := List.forall_mem_cons.mp allOthers
      simp only [List.flatten_cons] at same
      have longer : segment <+: other := (here.cut same (begins_flatten laterAll)).resolve_left (nonempty there)
      have shorter : other <+: segment := (there.cut same.symm (begins_flatten restAll)).resolve_left (nonempty here)
      obtain rfl := longer.eq_of_length_le shorter.length_le
      rw [ih restAll laterAll (List.append_cancel_left same)]

theorem append_flatten_inj {text other : List α} (free : ∀ segment ∈ others, ¬segment <:+: text)
    (freeOther : ∀ segment ∈ segments, ¬segment <:+: other)
    (same : text ++ segments.flatten = other ++ others.flatten) : text = other ∧ segments = others := by
  have equal : text = other := by
    rcases List.append_eq_append_iff.mp same with ⟨gap, rfl, moved⟩ | ⟨gap, rfl, moved⟩
    · cases segments with
      | nil => simp_all
      | cons segment rest =>
        rcases (all segment (by simp)).cut moved (begins_flatten allOthers) with rfl | inside
        · simp
        · exact absurd (inside.isInfix.trans (List.suffix_append ..).isInfix) (freeOther segment (by simp))
    · cases others with
      | nil => simp_all
      | cons segment rest =>
        rcases (allOthers segment (by simp)).cut moved (begins_flatten all) with rfl | inside
        · simp
        · exact absurd (inside.isInfix.trans (List.suffix_append ..).isInfix) (free segment (by simp))
  subst equal
  exact ⟨rfl, flatten_inj all allOthers (List.append_cancel_left same)⟩

end

end Delimited
