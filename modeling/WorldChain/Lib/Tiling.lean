import Mathlib

/-! # Cutting an interval into pieces that fit

A tiling of an interval is a list of pieces that lie end to end from its start to its end. What fits is closed under
taking parts. If no piece fits when it is made longer, no tiling whose pieces fit has fewer.
-/

variable {α : Type*} [LinearOrder α]

/-- The pieces lie end to end from `first` to `last`, and none is empty. -/
inductive Tiling : α → List (α × α) → α → Prop
  | nil (first : α) : Tiling first [] first
  | cons {first middle last : α} {pieces : List (α × α)} (nonempty : first < middle) (rest : Tiling middle pieces last) :
      Tiling first ((first, middle) :: pieces) last

namespace Tiling

variable {fits : α → α → Prop} {first middle last start stop : α} {pieces others : List (α × α)}

theorem first_le_last (tiling : Tiling first pieces last) : first ≤ last := by
  induction tiling with
  | nil first => exact le_rfl
  | cons nonempty _ ih => exact nonempty.le.trans ih

variable {piece : α × α}

theorem lt_of_mem (tiling : Tiling first pieces last) (member : piece ∈ pieces) : piece.1 < piece.2 := by
  induction tiling with
  | nil first => cases member
  | cons nonempty _ ih =>
    rcases List.mem_cons.mp member with rfl | later
    · exact nonempty
    · exact ih later

theorem append (tiling : Tiling first pieces middle) (rest : Tiling middle others last) :
    Tiling first (pieces ++ others) last := by
  induction tiling with
  | nil first => exact rest
  | cons nonempty _ ih => exact .cons nonempty (ih rest)

theorem concat (tiling : Tiling first pieces middle) (nonempty : middle < last) :
    Tiling first (pieces ++ [(middle, last)]) last :=
  tiling.append (.cons nonempty (.nil last))

theorem append_iff : Tiling first (pieces ++ others) last ↔ ∃ middle, Tiling first pieces middle ∧ Tiling middle others last := by
  constructor
  · intro tiling
    induction pieces generalizing first with
    | nil => exact ⟨first, .nil first, tiling⟩
    | cons piece pieces ih =>
      cases tiling with
      | cons nonempty rest =>
        obtain ⟨middle, left, right⟩ := ih rest
        exact ⟨middle, .cons nonempty left, right⟩
  · rintro ⟨middle, left, right⟩
    exact left.append right

theorem first_le_of_mem (tiling : Tiling first pieces last) (member : piece ∈ pieces) : first ≤ piece.1 := by
  induction tiling with
  | nil first => cases member
  | cons nonempty _ ih =>
    rcases List.mem_cons.mp member with rfl | later
    · exact le_rfl
    · exact nonempty.le.trans (ih later)

theorem pairwise (tiling : Tiling first pieces last) : pieces.Pairwise fun before after => before.2 ≤ after.1 := by
  induction tiling with
  | nil first => exact .nil
  | cons nonempty rest ih => exact .cons (fun _ later => rest.first_le_of_mem later) ih

theorem not_within (tiling : Tiling first (pieces ++ (start, stop) :: others) last)
    (member : piece ∈ pieces ++ others) :
    ¬ (piece.1 ≤ start ∧ stop ≤ piece.2) ∧ ¬ (start ≤ piece.1 ∧ piece.2 ≤ stop) := by
  have held : (start, stop) ∈ pieces ++ (start, stop) :: others := by simp
  have nonempty : start < stop := tiling.lt_of_mem held
  have filled : piece.1 < piece.2 := by
    apply tiling.lt_of_mem
    rcases List.mem_append.mp member with before | after
    · exact List.mem_append_left _ before
    · exact List.mem_append_right _ (List.mem_cons_of_mem _ after)
  obtain ⟨_, right, across⟩ := List.pairwise_append.mp tiling.pairwise
  rcases List.mem_append.mp member with before | after
  · have apart := across piece before _ List.mem_cons_self
    exact ⟨fun within => absurd (within.2.trans apart) (not_le.mpr nonempty),
      fun within => absurd (apart.trans within.1) (not_le.mpr filled)⟩
  · have apart := (List.pairwise_cons.mp right).1 piece after
    exact ⟨fun within => absurd (apart.trans within.1) (not_le.mpr nonempty),
      fun within => absurd (within.2.trans apart) (not_le.mpr filled)⟩

theorem cut (tiling : Tiling first (pieces ++ (start, stop) :: others) last) {middle : α} (after : start < middle)
    (before : middle < stop) : Tiling first (pieces ++ (start, middle) :: (middle, stop) :: others) last := by
  obtain ⟨_, left, right⟩ := append_iff.mp tiling
  cases right with
  | cons _ rest => exact left.append (.cons after (.cons before rest))

def Maximal (fits : α → α → Prop) (last : α) (piece : α × α) : Prop :=
  ∀ further, piece.2 < further → further ≤ last → ¬ fits piece.1 further

theorem length_le_of_maximal (parts : ∀ {low high low' high'}, low ≤ low' → low' < high' → high' ≤ high → fits low high →
      fits low' high')
    (tiling : Tiling first pieces last) (maximal : ∀ piece ∈ pieces, Maximal fits last piece)
    {start : α} (other : Tiling start others last) (fit : ∀ piece ∈ others, fits piece.1 piece.2) (before : start ≤ first) :
    pieces.length ≤ others.length := by
  induction tiling generalizing start others with
  | nil first => exact Nat.zero_le _
  | @cons first middle last pieces nonempty rest ih =>
    cases other with
    | nil start => exact absurd (nonempty.trans_le rest.first_le_last) (not_lt.mpr before)
    | @cons _ reached _ others _ later =>
      -- The other tiling has not come further with its first piece, since a part of that piece would fit.
      have behind : reached ≤ middle := by
        by_contra ahead
        apply maximal (first, middle) List.mem_cons_self reached (not_le.mp ahead) later.first_le_last
        exact parts before (nonempty.trans (not_le.mp ahead)) le_rfl (fit (start, reached) List.mem_cons_self)
      apply Nat.succ_le_succ
      exact ih (fun piece member => maximal piece (List.mem_cons_of_mem _ member)) later
        (fun piece member => fit piece (List.mem_cons_of_mem _ member)) behind

end Tiling
