import Mathlib

/-! # Delivering an out-of-order sequence in order

Items arrive in any order, each with a position. A buffer keeps one slot per position and the first item for a slot
wins; what can be delivered is the contiguous run of filled slots from the front.
-/

namespace Reorder

variable {α : Type*}

def contiguous : List (Option α) → List α
  | some item :: rest => item :: contiguous rest
  | _ => []

def slot (slots : List (Option α)) (position : ℕ) : Option α := slots.getD position none

def resize (slots : List (Option α)) (size : ℕ) : List (Option α) :=
  slots ++ List.replicate (size - slots.length) none

@[simp] theorem slot_nil (position : ℕ) : slot ([] : List (Option α)) position = none := by
  simp [slot]

@[simp] theorem slot_cons_zero (first : Option α) (slots : List (Option α)) : slot (first :: slots) 0 = first := rfl

@[simp] theorem slot_cons_succ (first : Option α) (slots : List (Option α)) (position : ℕ) :
    slot (first :: slots) (position + 1) = slot slots position := rfl

@[simp] theorem slot_replicate_none (size position : ℕ) : slot (List.replicate size (none : Option α)) position = none := by
  simp only [slot, List.getD_eq_getElem?_getD, List.getElem?_replicate]
  split <;> rfl

theorem slot_drop (slots : List (Option α)) (cursor position : ℕ) :
    slot (slots.drop cursor) position = slot slots (cursor + position) := by
  simp [slot, List.getD_eq_getElem?_getD]

@[simp] theorem slot_resize (slots : List (Option α)) (size position : ℕ) :
    slot (resize slots size) position = slot slots position := by
  simp only [slot, resize, List.getD_eq_getElem?_getD, List.getElem?_append]
  split
  · rfl
  · next beyond =>
    have missing : slots[position]? = none := List.getElem?_eq_none (Nat.le_of_not_lt beyond)
    rw [missing, List.getElem?_replicate]
    split <;> rfl

variable {slots : List (Option α)}

theorem slot_set {position : ℕ} (within : position < slots.length) (item : Option α) (other : ℕ) :
    slot (slots.set position item) other = if other = position then item else slot slots other := by
  simp only [slot, List.getD_eq_getElem?_getD]
  by_cases same : other = position
  · subst same
    simp [within]
  · simp [List.getElem?_set_ne (Ne.symm same), same]

theorem contiguous_getElem?_eq_some {position : ℕ} {item : α} :
    (contiguous slots)[position]? = some item ↔
      slot slots position = some item ∧ ∀ earlier < position, slot slots earlier ≠ none := by
  induction slots generalizing position with
  | nil => simp [contiguous]
  | cons first rest ih =>
    cases first with
    | none =>
      simp only [contiguous, List.getElem?_nil, reduceCtorEq, false_iff, not_and]
      intro filled all
      cases position with
      | zero => cases filled
      | succ position => exact all 0 (Nat.succ_pos _) rfl
    | some head =>
      cases position with
      | zero => simp [contiguous]
      | succ position =>
        rw [contiguous, List.getElem?_cons_succ, ih, slot_cons_succ]
        refine and_congr_right fun _ => ⟨fun all earlier before => ?_, fun all earlier before => ?_⟩
        · cases earlier with
          | zero => simp
          | succ earlier => exact all earlier (by omega)
        · exact all (earlier + 1) (by omega)

theorem slot_contiguous_length (slots : List (Option α)) : slot slots (contiguous slots).length = none := by
  induction slots with
  | nil => rfl
  | cons first rest ih =>
    cases first with
    | none => rfl
    | some head => exact ih

theorem contiguous_eq_take_append (slots : List (Option α)) {cursor : ℕ} (within : cursor ≤ (contiguous slots).length) :
    contiguous slots = (contiguous slots).take cursor ++ contiguous (slots.drop cursor) := by
  induction cursor generalizing slots with
  | zero => rfl
  | succ cursor ih =>
    cases slots with
    | nil => simp [contiguous] at within
    | cons first rest =>
      cases first with
      | none => simp [contiguous] at within
      | some head =>
        rw [contiguous, List.take_succ_cons, List.cons_append, List.drop_succ_cons]
        exact congrArg (head :: ·) (ih rest (by simpa [contiguous] using within))

theorem contiguous_eq_nil (empty : slot slots 0 = none) : contiguous slots = [] := by
  cases slots with
  | nil => rfl
  | cons first rest =>
    obtain rfl : first = none := empty
    rfl

theorem contiguous_prefix_of_le {others : List (Option α)}
    (kept : ∀ position, slot slots position ≠ none → slot others position = slot slots position) :
    contiguous slots <+: contiguous others := by
  induction slots generalizing others with
  | nil => exact List.nil_prefix
  | cons first rest ih =>
    cases first with
    | none => exact List.nil_prefix
    | some head =>
      have headKept := kept 0 (by simp)
      cases others with
      | nil => cases headKept
      | cons other tail =>
        obtain rfl : other = some head := headKept
        rw [contiguous, contiguous, List.cons_prefix_cons]
        exact ⟨rfl, ih fun position filled => kept (position + 1) filled⟩

/-- The first item received for a position. -/
def firstAt (position : α → ℕ) (received : List α) (index : ℕ) : Option α :=
  received.find? fun item => position item = index

section

variable {position : α → ℕ} {received : List α} {slots : List (Option α)} {item : α}

@[simp] theorem firstAt_nil (index : ℕ) : firstAt position [] index = none := rfl

theorem firstAt_append_singleton (index : ℕ) : firstAt position (received ++ [item]) index =
    (firstAt position received index).or (if position item = index then some item else none) := by
  by_cases same : position item = index <;> simp [firstAt, List.find?_append, same]

theorem position_of_firstAt {index : ℕ} (first : firstAt position received index = some item) :
    position item = index := by
  simpa using List.find?_some first

theorem mem_of_firstAt {index : ℕ} (first : firstAt position received index = some item) : item ∈ received :=
  List.mem_of_find?_eq_some first

theorem firstAt_of_ordered (ordered : received.map position = List.range received.length) (index : ℕ) :
    firstAt position received index = received[index]? := by
  have place : ∀ other item, received[other]? = some item → position item = other := by
    intro other item present
    obtain ⟨within, rfl⟩ := List.getElem?_eq_some_iff.mp present
    have here := congrArg (·[other]?) ordered
    simpa [within] using here
  rcases Nat.lt_or_ge index received.length with within | beyond
  · rw [List.getElem?_eq_getElem within, firstAt, List.find?_eq_some_iff_getElem]
    refine ⟨decide_eq_true (place index _ (List.getElem?_eq_getElem within)), index, within, rfl, ?_⟩
    intro earlier before
    have different := place earlier _ (List.getElem?_eq_getElem (before.trans within))
    rw [Bool.not_eq_true', decide_eq_false_iff_not]
    omega
  · rw [List.getElem?_eq_none beyond, firstAt, List.find?_eq_none]
    intro item member
    have counted : position item ∈ received.map position := List.mem_map_of_mem member
    rw [ordered, List.mem_range] at counted
    rw [decide_eq_true_eq]
    omega

/-- Each slot holds the first item received for it. -/
def Holds (position : α → ℕ) (slots : List (Option α)) (received : List α) : Prop :=
  ∀ index, slot slots index = firstAt position received index

theorem Holds.repeated (holds : Holds position slots received) (filled : slot slots (position item) ≠ none) :
    Holds position slots (received ++ [item]) := by
  intro index
  rw [firstAt_append_singleton, ← holds index]
  by_cases same : position item = index
  · subst same
    obtain ⟨held, present⟩ := Option.ne_none_iff_exists'.mp filled
    simp [present]
  · simp [same]

theorem Holds.fresh (holds : Holds position slots received) (empty : slot slots (position item) = none)
    {filled : List (Option α)}
    (set : ∀ index, slot filled index = if index = position item then some item else slot slots index) :
    Holds position filled (received ++ [item]) := by
  intro index
  rw [set, firstAt_append_singleton, ← holds index]
  by_cases same : index = position item
  · subst same
    simp [empty]
  · simp [same, Ne.symm same]

def Firsts (position : α → ℕ) (received items : List α) : Prop :=
  ∀ index item, items[index]? = some item → firstAt position received index = some item

section

variable {items : List α} (firsts : Firsts position received items)

include firsts

theorem Firsts.positions : items.map position = List.range items.length := by
  apply List.ext_getElem (by simp)
  intro index within _
  rw [List.length_map] at within
  rw [List.getElem_map, List.getElem_range]
  exact position_of_firstAt (firsts index _ (List.getElem?_eq_getElem within))

theorem Firsts.take (count : ℕ) : Firsts position received (items.take count) := by
  intro index item present
  rw [List.getElem?_take] at present
  split at present
  · exact firsts index item present
  · cases present

theorem Firsts.firstAt_position (member : item ∈ items) :
    firstAt position received (position item) = some item := by
  obtain ⟨index, within, rfl⟩ := List.getElem_of_mem member
  have first := firsts index _ (List.getElem?_eq_getElem within)
  rw [position_of_firstAt first]
  exact first

end

/-- `items` is what the history calls for: the first item of each position in order, as far as possible. -/
structure Delivered (position : α → ℕ) (received items : List α) : Prop where
  first : Firsts position received items
  complete : firstAt position received items.length = none

theorem Holds.delivered (holds : Holds position slots received) : Delivered position received (contiguous slots) where
  first := fun index _ delivered => holds index ▸ (contiguous_getElem?_eq_some.mp delivered).1
  complete := holds _ ▸ slot_contiguous_length slots

/-- What was delivered is the first item of each position below the cursor, and from the cursor on each slot holds the
first item received for it. -/
structure Window (position : α → ℕ) (slots : List (Option α)) (cursor : ℕ) (received delivered : List α) : Prop where
  count : delivered.length = cursor
  first : Firsts position received delivered
  holds : ∀ index, cursor ≤ index → index < slots.length → slot slots index = firstAt position received index

section

variable {cursor : ℕ} {delivered : List α}

theorem Window.initial (size : ℕ) : Window position (List.replicate size none) 0 [] [] where
  count := rfl
  first := fun _ _ none => by cases none
  holds := fun index _ _ => slot_replicate_none size index

section

variable (window : Window position slots cursor received delivered)

include window

theorem Window.receive {filled : List (Option α)} (length : filled.length = slots.length)
    (put : ∀ index < slots.length, slot filled index =
      (slot slots index).or (if position item = index then some item else none)) :
    Window position filled cursor (received ++ [item]) delivered where
  count := window.count
  first := fun index other present => by
    rw [firstAt_append_singleton, window.first index other present, Option.some_or]
  holds := fun index reached within => by
    rw [length] at within
    rw [put index within, window.holds index reached within, firstAt_append_singleton]

theorem Window.take (present : slot slots cursor = some item) :
    Window position (slots.set cursor none) (cursor + 1) received (delivered ++ [item]) := by
  have within : cursor < slots.length := by
    by_contra beyond
    rw [slot, List.getD_eq_default _ _ (Nat.le_of_not_lt beyond)] at present
    cases present
  refine ⟨by simp [window.count], fun index other delivers => ?_, fun index reached inside => ?_⟩
  · rcases Nat.lt_or_ge index delivered.length with earlier | last
    · rw [List.getElem?_append_left earlier] at delivers
      exact window.first index other delivers
    · rw [List.getElem?_append_right last] at delivers
      obtain ⟨here, rfl⟩ : index = cursor ∧ item = other := by
        have offset : index - delivered.length = 0 := by
          simpa using List.getElem?_eq_some_iff.mp delivers |>.1
        rw [offset] at delivers
        exact ⟨by have := window.count; omega, Option.some.inj delivers⟩
      rw [here, ← window.holds cursor le_rfl within, present]
  · rw [List.length_set] at inside
    rw [slot_set within, if_neg (by omega), window.holds index (by omega) inside]

theorem Window.complete (empty : slot slots cursor = none) {index : ℕ} (within : index < slots.length)
    (inOrder : ∀ earlier ≤ index, firstAt position received earlier ≠ none) :
    delivered[index]? = firstAt position received index := by
  rcases Nat.lt_or_ge index cursor with before | reached
  · have present := List.getElem?_eq_getElem (window.count ▸ before : index < delivered.length)
    rw [present, window.first index _ present]
  · exact absurd (window.holds cursor le_rfl (by omega) ▸ empty) (inOrder cursor reached)

theorem Window.eq_take (empty : slot slots cursor = none) (bounded : cursor ≤ slots.length)
    (ordered : received.map position = List.range received.length) :
    delivered = received.take slots.length := by
  have length := window.count
  apply List.ext_getElem?
  intro index
  rw [List.getElem?_take]
  rcases Nat.lt_or_ge index slots.length with inside | outside
  · rw [if_pos inside, ← firstAt_of_ordered ordered]
    rcases Nat.lt_or_ge index cursor with before | reached
    · have present := List.getElem?_eq_getElem (length ▸ before : index < delivered.length)
      rw [present, window.first index _ present]
    · rw [List.getElem?_eq_none (by omega), firstAt_of_ordered ordered, eq_comm, List.getElem?_eq_none_iff]
      have missing := window.holds cursor le_rfl (by omega)
      rw [empty, firstAt_of_ordered ordered, eq_comm, List.getElem?_eq_none_iff] at missing
      omega
  · rw [if_neg (by omega), List.getElem?_eq_none (by omega)]

end

end

end

end Reorder
