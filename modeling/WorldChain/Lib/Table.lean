import Mathlib

/-! # Finite tables and the number of entries with a property

A table is a finite map with one type of entries. An operation on a table is described by what it does to `lookup`; how
many entries have a property then follows, since a change at one key changes the number by the difference at that key.
-/

namespace Table

variable {κ α : Type*} [DecidableEq κ]

def adjust (key : κ) (change : α → α) (table : Finmap fun _ : κ => α) : Finmap fun _ : κ => α :=
  match table.lookup key with
  | some entry => table.insert key (change entry)
  | none => table

/-- Apply a function to every entry. -/
def mapEntries (change : κ → α → α) (table : Finmap fun _ : κ => α) : Finmap fun _ : κ => α :=
  Finmap.keysLookupEquiv.symm ⟨(table.keys, fun key => (table.lookup key).map (change key)), fun key => by
    rw [Option.isSome_map, Finmap.lookup_isSome, Finmap.mem_keys]⟩

/-- The keys whose entries have a property. -/
def select (property : κ → α → Bool) (table : Finmap fun _ : κ => α) : Finset κ :=
  table.keys.filter fun key => (table.lookup key).any (property key)

/-- The number of entries with a property. -/
def count (property : κ → α → Bool) (table : Finmap fun _ : κ => α) : ℕ := (select property table).card

variable {key other : κ} {change : α → α} {table after : Finmap fun _ : κ => α} {property stronger : κ → α → Bool}

@[simp] theorem lookup_adjust_self : (adjust key change table).lookup key = (table.lookup key).map change := by
  unfold adjust
  cases present : table.lookup key <;> simp [present]

theorem lookup_adjust_of_ne (different : other ≠ key) : (adjust key change table).lookup other = table.lookup other := by
  unfold adjust
  cases table.lookup key with
  | none => rfl
  | some entry => exact Finmap.lookup_insert_of_ne _ different

@[simp] theorem lookup_mapEntries (change : κ → α → α) :
    (mapEntries change table).lookup key = (table.lookup key).map (change key) := by
  simp [mapEntries]

@[simp] theorem mem_select : key ∈ select property table ↔ ∃ entry, table.lookup key = some entry ∧ property key entry := by
  rw [select, Finset.mem_filter, Finmap.mem_keys, Option.any_eq_true]
  constructor
  · exact And.right
  · rintro ⟨entry, present, holds⟩
    exact ⟨Finmap.mem_of_lookup_eq_some present, entry, present, holds⟩

theorem count_le_count (implied : ∀ key entry, table.lookup key = some entry → property key entry = true →
    ∃ later, after.lookup key = some later ∧ stronger key later = true) : count property table ≤ count stronger after := by
  apply Finset.card_le_card
  intro key member
  obtain ⟨entry, present, holds⟩ := mem_select.mp member
  exact mem_select.mpr (implied key entry present holds)

theorem count_le_add {first second : κ → α → Bool}
    (covered : ∀ key entry, property key entry = true → first key entry = true ∨ second key entry = true) :
    count property table ≤ count first table + count second table := by
  refine (Finset.card_le_card ?_).trans (Finset.card_union_le _ _)
  intro key member
  obtain ⟨entry, present, holds⟩ := mem_select.mp member
  rcases covered key entry holds with left | right
  · exact Finset.mem_union_left _ (mem_select.mpr ⟨entry, present, left⟩)
  · exact Finset.mem_union_right _ (mem_select.mpr ⟨entry, present, right⟩)

theorem count_eq_erase (property : κ → α → Bool) (key : κ) (table : Finmap fun _ : κ => α) :
    count property table =
      ((select property table).erase key).card + ((table.lookup key).any (property key)).toNat := by
  have belongs : (table.lookup key).any (property key) = true ↔ key ∈ select property table := by
    rw [mem_select, Option.any_eq_true]
  by_cases member : key ∈ select property table
  · rw [belongs.mpr member, Bool.toNat_true, Finset.card_erase_add_one member, count]
  · rw [Bool.eq_false_iff.mpr (belongs.not.mpr member), Bool.toNat_false, Finset.erase_eq_of_notMem member, count,
      Nat.add_zero]

theorem count_change (property : κ → α → Bool) (elsewhere : ∀ other, other ≠ key → after.lookup other = table.lookup other) :
    count property after + ((table.lookup key).any (property key)).toNat =
      count property table + ((after.lookup key).any (property key)).toNat := by
  have same : (select property after).erase key = (select property table).erase key := by
    ext other
    rw [Finset.mem_erase, Finset.mem_erase]
    refine and_congr_right fun different => ?_
    rw [mem_select, mem_select, elsewhere other different]
  rw [count_eq_erase property key after, count_eq_erase property key table, same]
  omega

theorem count_adjust (property : κ → α → Bool) (change : α → α) {entry : α} (present : table.lookup key = some entry) :
    count property (adjust key change table) + (property key entry).toNat =
      count property table + (property key (change entry)).toNat := by
  have elsewhere : ∀ other, other ≠ key → (adjust key change table).lookup other = table.lookup other :=
    fun _ different => lookup_adjust_of_ne different
  have changed := count_change property elsewhere
  rwa [lookup_adjust_self, present, Option.map_some, Option.any_some, Option.any_some] at changed

/-! ## Operations that keep the keys -/

/-- The same keys have entries. -/
def SameKeys (table after : Finmap fun _ : κ => α) : Prop :=
  ∀ key, (after.lookup key).isSome = (table.lookup key).isSome

theorem SameKeys.refl (table : Finmap fun _ : κ => α) : SameKeys table table := fun _ => rfl

theorem SameKeys.trans {middle : Finmap fun _ : κ => α} (first : SameKeys table middle) (second : SameKeys middle after) :
    SameKeys table after :=
  fun key => (second key).trans (first key)

theorem sameKeys_adjust (key : κ) (change : α → α) (table : Finmap fun _ : κ => α) :
    SameKeys table (adjust key change table) := by
  intro other
  by_cases same : other = key
  · rw [same, lookup_adjust_self, Option.isSome_map]
  · rw [lookup_adjust_of_ne same]

theorem sameKeys_insert {entry later : α} (present : table.lookup key = some entry) :
    SameKeys table (table.insert key later) := by
  intro other
  by_cases same : other = key
  · rw [same, Finmap.lookup_insert, present, Option.isSome_some, Option.isSome_some]
  · rw [Finmap.lookup_insert_of_ne _ same]

/-- A choice among some keys, for each set of keys to choose from. -/
structure Chooser (κ : Type*) where
  pick : Finset κ → κ
  pick_mem : ∀ keys, keys.Nonempty → pick keys ∈ keys

end Table
