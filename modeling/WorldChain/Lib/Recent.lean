import Mathlib

/-! # A bounded memory of what was seen from whom

The memory is a queue of keys, each with the set of sources it was seen from. A key that is not in it enters at the
end, and the oldest one leaves when the memory is full. `note` says whether the key is new from the source.
-/

namespace Recent

variable {κ ρ α β : Type*}

/-- Change the first element that is selected. -/
def amendFirst (selected : α → Bool) (change : α → α) : List α → List α
  | [] => []
  | head :: rest => if selected head then change head :: rest else head :: amendFirst selected change rest

theorem map_amendFirst {selected : α → Bool} {change : α → α} (view : α → β) {seen : β → Bool} {amend : β → β}
    (same : ∀ element, seen (view element) = selected element)
    (changed : ∀ element, selected element = true → view (change element) = amend (view element)) (list : List α) :
    (amendFirst selected change list).map view = amendFirst seen amend (list.map view) := by
  induction list with
  | nil => rfl
  | cons head rest ih =>
    simp only [amendFirst, List.map_cons, same]
    split
    · next chosen => rw [List.map_cons, changed head chosen]
    · rw [List.map_cons, ih]

theorem map_amendFirst_eq (selected : α → Bool) (change : α → α) (view : α → β)
    (unseen : ∀ element, view (change element) = view element) (list : List α) :
    (amendFirst selected change list).map view = list.map view := by
  induction list with
  | nil => rfl
  | cons head rest ih =>
    simp only [amendFirst]
    split
    · rw [List.map_cons, unseen, List.map_cons]
    · rw [List.map_cons, ih, List.map_cons]

/-- Make room for one more element. -/
def evict (capacity : ℕ) (list : List α) : List α := if capacity ≤ list.length then list.tail else list

theorem map_evict (capacity : ℕ) (view : α → β) (list : List α) :
    (evict capacity list).map view = evict capacity (list.map view) := by
  simp only [evict, List.length_map]
  split
  · exact List.map_tail
  · rfl

theorem evict_sublist (capacity : ℕ) (list : List α) : (evict capacity list).Sublist list := by
  rw [evict]
  split
  · exact List.tail_sublist list
  · exact List.Sublist.refl list

theorem length_evict_lt {capacity : ℕ} {list : List α} (positive : 0 < capacity) (bounded : list.length ≤ capacity) :
    (evict capacity list).length < capacity := by
  rw [evict]
  split
  · rw [List.length_tail]
    omega
  · omega

theorem eq_append_of_evict {capacity : ℕ} {list older newer : List α} {entry : α}
    (left : evict capacity list = older ++ entry :: newer) : ∃ earlier, list = earlier ++ entry :: newer := by
  rw [evict] at left
  split at left
  · cases list with
    | nil => exact absurd left (by simp)
    | cons oldest rest => exact ⟨oldest :: older, by rw [List.cons_append, ← left, List.tail_cons]⟩
  · exact ⟨older, left⟩

theorem split_append {calls past between : List (κ × ρ)} {key : κ} {first : ρ}
    (split : calls = past ++ (key, first) :: between) (call : κ × ρ) :
    calls ++ [call] = past ++ (key, first) :: (between ++ [call]) := by
  simp [split]

section Notes

variable [DecidableEq κ]

/-- What the memory holds of a key. -/
def find (memory : List (κ × Finset ρ)) (key : κ) : Option (κ × Finset ρ) := memory.find? fun entry => entry.1 = key

/-- Fewer than `capacity` other keys are noted between two notes of a key. -/
def Spaced (capacity : ℕ) (calls : List (κ × ρ)) : Prop :=
  ∀ past between rest key first second, calls = past ++ (key, first) :: between ++ (key, second) :: rest →
    ((between.map Prod.fst).toFinset.erase key).card < capacity

theorem Spaced.of_append {capacity : ℕ} {calls rest : List (κ × ρ)} (spaced : Spaced capacity (calls ++ rest)) :
    Spaced capacity calls := by
  rintro past between later key first second rfl
  exact spaced past between (later ++ rest) key first second (by simp)

theorem spaced_of_length_le {capacity : ℕ} {calls : List (κ × ρ)} (few : calls.length ≤ capacity) : Spaced capacity calls := by
  rintro past between rest key first second rfl
  have lengths : between.length < capacity := by
    simp only [List.length_append, List.length_cons] at few
    omega
  calc ((between.map Prod.fst).toFinset.erase key).card
      ≤ (between.map Prod.fst).toFinset.card := Finset.card_erase_le
    _ ≤ (between.map Prod.fst).length := List.toFinset_card_le _
    _ < capacity := by rwa [List.length_map]

variable {capacity : ℕ} {memory : List (κ × Finset ρ)} {key : κ} {calls : List (κ × ρ)} {call : κ × ρ}

theorem mem_of_find {entry : κ × Finset ρ} (found : find memory key = some entry) : entry ∈ memory ∧ entry.1 = key :=
  ⟨List.mem_of_find?_eq_some found, by simpa using List.find?_some found⟩

theorem not_mem_keys_of_find (absent : find memory key = none) : key ∉ memory.map Prod.fst := by
  intro member
  obtain ⟨entry, held, same⟩ := List.mem_map.mp member
  have passed := List.find?_eq_none.mp absent entry held
  simp [same] at passed

theorem card_erase_le_append (between : List (κ × ρ)) (call : κ × ρ) : ((between.map Prod.fst).toFinset.erase key).card ≤
    (((between ++ [call]).map Prod.fst).toFinset.erase key).card := by
  apply Finset.card_le_card
  apply Finset.erase_subset_erase
  intro other member
  simp only [List.mem_toFinset, List.map_append, List.mem_append] at member ⊢
  exact .inl member

/-! ## What the memory knows -/

/-- What a memory knows of the notes made so far. -/
structure Knows (capacity : ℕ) (calls : List (κ × ρ)) (memory : List (κ × Finset ρ)) : Prop where
  unique : (memory.map Prod.fst).Nodup
  bounded : memory.length ≤ capacity
  ordered : ∀ older key sources newer, memory = older ++ (key, sources) :: newer →
    ∃ past first between, calls = past ++ (key, first) :: between ∧ ∀ other ∈ newer.map Prod.fst, other ∈ between.map Prod.fst
  forgotten : ∀ key ∈ calls.map Prod.fst, key ∉ memory.map Prod.fst →
    ∃ past first between, calls = past ++ (key, first) :: between ∧
      capacity ≤ ((between.map Prod.fst).toFinset.erase key).card
  sources : ∀ key sources, (key, sources) ∈ memory → ∀ source, source ∈ sources ↔ (key, source) ∈ calls

theorem Knows.nil : Knows capacity ([] : List (κ × ρ)) [] where
  unique := List.nodup_nil
  bounded := Nat.zero_le _
  ordered := fun older _ _ newer split => by simp at split
  forgotten := fun _ member => by cases member
  sources := fun _ _ member => by cases member

theorem Knows.evicted (knows : Knows capacity calls memory) (absent : call.1 ∉ memory.map Prod.fst)
    (leaves : key ∈ memory.map Prod.fst) (gone : key ∉ (evict capacity memory).map Prod.fst) :
    ∃ past first between, calls ++ [call] = past ++ (key, first) :: between ∧
      capacity ≤ ((between.map Prod.fst).toFinset.erase key).card := by
  by_cases full : capacity ≤ memory.length
  · rw [evict, if_pos full] at gone
    cases memory with
    | nil => cases leaves
    | cons oldest newer =>
      obtain rfl : key = oldest.1 := (List.mem_cons.mp leaves).resolve_right gone
      obtain ⟨past, first, between, divided, covers⟩ := knows.ordered [] oldest.1 oldest.2 newer rfl
      refine ⟨past, first, between ++ [call], split_append divided call, ?_⟩
      have unique : (newer.map Prod.fst ++ [call.1]).Nodup := by
        refine List.Nodup.append (List.nodup_cons.mp knows.unique).2 (List.nodup_singleton _) ?_
        simp only [List.disjoint_singleton]
        exact fun member => absent (List.mem_cons_of_mem _ member)
      have within : (newer.map Prod.fst ++ [call.1]).toFinset ⊆
          (((between ++ [call]).map Prod.fst).toFinset.erase oldest.1) := by
        intro other member
        rw [List.mem_toFinset, List.mem_append] at member
        rw [Finset.mem_erase, List.mem_toFinset, List.map_append, List.mem_append]
        rcases member with inside | last
        · exact ⟨fun same => gone (same ▸ inside), .inl (covers other inside)⟩
        · obtain rfl := List.mem_singleton.mp last
          exact ⟨fun same => absent (same ▸ List.mem_cons_self), .inr (by simp)⟩
      calc capacity ≤ (newer.map Prod.fst ++ [call.1]).length := by simpa using full
        _ = (newer.map Prod.fst ++ [call.1]).toFinset.card := (List.toFinset_card_of_nodup unique).symm
        _ ≤ _ := Finset.card_le_card within
  · rw [evict, if_neg full] at gone
    exact absurd leaves gone

theorem Knows.forgotten_append (knows : Knows capacity calls memory) (noted : key ∈ (calls ++ [call]).map Prod.fst)
    (different : key ≠ call.1) (absent : key ∉ memory.map Prod.fst) :
    ∃ past first between, calls ++ [call] = past ++ (key, first) :: between ∧
      capacity ≤ ((between.map Prod.fst).toFinset.erase key).card := by
  have earlier : key ∈ calls.map Prod.fst := by
    rw [List.map_append, List.mem_append] at noted
    exact noted.resolve_right (by simpa using different)
  obtain ⟨past, first, between, divided, many⟩ := knows.forgotten key earlier absent
  exact ⟨past, first, between ++ [call], split_append divided call, many.trans (card_erase_le_append _ _)⟩

theorem Knows.enter (positive : 0 < capacity) (knows : Knows capacity calls memory)
    (missing : call.1 ∉ memory.map Prod.fst) (new : call.1 ∉ calls.map Prod.fst) :
    Knows capacity (calls ++ [call]) (evict capacity memory ++ [(call.1, {call.2})]) := by
  have kept : ((evict capacity memory).map Prod.fst).Sublist (memory.map Prod.fst) := (evict_sublist _ _).map _
  refine ⟨?_, ?_, fun older key sources newer split => ?_, fun key member gone => ?_, fun key sources present source => ?_⟩
  · rw [List.map_append]
    refine List.Nodup.append (knows.unique.sublist kept) (List.nodup_singleton _) ?_
    simp only [List.map_cons, List.map_nil, List.disjoint_singleton]
    exact fun member => missing (kept.subset member)
  · have room := length_evict_lt positive knows.bounded
    simpa using room
  · rcases List.eq_nil_or_concat newer with rfl | ⟨front, last, rfl⟩
    · obtain ⟨_, ends⟩ := List.append_inj' split rfl
      obtain ⟨rfl, rfl⟩ := Prod.mk.inj (List.singleton_inj.mp ends)
      exact ⟨calls, call.2, [], rfl, fun _ none => by cases none⟩
    · have shifted : evict capacity memory ++ [(call.1, {call.2})] = (older ++ (key, sources) :: front) ++ [last] := by
        simpa using split
      obtain ⟨stays, ends⟩ := List.append_inj' shifted rfl
      obtain rfl := List.singleton_inj.mp ends
      obtain ⟨earlier, whole⟩ := eq_append_of_evict stays
      obtain ⟨past, first, between, divided, covers⟩ := knows.ordered earlier key sources front whole
      refine ⟨past, first, between ++ [call], split_append divided call, fun other member => ?_⟩
      simp only [List.concat_eq_append, List.map_append, List.mem_append, List.map_cons, List.map_nil] at member ⊢
      exact member.imp_left (covers other)
  · rw [List.map_append, List.mem_append, not_or] at gone
    by_cases held : key ∈ memory.map Prod.fst
    · exact knows.evicted missing held gone.1
    · have different : key ≠ call.1 := by simpa using gone.2
      exact knows.forgotten_append member different held
  · rw [List.mem_append, List.mem_singleton]
    rcases List.mem_append.mp present with inside | last
    · have held := (evict_sublist capacity memory).subset inside
      rw [knows.sources key sources held source]
      refine ⟨.inl, fun noted => noted.resolve_right ?_⟩
      rintro rfl
      exact missing (List.mem_map_of_mem held)
    · obtain ⟨rfl, rfl⟩ := Prod.mk.inj (List.mem_singleton.mp last)
      rw [Finset.mem_singleton]
      constructor
      · rintro rfl
        exact .inr rfl
      · rintro (earlier | same)
        · exact absurd (List.mem_map_of_mem earlier) new
        · exact congrArg Prod.snd same

theorem Knows.not_mem_of_absent (knows : Knows capacity calls memory) (spaced : Spaced capacity (calls ++ [call]))
    (absent : call.1 ∉ memory.map Prod.fst) : call.1 ∉ calls.map Prod.fst := by
  intro noted
  obtain ⟨past, first, between, divided, many⟩ := knows.forgotten call.1 noted absent
  have few := spaced past between [] call.1 first call.2 (by simp [divided])
  omega

variable [DecidableEq ρ]

/-- Add a source to the first entry of a key. -/
def mark (memory : List (κ × Finset ρ)) (call : κ × ρ) : List (κ × Finset ρ) :=
  amendFirst (fun entry => entry.1 = call.1) (fun entry => (entry.1, insert call.2 entry.2)) memory

theorem keys_mark (memory : List (κ × Finset ρ)) (call : κ × ρ) : (mark memory call).map Prod.fst = memory.map Prod.fst := by
  exact map_amendFirst_eq _ (fun entry => (entry.1, insert call.2 entry.2)) Prod.fst (fun _ => rfl) memory

theorem mem_mark {sources : Finset ρ} (unique : (memory.map Prod.fst).Nodup) (member : (key, sources) ∈ mark memory call) :
    ∃ before, (key, before) ∈ memory ∧ sources = if key = call.1 then insert call.2 before else before := by
  induction memory with
  | nil => cases member
  | cons head rest ih =>
    obtain ⟨absent, unique⟩ := List.nodup_cons.mp unique
    simp only [mark, amendFirst] at member
    split at member
    · next same =>
      rcases List.mem_cons.mp member with isHead | later
      · obtain ⟨rfl, rfl⟩ := Prod.mk.inj isHead
        exact ⟨head.2, List.mem_cons_self, by rw [if_pos (of_decide_eq_true same)]⟩
      · refine ⟨sources, List.mem_cons_of_mem _ later, ?_⟩
        rw [if_neg]
        rintro rfl
        exact absent (of_decide_eq_true same ▸ List.mem_map_of_mem later)
    · next other =>
      rcases List.mem_cons.mp member with rfl | later
      · exact ⟨sources, List.mem_cons_self, by rw [if_neg (fun same => other (decide_eq_true same))]⟩
      · obtain ⟨before, held, extended⟩ := ih unique later
        exact ⟨before, List.mem_cons_of_mem _ held, extended⟩

theorem Knows.mark (knows : Knows capacity calls memory) (held : call.1 ∈ memory.map Prod.fst) :
    Knows capacity (calls ++ [call]) (mark memory call) := by
  have keys := keys_mark memory call
  refine ⟨?_, ?_, fun older key sources newer split => ?_, fun key member absent => ?_, fun key sources present source => ?_⟩
  · rw [keys]
    exact knows.unique
  · have lengths := congrArg List.length keys
    rw [List.length_map, List.length_map] at lengths
    exact lengths.le.trans knows.bounded
  · -- the order of the keys is the one before
    rw [split, List.map_append, List.map_cons] at keys
    obtain ⟨before, rest, rfl, _, tail⟩ := List.map_eq_append_iff.mp keys.symm
    obtain ⟨middle, behind, rfl, isKey, last⟩ := List.map_eq_cons_iff.mp tail
    obtain ⟨past, first, between, divided, covers⟩ := knows.ordered before middle.1 middle.2 behind rfl
    change middle.1 = key at isKey
    rw [isKey] at divided
    refine ⟨past, first, between ++ [call], split_append divided call, fun other member => ?_⟩
    rw [← last] at member
    rw [List.map_append]
    exact List.mem_append_left _ (covers other member)
  · rw [keys] at absent
    have different : key ≠ call.1 := by
      rintro rfl
      exact absent held
    exact knows.forgotten_append member different absent
  · obtain ⟨before, was, rfl⟩ := mem_mark knows.unique present
    have noted := knows.sources key before was source
    rw [List.mem_append, List.mem_singleton, ← noted]
    split
    · next same => rw [Finset.mem_insert, or_comm, Prod.ext_iff, and_iff_right same]
    · next other => exact ⟨.inl, fun either => either.resolve_right fun same => other (congrArg Prod.fst same)⟩

/-! ## First sights -/

def note (capacity : ℕ) (memory : List (κ × Finset ρ)) (call : κ × ρ) : List (κ × Finset ρ) × Bool :=
  match find memory call.1 with
  | some entry => (mark memory call, call.2 ∉ entry.2)
  | none => (evict capacity memory ++ [(call.1, {call.2})], true)

/-- The memory after a sequence of notes. -/
def after (capacity : ℕ) (calls : List (κ × ρ)) : List (κ × Finset ρ) :=
  calls.foldl (fun memory call => (note capacity memory call).1) []

theorem after_append_singleton (capacity : ℕ) (calls : List (κ × ρ)) (call : κ × ρ) :
    after capacity (calls ++ [call]) = (note capacity (after capacity calls) call).1 := by
  simp [after]

theorem knows_after (positive : 0 < capacity) (spaced : Spaced capacity calls) :
    Knows capacity calls (after capacity calls) := by
  induction calls using List.reverseRecOn with
  | nil => exact .nil
  | append_singleton calls call ih =>
    have knows := ih spaced.of_append
    rw [after_append_singleton, note]
    cases found : find (after capacity calls) call.1 with
    | some entry =>
      obtain ⟨held, same⟩ := mem_of_find found
      exact knows.mark (same ▸ List.mem_map_of_mem held)
    | none =>
      have absent := not_mem_keys_of_find found
      exact knows.enter positive absent (knows.not_mem_of_absent spaced absent)

theorem note_snd_iff_not_mem (positive : 0 < capacity) (spaced : Spaced capacity (calls ++ [call])) :
    (note capacity (after capacity calls) call).2 = true ↔ call ∉ calls := by
  have knows := knows_after positive spaced.of_append
  rw [note]
  cases found : find (after capacity calls) call.1 with
  | some entry =>
    obtain ⟨held, same⟩ := mem_of_find found
    have noted := knows.sources entry.1 entry.2 held call.2
    rw [same] at noted
    exact decide_eq_true_iff.trans (not_congr noted)
  | none =>
    have new := knows.not_mem_of_absent spaced (not_mem_keys_of_find found)
    exact iff_of_true rfl fun noted => new (List.mem_map_of_mem noted)

end Notes

end Recent
