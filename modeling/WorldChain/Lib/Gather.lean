import Mathlib

/-! # Tables of merged values

Entries with keys are gathered into a table, in which the values of a key are merged in the order in which they come.
When merging is associative, a part of the entries can be gathered first and read off in any order.
-/

namespace Gather

variable {Key Value State : Type*} [DecidableEq Key]

def absorb (merge : Value → Value → Value) (table : Finmap fun _ : Key => Value) (entry : Key × Value) :
    Finmap fun _ : Key => Value :=
  match table.lookup entry.1 with
  | none => table.insert entry.1 entry.2
  | some value => table.insert entry.1 (merge value entry.2)

def gather (merge : Value → Value → Value) (entries : List (Key × Value)) : Finmap fun _ : Key => Value :=
  entries.foldl (absorb merge) ∅

/-- A list has each entry of a table once. -/
structure Enumerates (entries : List (Key × Value)) (table : Finmap fun _ : Key => Value) : Prop where
  nodup : (entries.map Prod.fst).Nodup
  mem : ∀ key value, (key, value) ∈ entries ↔ table.lookup key = some value

variable {merge : Value → Value → Value} {entries others : List (Key × Value)} {table : Finmap fun _ : Key => Value}

theorem lookup_absorb (table : Finmap fun _ : Key => Value) (entry : Key × Value) (key : Key) :
    (absorb merge table entry).lookup key =
      Option.merge merge (table.lookup key) (if entry.1 = key then some entry.2 else none) := by
  unfold absorb
  by_cases same : entry.1 = key
  · subst same
    cases held : table.lookup entry.1 <;> simp [Finmap.lookup_insert]
  · have other : key ≠ entry.1 := Ne.symm same
    cases held : table.lookup entry.1 <;> simp [Finmap.lookup_insert_of_ne _ other, same]

section Associative

variable [Std.Associative merge]

theorem lookup_foldl_absorb (table : Finmap fun _ : Key => Value) (entries : List (Key × Value)) (key : Key) :
    (entries.foldl (absorb merge) table).lookup key =
      Option.merge merge (table.lookup key) ((gather merge entries).lookup key) := by
  induction entries using List.reverseRecOn with
  | nil => simp [gather]
  | append_singleton entries entry ih =>
    simp only [gather, List.foldl_append, List.foldl_cons, List.foldl_nil, lookup_absorb] at ih ⊢
    rw [ih]
    exact Std.Associative.assoc ..

theorem lookup_gather_append (entries others : List (Key × Value)) (key : Key) :
    (gather merge (entries ++ others)).lookup key =
      Option.merge merge ((gather merge entries).lookup key) ((gather merge others).lookup key) := by
  rw [gather, List.foldl_append]
  exact lookup_foldl_absorb _ others key

theorem lookup_gather_cons (entry : Key × Value) (entries : List (Key × Value)) (key : Key) :
    (gather merge (entry :: entries)).lookup key =
      Option.merge merge (if entry.1 = key then some entry.2 else none) ((gather merge entries).lookup key) := by
  rw [← List.singleton_append, lookup_gather_append]
  congr 1
  rw [gather, List.foldl_cons, List.foldl_nil, lookup_absorb]
  simp

theorem isSome_lookup_gather (entries : List (Key × Value)) (key : Key) :
    ((gather merge entries).lookup key).isSome = true ↔ key ∈ entries.map Prod.fst := by
  induction entries with
  | nil => simp [gather]
  | cons entry rest ih =>
    rw [lookup_gather_cons, Option.isSome_merge, Bool.or_eq_true, ih]
    by_cases same : entry.1 = key
    · simp [same]
    · simp [same, Ne.symm same]

theorem Enumerates.gather_eq (enumerates : Enumerates entries table) : gather merge entries = table := by
  apply Finmap.ext_lookup
  intro key
  have found : ∀ {entries : List (Key × Value)}, (entries.map Prod.fst).Nodup → ∀ value,
      (gather merge entries).lookup key = some value ↔ (key, value) ∈ entries := by
    intro entries nodup value
    induction entries with
    | nil => simp [gather]
    | cons entry rest ih =>
      simp only [List.map_cons, List.nodup_cons] at nodup
      rw [lookup_gather_cons]
      by_cases same : entry.1 = key
      · subst same
        have unlisted : (entry.1, value) ∉ rest := fun member => nodup.1 (List.mem_map.mpr ⟨_, member, rfl⟩)
        rw [Option.not_isSome_iff_eq_none.mp (mt (isSome_lookup_gather rest _).mp nodup.1), if_pos rfl]
        simp only [Option.merge_none_right, Option.some.injEq, List.mem_cons, unlisted, or_false]
        exact ⟨fun is => by rw [← is], fun is => by rw [← is]⟩
      · have other : (key, value) ≠ entry := fun is => same (by rw [← is])
        rw [if_neg same, Option.merge_none_left, ih nodup.2]
        simp [other]
  apply Option.ext
  intro value
  exact (found enumerates.nodup value).trans (enumerates.mem key value)

theorem gather_append_congr {first second third fourth : List (Key × Value)}
    (left : gather merge first = gather merge second) (right : gather merge third = gather merge fourth) :
    gather merge (first ++ third) = gather merge (second ++ fourth) := by
  apply Finmap.ext_lookup
  intro key
  rw [lookup_gather_append, lookup_gather_append, left, right]

end Associative

theorem Enumerates.perm (enumerates : Enumerates entries table) (other : Enumerates others table) :
    entries.Perm others := by
  apply (List.perm_ext_iff_of_nodup enumerates.nodup.of_map other.nodup.of_map).mpr
  rintro ⟨key, value⟩
  rw [enumerates.mem, other.mem]

theorem property_of_lookup_gather [Std.Associative merge] (isGood : Value → Prop) {key : Key} {value : Value}
    (closed : ∀ first second, isGood first → isGood second → isGood (merge first second))
    (good : ∀ entry ∈ entries, entry.1 = key → isGood entry.2) (held : (gather merge entries).lookup key = some value) :
    isGood value := by
  induction entries generalizing value with
  | nil => cases held
  | cons entry rest ih =>
    have restGood : ∀ other ∈ rest, other.1 = key → isGood other.2 := fun other member =>
      good other (List.mem_cons_of_mem _ member)
    rw [lookup_gather_cons] at held
    by_cases same : entry.1 = key
    · have own := good entry List.mem_cons_self same
      rw [if_pos same] at held
      cases found : (gather merge rest).lookup key with
      | none =>
        rw [found] at held
        cases held
        exact own
      | some later =>
        rw [found] at held
        cases held
        exact closed _ _ own (ih restGood found)
    · rw [if_neg same, Option.merge_none_left] at held
      exact ih restGood held

/-! ## Actions -/

section Action

variable (act : Value → State → State)

/-- Let an entry act on what is under its key. -/
def actOn (entry : Key × Value) (states : Key → State) : Key → State :=
  Function.update states entry.1 (act entry.2 (states entry.1))

/-- Let entries act from the last to the first. -/
def actAll (entries : List (Key × Value)) (states : Key → State) : Key → State := entries.foldr (actOn act) states

variable {act}

theorem actAll_eq [Std.Associative merge] (isGood : Value → Prop) {key : Key} (states : Key → State)
    (closed : ∀ first second, isGood first → isGood second → isGood (merge first second))
    (composes : ∀ first second state, isGood first → isGood second →
      act (merge first second) state = act first (act second state))
    (good : ∀ entry ∈ entries, entry.1 = key → isGood entry.2) :
    actAll act entries states key =
      ((gather merge entries).lookup key).elim (states key) fun value => act value (states key) := by
  induction entries with
  | nil => rfl
  | cons entry rest ih =>
    have restGood : ∀ other ∈ rest, other.1 = key → isGood other.2 := fun other member =>
      good other (List.mem_cons_of_mem _ member)
    have acted := ih restGood
    rw [lookup_gather_cons]
    change actOn act entry (actAll act rest states) key = _
    by_cases same : entry.1 = key
    · have own := good entry List.mem_cons_self same
      subst same
      rw [actOn, Function.update_self, acted, if_pos rfl]
      cases held : (gather merge rest).lookup entry.1 with
      | none => rfl
      | some later =>
        have laterGood := property_of_lookup_gather isGood closed restGood held
        exact (composes entry.2 later (states entry.1) own laterGood).symm
    · rw [actOn, Function.update_of_ne (Ne.symm same), acted, if_neg same, Option.merge_none_left]

end Action

end Gather
