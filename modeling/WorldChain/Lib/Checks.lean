import WorldChain.Machine.Run

/-! # Loops of checks

A loop that checks every entry of a list, or every two neighbours in it, and stops at the first check that fails; a
loop that converts every entry; and what a loop with an accumulator keeps.
-/

namespace Machine

universe u

variable {ε α β : Type*} {entries : List α}

@[simp] theorem mapError_eq_ok {ε' : Type*} {translate : ε → ε'} {call : Except ε α} {value : α} :
    call.mapError translate = .ok value ↔ call = .ok value := by
  cases call <;> simp [Except.mapError]

variable {error : ε}

@[simp] theorem pure_ne_error {value : α} : (pure value : Except ε α) ≠ .error error :=
  fun failed => by cases failed

theorem bind_ne_error {α β : Type u} {first : Except ε α} {rest : α → Except ε β} (head : first ≠ .error error)
    (tail : ∀ value, first = .ok value → rest value ≠ .error error) : (first >>= rest) ≠ .error error := by
  intro failed
  rcases bind_eq_error.mp failed with failed | ⟨value, passed, failed⟩
  · exact head failed
  · exact tail value passed failed

theorem revertIf_ne_error {bad : Prop} [Decidable bad] {raised : ε} (other : raised ≠ error) :
    revertIf bad raised ≠ .error error := fun failed => other (revertIf_eq_error.mp failed).2

theorem mapError_ne_error {ε' : Type*} {translate : ε → ε'} {error : ε'} (call : Except ε α)
    (other : ∀ raised, translate raised ≠ error) : call.mapError translate ≠ .error error := by
  cases call with
  | error raised => exact fun same => other raised (Except.error.inj same)
  | ok value => exact fun same => by cases same

def checked (panic : ε) (value : ℕ) : Except ε ℕ := if value < 2 ^ 256 then .ok value else .error panic

@[simp] theorem checked_eq_ok {panic : ε} {value result : ℕ} :
    checked panic value = .ok result ↔ value < 2 ^ 256 ∧ value = result := by
  rw [checked]
  split <;> simp_all only [Except.ok.injEq, true_and, reduceCtorEq, false_and]

/-- Check every entry, in order. -/
def forEach (check : α → Except ε Unit) : List α → Except ε Unit
  | [] => .ok ()
  | entry :: rest => do
    check entry
    forEach check rest

/-- Check every two neighbours, in order. -/
def forPairs (check : α → α → Except ε Unit) : List α → Except ε Unit
  | [] => .ok ()
  | [_] => .ok ()
  | first :: second :: rest => do
    check first second
    forPairs check (second :: rest)

theorem forEach_eq_ok {check : α → Except ε Unit} :
    forEach check entries = .ok () ↔ ∀ entry ∈ entries, check entry = .ok () := by
  induction entries with
  | nil => simp [forEach]
  | cons entry rest ih => simp [forEach, ih, Unique.exists_iff]

theorem forPairs_eq_ok {check : α → α → Except ε Unit} :
    forPairs check entries = .ok () ↔ entries.IsChain fun first second => check first second = .ok () := by
  induction entries with
  | nil => simp [forPairs]
  | cons first rest ih =>
    cases rest with
    | nil => simp [forPairs]
    | cons second rest => simp [forPairs, ih, Unique.exists_iff]

theorem mapM_eq_ok {convert : α → Except ε β} {results : List β} :
    entries.mapM convert = .ok results ↔ List.Forall₂ (fun entry result => convert entry = .ok result) entries results := by
  induction entries generalizing results with
  | nil => rw [List.mapM_nil, pure_eq_ok, List.forall₂_nil_left_iff, eq_comm]
  | cons entry rest ih =>
    rw [List.mapM_cons, List.forall₂_cons_left_iff]
    simp only [bind_eq_ok, pure_eq_ok, ih]
    constructor
    · rintro ⟨first, converted, others, all, rfl⟩
      exact ⟨first, others, converted, all, rfl⟩
    · rintro ⟨first, others, converted, all, rfl⟩
      exact ⟨first, converted, others, all, rfl⟩

theorem agree_of_isChain {field : α → β} (chained : entries.IsChain fun first second => field first = field second)
    {first second : α} (isFirst : first ∈ entries) (isSecond : second ∈ entries) : field first = field second := by
  have : IsTrans α fun first second => field first = field second := ⟨fun _ _ _ => Eq.trans⟩
  have : Std.Symm fun first second : α => field first = field second := ⟨fun _ _ same => same.symm⟩
  have pairwise := List.isChain_iff_pairwise.mp chained
  have same := pairwise.forall_of_forall (R := fun first second => field first = field second) fun _ _ => rfl
  exact same isFirst isSecond

theorem foldlM_congr {body other : β → α → Except ε β}
    (same : ∀ state, ∀ entry ∈ entries, body state entry = other state entry) (state : β) :
    entries.foldlM body state = entries.foldlM other state := by
  induction entries generalizing state with
  | nil => rfl
  | cons entry rest ih =>
    rw [List.foldlM_cons, List.foldlM_cons, same state entry List.mem_cons_self]
    exact bind_congr fun after => ih (fun state entry member => same state entry (List.mem_cons_of_mem _ member)) after

theorem foldlM_invariant {body : β → α → Except ε β} {motive : β → Prop} {state target : β}
    (success : entries.foldlM body state = .ok target) (initial : motive state)
    (step : ∀ {before after : β} {entry : α}, entry ∈ entries → motive before → body before entry = .ok after → motive after) :
    motive target := by
  have replayed : Run body (fun _ _ => True) state entries target ∧ motive target :=
    Run.of_foldlM success initial fun member holds taken => ⟨trivial, step member holds taken⟩
  exact replayed.2

end Machine
