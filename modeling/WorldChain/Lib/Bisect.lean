import Mathlib

/-! # Binary search with a fallible probe

The interval is halved until it is empty; a probe of the middle says whether to go on in the right half. The search is
for a target when it goes right exactly before it.
-/

namespace Bisect

variable {ε : Type*}

def middle (low high : ℕ) : ℕ := low + (high - low) / 2

theorem le_middle (low high : ℕ) : low ≤ middle low high := Nat.le_add_right _ _

theorem middle_lt {low high : ℕ} (inside : low < high) : middle low high < high := by
  unfold middle
  omega

theorem halving {motive : ℕ → ℕ → Prop} (empty : ∀ low high, ¬ low < high → motive low high)
    (halve : ∀ low high, low < high → motive (middle low high + 1) high → motive low (middle low high) → motive low high)
    (low high : ℕ) : motive low high := by
  induction length : high - low using Nat.strong_induction_on generalizing low high with
  | _ length ih =>
    by_cases inside : low < high
    · have left := le_middle low high
      have right := middle_lt inside
      exact halve low high inside (ih _ (by omega) _ _ rfl) (ih _ (by omega) _ _ rfl)
    · exact empty low high inside

/-- The loop, for as many rounds as there is fuel. -/
def search (goRight : ℕ → Except ε Bool) : (fuel low high : ℕ) → Except ε ℕ
  | 0, low, _ => .ok low
  | fuel + 1, low, high =>
    if low < high then do
      if ← goRight (middle low high) then search goRight fuel (middle low high + 1) high
      else search goRight fuel low (middle low high)
    else .ok low

def bisect (goRight : ℕ → Except ε Bool) (low high : ℕ) : Except ε ℕ := search goRight (high - low) low high

def visited (target : ℕ) : (fuel low high : ℕ) → List ℕ
  | 0, _, _ => []
  | fuel + 1, low, high =>
    if low < high then
      middle low high ::
        if middle low high < target then visited target fuel (middle low high + 1) high
        else visited target fuel low (middle low high)
    else []

/-- The midpoints of the search for a target. -/
def midpoints (target low high : ℕ) : List ℕ := visited target (high - low) low high

variable {goRight : ℕ → Except ε Bool} {right : ℕ → Bool} {low high target found : ℕ}

section Fuel

variable {β : Type*} {run : ℕ → ℕ → ℕ → β} {stop : ℕ → ℕ → β} {round : ℕ → ℕ → β → β → β}

theorem run_of_le (stops : ∀ fuel low high, ¬ low < high → run fuel low high = stop low high)
    (goes : ∀ fuel low high, low < high →
      run (fuel + 1) low high = round low high (run fuel (middle low high + 1) high) (run fuel low (middle low high)))
    {fuel more : ℕ} (enough : high - low ≤ fuel) (enough' : high - low ≤ more) : run fuel low high = run more low high := by
  induction low, high using halving generalizing fuel more with
  | empty low high outside => rw [stops fuel low high outside, stops more low high outside]
  | halve low high inside inRight inLeft =>
    have left := le_middle low high
    have right := middle_lt inside
    obtain ⟨fuel, rfl⟩ := Nat.exists_eq_add_one.mpr (show 0 < fuel by omega)
    obtain ⟨more, rfl⟩ := Nat.exists_eq_add_one.mpr (show 0 < more by omega)
    rw [goes fuel low high inside, goes more low high inside, inRight (show _ ≤ fuel by omega) (show _ ≤ more by omega),
      inLeft (show _ ≤ fuel by omega) (show _ ≤ more by omega)]

theorem run_eq (stops : ∀ fuel low high, ¬ low < high → run fuel low high = stop low high)
    (goes : ∀ fuel low high, low < high →
      run (fuel + 1) low high = round low high (run fuel (middle low high + 1) high) (run fuel low (middle low high)))
    (low high : ℕ) :
    run (high - low) low high =
      if low < high then
        round low high (run (high - (middle low high + 1)) (middle low high + 1) high)
          (run (middle low high - low) low (middle low high))
      else stop low high := by
  split
  · next inside =>
    have left := le_middle low high
    have right := middle_lt inside
    obtain ⟨fuel, length⟩ := Nat.exists_eq_add_one.mpr (show 0 < high - low by omega)
    rw [length, goes fuel low high inside, run_of_le stops goes (show high - (middle low high + 1) ≤ fuel by omega) le_rfl,
      run_of_le stops goes (show middle low high - low ≤ fuel by omega) le_rfl]
  · next outside => exact stops _ low high outside

end Fuel

theorem bisect_eq (goRight : ℕ → Except ε Bool) (low high : ℕ) :
    bisect goRight low high =
      if low < high then do
        if ← goRight (middle low high) then bisect goRight (middle low high + 1) high
        else bisect goRight low (middle low high)
      else .ok low := by
  refine @run_eq _ (search goRight) (fun low _ => .ok low)
    (fun low high right left => do if ← goRight (middle low high) then right else left) ?_ ?_ low high
  · intro fuel low high outside
    cases fuel with
    | zero => rfl
    | succ fuel => rw [search, if_neg outside]
  · intro fuel low high inside
    rw [search, if_pos inside]

theorem midpoints_eq (target low high : ℕ) :
    midpoints target low high =
      if low < high then
        middle low high ::
          if middle low high < target then midpoints target (middle low high + 1) high
          else midpoints target low (middle low high)
      else [] := by
  refine @run_eq _ (visited target) (fun _ _ => [])
    (fun low high right left => middle low high :: if middle low high < target then right else left) ?_ ?_ low high
  · intro fuel low high outside
    cases fuel with
    | zero => rfl
    | succ fuel => rw [visited, if_neg outside]
  · intro fuel low high inside
    rw [visited, if_pos inside]

theorem bisect_cases (inside : low < high) (ends : bisect goRight low high = .ok found) :
    goRight (middle low high) = .ok true ∧ bisect goRight (middle low high + 1) high = .ok found ∨
      goRight (middle low high) = .ok false ∧ bisect goRight low (middle low high) = .ok found := by
  rw [bisect_eq, if_pos inside] at ends
  cases probed : goRight (middle low high) with
  | error error => simp [probed, bind, Except.bind] at ends
  | ok goes =>
    cases goes with
    | true => exact .inl ⟨rfl, by simpa [probed, bind, Except.bind] using ends⟩
    | false => exact .inr ⟨rfl, by simpa [probed, bind, Except.bind] using ends⟩

theorem bisect_of_not_lt (outside : ¬ low < high) : bisect goRight low high = .ok low := by
  rw [bisect_eq, if_neg outside]

theorem bisect_bounds (ends : bisect goRight low high = .ok found) (ordered : low ≤ high) : low ≤ found ∧ found ≤ high := by
  induction low, high using halving with
  | empty low high outside =>
    rw [bisect_of_not_lt outside] at ends
    cases ends
    exact ⟨le_rfl, ordered⟩
  | halve low high inside inRight inLeft =>
    have left := le_middle low high
    have right := middle_lt inside
    rcases bisect_cases inside ends with ⟨_, ends⟩ | ⟨_, ends⟩
    · have bounds := inRight ends (by omega)
      omega
    · have bounds := inLeft ends (by omega)
      omega

theorem bisect_isOk (answers : ∀ index, index < high → goRight index = .ok (right index)) :
    ∃ found, bisect goRight low high = .ok found := by
  induction low, high using halving with
  | empty low high outside => exact ⟨low, bisect_of_not_lt outside⟩
  | halve low high inside inRight inLeft =>
    have before := middle_lt inside
    rw [bisect_eq, if_pos inside, answers _ before]
    cases right (middle low high) with
    | true => exact inRight answers
    | false => exact inLeft fun index lower => answers index (lower.trans before)

theorem bisect_le_iff (ends : bisect goRight low high = .ok found) (within : low ≤ target)
    (answers : ∀ index, index < high → goRight index = .ok (right index))
    (before : ∀ index, index < high → index < target → right index = true) :
    found ≤ target ↔ ∀ index ∈ midpoints target low high, target ≤ index → right index = false := by
  induction low, high using halving with
  | empty low high outside =>
    rw [bisect_of_not_lt outside] at ends
    cases ends
    rw [midpoints_eq, if_neg outside]
    simp [within]
  | halve low high inside inRight inLeft =>
    have inner := middle_lt inside
    rw [midpoints_eq, if_pos inside, List.forall_mem_cons]
    rcases bisect_cases inside ends with ⟨goes, ends⟩ | ⟨goes, ends⟩
    · rw [answers _ inner, Except.ok.injEq] at goes
      by_cases early : middle low high < target
      · rw [if_pos early, ← inRight ends (by omega) answers before]
        constructor
        · exact fun reached => ⟨fun late => by omega, reached⟩
        · exact And.right
      · -- The probe has passed the target.
        have passed := (bisect_bounds ends (by omega)).1
        rw [goes]
        constructor
        · intro reached
          omega
        · rintro ⟨stays, _⟩
          cases stays (by omega)
    · rw [answers _ inner, Except.ok.injEq] at goes
      have late : ¬ middle low high < target := by
        intro early
        rw [before _ inner early] at goes
        cases goes
      rw [if_neg late, ← inLeft ends within (fun index lower => answers index (lower.trans inner))
        fun index lower => before index (lower.trans inner)]
      constructor
      · exact fun reached => ⟨fun _ => goes, reached⟩
      · exact And.right

end Bisect
