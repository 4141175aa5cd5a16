import Mathlib

/-! # Guarded calls and the runs they make

A call either returns a new state or reverts with an error. A run is a finite history of such calls: a call that takes
effect is appended to the log, and a reverted call leaves both the state and the log as they were.
-/

namespace Machine

universe u

variable {ε σ ι : Type*} {α β : Type u}

/-- Abort with `error` exactly when `bad` holds. -/
def revertIf (bad : Prop) [Decidable bad] (error : ε) : Except ε Unit :=
  if bad then .error error else .ok ()

variable {error : ε} {first : Except ε α}

@[simp] theorem revertIf_eq_ok {bad : Prop} [Decidable bad] {value : Unit} :
    revertIf bad error = .ok value ↔ ¬ bad := by
  by_cases holds : bad <;> simp [revertIf, holds]

@[simp] theorem revertIf_eq_error {bad : Prop} [Decidable bad] {other : ε} :
    revertIf bad error = .error other ↔ bad ∧ error = other := by
  by_cases holds : bad <;> simp [revertIf, holds]

@[simp] theorem bind_eq_ok {rest : α → Except ε β} {result : β} :
    (first >>= rest) = .ok result ↔ ∃ value, first = .ok value ∧ rest value = .ok result := by
  cases first with
  | error _ => simp [bind, Except.bind]
  | ok value => simp [bind, Except.bind]

theorem bind_eq_error {rest : α → Except ε β} :
    (first >>= rest) = .error error ↔
      first = .error error ∨ ∃ value, first = .ok value ∧ rest value = .error error := by
  cases first with
  | error _ => simp [bind, Except.bind]
  | ok value => simp [bind, Except.bind]

@[simp] theorem map_eq_ok {convert : α → β} {result : β} :
    (convert <$> first) = .ok result ↔ ∃ value, first = .ok value ∧ convert value = result := by
  cases first <;> simp [Functor.map, Except.map]

@[simp] theorem pure_eq_ok {value result : α} :
    (pure value : Except ε α) = .ok result ↔ value = result := by
  simp [pure, Except.pure]

theorem foldlM_error {γ : Type*} {body : β → γ → Except ε β} {motive : ε → Prop}
    (fails : ∀ state entry error, body state entry = .error error → motive error) {entries : List γ} {state : β}
    (failed : entries.foldlM body state = .error error) : motive error := by
  induction entries generalizing state with
  | nil => cases failed
  | cons entry rest ih =>
    rw [List.foldlM_cons, bind_eq_error] at failed
    rcases failed with failed | ⟨_, _, failed⟩
    · exact fails _ _ _ failed
    · exact ih failed

/-- Two computations end alike: with the same error, or in states that are related. -/
inductive Alike {τ : Type*} (related : σ → τ → Prop) : Except ε σ → Except ε τ → Prop
  | error (error : ε) : Alike related (.error error) (.error error)
  | ok {left : σ} {right : τ} (holds : related left right) : Alike related (.ok left) (.ok right)

theorem Alike.bind {σ τ : Type u} {related : σ → τ → Prop} {left : α → Except ε σ} {right : α → Except ε τ}
    (rest : ∀ value, Alike related (left value) (right value)) :
    Alike related (first >>= left) (first >>= right) := by
  cases first with
  | error error => exact .error error
  | ok value => exact rest value

theorem Alike.foldlM {γ : Type*} {related : α → β → Prop} {body : α → γ → Except ε α} {other : β → γ → Except ε β}
    (step : ∀ {left right}, related left right → ∀ entry, Alike related (body left entry) (other right entry))
    (entries : List γ) {left : α} {right : β} (holds : related left right) :
    Alike related (entries.foldlM body left) (entries.foldlM other right) := by
  induction entries generalizing left right with
  | nil => exact .ok holds
  | cons entry rest ih =>
    rw [List.foldlM_cons, List.foldlM_cons]
    have ended := step holds entry
    generalize body left entry = first, other right entry = second at ended ⊢
    cases ended with
    | error error => exact .error error
    | ok after => exact ih after

/-- Histories of calls. The log holds exactly the calls that took effect, oldest first. -/
inductive Run (exec : σ → ι → Except ε σ) (allowed : σ → ι → Prop) : σ → List ι → σ → Prop
  | start (source : σ) : Run exec allowed source [] source
  | effect {source before after : σ} {log : List ι} {call : ι} :
      Run exec allowed source log before → allowed before call → exec before call = .ok after →
      Run exec allowed source (log ++ [call]) after
  | revert {source before : σ} {log : List ι} {call : ι} {error : ε} :
      Run exec allowed source log before → exec before call = .error error →
      Run exec allowed source log before

namespace Run

variable {exec : σ → ι → Except ε σ} {allowed : σ → ι → Prop}
  {source middle target : σ} {first second log : List ι}

theorem invariant {motive : σ → Prop} (run : Run exec allowed source log target) (initial : motive source)
    (step : ∀ {before after : σ} {call : ι}, motive before → allowed before call →
      exec before call = .ok after → motive after) : motive target := by
  induction run with
  | start => exact initial
  | effect _ permitted effective ih => exact step ih permitted effective
  | revert _ _ ih => exact ih

theorem history {motive : List ι → σ → Prop} (run : Run exec allowed source log target)
    (initial : motive [] source)
    (step : ∀ {past : List ι} {before after : σ} {call : ι}, Run exec allowed source past before →
      motive past before → allowed before call → exec before call = .ok after →
      motive (past ++ [call]) after) : motive log target := by
  induction run with
  | start => exact initial
  | effect earlier permitted effective ih => exact step earlier ih permitted effective
  | revert _ _ ih => exact ih

theorem replay (run : Run exec allowed source log target) : log.foldlM exec source = .ok target := by
  induction run with
  | start => rfl
  | effect _ _ effective ih => simp [List.foldlM_append, ih, effective]
  | revert _ _ ih => exact ih

theorem append (left : Run exec allowed source first middle)
    (right : Run exec allowed middle second target) : Run exec allowed source (first ++ second) target := by
  induction right with
  | start => simpa using left
  | effect _ permitted effective ih =>
    rw [← List.append_assoc]
    exact .effect ih permitted effective
  | revert _ failed ih => exact .revert ih failed

theorem split (run : Run exec allowed source (first ++ second) target) :
    ∃ middle, Run exec allowed source first middle ∧ Run exec allowed middle second target := by
  generalize whole : first ++ second = log at run
  induction run generalizing second with
  | start =>
    obtain ⟨rfl, rfl⟩ := List.append_eq_nil_iff.mp whole
    exact ⟨_, .start _, .start _⟩
  | effect earlier permitted effective ih =>
    rcases List.eq_nil_or_concat second with rfl | ⟨front, last, rfl⟩
    · rw [List.append_nil] at whole
      exact ⟨_, whole ▸ .effect earlier permitted effective, .start _⟩
    · rw [List.concat_eq_append, ← List.append_assoc] at whole
      obtain ⟨same, final⟩ := List.append_inj' whole rfl
      obtain ⟨middle, left, right⟩ := ih same
      obtain rfl := List.singleton_inj.mp final
      refine ⟨middle, left, ?_⟩
      rw [List.concat_eq_append]
      exact .effect right permitted effective
  | revert _ failed ih =>
    obtain ⟨middle, left, right⟩ := ih whole
    exact ⟨middle, left, .revert right failed⟩

theorem weaken {weaker : σ → ι → Prop} (run : Run exec allowed source log target)
    (implied : ∀ state call, allowed state call → weaker state call) : Run exec weaker source log target := by
  induction run with
  | start => exact .start _
  | effect _ permitted effective ih => exact .effect ih (implied _ _ permitted) effective
  | revert _ failed ih => exact .revert ih failed

theorem of_foldlM {motive : σ → Prop} (success : log.foldlM exec source = .ok target) (initial : motive source)
    (step : ∀ {before after : σ} {call : ι}, call ∈ log → motive before → exec before call = .ok after →
      allowed before call ∧ motive after) : Run exec allowed source log target ∧ motive target := by
  induction log using List.reverseRecOn generalizing target with
  | nil =>
    obtain rfl : source = target := by simpa using success
    exact ⟨.start _, initial⟩
  | append_singleton log call ih =>
    rw [List.foldlM_append, bind_eq_ok] at success
    obtain ⟨before, earlier, last⟩ := success
    simp only [List.foldlM_cons, List.foldlM_nil, bind_pure] at last
    obtain ⟨run, holds⟩ := ih earlier fun member => step (List.mem_append_left _ member)
    obtain ⟨permitted, kept⟩ := step (by simp) holds last
    exact ⟨.effect run permitted last, kept⟩

theorem single {after : σ} {call : ι} (permitted : allowed source call)
    (effective : exec source call = .ok after) : Run exec allowed source [call] after := by
  simpa using Run.effect (.start source) permitted effective

def final (exec : σ → ι → Except ε σ) (source : σ) (log : List ι) : σ := (log.foldlM exec source).toOption.getD source

theorem foldlM_eq_final (effective : (log.foldlM exec source).isOk = true) :
    log.foldlM exec source = .ok (final exec source log) := by
  unfold final
  cases outcome : log.foldlM exec source with
  | error _ => simp [outcome, Except.isOk, Except.toBool] at effective
  | ok target => rfl

theorem run_final_of_forall (effective : (log.foldlM exec source).isOk = true)
    (permitted : ∀ call ∈ log, ∀ state, allowed state call) : Run exec allowed source log (final exec source log) :=
  (of_foldlM (motive := fun _ => True) (foldlM_eq_final effective) trivial
    fun member _ _ => ⟨permitted _ member _, trivial⟩).1

/-- Each call of a tape is allowed in the state that it finds, and takes effect. -/
def Permitted (exec : σ → ι → Except ε σ) (allowed : σ → ι → Prop) : σ → List ι → Prop
  | _, [] => True
  | state, call :: rest => allowed state call ∧
    match exec state call with
    | .ok after => Permitted exec allowed after rest
    | .error _ => False

instance decidablePermitted [∀ state call, Decidable (allowed state call)] :
    ∀ (source : σ) (log : List ι), Decidable (Permitted exec allowed source log)
  | _, [] => .isTrue trivial
  | source, call :: rest =>
    haveI : Decidable (match exec source call with
        | .ok after => Permitted exec allowed after rest
        | .error _ => False) :=
      match exec source call with
      | .ok after => decidablePermitted after rest
      | .error _ => .isFalse id
    inferInstanceAs (Decidable (_ ∧ _))

theorem run_final_of_permitted (permitted : Permitted exec allowed source log) :
    Run exec allowed source log (final exec source log) := by
  have goes : ∃ target, log.foldlM exec source = .ok target ∧ Run exec allowed source log target := by
    induction log generalizing source with
    | nil => exact ⟨source, rfl, .start source⟩
    | cons call rest ih =>
      obtain ⟨admitted, onward⟩ := permitted
      split at onward
      · next after effective =>
        obtain ⟨target, replayed, run⟩ := ih onward
        refine ⟨target, ?_, (single admitted effective).append run⟩
        rw [List.foldlM_cons, effective]
        exact replayed
      · exact onward.elim
  obtain ⟨target, replayed, run⟩ := goes
  rw [final, replayed]
  exact run

theorem permitted_append_singleton {weaker : σ → ι → Prop} {before after : σ} {call : ι}
    (run : Run exec weaker source log before) (effective : exec before call = .ok after) :
    Permitted exec allowed source (log ++ [call]) ↔ Permitted exec allowed source log ∧ allowed before call := by
  have replayed := run.replay
  clear run
  induction log generalizing source with
  | nil =>
    obtain rfl : source = before := by simpa using replayed
    simp [Permitted, effective]
  | cons first rest ih =>
    rw [List.foldlM_cons, bind_eq_ok] at replayed
    obtain ⟨next, taken, onward⟩ := replayed
    simp only [List.cons_append, Permitted, taken, ih onward, and_assoc]

theorem run_final (effective : (log.foldlM exec source).isOk = true) :
    Run exec (fun _ _ => True) source log (final exec source log) :=
  run_final_of_forall effective fun _ _ _ => trivial

def tally (exec : σ → ι → Except ε σ) (counts : σ → σ → Bool) : σ → List ι → ℕ
  | _, [] => 0
  | state, call :: rest =>
    match exec state call with
    | .ok after => (if counts state after then 1 else 0) + tally exec counts after rest
    | .error _ => 0

theorem tally_append_singleton {before after : σ} {call : ι} (run : Run exec allowed source log before)
    (effective : exec before call = .ok after) (counts : σ → σ → Bool) :
    tally exec counts source (log ++ [call]) = tally exec counts source log + if counts before after then 1 else 0 := by
  have replayed := run.replay
  clear run
  induction log generalizing source with
  | nil =>
    obtain rfl : source = before := by simpa using replayed
    simp [tally, effective]
  | cons first rest ih =>
    rw [List.foldlM_cons, bind_eq_ok] at replayed
    obtain ⟨next, taken, onward⟩ := replayed
    simp only [List.cons_append, tally, taken]
    rw [ih onward, Nat.add_assoc]

end Run

/-- `call` took effect during a history, in the state `before`. -/
def Occurs (exec : σ → ι → Except ε σ) (allowed : σ → ι → Prop) (source : σ) (log : List ι) (call : ι)
    (before : σ) : Prop :=
  ∃ past rest, log = past ++ call :: rest ∧ Run exec allowed source past before

namespace Occurs

variable {exec : σ → ι → Except ε σ} {allowed : σ → ι → Prop} {source before state : σ} {log : List ι} {call last : ι}

theorem mem (occurs : Occurs exec allowed source log call before) : call ∈ log := by
  obtain ⟨past, rest, rfl, _⟩ := occurs
  simp

theorem extend (occurs : Occurs exec allowed source log call before) :
    Occurs exec allowed source (log ++ [last]) call before := by
  obtain ⟨past, rest, rfl, run⟩ := occurs
  exact ⟨past, rest ++ [last], by simp, run⟩

theorem latest (run : Run exec allowed source log before) : Occurs exec allowed source (log ++ [call]) call before :=
  ⟨log, [], rfl, run⟩

theorem append_singleton_cases (occurs : Occurs exec allowed source (log ++ [last]) call before)
    (run : Run exec allowed source log state) :
    Occurs exec allowed source log call before ∨ (call = last ∧ before = state) := by
  obtain ⟨past, rest, split, earlier⟩ := occurs
  rcases List.eq_nil_or_concat rest with rfl | ⟨front, final, rfl⟩
  · obtain ⟨rfl, same⟩ := List.append_inj' split rfl
    exact .inr ⟨(List.singleton_inj.mp same).symm, Except.ok.inj (earlier.replay.symm.trans run.replay)⟩
  · have shifted : log ++ [last] = (past ++ call :: front) ++ [final] := by simpa using split
    exact .inl ⟨past, front, (List.append_inj' shifted rfl).1, earlier⟩

end Occurs

end Machine
