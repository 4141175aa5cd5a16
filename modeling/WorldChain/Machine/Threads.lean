import WorldChain.Machine.Run

/-! # Threads over a shared state

A thread takes one atomic step after another; between two of them other threads may step, new threads may come up, and
operations may be applied to the shared state.
-/

namespace Machine

structure Threads (σ τ : Type*) where
  shared : σ
  threads : List τ

namespace Threads

variable {σ τ ρ ι : Type*}

inductive Event (ρ ι : Type*)
  | spawn (request : ρ)
  | advance (thread : ℕ)
  | operate (operation : ι)

/-- There is no such thread. -/
inductive NoThread
  | noThread

section

variable (enter : ρ → τ) (step : σ → τ → σ × τ) (operate : σ → ι → σ) (mayAdvance : σ → τ → Prop)

def exec (pool : Threads σ τ) : Event ρ ι → Except NoThread (Threads σ τ)
  | .spawn request => .ok { pool with threads := pool.threads ++ [enter request] }
  | .advance thread =>
    match pool.threads[thread]? with
    | none => .error .noThread
    | some before =>
      let (shared, after) := step pool.shared before
      .ok ⟨shared, pool.threads.set thread after⟩
  | .operate operation => .ok { pool with shared := operate pool.shared operation }

/-- A thread that is to take a step may do so. -/
def MayAdvance (pool : Threads σ τ) : Event ρ ι → Prop
  | .spawn _ | .operate _ => True
  | .advance thread => ∀ before ∈ pool.threads[thread]?, mayAdvance pool.shared before

instance decidableMayAdvance [∀ shared thread, Decidable (mayAdvance shared thread)] (pool : Threads σ τ) :
    (event : Event ρ ι) → Decidable (MayAdvance mayAdvance pool event)
  | .spawn _ | .operate _ => isTrue trivial
  | .advance _ => by
    unfold MayAdvance
    infer_instance

end

variable {enter : ρ → τ} {step : σ → τ → σ × τ} {operate : σ → ι → σ} {mayAdvance : σ → τ → Prop}

theorem invariant {motive : σ → Prop} {source target : Threads σ τ} {events : List (Event ρ ι)}
    (run : Run (exec enter step operate) (MayAdvance mayAdvance) source events target) (initial : motive source.shared)
    (advance : ∀ {shared thread}, motive shared → mayAdvance shared thread → motive (step shared thread).1)
    (operates : ∀ {shared} operation, motive shared → motive (operate shared operation)) : motive target.shared := by
  refine run.invariant (motive := fun pool => motive pool.shared) initial ?_
  intro before after event holds may executed
  cases event with
  | spawn request =>
    cases executed
    exact holds
  | operate operation =>
    cases executed
    exact operates operation holds
  | advance thread =>
    cases found : before.threads[thread]? with
    | none => simp [exec, found] at executed
    | some stepping =>
      simp only [exec, found, Except.ok.injEq] at executed
      subst executed
      exact advance holds (may stepping found)

theorem foldlM_advance (count : ℕ) (shared : σ) (threads : List τ) (thread : τ) :
    (List.replicate count (.advance threads.length)).foldlM (exec enter step operate) ⟨shared, threads ++ [thread]⟩ =
      .ok ⟨((fun state => step state.1 state.2)^[count] (shared, thread)).1,
        threads ++ [((fun state => step state.1 state.2)^[count] (shared, thread)).2]⟩ := by
  induction count generalizing shared thread with
  | zero => rfl
  | succ count ih =>
    rw [List.replicate_succ, List.foldlM_cons, exec, List.getElem?_concat_length]
    simp only [List.set_append_right _ _ (Nat.le_refl _), Nat.sub_self, List.set_cons_zero]
    exact ih _ _

end Threads

end Machine
