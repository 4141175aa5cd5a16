import WorldChain.Machine.Run

/-! # Two parties and the messages between them

Two parties exchange messages over reliable channels that keep their order. A party acts by itself or handles the
oldest message on its way to it; in both cases it may send messages to the other party.
-/

namespace Duplex

open Machine

inductive Side
  | left
  | right
deriving DecidableEq, Repr

namespace Side

def other : Side → Side
  | left => right
  | right => left

@[simp] theorem other_other (side : Side) : side.other.other = side := by cases side <;> rfl

@[simp] theorem other_ne (side : Side) : side.other ≠ side := by cases side <;> decide

@[simp] theorem ne_other (side : Side) : side ≠ side.other := (other_ne side).symm

theorem eq_or_eq_other (side reference : Side) : side = reference ∨ side = reference.other := by
  cases side <;> cases reference <;> simp [other]

theorem forall_of {motive : Side → Prop} (side : Side) (here : motive side) (there : motive side.other) (any : Side) :
    motive any := by
  rcases any.eq_or_eq_other side with rfl | rfl
  · exact here
  · exact there

end Side

variable {σ ι κ μ : Type*}

/-- The parties and, for each, the messages on their way to it, oldest first. -/
structure Link (σ μ : Type*) where
  node : Side → σ
  inbox : Side → List μ

/-- What happens on a link. -/
inductive Event (ι κ : Type*)
  | act (side : Side) (action : ι)
  | deliver (side : Side) (circumstances : κ)
deriving DecidableEq, Repr

/-- How a party acts and how it handles a message; both may send messages to the other party. -/
structure Protocol (σ ι κ μ : Type*) where
  act : σ → ι → σ × List μ
  handle : σ → κ → μ → σ × List μ

namespace Link

variable (link : Link σ μ)

def moved (side : Side) (result : σ × List μ) : Link σ μ where
  node := Function.update link.node side result.1
  inbox := Function.update link.inbox side.other (link.inbox side.other ++ result.2)

def taken (side : Side) (rest : List μ) : Link σ μ := { link with inbox := Function.update link.inbox side rest }

/-- Nothing is delivered from an empty channel. -/
def exec (protocol : Protocol σ ι κ μ) : Event ι κ → Except Unit (Link σ μ)
  | .act side action => .ok (link.moved side (protocol.act (link.node side) action))
  | .deliver side circumstances =>
    match link.inbox side with
    | [] => .error ()
    | message :: rest =>
      .ok ((link.taken side rest).moved side (protocol.handle (link.node side) circumstances message))

section

variable (side : Side) (result : σ × List μ) (rest : List μ)

@[simp] theorem moved_node : (link.moved side result).node side = result.1 := by simp [moved]

@[simp] theorem moved_node_other : (link.moved side result).node side.other = link.node side.other := by simp [moved]

@[simp] theorem moved_inbox : (link.moved side result).inbox side = link.inbox side := by simp [moved]

@[simp] theorem moved_inbox_other :
    (link.moved side result).inbox side.other = link.inbox side.other ++ result.2 := by simp [moved]

@[simp] theorem taken_node (any : Side) : (link.taken side rest).node any = link.node any := rfl

theorem taken_self : link.taken side (link.inbox side) = link := by simp [taken]

@[simp] theorem taken_inbox : (link.taken side rest).inbox side = rest := by simp [taken]

@[simp] theorem taken_inbox_other : (link.taken side rest).inbox side.other = link.inbox side.other := by simp [taken]

end

variable {link} {protocol : Protocol σ ι κ μ} {allowed : Link σ μ → Event ι κ → Prop} {source : Link σ μ}
  {log : List (Event ι κ)}

theorem exec_eq_ok {after : Link σ μ} {event : Event ι κ} : link.exec protocol event = .ok after ↔
    (∃ side action, event = .act side action ∧ link.moved side (protocol.act (link.node side) action) = after) ∨
    (∃ side circumstances message rest, event = .deliver side circumstances ∧ link.inbox side = message :: rest ∧
      (link.taken side rest).moved side (protocol.handle (link.node side) circumstances message) = after) := by
  cases event with
  | act side action => simp [exec]
  | deliver side circumstances =>
    cases waiting : link.inbox side with
    | nil => simp [exec, waiting]
    | cons message rest => simp [exec, waiting]

theorem invariant {motive : Link σ μ → Prop} (run : Run (exec · protocol) allowed source log link) (initial : motive source)
    (act : ∀ (before : Link σ μ) side action, motive before → allowed before (.act side action) →
      motive (before.moved side (protocol.act (before.node side) action)))
    (deliver : ∀ (before : Link σ μ) side circumstances message rest, motive before →
      allowed before (.deliver side circumstances) → before.inbox side = message :: rest →
      motive ((before.taken side rest).moved side (protocol.handle (before.node side) circumstances message))) :
    motive link := by
  apply Run.invariant (motive := motive) run initial
  intro before after event holds permitted effective
  rcases exec_eq_ok.mp effective with ⟨side, action, rfl, rfl⟩ | ⟨side, circumstances, message, rest, rfl, waiting, rfl⟩
  · exact act before side action holds permitted
  · exact deliver before side circumstances message rest holds permitted waiting

end Link

end Duplex
