import WorldChain.P2P.Publish

/-! # The epoch of a block under construction

`BlockEpochState` keeps the flashblocks of one payload in an array of fixed size. The first flashblock for an index
takes its slot, and draining empties the slots from the cursor on as far as they are filled.
-/

namespace WorldChain.P2P

open Reorder

variable {Body : Type*}

structure BlockNumHash where
  number : ℕ
  hash : BitVec 256
deriving DecidableEq, Repr

inductive ChainEvent (Body : Type*)
  | canon (tip : BlockNumHash)
  | pending (fb : FlashblocksPayloadV1 Body)
deriving DecidableEq, Repr

/-- Maximum number of flashblocks per epoch. -/
def maxFlashblocks : ℕ := 12

/-- State for a single flashblock epoch; the buffer is an array of fixed size. -/
structure BlockEpochState (Body : Type*) where
  parent : BlockNumHash
  payloadId : PayloadId
  cursor : ℕ
  buffer : List (Option (FlashblocksPayloadV1 Body))
  size : buffer.length = maxFlashblocks
deriving DecidableEq

namespace BlockEpochState

def insert (epoch : BlockEpochState Body) (fb : FlashblocksPayloadV1 Body) : BlockEpochState Body × Bool :=
  if fb.payloadId ≠ epoch.payloadId ∨ fb.index ≥ maxFlashblocks ∨ (slot epoch.buffer fb.index).isSome then
    (epoch, false)
  else
    ({ epoch with
        buffer := epoch.buffer.set fb.index (some fb)
        size := by rw [List.length_set, epoch.size] }, true)

/-- An epoch on `parent` that has received nothing. -/
def empty (parent : BlockNumHash) (payloadId : PayloadId) : BlockEpochState Body where
  parent := parent
  payloadId := payloadId
  cursor := 0
  buffer := List.replicate maxFlashblocks none
  size := List.length_replicate

def parentOf (base : ExecutionPayloadBaseV1) : BlockNumHash := ⟨base.blockNumber - 1, base.parentHash⟩

def tryNew (fb : FlashblocksPayloadV1 Body) (canonTip : Option BlockNumHash) : Option (BlockEpochState Body) :=
  fb.base.bind fun base =>
    let parent := parentOf base
    if canonTip.any fun tip => parent.number < tip.number then none
    else some ((empty parent fb.payloadId).insert fb).1

/-- Empty the slot at the cursor and move on. -/
def advance (epoch : BlockEpochState Body) : BlockEpochState Body :=
  { epoch with
    buffer := epoch.buffer.set epoch.cursor none
    cursor := epoch.cursor + 1
    size := by rw [List.length_set, epoch.size] }

def drain : ℕ → BlockEpochState Body → BlockEpochState Body × List (FlashblocksPayloadV1 Body)
  | 0, epoch => (epoch, [])
  | fuel + 1, epoch =>
    match slot epoch.buffer epoch.cursor with
    | some fb => ((drain fuel epoch.advance).1, fb :: (drain fuel epoch.advance).2)
    | none => (epoch, [])

variable {epoch : BlockEpochState Body} {fb : FlashblocksPayloadV1 Body}
  {received emitted : List (FlashblocksPayloadV1 Body)}

abbrev Serving (epoch : BlockEpochState Body) (received emitted : List (FlashblocksPayloadV1 Body)) : Prop :=
  Window (·.index) epoch.buffer epoch.cursor received emitted

@[simp] theorem insert_parent : (epoch.insert fb).1.parent = epoch.parent := by
  rw [insert]
  split <;> rfl

@[simp] theorem insert_payloadId : (epoch.insert fb).1.payloadId = epoch.payloadId := by
  rw [insert]
  split <;> rfl

@[simp] theorem insert_cursor : (epoch.insert fb).1.cursor = epoch.cursor := by
  rw [insert]
  split <;> rfl

theorem insert_of_ne (foreign : fb.payloadId ≠ epoch.payloadId) : (epoch.insert fb).1 = epoch := by
  rw [insert, if_pos (.inl foreign)]

theorem slot_insert (own : fb.payloadId = epoch.payloadId) {index : ℕ} (within : index < maxFlashblocks) :
    slot (epoch.insert fb).1.buffer index =
      (slot epoch.buffer index).or (if fb.index = index then some fb else none) := by
  by_cases refused : fb.payloadId ≠ epoch.payloadId ∨ fb.index ≥ maxFlashblocks ∨ (slot epoch.buffer fb.index).isSome
  · rw [insert, if_pos refused]
    by_cases same : fb.index = index
    · obtain ⟨held, present⟩ : ∃ held, slot epoch.buffer index = some held := by
        rcases refused with foreign | large | occupied
        · exact absurd own foreign
        · omega
        · exact Option.isSome_iff_exists.mp (same ▸ occupied)
      rw [present, Option.some_or]
    · rw [if_neg same, Option.or_none]
  · rw [insert, if_neg refused]
    obtain ⟨_, bounded, vacant⟩ := by simpa only [not_or] using refused
    rw [slot_set (by rw [epoch.size]; omega)]
    by_cases same : fb.index = index
    · subst same
      simp [Option.not_isSome_iff_eq_none.mp vacant]
    · rw [if_neg (Ne.symm same), if_neg same, Option.or_none]

theorem Serving.insert (serving : epoch.Serving received emitted) (fb : FlashblocksPayloadV1 Body) :
    (epoch.insert fb).1.Serving (received ++ if fb.payloadId = epoch.payloadId then [fb] else []) emitted := by
  by_cases own : fb.payloadId = epoch.payloadId
  · rw [if_pos own, Serving, insert_cursor]
    apply Window.receive serving ((epoch.insert fb).1.size.trans epoch.size.symm)
    intro index within
    exact slot_insert own (epoch.size ▸ within)
  · rw [if_neg own, List.append_nil, insert_of_ne own]
    exact serving

theorem serving_empty (parent : BlockNumHash) (payloadId : PayloadId) :
    (empty parent payloadId : BlockEpochState Body).Serving [] [] := Window.initial maxFlashblocks

theorem drain_keeps (fuel : ℕ) (epoch : BlockEpochState Body) :
    (epoch.drain fuel).1.parent = epoch.parent ∧ (epoch.drain fuel).1.payloadId = epoch.payloadId := by
  induction fuel generalizing epoch with
  | zero => exact ⟨rfl, rfl⟩
  | succ fuel ih =>
    rw [drain]
    split
    · exact ih epoch.advance
    · exact ⟨rfl, rfl⟩

theorem Serving.drain {fuel : ℕ} (serving : epoch.Serving received emitted)
    (enough : maxFlashblocks ≤ epoch.cursor + fuel) :
    (epoch.drain fuel).1.Serving received (emitted ++ (epoch.drain fuel).2) ∧
      slot (epoch.drain fuel).1.buffer (epoch.drain fuel).1.cursor = none := by
  -- each turn moves the cursor, so the fuel covers the slots that are left
  induction fuel generalizing epoch emitted with
  | zero =>
    rw [BlockEpochState.drain, List.append_nil]
    refine ⟨serving, ?_⟩
    rw [slot, List.getD_eq_default _ _ (by rw [epoch.size]; exact enough)]
  | succ fuel ih =>
    cases present : slot epoch.buffer epoch.cursor with
    | none =>
      simp only [BlockEpochState.drain, present, List.append_nil]
      exact ⟨serving, trivial⟩
    | some fb =>
      simp only [BlockEpochState.drain, present]
      rw [List.append_cons]
      have advanced : epoch.advance.Serving received (emitted ++ [fb]) := serving.take present
      exact ih advanced (by change _ ≤ epoch.cursor + 1 + fuel; omega)

theorem tryNew_eq_some {canonTip : Option BlockNumHash} : tryNew fb canonTip = some epoch ↔
    ∃ base, fb.base = some base ∧ (∀ tip, canonTip = some tip → tip.number ≤ (parentOf base).number) ∧
      ((empty (parentOf base) fb.payloadId).insert fb).1 = epoch := by
  cases opening : fb.base with
  | none => simp [tryNew, opening]
  | some base =>
    have ahead : (canonTip.any fun tip => (parentOf base).number < tip.number) = true ↔
        ¬ ∀ tip, canonTip = some tip → tip.number ≤ (parentOf base).number := by
      cases canonTip <;> simp
    by_cases stale : (canonTip.any fun tip => (parentOf base).number < tip.number) = true
    · have behind := ahead.mp stale
      simp only [tryNew, opening, Option.bind_some, if_pos stale, reduceCtorEq, false_iff]
      rintro ⟨other, same, reaches, _⟩
      obtain rfl : base = other := Option.some.inj same
      exact behind reaches
    · have reaches := not_not.mp (ahead.not.mp stale)
      simp only [tryNew, opening, Option.bind_some, if_neg stale, Option.some.injEq]
      exact ⟨fun made => ⟨base, rfl, reaches, made⟩, fun ⟨other, same, _, made⟩ => same ▸ made⟩

end BlockEpochState

end WorldChain.P2P
