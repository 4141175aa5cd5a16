import WorldChain.Lib.Saturating
import WorldChain.Primitives.Flashblocks

/-! # Building on a committed payload

What has been committed of a block is recovered from the payload that holds it: the gas and the data footprint are in
the header, and the gas before refunds is the gas with the refund entries of the post-exec transactions added back.
-/

namespace WorldChain.Evm

open Primitives

/-- What is read of a transaction; a post-exec transaction has refund entries. -/
class OpTransaction (Tx : Type) where
  gasLimit : Tx → UInt64
  isDeposit : Tx → Bool
  encodedLength : Tx → UInt64
  asPostExec : Tx → Option (List UInt64)

inductive BalExecutorError
  | missingExecutedBlock
deriving DecidableEq

variable {Tx Receipt : Type}

def gasRefundEntries [OpTransaction Tx] (transactions : List Tx) : List UInt64 :=
  (transactions.filterMap OpTransaction.asPostExec).flatten

def preRefundGasUsed [OpTransaction Tx] (gasUsed : UInt64) (transactions : List Tx) : UInt64 :=
  Saturating.add gasUsed ((gasRefundEntries transactions).foldl Saturating.add 0)

/-- Number entries from a start. -/
def enumerate {Entry : Type} (entries : List Entry) (start : ℕ) : List (ℕ × Entry) := (entries.zipIdx start).map Prod.swap

@[simp] theorem map_snd_enumerate {Entry : Type} (entries : List Entry) (start : ℕ) :
    (enumerate entries start).map (·.2) = entries := by
  rw [enumerate, List.map_map]
  exact List.zipIdx_map_fst start entries

@[simp] theorem length_enumerate {Entry : Type} (entries : List Entry) (start : ℕ) :
    (enumerate entries start).length = entries.length := by
  simp [enumerate]

/-- What has been committed of the block that is executed on top of it. -/
structure CommittedState (Tx Receipt : Type) where
  isFirst : Bool
  gasUsed : UInt64
  evmGasUsed : UInt64
  blobGasUsed : UInt64
  fees : U256
  receipts : List (ℕ × Receipt)
  transactions : List (ℕ × Tx)

namespace CommittedState

def transactionsIter (state : CommittedState Tx Receipt) : List Tx := state.transactions.map (·.2)

def receiptsIter (state : CommittedState Tx Receipt) : List Receipt := state.receipts.map (·.2)

def tryFrom [OpTransaction Tx] : Option (OpBuiltPayload Tx Receipt) → Except BalExecutorError (CommittedState Tx Receipt)
  | none => .ok ⟨true, 0, 0, 0, 0, [], []⟩
  | some payload =>
    match payload.executedBlock with
    | none => .error .missingExecutedBlock
    | some receipts =>
      .ok
        { isFirst := false
          gasUsed := payload.block.header.gasUsed
          evmGasUsed := preRefundGasUsed payload.block.header.gasUsed payload.block.transactions
          blobGasUsed := payload.block.header.blobGasUsed.getD 0
          fees := payload.fees
          receipts := enumerate receipts 0
          transactions := enumerate payload.block.transactions 0 }

theorem tryFrom_some [OpTransaction Tx] {payload : OpBuiltPayload Tx Receipt} {state : CommittedState Tx Receipt}
    (recovered : tryFrom (some payload) = .ok state) :
    ∃ receipts, payload.executedBlock = some receipts ∧
      state = ⟨false, payload.block.header.gasUsed,
        preRefundGasUsed payload.block.header.gasUsed payload.block.transactions, payload.block.header.blobGasUsed.getD 0,
        payload.fees, enumerate receipts 0, enumerate payload.block.transactions 0⟩ := by
  cases held : payload.executedBlock with
  | none => simp [tryFrom, held] at recovered
  | some receipts =>
    simp only [tryFrom, held, Except.ok.injEq] at recovered
    exact ⟨receipts, rfl, recovered.symm⟩

end CommittedState

/-! ## Counting changes -/

/-- The bounds of the indices that a build has used. -/
structure BlockAccessIndexCounter where
  currentIndex : ℕ
  startIndex : ℕ

namespace BlockAccessIndexCounter

def new (startIndex : ℕ) : BlockAccessIndexCounter := ⟨startIndex, startIndex⟩

def inc (counter : BlockAccessIndexCounter) : BlockAccessIndexCounter :=
  { counter with currentIndex := counter.currentIndex + 1 }

def finish (counter : BlockAccessIndexCounter) : ℕ × ℕ := (counter.startIndex, counter.currentIndex)

end BlockAccessIndexCounter

/-- A builder: the transactions of its block, the count of changes, and the index that its database is set to. -/
structure BalBlockBuilder (Tx : Type) where
  transactions : List Tx
  counter : BlockAccessIndexCounter
  balIndex : ℕ

namespace BalBlockBuilder

def new (transactions : List Tx) : BalBlockBuilder Tx :=
  let startIndex := if transactions.isEmpty then 0 else transactions.length + 1
  ⟨transactions, .new startIndex, startIndex⟩

variable (builder : BalBlockBuilder Tx)

def prepareDatabase : BalBlockBuilder Tx :=
  { builder with counter := builder.counter.inc, balIndex := builder.counter.inc.currentIndex }

def applyPreExecutionChanges : BalBlockBuilder Tx := builder.prepareDatabase

def executeTransaction (tx : Tx) (commit : Bool) : BalBlockBuilder Tx :=
  if commit then { builder with transactions := builder.transactions ++ [tx] }.prepareDatabase else builder

def executeTransactions : BalBlockBuilder Tx → List (Tx × Bool) → BalBlockBuilder Tx × List (ℕ × Tx)
  | builder, [] => (builder, [])
  | builder, (tx, commit) :: rest =>
    let (final, executed) := (builder.executeTransaction tx commit).executeTransactions rest
    (final, if commit then (builder.balIndex, tx) :: executed else executed)

def start (isFirst : Bool) (transactions : List Tx) : BalBlockBuilder Tx :=
  if isFirst then (new transactions).applyPreExecutionChanges else new transactions

/-- A build on a committed payload. -/
def build [OpTransaction Tx] (committed : Option (OpBuiltPayload Tx Receipt)) (attempts : List (Tx × Bool)) :
    Except BalExecutorError (BalBlockBuilder Tx × List (ℕ × Tx)) := do
  let state ← CommittedState.tryFrom committed
  return (start committed.isNone state.transactionsIter).executeTransactions attempts

def Synced (builder : BalBlockBuilder Tx) : Prop := builder.balIndex = builder.counter.currentIndex

theorem synced_start (isFirst : Bool) (transactions : List Tx) : (start isFirst transactions).Synced := by
  cases isFirst <;> rfl

theorem executeTransactions_spec {builder : BalBlockBuilder Tx} (synced : builder.Synced) (attempts : List (Tx × Bool)) :
    (builder.executeTransactions attempts).2 =
        enumerate ((builder.executeTransactions attempts).2.map (·.2)) builder.balIndex ∧
      (builder.executeTransactions attempts).1.counter.finish =
        (builder.counter.startIndex, builder.balIndex + (builder.executeTransactions attempts).2.length) := by
  induction attempts generalizing builder with
  | nil => exact ⟨rfl, by rw [executeTransactions, synced]; rfl⟩
  | cons attempt rest ih =>
    obtain ⟨tx, commit⟩ := attempt
    cases commit with
    | false => exact ih synced
    | true =>
      have advanced : (builder.executeTransaction tx true).balIndex = builder.balIndex + 1 := by
        rw [synced]
        rfl
      obtain ⟨indices, bounds⟩ := @ih (builder.executeTransaction tx true) rfl
      rw [advanced] at indices bounds
      constructor
      · exact congrArg ((builder.balIndex, tx) :: ·) indices
      · refine bounds.trans (congrArg (builder.counter.startIndex, ·) ?_)
        rw [Nat.add_right_comm, Nat.add_assoc]
        rfl

end BalBlockBuilder

end WorldChain.Evm
