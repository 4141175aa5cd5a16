import WorldChain.Machine.Run
import WorldChain.Evm.Bal

/-! # Validating a flashblock against its access list

A flashblock is validated on the state that is recovered from the payload before it. Builder and validator count the
indices of an access list apart from each other, and agree on them exactly if no payload without transactions is committed.
The totals of the executor are recovered from the header and from the refund entries of the committed transactions, so a
block may be cut where these entries are complete (`Settled`).
-/

namespace WorldChain.Validator

open Machine Primitives Evm

variable {Tx Receipt : Type}

inductive IndexBound
  | min
  | max
deriving DecidableEq

inductive ValidationError
  | missingExecutedBlock
  | balIndexMismatch (index : IndexBound) (expected got : ℕ)
  | transactionGasLimitMoreThanAvailableBlockGas (transactionGasLimit blockAvailableGas : UInt64)
  | transactionDaFootprintAboveGasLimit (transactionDaFootprint availableBlockDaFootprint : UInt64)
deriving DecidableEq

/-! ## The bounds of an access list -/

def transactionsOffset (committed : CommittedState Tx Receipt) : ℕ := committed.transactions.length + 1

def validateMinTxIndex (minTxIndex transactionsOffset : ℕ) (committed : CommittedState Tx Receipt) :
    Except ValidationError Unit :=
  let expected := if committed.isFirst then 0 else transactionsOffset
  revertIf (minTxIndex ≠ expected) (.balIndexMismatch .min expected minTxIndex)

def validateMaxTxIndex {Entry : Type} (maxTxIndex transactionsOffset : ℕ) (transactions : List (ℕ × Entry)) :
    Except ValidationError Unit :=
  let expected := (transactions.getLast?.map (·.1 + 1)).getD transactionsOffset
  revertIf (maxTxIndex ≠ expected) (.balIndexMismatch .max expected maxTxIndex)

def decodeTransactionsWithIndices {Entry : Type} (transactions : List Entry) (startIndex : ℕ) : List (ℕ × Entry) :=
  enumerate transactions startIndex

/-! ## Admission -/

structure TxResult where
  gasUsed : UInt64
  evmGasUsed : UInt64
  blobGasUsed : UInt64
  isDeposit : Bool
  isPostExec : Bool
deriving DecidableEq

/-- The totals that the executor keeps. -/
structure Executor (Receipt : Type) where
  gasUsed : UInt64
  evmGasUsed : UInt64
  daFootprintUsed : UInt64
  receipts : List Receipt
deriving DecidableEq

/-- What a flashblock is validated with. The executor adds a result to its totals, and a block is assembled from them. -/
structure ValidationCtx (Tx Receipt : Type) where
  payloadId : B64
  blockGasLimit : UInt64
  isRegolith : Bool
  isJovian : Bool
  effectiveTipPerGas : Tx → ℕ
  commitTransaction : Executor Receipt → Tx → TxResult → Executor Receipt
  assembleBlock : Executor Receipt → List Tx → Block Tx

structure BalWorkerOutput (Tx : Type) where
  index : ℕ
  transaction : Tx
  result : TxResult

structure CanonicalExecution (Tx Receipt : Type) where
  executor : Executor Receipt
  balIndex : ℕ
  transactions : List Tx
  fees : U256
deriving DecidableEq

def executeWorkers (transactions : List (ℕ × Tx × TxResult)) : List (BalWorkerOutput Tx) :=
  (transactions.map fun entry => ⟨entry.1, entry.2.1, entry.2.2⟩).insertionSort (·.index ≤ ·.index)

variable [OpTransaction Tx]

def ValidationCtx.admitOutput (ctx : ValidationCtx Tx Receipt) (execution : CanonicalExecution Tx Receipt)
    (output : BalWorkerOutput Tx) : Except ValidationError (CanonicalExecution Tx Receipt) := do
  let blockAvailableGas := Saturating.sub ctx.blockGasLimit execution.executor.evmGasUsed
  let transactionGasLimit := OpTransaction.gasLimit output.transaction
  revertIf ((ctx.isRegolith || !output.result.isDeposit) = true ∧ transactionGasLimit > blockAvailableGas)
    (.transactionGasLimitMoreThanAvailableBlockGas transactionGasLimit blockAvailableGas)
  let availableBlockDaFootprint := Saturating.sub ctx.blockGasLimit execution.executor.daFootprintUsed
  revertIf ((ctx.isJovian && !output.result.isDeposit && !output.result.isPostExec) = true ∧
      output.result.blobGasUsed > availableBlockDaFootprint)
    (.transactionDaFootprintAboveGasLimit output.result.blobGasUsed availableBlockDaFootprint)
  let fee := output.result.gasUsed.toNat * ctx.effectiveTipPerGas output.transaction
  return {
    executor := ctx.commitTransaction execution.executor output.transaction output.result
    balIndex := output.index
    transactions := execution.transactions ++ [output.transaction]
    fees := if OpTransaction.isDeposit output.transaction then execution.fees else execution.fees + Fin.ofNat _ fee }

def CanonicalExecution.start (committed : CommittedState Tx Receipt) : CanonicalExecution Tx Receipt where
  executor :=
    { gasUsed := committed.gasUsed
      evmGasUsed := committed.evmGasUsed
      daFootprintUsed := committed.blobGasUsed
      receipts := committed.receiptsIter }
  balIndex := if committed.isFirst then 0 else transactionsOffset committed
  transactions := committed.transactionsIter
  fees := 0

def ValidationCtx.payload (ctx : ValidationCtx Tx Receipt) (committedFees : U256)
    (execution : CanonicalExecution Tx Receipt) : OpBuiltPayload Tx Receipt where
  id := ctx.payloadId
  fees := committedFees + execution.fees
  block := ctx.assembleBlock execution.executor execution.transactions
  executedBlock := some execution.executor.receipts

def ValidationCtx.executeBlock (ctx : ValidationCtx Tx Receipt) (committed : Option (OpBuiltPayload Tx Receipt))
    (transactions : List (Tx × TxResult)) :
    Except ValidationError (Executor Receipt × OpBuiltPayload Tx Receipt) :=
  match CommittedState.tryFrom committed with
  | .error .missingExecutedBlock => .error .missingExecutedBlock
  | .ok state => do
    let outputs := executeWorkers (decodeTransactionsWithIndices transactions (transactionsOffset state))
    let execution ← outputs.foldlM ctx.admitOutput (.start state)
    return (execution.executor, ctx.payload state.fees execution)

def ValidationCtx.executeBlocks (ctx : ValidationCtx Tx Receipt)
    (committed : Option (Executor Receipt × OpBuiltPayload Tx Receipt)) (flashblocks : List (List (Tx × TxResult))) :
    Except ValidationError (Option (Executor Receipt × OpBuiltPayload Tx Receipt)) :=
  flashblocks.foldlM (fun committed transactions => some <$> ctx.executeBlock (committed.map (·.2)) transactions) committed

/-! ## Builder and validator agree on indices -/

omit [OpTransaction Tx] in
theorem executeWorkers_enumerate (entries : List (Tx × TxResult)) (start : ℕ) :
    executeWorkers (enumerate entries start) = (enumerate entries start).map fun entry => ⟨entry.1, entry.2.1, entry.2.2⟩ := by
  apply List.Pairwise.insertionSort_eq
  have indices : (enumerate entries start).map (·.1) = List.range' start entries.length := by
    rw [enumerate, List.map_map]
    exact List.zipIdx_map_snd start entries
  have ascending := List.pairwise_le_range' (s := start) (n := entries.length)
  rw [← indices, List.pairwise_map] at ascending
  exact List.pairwise_map.mpr ascending

theorem getElem?_enumerate {Entry : Type} (entries : List Entry) (start n : ℕ) :
    (enumerate entries start)[n]? = entries[n]?.map (start + n, ·) := by
  simp [enumerate, Function.comp_def]

/-- The validator expects the bounds that the builder has counted, and admits each transaction at the builder's index.
-/
def IndicesAgree (ctx : ValidationCtx Tx Receipt) (committed : CommittedState Tx Receipt) (builder : BalBlockBuilder Tx)
    (executed : List (ℕ × Tx)) : Prop :=
  validateMinTxIndex builder.counter.finish.1 (transactionsOffset committed) committed = .ok () ∧
  validateMaxTxIndex builder.counter.finish.2 (transactionsOffset committed)
    (decodeTransactionsWithIndices (executed.map (·.2)) (transactionsOffset committed)) = .ok () ∧
  ∀ entries : List (Tx × TxResult), entries.map (·.1) = executed.map (·.2) → ∀ (n : ℕ) output,
    (executeWorkers (decodeTransactionsWithIndices entries (transactionsOffset committed)))[n]? = some output →
    ∀ before after, ctx.admitOutput before output = .ok after → executed[n]? = some (after.balIndex, output.transaction)

theorem admitOutput_spec {ctx : ValidationCtx Tx Receipt} {before after : CanonicalExecution Tx Receipt}
    {output : BalWorkerOutput Tx} (admitted : ctx.admitOutput before output = .ok after) :
    after.balIndex = output.index ∧ after.transactions = before.transactions ++ [output.transaction] := by
  simp only [ValidationCtx.admitOutput, bind_eq_ok, revertIf_eq_ok, pure_eq_ok] at admitted
  obtain ⟨_, _, _, _, rfl⟩ := admitted
  exact ⟨rfl, rfl⟩

omit [OpTransaction Tx] in
theorem validateMaxTxIndex_enumerate (transactions : List Tx) (offset : ℕ) :
    validateMaxTxIndex (offset + transactions.length) offset (decodeTransactionsWithIndices transactions offset) = .ok () := by
  rw [validateMaxTxIndex, revertIf_eq_ok, not_not, decodeTransactionsWithIndices, List.getLast?_eq_getElem?,
    getElem?_enumerate, length_enumerate]
  cases transactions with
  | nil => rfl
  | cons first rest => simp [Nat.add_assoc]

omit [OpTransaction Tx] in
theorem validateMinTxIndex_eq_ok {minTxIndex offset : ℕ} {committed : CommittedState Tx Receipt} :
    validateMinTxIndex minTxIndex offset committed = .ok () ↔ minTxIndex = if committed.isFirst then 0 else offset := by
  simp [validateMinTxIndex]

theorem indicesAgree_of_offset (ctx : ValidationCtx Tx Receipt) {committed : CommittedState Tx Receipt}
    {builder : BalBlockBuilder Tx} (synced : builder.Synced) (offset : builder.balIndex = transactionsOffset committed)
    (start : builder.counter.startIndex = if committed.isFirst then 0 else transactionsOffset committed)
    (attempts : List (Tx × Bool)) :
    IndicesAgree ctx committed (builder.executeTransactions attempts).1 (builder.executeTransactions attempts).2 := by
  obtain ⟨indices, bounds⟩ := BalBlockBuilder.executeTransactions_spec synced attempts
  generalize (builder.executeTransactions attempts).2 = executed at indices bounds ⊢
  rw [IndicesAgree, bounds, offset]
  refine ⟨validateMinTxIndex_eq_ok.mpr start, ?_, ?_⟩
  · simpa using validateMaxTxIndex_enumerate (executed.map (·.2)) (transactionsOffset committed)
  · intro entries same n output found before after admitted
    rw [decodeTransactionsWithIndices, executeWorkers_enumerate, List.getElem?_map, getElem?_enumerate,
      Option.map_map, Option.map_eq_some_iff] at found
    obtain ⟨entry, held, rfl⟩ := found
    have tx : (executed.map (·.2))[n]? = some entry.1 := by rw [← same, List.getElem?_map, held]; rfl
    rw [indices, getElem?_enumerate, tx, (admitOutput_spec admitted).1, offset]
    rfl

/-- Builder and validator agree on the indices exactly if no payload is committed or it has a transaction: without one
the builder starts at 0 and the validator expects 1. -/
theorem indices_agree_iff (ctx : ValidationCtx Tx Receipt) (committed : Option (OpBuiltPayload Tx Receipt))
    (state : CommittedState Tx Receipt) (attempts : List (Tx × Bool)) (builder : BalBlockBuilder Tx)
    (executed : List (ℕ × Tx)) (recovered : CommittedState.tryFrom committed = .ok state)
    (built : BalBlockBuilder.build committed attempts = .ok (builder, executed)) :
    IndicesAgree ctx state builder executed ↔ ∀ payload ∈ committed, payload.block.transactions ≠ [] := by
  rw [BalBlockBuilder.build, recovered] at built
  obtain ⟨rfl, rfl⟩ := Prod.ext_iff.mp (Except.ok.inj built)
  have synced := BalBlockBuilder.synced_start committed.isNone state.transactionsIter
  cases committed with
  | none =>
    cases recovered
    exact iff_of_true (indicesAgree_of_offset ctx synced rfl rfl attempts) nofun
  | some payload =>
    obtain ⟨receipts, _, rfl⟩ := CommittedState.tryFrom_some recovered
    simp only [CommittedState.transactionsIter, map_snd_enumerate] at synced ⊢
    cases transactions : payload.block.transactions with
    | nil =>
      -- The builder looks at the transactions where the validator looks at the payload.
      refine iff_of_false (fun agree => ?_) (by simp [transactions])
      rw [transactions] at synced
      have first := validateMinTxIndex_eq_ok.mp agree.1
      rw [(BalBlockBuilder.executeTransactions_spec synced attempts).2] at first
      exact absurd first (by simp [BalBlockBuilder.start, BalBlockBuilder.new, BlockAccessIndexCounter.new, transactionsOffset])
    | cons tx rest =>
      rw [transactions] at synced
      refine iff_of_true (indicesAgree_of_offset ctx synced ?_ ?_ attempts) (by simp [transactions])
      · simp [BalBlockBuilder.start, BalBlockBuilder.new, transactionsOffset]
      · simp [BalBlockBuilder.start, BalBlockBuilder.new, BlockAccessIndexCounter.new, transactionsOffset]

section Sample

structure SampleTx where
  gasLimit : UInt64
  refunds : Option (List UInt64)
deriving DecidableEq

instance sampleOpTransaction : OpTransaction SampleTx where
  gasLimit := SampleTx.gasLimit
  isDeposit _ := false
  encodedLength _ := 110
  asPostExec := SampleTx.refunds

def sampleValidation : ValidationCtx SampleTx UInt64 where
  payloadId := sampleB64 1
  blockGasLimit := 100000
  isRegolith := true
  isJovian := true
  effectiveTipPerGas _ := 1
  commitTransaction executor _ result :=
    { gasUsed := executor.gasUsed + result.gasUsed
      evmGasUsed := executor.evmGasUsed + result.evmGasUsed
      daFootprintUsed := executor.daFootprintUsed + result.blobGasUsed
      receipts := executor.receipts ++ [executor.gasUsed + result.gasUsed] }
  assembleBlock executor transactions :=
    ⟨sampleB256 1, sampleHeader executor.gasUsed (some executor.daFootprintUsed), transactions, none⟩

def samplePayload (transactions : List SampleTx) : OpBuiltPayload SampleTx UInt64 :=
  ⟨sampleB64 1, 0, ⟨sampleB256 1, sampleHeader 0 none, transactions, none⟩, some []⟩

def sampleTransfer : SampleTx := ⟨50000, none⟩

theorem indices_agree_after_transfer :
    ∃ state builder executed, CommittedState.tryFrom (some (samplePayload [sampleTransfer])) = .ok state ∧
      BalBlockBuilder.build (some (samplePayload [sampleTransfer])) [(sampleTransfer, false), (sampleTransfer, true)] =
        .ok (builder, executed) ∧
      executed = [(2, sampleTransfer)] ∧ IndicesAgree sampleValidation state builder executed := by
  refine ⟨_, _, _, rfl, rfl, rfl, ?_⟩
  apply (indices_agree_iff sampleValidation (some (samplePayload [sampleTransfer])) _
    [(sampleTransfer, false), (sampleTransfer, true)] _ _ rfl rfl).mpr
  simp [samplePayload]

theorem indices_disagree_on_empty_payload :
    ∃ state builder executed, CommittedState.tryFrom (some (samplePayload [])) = .ok state ∧
      BalBlockBuilder.build (some (samplePayload [])) [(sampleTransfer, true)] = .ok (builder, executed) ∧
      builder.counter.finish = (0, 1) ∧ executed = [(0, sampleTransfer)] ∧
      validateMinTxIndex 0 (transactionsOffset state) state = .error (.balIndexMismatch .min 1 0) ∧
      validateMaxTxIndex 1 (transactionsOffset state)
        (decodeTransactionsWithIndices [sampleTransfer] (transactionsOffset state)) = .error (.balIndexMismatch .max 2 1) ∧
      ¬ IndicesAgree sampleValidation state builder executed := by
  refine ⟨_, _, _, rfl, rfl, rfl, rfl, rfl, rfl, fun agree => ?_⟩
  have rejected := agree.1
  cases rejected

end Sample

/-! ## Cutting a block into flashblocks -/

namespace ValidationCtx

variable (ctx : ValidationCtx Tx Receipt)

/-- An assembled block has the totals of the executor in its header, and the transactions in order. -/
structure WritesTotals : Prop where
  gasUsed (executor : Executor Receipt) (transactions : List Tx) :
    (ctx.assembleBlock executor transactions).header.gasUsed = executor.gasUsed
  blobGasUsed (executor : Executor Receipt) (transactions : List Tx) :
    (ctx.assembleBlock executor transactions).header.blobGasUsed = some executor.daFootprintUsed
  transactions (executor : Executor Receipt) (transactions : List Tx) :
    (ctx.assembleBlock executor transactions).transactions = transactions

/-- Admit transactions on top of an execution. -/
def admitAll (execution : CanonicalExecution Tx Receipt) (transactions : List (Tx × TxResult)) :
    Except ValidationError (CanonicalExecution Tx Receipt) :=
  (executeWorkers (decodeTransactionsWithIndices transactions (execution.transactions.length + 1))).foldlM
    ctx.admitOutput execution

end ValidationCtx

def CanonicalExecution.fresh : CanonicalExecution Tx Receipt := ⟨⟨0, 0, 0, []⟩, 0, [], 0⟩

/-- The refund entries of the transactions sum to the difference between the gas before and after refunds. -/
def CanonicalExecution.Settled (execution : CanonicalExecution Tx Receipt) : Prop :=
  execution.executor.gasUsed.toNat + ((gasRefundEntries execution.transactions).map UInt64.toNat).sum =
    execution.executor.evmGasUsed.toNat

/-- The same execution, but that fees have been committed before one of the two. -/
structure Continues (committedFees : U256) (execution whole : CanonicalExecution Tx Receipt) : Prop where
  executor : execution.executor = whole.executor
  transactions : execution.transactions = whole.transactions
  fees : committedFees + execution.fees = whole.fees

section Split

variable {ctx : ValidationCtx Tx Receipt} {execution whole after : CanonicalExecution Tx Receipt} {committedFees : U256}

theorem Continues.admitOutput (continues : Continues committedFees execution whole) (output : BalWorkerOutput Tx) :
    Alike (Continues committedFees) (ctx.admitOutput execution output) (ctx.admitOutput whole output) := by
  obtain ⟨executor, transactions, fees⟩ := continues
  rw [ValidationCtx.admitOutput, ValidationCtx.admitOutput, executor]
  refine Alike.bind fun _ => Alike.bind fun _ => .ok ⟨rfl, congrArg (· ++ [output.transaction]) transactions, ?_⟩
  dsimp only
  split
  · exact fees
  · rw [← fees, add_assoc]

theorem length_foldlM_admitOutput {outputs : List (BalWorkerOutput Tx)}
    (admitted : outputs.foldlM ctx.admitOutput execution = .ok after) :
    after.transactions.length = execution.transactions.length + outputs.length := by
  induction outputs generalizing execution with
  | nil =>
    cases admitted
    rfl
  | cons output rest ih =>
    obtain ⟨middle, first, later⟩ := bind_eq_ok.mp (List.foldlM_cons.symm.trans admitted)
    rw [ih later, (admitOutput_spec first).2, List.length_append, List.length_singleton, List.length_cons]
    omega

theorem admitAll_append (first second : List (Tx × TxResult)) :
    ctx.admitAll execution (first ++ second) = ctx.admitAll execution first >>= (ctx.admitAll · second) := by
  simp only [ValidationCtx.admitAll, decodeTransactionsWithIndices, executeWorkers_enumerate]
  rw [enumerate, List.zipIdx_append, List.map_append, List.map_append, List.foldlM_append]
  cases ended : List.foldlM ctx.admitOutput execution _ with
  | error error => simp only [enumerate, ended]; rfl
  | ok middle =>
    have length := length_foldlM_admitOutput ended
    simp only [List.length_map, List.length_zipIdx] at length
    simp only [enumerate, ended]
    change List.foldlM _ _ _ = List.foldlM _ _ _
    rw [length, Nat.add_right_comm]

theorem executeBlock_eq {committed : Option (OpBuiltPayload Tx Receipt)} {state : CommittedState Tx Receipt}
    (recovered : CommittedState.tryFrom committed = .ok state) (continues : Continues state.fees (.start state) whole)
    (transactions : List (Tx × TxResult)) :
    ctx.executeBlock committed transactions =
      (fun execution => (execution.executor, ctx.payload 0 execution)) <$> ctx.admitAll whole transactions := by
  have length : transactionsOffset state = whole.transactions.length + 1 := by
    rw [← continues.transactions]
    simp [CanonicalExecution.start, CommittedState.transactionsIter, transactionsOffset]
  rw [ValidationCtx.executeBlock, recovered, ValidationCtx.admitAll]
  simp only [length]
  have ended := Alike.foldlM (fun continues output => @Continues.admitOutput _ _ _ ctx _ _ _ continues output)
    (executeWorkers (decodeTransactionsWithIndices transactions (whole.transactions.length + 1))) continues
  generalize List.foldlM ctx.admitOutput (.start state) _ = part, List.foldlM ctx.admitOutput whole _ = together at ended ⊢
  cases ended with
  | error error => rfl
  | ok same =>
    simp only [Functor.map, Except.map, bind, Except.bind, pure, Except.pure, ValidationCtx.payload, same.executor,
      same.transactions, same.fees, zero_add]

theorem recovers (writes : ctx.WritesTotals) (settled : whole.Settled) :
    ∃ state, CommittedState.tryFrom (some (ctx.payload 0 whole)) = .ok state ∧ Continues state.fees (.start state) whole := by
  refine ⟨_, rfl, ?_, ?_, ?_⟩
  · have word := whole.executor.evmGasUsed.toNat_lt
    have entries := @Saturating.toNat_foldl_add (gasRefundEntries whole.transactions) 0
      (by rw [CanonicalExecution.Settled] at settled; change 0 + _ < _; omega)
    have refunded : preRefundGasUsed whole.executor.gasUsed whole.transactions = whole.executor.evmGasUsed := by
      rw [← UInt64.toNat_inj, ← settled, preRefundGasUsed, Saturating.toNat_add, entries]
      · change _ + (0 + _) = _
        rw [Nat.zero_add]
      · rw [entries]
        change _ + (0 + _) < _
        rw [Nat.zero_add, settled]
        exact word
    simp [CanonicalExecution.start, ValidationCtx.payload, writes.gasUsed, writes.blobGasUsed, writes.transactions,
      refunded, CommittedState.receiptsIter]
  · simp [CanonicalExecution.start, ValidationCtx.payload, writes.transactions, CommittedState.transactionsIter]
  · simp [CanonicalExecution.start, ValidationCtx.payload]

theorem executeBlocks_some (writes : ctx.WritesTotals) (flashblocks : List (List (Tx × TxResult)))
    (settled : ∀ front back, flashblocks = front ++ back → back ≠ [] →
      ∀ execution, ctx.admitAll whole front.flatten = .ok execution → execution.Settled) :
    ctx.executeBlocks (some (whole.executor, ctx.payload 0 whole)) flashblocks =
      (fun execution => some (execution.executor, ctx.payload 0 execution)) <$> ctx.admitAll whole flashblocks.flatten := by
  induction flashblocks generalizing whole with
  | nil => rfl
  | cons transactions rest ih =>
    obtain ⟨state, recovered, continues⟩ := recovers writes (settled [] _ rfl (List.cons_ne_nil _ _) whole rfl)
    rw [ValidationCtx.executeBlocks, List.foldlM_cons, List.flatten_cons, admitAll_append, Option.map_some,
      executeBlock_eq recovered continues]
    cases admitted : ctx.admitAll whole transactions with
    | error error => rfl
    | ok middle =>
      refine ih fun front back split some execution later => ?_
      refine settled (transactions :: front) back (by rw [split]; rfl) some execution ?_
      rw [List.flatten_cons, admitAll_append, admitted]
      exact later

end Split

/-- Flashblocks, one on the payload of the other, are admitted exactly if their transactions are admitted as one, with
the same totals, payload and error. -/
theorem executeBlocks_flatten (ctx : ValidationCtx Tx Receipt) (writes : ctx.WritesTotals)
    (first : List (Tx × TxResult)) (rest : List (List (Tx × TxResult)))
    (settled : ∀ front back, first :: rest = front ++ back → front ≠ [] → back ≠ [] →
      ∀ execution, ctx.admitAll .fresh front.flatten = .ok execution → execution.Settled) :
    ctx.executeBlocks none (first :: rest) = ctx.executeBlocks none [(first :: rest).flatten] := by
  have begins : Continues 0 (.start ⟨true, 0, 0, 0, 0, [], []⟩) (CanonicalExecution.fresh : CanonicalExecution Tx Receipt) :=
    ⟨rfl, rfl, rfl⟩
  have together : ctx.executeBlocks none [(first :: rest).flatten] =
      (fun execution => some (execution.executor, ctx.payload 0 execution)) <$> ctx.admitAll .fresh (first :: rest).flatten := by
    rw [ValidationCtx.executeBlocks, List.foldlM_cons, Option.map_none, executeBlock_eq rfl begins]
    cases ctx.admitAll .fresh (first :: rest).flatten <;> rfl
  rw [together, ValidationCtx.executeBlocks, List.foldlM_cons, List.flatten_cons, admitAll_append, Option.map_none,
    executeBlock_eq rfl begins]
  cases admitted : ctx.admitAll .fresh first with
  | error error => rfl
  | ok middle =>
    refine executeBlocks_some writes rest fun front back split some execution later => ?_
    refine settled (first :: front) back (by rw [split]; rfl) (List.cons_ne_nil _ _) some execution ?_
    rw [List.flatten_cons, admitAll_append, admitted]
    exact later

section Sample

def sampleCut : List (List (SampleTx × TxResult)) :=
  [[(sampleTransfer, ⟨21000, 30000, 100, false, false⟩), (⟨0, some [9000]⟩, ⟨0, 0, 0, false, true⟩)],
    [(⟨70000, none⟩, ⟨70000, 70000, 100, false, false⟩)]]

def sampleSettled : CanonicalExecution SampleTx UInt64 :=
  ⟨⟨21000, 30000, 100, [21000, 21000]⟩, 2, [sampleTransfer, ⟨0, some [9000]⟩], 21000⟩

theorem executeBlocks_flatten_settled :
    sampleValidation.executeBlocks none sampleCut = sampleValidation.executeBlocks none [sampleCut.flatten] ∧
      (sampleValidation.executeBlocks none sampleCut).toOption.map (·.map (·.1)) =
        some (some ⟨91000, 100000, 200, [21000, 21000, 91000]⟩) := by
  refine ⟨executeBlocks_flatten sampleValidation ⟨fun _ _ => rfl, fun _ _ => rfl, fun _ _ => rfl⟩ _ _ ?_, by decide +kernel⟩
  intro front back cut some later execution admitted
  -- The only cut is after the first flashblock.
  rcases front with _ | ⟨first, _ | ⟨second, front⟩⟩
  · exact absurd rfl some
  · obtain ⟨rfl, _⟩ := List.cons.inj cut
    have ends : sampleValidation.admitAll .fresh (sampleCut.take 1).flatten = .ok sampleSettled := by decide +kernel
    obtain rfl := Except.ok.inj (ends.symm.trans admitted)
    unfold CanonicalExecution.Settled
    decide +kernel
  · simp only [List.cons_append, List.cons.injEq, List.nil_eq, List.append_eq_nil_iff] at cut
    exact absurd cut.2.2.2 later

/-- A cut before the refund entries of its first transaction. -/
def earlyCut : List (List (SampleTx × TxResult)) :=
  [[(sampleTransfer, ⟨21000, 30000, 100, false, false⟩)],
    [(⟨0, some [9000]⟩, ⟨0, 0, 0, false, true⟩), (⟨75000, none⟩, ⟨70000, 70000, 100, false, false⟩)]]

theorem early_cut_is_admitted :
    sampleValidation.admitAll .fresh (earlyCut.flatten.take 2) = .ok sampleSettled ∧ sampleSettled.Settled ∧
      (sampleValidation.executeBlocks none earlyCut).toOption.map (·.map (·.1)) =
        some (some ⟨91000, 91000, 200, [21000, 21000, 91000]⟩) ∧
      (sampleValidation.executeBlocks none [earlyCut.flatten]).map (·.map (·.1)) =
        .error (.transactionGasLimitMoreThanAvailableBlockGas 75000 70000) := by
  refine ⟨by decide +kernel, ?_, by decide +kernel, by decide +kernel⟩
  unfold CanonicalExecution.Settled
  decide +kernel

end Sample

end WorldChain.Validator
