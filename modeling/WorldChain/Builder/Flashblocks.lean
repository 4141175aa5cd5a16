import WorldChain.Builder.BestTransactions
import WorldChain.Evm.Bal

/-! # A block built as successive flashblocks

Each build after the first continues from the committed payload, save for the gas before refunds and the collected
nullifiers.
-/

namespace WorldChain.Builder

open Machine Primitives Evm

variable {Nullifier Address Hash : Type}

/-- A transaction of a block. -/
structure BlockTx (Nullifier Hash : Type) where
  hash : Hash
  gasLimit : UInt64
  encodedLength : UInt64
  estimatedDaSize : UInt64
  isDeposit : Bool
  gasRefundEntries : Option (List UInt64)
  pbhPayload : Option (List Nullifier)
deriving DecidableEq

instance blockOpTransaction : OpTransaction (BlockTx Nullifier Hash) where
  gasLimit := BlockTx.gasLimit
  isDeposit := BlockTx.isDeposit
  encodedLength := BlockTx.encodedLength
  asPostExec := BlockTx.gasRefundEntries

def BlockTx.nullifiers (tx : BlockTx Nullifier Hash) : List Nullifier := tx.pbhPayload.getD []

def PooledTx.intoConsensus (tx : PooledTx Nullifier Address Hash) : BlockTx Nullifier Hash where
  hash := tx.hash
  gasLimit := tx.gasLimit
  encodedLength := tx.encodedLength
  estimatedDaSize := tx.estimatedDaSize
  isDeposit := tx.isDeposit
  gasRefundEntries := none
  pbhPayload := tx.pbhPayload

abbrev BlockPayload (Nullifier Hash : Type) := OpBuiltPayload (BlockTx Nullifier Hash) Unit

structure Attempt (Nullifier Address Hash : Type) where
  sequencerTransactions : List (BlockTx Nullifier Hash)
  unverified : ∀ tx ∈ sequencerTransactions, tx.pbhPayload = none
  sequencerInfo : ExecutionInfo
  hasPool : Bool
  noTxPool : Bool
  offers : List (Offer Nullifier Address Hash)
  spending : Spending
  spendHash : Hash
  spendLength : UInt64
  isBetterPayload : Bool
  blockHash : B256
  header : BlockHeader
  withdrawals : Option (List Withdrawal)

inductive PayloadBuilderError
  | missingExecutedBlock
  | missingPayload
  | evmExecutionError
  | other
deriving DecidableEq

inductive BuildOutcomeKind (Payload : Type)
  | better (payload : Payload)
  | freeze (payload : Payload)
  | aborted (fees : BitVec 256)

/-- The configuration of the builds of a block. -/
structure BlockBuild (Address : Type) where
  ctx : BuilderCtx Address
  effectiveGasLimit : UInt64
  payloadId : B64

structure BuildStart (Nullifier Hash : Type) where
  info : ExecutionInfo
  effectiveGasLimit : UInt64
  cumulativeUncompressedBytes : UInt64
  transactions : List (BlockTx Nullifier Hash)
  visited : List Hash
deriving DecidableEq

def uncompressedBytes (transactions : List (BlockTx Nullifier Hash)) : UInt64 :=
  (transactions.map OpTransaction.encodedLength).sum

def daBytes (transactions : List (BlockTx Nullifier Hash)) : UInt64 :=
  ((transactions.filter fun tx => !OpTransaction.isDeposit tx).map (·.estimatedDaSize)).sum

def drainPrevious [DecidableEq Hash] (visited : List Hash) (offers : List (Offer Nullifier Address Hash)) :
    List (Offer Nullifier Address Hash) :=
  offers.filter fun offer => offer.tx.hash ∉ visited

def Attempt.spendTransaction (attempt : Attempt Nullifier Address Hash) (built : Built Nullifier Address Hash) :
    List (BlockTx Nullifier Hash) :=
  match built.spend, attempt.spending with
  | some spend, .included _ _ _ txDaSize _ =>
    [⟨attempt.spendHash, spend.gasLimit, attempt.spendLength, txDaSize, false, none, none⟩]
  | _, _ => []

namespace BlockBuild

variable (build : BlockBuild Address)

def start (committed : Option (BlockPayload Nullifier Hash)) (attempt : Attempt Nullifier Address Hash) :
    Except PayloadBuilderError (BuildStart Nullifier Hash) :=
  match CommittedState.tryFrom committed with
  | .error .missingExecutedBlock => .error .missingExecutedBlock
  | .ok state =>
    .ok <|
      match committed with
      | none =>
        { info := attempt.sequencerInfo
          effectiveGasLimit := Saturating.sub build.effectiveGasLimit state.evmGasUsed
          cumulativeUncompressedBytes := uncompressedBytes attempt.sequencerTransactions
          transactions := attempt.sequencerTransactions
          visited := state.transactionsIter.map (·.hash) }
      | some payload =>
        { info :=
            { cumulativeGasUsed := payload.block.header.gasUsed
              -- The gas limit that is left does without the gas that has been committed.
              cumulativeEvmGasUsed := 0
              cumulativeDaBytesUsed := daBytes state.transactionsIter
              totalFees := BitVec.ofNat 256 payload.fees.val }
          effectiveGasLimit := Saturating.sub build.effectiveGasLimit state.evmGasUsed
          cumulativeUncompressedBytes := uncompressedBytes state.transactionsIter
          transactions := state.transactionsIter
          visited := state.transactionsIter.map (·.hash) }

/-- The payload of a block with these transactions. -/
def finish (attempt : Attempt Nullifier Address Hash) (info : ExecutionInfo) (transactions : List (BlockTx Nullifier Hash)) :
    BlockPayload Nullifier Hash where
  id := build.payloadId
  fees := Fin.ofNat _ info.totalFees.toNat
  block := ⟨attempt.blockHash, { attempt.header with gasUsed := info.cumulativeGasUsed }, transactions, attempt.withdrawals⟩
  executedBlock := some (transactions.map fun _ => ())

theorem start_some {build : BlockBuild Address} {payload : BlockPayload Nullifier Hash}
    {attempt : Attempt Nullifier Address Hash} {start : BuildStart Nullifier Hash}
    (begun : build.start (some payload) attempt = .ok start) :
    start =
      { info := ⟨payload.block.header.gasUsed, 0, daBytes payload.block.transactions, BitVec.ofNat 256 payload.fees.val⟩
        effectiveGasLimit := Saturating.sub build.effectiveGasLimit
          (preRefundGasUsed payload.block.header.gasUsed payload.block.transactions)
        cumulativeUncompressedBytes := uncompressedBytes payload.block.transactions
        transactions := payload.block.transactions
        visited := payload.block.transactions.map (·.hash) } := by
  cases held : payload.executedBlock with
  | none => simp [BlockBuild.start, CommittedState.tryFrom, held] at begun
  | some receipts =>
    simp only [BlockBuild.start, CommittedState.tryFrom, held, Except.ok.injEq] at begun
    rw [← begun]
    simp [CommittedState.transactionsIter]

variable [DecidableEq Nullifier] [DecidableEq Hash]

/-- Build a payload on top of the committed one. -/
def buildInner (committed : Option (BlockPayload Nullifier Hash)) (attempt : Attempt Nullifier Address Hash) :
    Except PayloadBuilderError (BuildOutcomeKind (BlockPayload Nullifier Hash)) := do
  let start ← build.start committed attempt
  if attempt.hasPool && !attempt.noTxPool then
    match executeBestTransactions build.ctx start.info start.effectiveGasLimit start.cumulativeUncompressedBytes
        (drainPrevious start.visited attempt.offers) attempt.spending with
    | .error .cancelled =>
      match committed with
      | some payload => return .freeze payload
      | none => throw .missingPayload
    | .error .evmExecutionError => throw .evmExecutionError
    | .error .other => throw .other
    | .ok built =>
      if !attempt.isBetterPayload then return .aborted built.state.info.totalFees
      let transactions :=
        start.transactions ++ built.state.committed.map PooledTx.intoConsensus ++ attempt.spendTransaction built
      return .better (build.finish attempt built.state.info transactions)
  else
    let payload := build.finish attempt start.info start.transactions
    return if attempt.noTxPool then .freeze payload else .better payload

def commitNext (committed : Option (BlockPayload Nullifier Hash)) (attempt : Attempt Nullifier Address Hash) :
    Except PayloadBuilderError (Option (BlockPayload Nullifier Hash)) := do
  match ← build.buildInner committed attempt with
  | .better payload => return some payload
  | .freeze payload => return some payload
  | .aborted _ => return committed

variable {build} {committed after : Option (BlockPayload Nullifier Hash)} {attempt : Attempt Nullifier Address Hash}

/-- The transactions of a payload that a build comes to. -/
inductive Extension (build : BlockBuild Address) (attempt : Attempt Nullifier Address Hash)
    (start : BuildStart Nullifier Hash) : BlockPayload Nullifier Hash → Prop
  | unchanged : Extension build attempt start (build.finish attempt start.info start.transactions)
  | filled {built : Built Nullifier Address Hash}
      (executed : executeBestTransactions build.ctx start.info start.effectiveGasLimit start.cumulativeUncompressedBytes
        (drainPrevious start.visited attempt.offers) attempt.spending = .ok built) :
      Extension build attempt start (build.finish attempt built.state.info
        (start.transactions ++ built.state.committed.map PooledTx.intoConsensus ++ attempt.spendTransaction built))

theorem buildInner_cases {outcome : BuildOutcomeKind (BlockPayload Nullifier Hash)}
    (ended : build.buildInner committed attempt = .ok outcome) :
    (∃ payload, committed = some payload ∧ outcome = .freeze payload) ∨ (∃ fees, outcome = .aborted fees) ∨
    ∃ start payload, build.start committed attempt = .ok start ∧ Extension build attempt start payload ∧
      (outcome = .better payload ∨ outcome = .freeze payload) := by
  unfold buildInner at ended
  rw [bind_eq_ok] at ended
  obtain ⟨start, begun, ended⟩ := ended
  split at ended
  · split at ended
    · cases committed with
      | none => cases ended
      | some payload =>
        cases ended
        exact .inl ⟨payload, rfl, rfl⟩
    · cases ended
    · cases ended
    · next built executed =>
      split at ended
      · cases ended
        exact .inr (.inl ⟨_, rfl⟩)
      · cases ended
        exact .inr (.inr ⟨start, _, begun, .filled executed, .inl rfl⟩)
  · cases ended
    refine .inr (.inr ⟨start, _, begun, .unchanged, ?_⟩)
    cases attempt.noTxPool with
    | true => exact .inr rfl
    | false => exact .inl rfl

theorem commitNext_cases (ended : build.commitNext committed attempt = .ok after) :
    after = committed ∨
      ∃ start payload, build.start committed attempt = .ok start ∧ Extension build attempt start payload ∧
        after = some payload := by
  rw [commitNext, bind_eq_ok] at ended
  obtain ⟨outcome, built, ended⟩ := ended
  rcases buildInner_cases built with ⟨payload, rfl, rfl⟩ | ⟨fees, rfl⟩ | ⟨start, payload, begun, extension, rfl | rfl⟩
  · cases ended
    exact .inl rfl
  · cases ended
    exact .inl rfl
  · cases ended
    exact .inr ⟨start, payload, begun, extension, rfl⟩
  · cases ended
    exact .inr ⟨start, payload, begun, extension, rfl⟩

end BlockBuild

/-! ## Nullifiers of a block -/

/-- The transactions that have been committed. -/
def committedTransactions {Tx Receipt : Type} (committed : Option (OpBuiltPayload Tx Receipt)) : List Tx :=
  (committed.map (·.block.transactions)).getD []

/-- No nullifier is in two of the transactions. -/
def NullifiersDistinct (transactions : List (BlockTx Nullifier Hash)) : Prop :=
  transactions.Pairwise fun left right => ∀ nullifier ∈ left.nullifiers, nullifier ∉ right.nullifiers

/-- A transaction of the pool that is not among the committed ones, and would be executed, has no nullifier of theirs. -/
def BringsNewNullifiers (committed : Option (BlockPayload Nullifier Hash)) (attempt : Attempt Nullifier Address Hash) : Prop :=
  ∀ offer ∈ attempt.offers, offer.execution.Succeeds →
    offer.tx.hash ∉ (committedTransactions committed).map (·.hash) →
    ∀ tx ∈ committedTransactions committed, ∀ nullifier ∈ tx.nullifiers, nullifier ∉ offer.tx.nullifiers

instance decidableNullifiersDistinct [DecidableEq Nullifier] (transactions : List (BlockTx Nullifier Hash)) :
    Decidable (NullifiersDistinct transactions) := by
  unfold NullifiersDistinct
  infer_instance

instance decidableBringsNewNullifiers [DecidableEq Nullifier] [DecidableEq Hash]
    (committed : Option (BlockPayload Nullifier Hash)) (attempt : Attempt Nullifier Address Hash) :
    Decidable (BringsNewNullifiers committed attempt) := by
  unfold BringsNewNullifiers
  infer_instance

section Loop

variable [DecidableEq Nullifier] {ctx : BuilderCtx Address} {verifiedGasLimit : UInt64}
  {state after final : BuildState Nullifier Address Hash} {offer : Offer Nullifier Address Hash}
  {offers : List (Offer Nullifier Address Hash)}

/-- In one build: the transactions that are included share no nullifier, and all their nullifiers have been collected. -/
structure BuildState.Separate (state : BuildState Nullifier Address Hash) : Prop where
  distinct : NullifiersDistinct (state.committed.map PooledTx.intoConsensus)
  collected : state.includedNullifiers ⊆ state.spentNullifierHashes

theorem BuildState.separate_consider (separate : state.Separate)
    (considered : state.consider ctx verifiedGasLimit offer = .ok after) : after.Separate := by
  refine ⟨?_, collected_consider separate.collected considered⟩
  obtain ⟨_, effect, _⟩ := consider_effect considered
  cases effect with
  | nothing _ committed =>
    rw [committed]
    exact separate.distinct
  | leak _ committed =>
    rw [committed]
    exact separate.distinct
  | inclusion _ committed fresh =>
    rw [committed, List.map_append, NullifiersDistinct, List.pairwise_append]
    refine ⟨separate.distinct, List.pairwise_singleton _ _, fun earlier member latest last nullifier used again => ?_⟩
    obtain ⟨tx, included, rfl⟩ := List.mem_map.mp member
    obtain rfl : latest = offer.tx.intoConsensus := by simpa using last
    -- What is included has been collected, so that a nullifier of it cannot have been new.
    have held : nullifier ∈ state.includedNullifiers :=
      List.mem_toFinset.mpr (List.mem_flatMap.mpr ⟨tx, included, used⟩)
    exact fresh nullifier again (separate.collected held)

theorem BuildState.committed_consider (considered : state.consider ctx verifiedGasLimit offer = .ok after) :
    ∀ tx ∈ after.committed, tx ∈ state.committed ∨ tx = offer.tx ∧ offer.execution.Succeeds := by
  intro tx member
  cases consider_cases considered with
  | skipped _ _ => exact .inl member
  | rejected _ _ => exact .inl member
  | @plain gasUsed evmGasUsed _ _ executed =>
    rcases List.mem_append.mp member with before | last
    · exact .inl before
    · exact .inr ⟨List.mem_singleton.mp last, gasUsed, evmGasUsed, executed⟩
  | @verified gasUsed evmGasUsed _ _ executed =>
    rcases List.mem_append.mp member with before | last
    · exact .inl before
    · exact .inr ⟨List.mem_singleton.mp last, gasUsed, evmGasUsed, executed⟩

theorem BuildState.separate_loop (separate : state.Separate)
    (ended : offers.foldlM (consider · ctx verifiedGasLimit) state = .ok final) :
    final.Separate ∧ ∀ tx ∈ final.committed,
      tx ∈ state.committed ∨ ∃ offer ∈ offers, offer.tx = tx ∧ offer.execution.Succeeds := by
  induction offers generalizing state with
  | nil =>
    cases ended
    exact ⟨separate, fun tx member => .inl member⟩
  | cons offer offers ih =>
    obtain ⟨middle, considered, rest⟩ := bind_eq_ok.mp (List.foldlM_cons.symm.trans ended)
    obtain ⟨kept, origin⟩ := ih (separate_consider separate considered) rest
    refine ⟨kept, fun tx member => ?_⟩
    rcases origin tx member with here | ⟨other, offered, rfl, executed⟩
    · rcases committed_consider considered tx here with before | ⟨rfl, executed⟩
      · exact .inl before
      · exact .inr ⟨offer, List.mem_cons_self, rfl, executed⟩
    · exact .inr ⟨other, List.mem_cons_of_mem _ offered, rfl, executed⟩

theorem executeBestTransactions_separate {info : ExecutionInfo} {effectiveGasLimit cumulativeUncompressedBytes : UInt64}
    {spending : Spending} {built : Built Nullifier Address Hash}
    (executed : executeBestTransactions ctx info effectiveGasLimit cumulativeUncompressedBytes offers spending = .ok built) :
    NullifiersDistinct (built.state.committed.map PooledTx.intoConsensus) ∧
      ∀ tx ∈ built.state.committed, ∃ offer ∈ offers, offer.tx = tx ∧ offer.execution.Succeeds := by
  rw [executeBestTransactions, bind_eq_ok] at executed
  obtain ⟨state, ended, spent⟩ := executed
  rw [(BuildState.spendNullifiers_spec spent).2]
  have empty : (BuildState.initial info effectiveGasLimit cumulativeUncompressedBytes :
      BuildState Nullifier Address Hash).Separate := ⟨List.Pairwise.nil, Finset.Subset.refl _⟩
  obtain ⟨separate, origin⟩ := BuildState.separate_loop empty ended
  exact ⟨separate.distinct, fun tx member => (origin tx member).resolve_left List.not_mem_nil⟩

end Loop

section Block

variable [DecidableEq Nullifier] [DecidableEq Hash] {build : BlockBuild Address}
  {committed after : Option (BlockPayload Nullifier Hash)} {attempt : Attempt Nullifier Address Hash}
  {start : BuildStart Nullifier Hash}

omit [DecidableEq Nullifier] [DecidableEq Hash] in
theorem BlockBuild.start_transactions (begun : build.start committed attempt = .ok start) :
    start.visited = (committedTransactions committed).map (·.hash) ∧
      (start.transactions = committedTransactions committed ∨
        committed = none ∧ start.transactions = attempt.sequencerTransactions) := by
  cases committed with
  | none =>
    cases begun
    exact ⟨rfl, .inr ⟨rfl, rfl⟩⟩
  | some payload =>
    rw [start_some begun]
    exact ⟨rfl, .inl rfl⟩

omit [DecidableEq Nullifier] [DecidableEq Hash] in
theorem nullifiersDistinct_append {transactions plain : List (BlockTx Nullifier Hash)}
    (distinct : NullifiersDistinct transactions) (none : ∀ tx ∈ plain, tx.nullifiers = []) : NullifiersDistinct (transactions ++ plain) := by
  refine List.pairwise_append.mpr ⟨distinct, ?_, fun earlier _ later member => ?_⟩
  · refine List.pairwise_of_forall_mem_list fun left _ right member => ?_
    simp [none right member]
  · simp [none later member]

omit [DecidableEq Nullifier] [DecidableEq Hash] in
theorem Attempt.nullifiers_spendTransaction (attempt : Attempt Nullifier Address Hash) (built : Built Nullifier Address Hash) :
    ∀ tx ∈ attempt.spendTransaction built, tx.nullifiers = [] := by
  intro tx member
  unfold spendTransaction at member
  split at member
  · rw [List.mem_singleton.mp member]
    rfl
  · cases member

theorem BlockBuild.nullifiersDistinct_commitNext (distinct : NullifiersDistinct (committedTransactions committed))
    (brings : BringsNewNullifiers committed attempt) (ended : build.commitNext committed attempt = .ok after) :
    NullifiersDistinct (committedTransactions after) := by
  rcases commitNext_cases ended with rfl | ⟨start, payload, begun, extension, rfl⟩
  · exact distinct
  · obtain ⟨visited, transactions⟩ := start_transactions begun
    have before : NullifiersDistinct start.transactions := by
      rcases transactions with same | ⟨_, sequencer⟩
      · rwa [same]
      · rw [sequencer]
        refine List.pairwise_of_forall_mem_list fun left _ right member nullifier _ => ?_
        simp [BlockTx.nullifiers, attempt.unverified right member]
    cases extension with
    | unchanged => exact before
    | @filled built executed =>
      obtain ⟨apart, origin⟩ := executeBestTransactions_separate executed
      refine nullifiersDistinct_append (List.pairwise_append.mpr ⟨before, apart, ?_⟩)
        (attempt.nullifiers_spendTransaction built)
      intro earlier member later last
      obtain ⟨tx, included, rfl⟩ := List.mem_map.mp last
      obtain ⟨offer, offered, rfl, succeeds⟩ := origin tx included
      obtain ⟨inPool, unseen⟩ := List.mem_filter.mp offered
      rcases transactions with same | ⟨_, sequencer⟩
      · rw [same] at member
        exact brings offer inPool succeeds (by simpa [visited] using unseen) earlier member
      · rw [sequencer] at member
        simp [BlockTx.nullifiers, attempt.unverified earlier member]

end Block

/-- In a block of successive flashblocks no two transactions share a nullifier, as long as no build is offered a new
transaction with one that the block has already. -/
theorem nullifiers_distinct_of_new [DecidableEq Nullifier] [DecidableEq Hash] (build : BlockBuild Address)
    (attempts : List (Attempt Nullifier Address Hash)) (committed : Option (BlockPayload Nullifier Hash))
    (run : Run build.commitNext BringsNewNullifiers none attempts committed) :
    NullifiersDistinct (committedTransactions committed) :=
  run.invariant List.Pairwise.nil fun distinct brings ended => BlockBuild.nullifiersDistinct_commitNext distinct brings ended

section Sample

def sampleBlockBuild : BlockBuild ℕ := ⟨sampleCtx, 1000000, sampleB64 1⟩

def sampleAttempt (offers : List (Offer ℕ ℕ ℕ)) : Attempt ℕ ℕ ℕ where
  sequencerTransactions := []
  unverified := by simp
  sequencerInfo := ⟨0, 0, 0, 0⟩
  hasPool := true
  noTxPool := false
  offers
  spending := .included 0 140000 140000 100 1
  spendHash := 1000
  spendLength := 110
  isBetterPayload := true
  blockHash := sampleB256 1
  header := sampleHeader 0 none
  withdrawals := none

theorem nullifiers_distinct_in_two_flashblocks :
    ∃ committed, Run sampleBlockBuild.commitNext BringsNewNullifiers none
        [sampleAttempt [⟨sampleTx 1 [5], false, .executed 21000 21000⟩],
          sampleAttempt [⟨sampleTx 1 [5], false, .executed 21000 21000⟩, ⟨sampleTx 2 [6], false, .executed 21000 21000⟩]]
        committed ∧
      (committedTransactions committed).map (·.nullifiers) = [[5], [], [6], []] ∧
      NullifiersDistinct (committedTransactions committed) := by
  refine ⟨_, Run.run_final_of_permitted (by decide +kernel), by decide +kernel, ?_⟩
  apply nullifiers_distinct_of_new sampleBlockBuild
  exact Run.run_final_of_permitted (by decide +kernel)

theorem nullifier_used_twice :
    ∃ committed, [sampleAttempt [⟨sampleTx 1 [5], false, .executed 21000 21000⟩],
        sampleAttempt [⟨sampleTx 2 [5], false, .executed 21000 21000⟩]].foldlM sampleBlockBuild.commitNext none =
          .ok committed ∧
      (committedTransactions committed).map (fun tx => (tx.hash, tx.nullifiers)) =
        [(1, [5]), (1000, []), (2, [5]), (1000, [])] ∧
      ¬ NullifiersDistinct (committedTransactions committed) :=
  ⟨_, Run.foldlM_eq_final (by decide +kernel), by decide +kernel, by decide +kernel⟩

end Sample

/-! ## Gas of verified transactions -/

namespace BuildState

def exceedsVerifiedGasLimit (verifiedGasLimit : UInt64) (state : BuildState Nullifier Address Hash)
    (tx : PooledTx Nullifier Address Hash) : Bool :=
  decide (state.info.cumulativeGasUsed + tx.gasLimit > verifiedGasLimit)

/-- What is left to do with a verified transaction that is within the limit. -/
def spendAndExecute [DecidableEq Nullifier] (state : BuildState Nullifier Address Hash)
    (offer : Offer Nullifier Address Hash) (payloads : List Nullifier) :
    Except Interruption (BuildState Nullifier Address Hash) :=
  let spent := { state with spentNullifierHashes := (insertNullifiers payloads state.spentNullifierHashes).1 }
  if (insertNullifiers payloads state.spentNullifierHashes).2 then
    .ok { spent.markInvalid offer.tx with invalidTxs := state.invalidTxs ++ [offer.tx.hash] }
  else spent.execute offer.tx offer.execution

theorem consider_of_verified [DecidableEq Nullifier] {ctx : BuilderCtx Address} {verifiedGasLimit : UInt64}
    {state : BuildState Nullifier Address Hash} {offer : Offer Nullifier Address Hash} {payloads : List Nullifier}
    (fit : state.isUnfit offer.tx ctx = false) (going : offer.cancelled = false)
    (verified : offer.tx.pbhPayload = some payloads) :
    state.consider ctx verifiedGasLimit offer =
      if state.exceedsVerifiedGasLimit verifiedGasLimit offer.tx then .ok (state.markInvalid offer.tx)
      else state.spendAndExecute offer payloads := by
  simp [consider, fit, going, verified, exceedsVerifiedGasLimit, spendAndExecute]

end BuildState

/-- The limit of a build on what is committed: the capacity's share of the gas that is left. -/
def BlockBuild.verifiedShare (build : BlockBuild Address) (committed : Option (BlockPayload Nullifier Hash)) : UInt64 :=
  build.ctx.verifiedBlockspaceCapacity.toUInt64 * Saturating.sub build.effectiveGasLimit
    ((committed.map fun payload => preRefundGasUsed payload.block.header.gasUsed payload.block.transactions).getD 0) / 100

theorem BlockBuild.verifiedGasLimit_start {build : BlockBuild Address} {committed : Option (BlockPayload Nullifier Hash)}
    {attempt : Attempt Nullifier Address Hash} {start : BuildStart Nullifier Hash}
    (begun : build.start committed attempt = .ok start) :
    build.ctx.verifiedGasLimit start.effectiveGasLimit = build.verifiedShare committed ∧
      ∀ payload ∈ committed, start.info.cumulativeGasUsed = payload.block.header.gasUsed := by
  cases committed with
  | none =>
    cases begun
    exact ⟨rfl, nofun⟩
  | some payload =>
    rw [start_some begun]
    refine ⟨rfl, ?_⟩
    rintro _ ⟨⟩
    rfl

/-- The verdict in the build that executed what came before is that in a build which goes on from it, exactly if the gas
so far does not come between the two verified limits. A build marks the transaction as invalid by that verdict, before it
looks at the nullifiers. -/
theorem verified_verdict_iff (build : BlockBuild Address) (committed : Option (BlockPayload Nullifier Hash))
    (payload : BlockPayload Nullifier Hash) (attempt next : Attempt Nullifier Address Hash)
    (start continued : BuildStart Nullifier Hash) (begun : build.start committed attempt = .ok start)
    (continues : build.start (some payload) next = .ok continued) (state : BuildState Nullifier Address Hash)
    (executed : state.info.cumulativeGasUsed = payload.block.header.gasUsed) (tx : PooledTx Nullifier Address Hash)
    [DecidableEq Nullifier] :
    (state.exceedsVerifiedGasLimit (build.ctx.verifiedGasLimit start.effectiveGasLimit) tx =
        (BuildState.initial continued.info continued.effectiveGasLimit
          continued.cumulativeUncompressedBytes).exceedsVerifiedGasLimit
            (build.ctx.verifiedGasLimit continued.effectiveGasLimit) tx ↔
      ¬ (min (build.verifiedShare committed).toNat (build.verifiedShare (some payload)).toNat <
          (payload.block.header.gasUsed + tx.gasLimit).toNat ∧
        (payload.block.header.gasUsed + tx.gasLimit).toNat ≤
          max (build.verifiedShare committed).toNat (build.verifiedShare (some payload)).toNat)) ∧
    ∀ (reached : BuildState Nullifier Address Hash) (limit : UInt64) (execution : Execution) (payloads : List Nullifier),
      reached.isUnfit tx build.ctx = false → tx.pbhPayload = some payloads →
      reached.consider build.ctx limit ⟨tx, false, execution⟩ =
        if reached.exceedsVerifiedGasLimit limit tx then .ok (reached.markInvalid tx)
        else reached.spendAndExecute ⟨tx, false, execution⟩ payloads := by
  refine ⟨?_, fun reached limit execution payloads fit verified => BuildState.consider_of_verified fit rfl verified⟩
  obtain ⟨whole, _⟩ := BlockBuild.verifiedGasLimit_start begun
  obtain ⟨rest, gas⟩ := BlockBuild.verifiedGasLimit_start continues
  have same : (BuildState.initial continued.info continued.effectiveGasLimit continued.cumulativeUncompressedBytes :
      BuildState Nullifier Address Hash).info.cumulativeGasUsed = payload.block.header.gasUsed := gas payload rfl
  rw [BuildState.exceedsVerifiedGasLimit, BuildState.exceedsVerifiedGasLimit, whole, rest, executed, same, decide_eq_decide,
    gt_iff_lt, gt_iff_lt, UInt64.lt_iff_toNat_lt, UInt64.lt_iff_toNat_lt]
  omega

section Sample

def sampleVerifiedTx (gasLimit : UInt64) : PooledTx ℕ ℕ ℕ := { sampleTx 2 [6] with gasLimit }

def sampleFirst : Offer ℕ ℕ ℕ :=
  ⟨{ sampleTx 1 [] with gasLimit := 300000, pbhPayload := none }, false, .executed 300000 300000⟩

def sampleCommitted : BlockPayload ℕ ℕ :=
  sampleBlockBuild.finish (sampleAttempt [sampleFirst]) ⟨300000, 300000, 100, 300000⟩ [sampleFirst.tx.intoConsensus]

def sampleStart : BuildStart ℕ ℕ := ⟨⟨0, 0, 0, 0⟩, 1000000, 0, [], []⟩

def sampleContinued : BuildStart ℕ ℕ := ⟨⟨300000, 0, 100, 300000⟩, 700000, 110, [sampleFirst.tx.intoConsensus], [1]⟩

def sampleExecuted : BuildState ℕ ℕ ℕ :=
  ⟨⟨300000, 300000, 100, 300000⟩, 1000000, 110, ∅, [], [], [sampleFirst.tx]⟩

theorem verified_verdict_same :
    sampleBlockBuild.start none (sampleAttempt [sampleFirst]) = .ok sampleStart ∧
    sampleBlockBuild.start (some sampleCommitted) (sampleAttempt []) = .ok sampleContinued ∧
    considerBestTransactions sampleCtx sampleStart.info sampleStart.effectiveGasLimit sampleStart.cumulativeUncompressedBytes
      [sampleFirst] = .ok sampleExecuted ∧
    sampleExecuted.exceedsVerifiedGasLimit (sampleCtx.verifiedGasLimit sampleStart.effectiveGasLimit) (sampleVerifiedTx 21000) =
      (BuildState.initial sampleContinued.info sampleContinued.effectiveGasLimit
        sampleContinued.cumulativeUncompressedBytes).exceedsVerifiedGasLimit
          (sampleCtx.verifiedGasLimit sampleContinued.effectiveGasLimit) (sampleVerifiedTx 21000) := by
  have begun : sampleBlockBuild.start none (sampleAttempt [sampleFirst]) = .ok sampleStart := by decide +kernel
  have continues : sampleBlockBuild.start (some sampleCommitted) (sampleAttempt []) = .ok sampleContinued := by
    decide +kernel
  refine ⟨begun, continues, by decide +kernel, ?_⟩
  apply (verified_verdict_iff sampleBlockBuild none sampleCommitted _ _ _ _ begun continues sampleExecuted rfl
    (sampleVerifiedTx 21000)).1.mpr
  decide +kernel

theorem verified_verdict_differs :
    sampleBlockBuild.start none (sampleAttempt [sampleFirst]) = .ok sampleStart ∧
    sampleBlockBuild.start (some sampleCommitted) (sampleAttempt []) = .ok sampleContinued ∧
    sampleExecuted.exceedsVerifiedGasLimit (sampleCtx.verifiedGasLimit sampleStart.effectiveGasLimit)
      (sampleVerifiedTx 100000) = false ∧
    (BuildState.initial sampleContinued.info sampleContinued.effectiveGasLimit
      sampleContinued.cumulativeUncompressedBytes).exceedsVerifiedGasLimit
        (sampleCtx.verifiedGasLimit sampleContinued.effectiveGasLimit) (sampleVerifiedTx 100000) = true ∧
    ([sampleAttempt [sampleFirst, ⟨sampleVerifiedTx 100000, false, .executed 100000 100000⟩]].foldlM
      sampleBlockBuild.commitNext none).toOption.map (fun committed => (committedTransactions committed).map (·.hash)) =
        some [1, 2, 1000] ∧
    ([sampleAttempt [sampleFirst], sampleAttempt [⟨sampleVerifiedTx 100000, false, .executed 100000 100000⟩]].foldlM
      sampleBlockBuild.commitNext none).toOption.map (fun committed => (committedTransactions committed).map (·.hash)) =
        some [1] := by
  decide +kernel

end Sample

end WorldChain.Builder
