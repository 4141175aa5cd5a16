import WorldChain.Machine.Run

/-! # Filling a block from the pool

Transactions are offered one after another. Each is skipped for a limit, rejected because a nullifier of it has been
seen, or executed; after the last one, the builder spends the nullifiers that it has collected.
-/

namespace WorldChain.Builder

open Machine

variable {Nullifier Address Hash : Type*}

/-- What is read of a transaction of the pool; `effectiveTip` is at the base fee of the block. -/
structure PooledTx (Nullifier Address Hash : Type*) where
  hash : Hash
  signer : Address
  nonce : UInt64
  gasLimit : UInt64
  estimatedDaSize : UInt64
  encodedLength : UInt64
  isBlob : Bool
  isDeposit : Bool
  effectiveTip : ℕ
  pbhPayload : Option (List Nullifier)
deriving DecidableEq

inductive Execution
  | executed (gasUsed evmGasUsed : UInt64)
  | nonceTooLow
  | invalid
  | fatal
deriving DecidableEq

def Execution.Succeeds (execution : Execution) : Prop :=
  ∃ gasUsed evmGasUsed, execution = .executed gasUsed evmGasUsed

instance Execution.decidableSucceeds : (execution : Execution) → Decidable execution.Succeeds
  | .executed gasUsed evmGasUsed => isTrue ⟨gasUsed, evmGasUsed, rfl⟩
  | .nonceTooLow | .invalid | .fatal => isFalse nofun

/-- A transaction, whether the job has been cancelled by then, and how its execution ends. -/
structure Offer (Nullifier Address Hash : Type*) where
  tx : PooledTx Nullifier Address Hash
  cancelled : Bool
  execution : Execution
deriving DecidableEq

structure ExecutionInfo where
  cumulativeGasUsed : UInt64
  cumulativeEvmGasUsed : UInt64
  cumulativeDaBytesUsed : UInt64
  totalFees : BitVec 256
deriving DecidableEq

structure BuilderCtx (Address : Type*) where
  verifiedBlockspaceCapacity : UInt8
  blockUncompressedSizeLimit : Option UInt64
  isTxOverLimits : ExecutionInfo → UInt64 → UInt64 → UInt64 → UInt64 → Bool
  pbhEntryPoint : Address
  chainId : ℕ
  baseFee : ℕ

structure BuildState (Nullifier Address Hash : Type*) where
  info : ExecutionInfo
  effectiveGasLimit : UInt64
  cumulativeUncompressedBytes : UInt64
  spentNullifierHashes : Finset Nullifier
  markedInvalid : List (Address × UInt64)
  invalidTxs : List Hash
  committed : List (PooledTx Nullifier Address Hash)
deriving DecidableEq

/-- Why no block is built. -/
inductive Interruption
  | cancelled
  | evmExecutionError
  | other
deriving DecidableEq, Repr

def coldSstoreGas : UInt64 := 20000

def fixedGas : UInt64 := 100000

def dynGasLimit (count : UInt64) : UInt64 := fixedGas + count * coldSstoreGas

def ExecutionInfo.commitChanges (info : ExecutionInfo) (gasUsed evmGasUsed txDaSize : UInt64) (effectiveTip : ℕ) :
    ExecutionInfo where
  cumulativeGasUsed := info.cumulativeGasUsed + gasUsed
  cumulativeEvmGasUsed := info.cumulativeEvmGasUsed + evmGasUsed
  cumulativeDaBytesUsed := info.cumulativeDaBytesUsed + txDaSize
  totalFees := info.totalFees + BitVec.ofNat 256 (effectiveTip * gasUsed.toNat)

def insertNullifiers [DecidableEq Nullifier] : List Nullifier → Finset Nullifier → Finset Nullifier × Bool
  | [], spent => (spent, false)
  | nullifier :: rest, spent =>
    if nullifier ∈ spent then (spent, true) else insertNullifiers rest (insert nullifier spent)

def BuilderCtx.verifiedGasLimit (ctx : BuilderCtx Address) (effectiveGasLimit : UInt64) : UInt64 :=
  ctx.verifiedBlockspaceCapacity.toUInt64 * effectiveGasLimit / 100

namespace BuildState

variable (state : BuildState Nullifier Address Hash) (tx : PooledTx Nullifier Address Hash)

def markInvalid : BuildState Nullifier Address Hash :=
  { state with markedInvalid := state.markedInvalid ++ [(tx.signer, tx.nonce)] }

def reserveGas : UInt64 :=
  match tx.pbhPayload with
  | none => state.effectiveGasLimit
  | some payloads =>
    (if state.spentNullifierHashes.card = payloads.length then state.effectiveGasLimit - fixedGas
      else state.effectiveGasLimit) - coldSstoreGas * UInt64.ofNat payloads.length

def commit (gasUsed evmGasUsed : UInt64) : BuildState Nullifier Address Hash :=
  { state with
    info := state.info.commitChanges gasUsed evmGasUsed tx.estimatedDaSize tx.effectiveTip
    effectiveGasLimit := state.reserveGas tx
    cumulativeUncompressedBytes := state.cumulativeUncompressedBytes + tx.encodedLength
    committed := state.committed ++ [tx] }

def execute (execution : Execution) : Except Interruption (BuildState Nullifier Address Hash) :=
  match execution with
  | .executed gasUsed evmGasUsed => .ok (state.commit tx gasUsed evmGasUsed)
  | .nonceTooLow => .ok state
  | .invalid => .ok (state.markInvalid tx)
  | .fatal => .error .evmExecutionError

def isUnfit (ctx : BuilderCtx Address) : Bool :=
  ctx.blockUncompressedSizeLimit.any (state.cumulativeUncompressedBytes + tx.encodedLength > ·) ||
    ctx.isTxOverLimits state.info tx.estimatedDaSize state.effectiveGasLimit tx.gasLimit tx.encodedLength ||
    (tx.isBlob || tx.isDeposit)

variable [DecidableEq Nullifier]

/-- What becomes of an offered transaction. -/
def consider (ctx : BuilderCtx Address) (verifiedGasLimit : UInt64) (offer : Offer Nullifier Address Hash) :
    Except Interruption (BuildState Nullifier Address Hash) :=
  if state.isUnfit offer.tx ctx then .ok (state.markInvalid offer.tx)
  else if offer.cancelled then .error .cancelled
  else
    match offer.tx.pbhPayload with
    | none => state.execute offer.tx offer.execution
    | some payloads =>
      if state.info.cumulativeGasUsed + offer.tx.gasLimit > verifiedGasLimit then .ok (state.markInvalid offer.tx)
      else
        let (spent, seen) := insertNullifiers payloads state.spentNullifierHashes
        let state := { state with spentNullifierHashes := spent }
        if seen then
          .ok { state.markInvalid offer.tx with invalidTxs := state.invalidTxs ++ [offer.tx.hash] }
        else state.execute offer.tx offer.execution

end BuildState

/-- The transaction that spends nullifiers. -/
structure SpendNullifiersTx (Nullifier Address : Type*) where
  nonce : UInt64
  gasLimit : UInt64
  maxPriorityFeePerGas : ℕ
  maxFeePerGas : ℕ
  chainId : ℕ
  nullifierHashes : Finset Nullifier
  toAddress : Address

def spendNullifiersTx (ctx : BuilderCtx Address) (nonce : UInt64) (nullifierHashes : Finset Nullifier) :
    SpendNullifiersTx Nullifier Address :=
  ⟨nonce, dynGasLimit (UInt64.ofNat nullifierHashes.card), ctx.baseFee, ctx.baseFee, ctx.chainId, nullifierHashes,
    ctx.pbhEntryPoint⟩

/-- What comes of the transaction that spends nullifiers: it cannot be built, it fails, or it is included. -/
inductive Spending
  | unbuildable
  | failed (nonce : UInt64)
  | included (nonce gasUsed evmGasUsed txDaSize : UInt64) (effectiveTip : ℕ)

/-- A finished build: the transactions to be removed from the pool are in the state. -/
structure Built (Nullifier Address Hash : Type*) where
  state : BuildState Nullifier Address Hash
  spend : Option (SpendNullifiersTx Nullifier Address)

def Built.spentNullifiers (built : Built Nullifier Address Hash) : Finset Nullifier :=
  (built.spend.map (·.nullifierHashes)).getD ∅

variable [DecidableEq Nullifier]

def BuildState.spendNullifiers (ctx : BuilderCtx Address) (state : BuildState Nullifier Address Hash) (spending : Spending) :
    Except Interruption (Built Nullifier Address Hash) :=
  if state.spentNullifierHashes = ∅ then .ok ⟨state, none⟩
  else
    match spending with
    | .unbuildable => .error .other
    | .failed nonce => .ok ⟨state, some (spendNullifiersTx ctx nonce state.spentNullifierHashes)⟩
    | .included nonce gasUsed evmGasUsed txDaSize effectiveTip =>
      .ok ⟨{ state with info := state.info.commitChanges gasUsed evmGasUsed txDaSize effectiveTip },
        some (spendNullifiersTx ctx nonce state.spentNullifierHashes)⟩

def BuildState.initial (info : ExecutionInfo) (effectiveGasLimit cumulativeUncompressedBytes : UInt64) :
    BuildState Nullifier Address Hash :=
  ⟨info, effectiveGasLimit, cumulativeUncompressedBytes, ∅, [], [], []⟩

/-- The loop over what the pool offers. -/
def considerBestTransactions (ctx : BuilderCtx Address) (info : ExecutionInfo)
    (effectiveGasLimit cumulativeUncompressedBytes : UInt64) (offers : List (Offer Nullifier Address Hash)) :
    Except Interruption (BuildState Nullifier Address Hash) :=
  offers.foldlM (BuildState.consider · ctx (ctx.verifiedGasLimit effectiveGasLimit))
    (.initial info effectiveGasLimit cumulativeUncompressedBytes)

def executeBestTransactions (ctx : BuilderCtx Address) (info : ExecutionInfo)
    (effectiveGasLimit cumulativeUncompressedBytes : UInt64) (offers : List (Offer Nullifier Address Hash))
    (spending : Spending) : Except Interruption (Built Nullifier Address Hash) := do
  let state ← considerBestTransactions ctx info effectiveGasLimit cumulativeUncompressedBytes offers
  state.spendNullifiers ctx spending

/-! ## Collecting nullifiers -/

theorem insertNullifiers_snd (nullifiers : List Nullifier) (spent : Finset Nullifier) :
    (insertNullifiers nullifiers spent).2 = false ↔
      nullifiers.Nodup ∧ ∀ nullifier ∈ nullifiers, nullifier ∉ spent := by
  induction nullifiers generalizing spent with
  | nil => simp [insertNullifiers]
  | cons nullifier rest ih =>
    rw [insertNullifiers]
    split
    · next seen => simp [seen]
    · next fresh =>
      rw [ih]
      simp only [Finset.mem_insert, not_or, List.nodup_cons, List.mem_cons, forall_eq_or_imp, fresh, not_false_eq_true, true_and]
      constructor
      · rintro ⟨distinct, others⟩
        exact ⟨⟨fun member => (others nullifier member).1 rfl, distinct⟩, fun other member => (others other member).2⟩
      · rintro ⟨⟨new, distinct⟩, others⟩
        refine ⟨distinct, fun other member => ⟨?_, others other member⟩⟩
        rintro rfl
        exact new member

theorem insertNullifiers_fst {nullifiers : List Nullifier} {spent : Finset Nullifier}
    (fresh : (insertNullifiers nullifiers spent).2 = false) :
    (insertNullifiers nullifiers spent).1 = spent ∪ nullifiers.toFinset := by
  induction nullifiers generalizing spent with
  | nil => simp [insertNullifiers]
  | cons nullifier rest ih =>
    rw [insertNullifiers] at fresh ⊢
    split at fresh
    · cases fresh
    · next new =>
      rw [if_neg new, ih fresh]
      simp [Finset.insert_union]

theorem subset_insertNullifiers (nullifiers : List Nullifier) (spent : Finset Nullifier) :
    spent ⊆ (insertNullifiers nullifiers spent).1 := by
  induction nullifiers generalizing spent with
  | nil => exact Finset.Subset.refl _
  | cons nullifier rest ih =>
    rw [insertNullifiers]
    split
    · exact Finset.Subset.refl _
    · exact (Finset.subset_insert ..).trans (ih _)

theorem insertNullifiers_fst_eq_iff (nullifiers : List Nullifier) (spent : Finset Nullifier) :
    (insertNullifiers nullifiers spent).1 = spent ↔ ∀ nullifier ∈ nullifiers.head?, nullifier ∈ spent := by
  cases nullifiers with
  | nil => simp [insertNullifiers]
  | cons nullifier rest =>
    rw [insertNullifiers]
    by_cases seen : nullifier ∈ spent
    · simp [seen]
    · rw [if_neg seen]
      constructor
      · intro same
        have member := subset_insertNullifiers rest (insert nullifier spent) (Finset.mem_insert_self ..)
        rw [same] at member
        exact absurd member seen
      · intro all
        exact absurd (all nullifier rfl) seen

/-- The nullifiers of a transaction. -/
def PooledTx.nullifiers (tx : PooledTx Nullifier Address Hash) : List Nullifier := tx.pbhPayload.getD []

namespace BuildState

variable {ctx : BuilderCtx Address} {verifiedGasLimit : UInt64} {state after final : BuildState Nullifier Address Hash}
  {offer : Offer Nullifier Address Hash} {offers : List (Offer Nullifier Address Hash)}

def includedNullifiers (state : BuildState Nullifier Address Hash) : Finset Nullifier :=
  (state.committed.flatMap (·.nullifiers)).toFinset

def IsTested (ctx : BuilderCtx Address) (verifiedGasLimit : UInt64) (state : BuildState Nullifier Address Hash)
    (offer : Offer Nullifier Address Hash) : Prop :=
  state.isUnfit offer.tx ctx = false ∧ offer.cancelled = false ∧ offer.tx.pbhPayload.isSome = true ∧
    ¬ state.info.cumulativeGasUsed + offer.tx.gasLimit > verifiedGasLimit

def KeepsExact (ctx : BuilderCtx Address) (verifiedGasLimit : UInt64) (state : BuildState Nullifier Address Hash)
    (offer : Offer Nullifier Address Hash) : Prop :=
  state.IsTested ctx verifiedGasLimit offer →
    (∀ nullifier ∈ offer.tx.nullifiers.head?, nullifier ∈ state.spentNullifierHashes) ∨
    offer.tx.nullifiers.Nodup ∧ (∀ nullifier ∈ offer.tx.nullifiers, nullifier ∉ state.spentNullifierHashes) ∧
      offer.execution.Succeeds

/-- Every offered transaction meets this condition in the state that it finds. -/
def KeepsExactAll (ctx : BuilderCtx Address) (verifiedGasLimit : UInt64) :
    BuildState Nullifier Address Hash → List (Offer Nullifier Address Hash) → Prop
  | _, [] => True
  | state, offer :: offers => state.KeepsExact ctx verifiedGasLimit offer ∧
    ∀ after, state.consider ctx verifiedGasLimit offer = .ok after → KeepsExactAll ctx verifiedGasLimit after offers

instance decidableKeepsExact : Decidable (state.KeepsExact ctx verifiedGasLimit offer) := by
  unfold KeepsExact IsTested
  infer_instance

instance decidableKeepsExactAll (ctx : BuilderCtx Address) (verifiedGasLimit : UInt64) :
    (state : BuildState Nullifier Address Hash) → (offers : List (Offer Nullifier Address Hash)) →
      Decidable (KeepsExactAll ctx verifiedGasLimit state offers)
  | _, [] => isTrue trivial
  | state, offer :: offers =>
    match held : state.consider ctx verifiedGasLimit offer with
    | .ok after =>
      have := decidableKeepsExactAll ctx verifiedGasLimit after offers
      decidable_of_iff (state.KeepsExact ctx verifiedGasLimit offer ∧ KeepsExactAll ctx verifiedGasLimit after offers)
        (and_congr_right' (by simp [held]))
    | .error _ =>
      decidable_of_iff (state.KeepsExact ctx verifiedGasLimit offer) (by simp [KeepsExactAll, held])

/-- What an offered transaction does to the collected nullifiers and to the block. -/
inductive Effect (state after : BuildState Nullifier Address Hash) (tx : PooledTx Nullifier Address Hash) : Bool → Prop
  | nothing (spent : after.spentNullifierHashes = state.spentNullifierHashes) (committed : after.committed = state.committed) :
      Effect state after tx true
  | leak (spent : state.spentNullifierHashes ⊂ after.spentNullifierHashes) (committed : after.committed = state.committed) :
      Effect state after tx false
  | inclusion (spent : after.spentNullifierHashes = state.spentNullifierHashes ∪ tx.nullifiers.toFinset)
      (committed : after.committed = state.committed ++ [tx])
      (fresh : ∀ nullifier ∈ tx.nullifiers, nullifier ∉ state.spentNullifierHashes) : Effect state after tx true

/-- All that can become of an offered transaction. -/
inductive Considered (ctx : BuilderCtx Address) (verifiedGasLimit : UInt64) (state : BuildState Nullifier Address Hash)
    (offer : Offer Nullifier Address Hash) : BuildState Nullifier Address Hash → Prop
  | skipped {marked : List (Address × UInt64)} (untested : ¬ state.IsTested ctx verifiedGasLimit offer)
      (unexecuted : state.isUnfit offer.tx ctx = false → offer.tx.pbhPayload = none → ¬ offer.execution.Succeeds) :
      Considered ctx verifiedGasLimit state offer { state with markedInvalid := marked }
  | rejected {marked : List (Address × UInt64)} {invalid : List Hash} (tested : state.IsTested ctx verifiedGasLimit offer)
      (notIncluded : ¬ ((insertNullifiers offer.tx.nullifiers state.spentNullifierHashes).2 = false ∧
        offer.execution.Succeeds)) :
      Considered ctx verifiedGasLimit state offer
        { state with
          spentNullifierHashes := (insertNullifiers offer.tx.nullifiers state.spentNullifierHashes).1
          markedInvalid := marked
          invalidTxs := invalid }
  | plain {gasUsed evmGasUsed : UInt64} (fit : state.isUnfit offer.tx ctx = false) (unverified : offer.tx.pbhPayload = none)
      (executed : offer.execution = .executed gasUsed evmGasUsed) :
      Considered ctx verifiedGasLimit state offer (state.commit offer.tx gasUsed evmGasUsed)
  | verified {gasUsed evmGasUsed : UInt64} (tested : state.IsTested ctx verifiedGasLimit offer)
      (fresh : (insertNullifiers offer.tx.nullifiers state.spentNullifierHashes).2 = false)
      (executed : offer.execution = .executed gasUsed evmGasUsed) :
      Considered ctx verifiedGasLimit state offer
        ({ state with
          spentNullifierHashes := (insertNullifiers offer.tx.nullifiers state.spentNullifierHashes).1 }.commit
            offer.tx gasUsed evmGasUsed)

omit [DecidableEq Nullifier] in
theorem execute_cases {tx : PooledTx Nullifier Address Hash} {execution : Execution}
    (executed : state.execute tx execution = .ok after) :
    (∃ gasUsed evmGasUsed, execution = .executed gasUsed evmGasUsed ∧ state.commit tx gasUsed evmGasUsed = after) ∨
    ¬ execution.Succeeds ∧ ∃ marked, { state with markedInvalid := marked } = after := by
  cases execution with
  | executed gasUsed evmGasUsed => exact .inl ⟨gasUsed, evmGasUsed, rfl, Except.ok.inj executed⟩
  | nonceTooLow =>
    cases executed
    exact .inr ⟨nofun, state.markedInvalid, rfl⟩
  | invalid =>
    cases executed
    exact .inr ⟨nofun, _, rfl⟩
  | fatal => cases executed

theorem consider_cases (considered : state.consider ctx verifiedGasLimit offer = .ok after) :
    Considered ctx verifiedGasLimit state offer after := by
  rw [consider] at considered
  split at considered
  · next unfit =>
    cases considered
    exact .skipped (fun tested => by simp [tested.1] at unfit) fun fit => by simp [fit] at unfit
  · next fit =>
    split at considered
    · cases considered
    · next going =>
      split at considered
      · next plain =>
        rcases execute_cases considered with ⟨gasUsed, evmGasUsed, executed, rfl⟩ | ⟨fails, marked, rfl⟩
        · exact .plain (by simpa using fit) plain executed
        · exact .skipped (fun tested => by simpa [plain] using tested.2.2.1) fun _ _ => fails
      · next payloads held =>
        split at considered
        · next exceeds =>
          cases considered
          exact .skipped (fun tested => tested.2.2.2 exceeds) fun _ unverified => by simp [unverified] at held
        · next within =>
          have tested : state.IsTested ctx verifiedGasLimit offer :=
            ⟨by simpa using fit, by simpa using going, by simp [held], within⟩
          have payload : offer.tx.nullifiers = payloads := by rw [PooledTx.nullifiers, held]; rfl
          rw [← payload] at considered
          dsimp only at considered
          split at considered
          · next seen =>
            cases considered
            exact .rejected tested fun included => by simp [included.1] at seen
          · next fresh =>
            rcases execute_cases considered with ⟨gasUsed, evmGasUsed, executed, rfl⟩ | ⟨fails, marked, rfl⟩
            · exact .verified tested (by simpa using fresh) executed
            · exact .rejected tested fun included => fails included.2

theorem effect_of_not_included (tested : state.IsTested ctx verifiedGasLimit offer)
    (spent : after.spentNullifierHashes = (insertNullifiers offer.tx.nullifiers state.spentNullifierHashes).1)
    (committed : after.committed = state.committed)
    (notIncluded : ¬ ((insertNullifiers offer.tx.nullifiers state.spentNullifierHashes).2 = false ∧
      offer.execution.Succeeds)) :
    ∃ keeps, Effect state after offer.tx keeps ∧ (keeps = true ↔ state.KeepsExact ctx verifiedGasLimit offer) := by
  rw [insertNullifiers_snd] at notIncluded
  by_cases first : ∀ nullifier ∈ offer.tx.nullifiers.head?, nullifier ∈ state.spentNullifierHashes
  · have same := spent.trans ((insertNullifiers_fst_eq_iff ..).mpr first)
    exact ⟨true, .nothing same committed, iff_of_true rfl fun _ => .inl first⟩
  · have grows : state.spentNullifierHashes ⊂ after.spentNullifierHashes := by
      rw [spent]
      refine (subset_insertNullifiers ..).ssubset_of_ne fun same => first ?_
      exact (insertNullifiers_fst_eq_iff ..).mp same.symm
    refine ⟨false, .leak grows committed, iff_of_false (by decide) fun keeps => ?_⟩
    rcases keeps tested with all | ⟨distinct, fresh, executed⟩
    · exact first all
    · exact notIncluded ⟨⟨distinct, fresh⟩, executed⟩

theorem consider_effect (considered : state.consider ctx verifiedGasLimit offer = .ok after) :
    ∃ keeps, Effect state after offer.tx keeps ∧ (keeps = true ↔ state.KeepsExact ctx verifiedGasLimit offer) := by
  have untested : ¬ state.IsTested ctx verifiedGasLimit offer → Effect state after offer.tx true →
      ∃ keeps, Effect state after offer.tx keeps ∧ (keeps = true ↔ state.KeepsExact ctx verifiedGasLimit offer) :=
    fun never effect => ⟨true, effect, iff_of_true rfl fun tested => absurd tested never⟩
  cases consider_cases considered with
  | skipped never _ => exact untested never (.nothing rfl rfl)
  | rejected tested notIncluded => exact effect_of_not_included tested rfl rfl notIncluded
  | plain fit unverified executed =>
    have none : offer.tx.nullifiers = [] := by rw [PooledTx.nullifiers, unverified]; rfl
    have never : ¬ state.IsTested ctx verifiedGasLimit offer := fun tested => by simpa [unverified] using tested.2.2.1
    exact untested never (.inclusion (by simp [commit, none]) rfl (by simp [none]))
  | @verified gasUsed evmGasUsed tested fresh executed =>
    have distinct := (insertNullifiers_snd ..).mp fresh
    exact ⟨true, .inclusion (insertNullifiers_fst fresh) rfl distinct.2,
      iff_of_true rfl fun _ => .inr ⟨distinct.1, distinct.2, gasUsed, evmGasUsed, executed⟩⟩

/-! ## The whole build -/

theorem includedNullifiers_append (committed : after.committed = state.committed ++ [offer.tx]) :
    after.includedNullifiers = state.includedNullifiers ∪ offer.tx.nullifiers.toFinset := by
  rw [includedNullifiers, committed, List.flatMap_append, List.toFinset_append]
  simp [includedNullifiers]

theorem includedNullifiers_congr (committed : after.committed = state.committed) :
    after.includedNullifiers = state.includedNullifiers := by
  rw [includedNullifiers, committed, includedNullifiers]

theorem collected_consider (collected : state.includedNullifiers ⊆ state.spentNullifierHashes)
    (considered : state.consider ctx verifiedGasLimit offer = .ok after) :
    after.includedNullifiers ⊆ after.spentNullifierHashes := by
  obtain ⟨_, effect, _⟩ := consider_effect considered
  cases effect with
  | nothing spent committed => rwa [includedNullifiers_congr committed, spent]
  | leak spent committed =>
    rw [includedNullifiers_congr committed]
    exact collected.trans spent.1
  | inclusion spent committed _ =>
    rw [includedNullifiers_append committed, spent]
    exact Finset.union_subset_union_left collected

theorem Effect.lost {keeps : Bool} (effect : Effect state after offer.tx keeps)
    (lost : state.includedNullifiers ⊂ state.spentNullifierHashes) :
    after.includedNullifiers ⊂ after.spentNullifierHashes := by
  cases effect with
  | nothing spent committed => rwa [includedNullifiers_congr committed, spent]
  | leak spent committed =>
    rw [includedNullifiers_congr committed]
    exact lost.trans spent
  | inclusion spent committed fresh =>
    obtain ⟨nullifier, member, missing⟩ := (Finset.ssubset_iff_of_subset lost.1).mp lost
    rw [includedNullifiers_append committed, spent]
    refine (Finset.ssubset_iff_of_subset (Finset.union_subset_union_left lost.1)).mpr
      ⟨nullifier, Finset.mem_union_left _ member, fun included => ?_⟩
    rcases Finset.mem_union.mp included with before | own
    · exact missing before
    · exact fresh nullifier (List.mem_toFinset.mp own) member

theorem Effect.exact (effect : Effect state after offer.tx true)
    (exact : state.spentNullifierHashes = state.includedNullifiers) : after.spentNullifierHashes = after.includedNullifiers := by
  cases effect with
  | nothing spent committed => rw [includedNullifiers_congr committed, spent, exact]
  | inclusion spent committed _ => rw [includedNullifiers_append committed, spent, exact]

theorem loop_lost (ended : offers.foldlM (consider · ctx verifiedGasLimit) state = .ok final)
    (lost : state.includedNullifiers ⊂ state.spentNullifierHashes) : final.includedNullifiers ⊂ final.spentNullifierHashes := by
  induction offers generalizing state with
  | nil =>
    cases ended
    exact lost
  | cons offer offers ih =>
    obtain ⟨middle, considered, rest⟩ := bind_eq_ok.mp (List.foldlM_cons.symm.trans ended)
    obtain ⟨keeps, effect, _⟩ := consider_effect considered
    exact ih rest (effect.lost lost)

theorem loop_exact_iff (ended : offers.foldlM (consider · ctx verifiedGasLimit) state = .ok final)
    (exact : state.spentNullifierHashes = state.includedNullifiers) :
    final.spentNullifierHashes = final.includedNullifiers ↔ KeepsExactAll ctx verifiedGasLimit state offers := by
  induction offers generalizing state with
  | nil =>
    cases ended
    exact iff_of_true exact trivial
  | cons offer offers ih =>
    obtain ⟨middle, considered, rest⟩ := bind_eq_ok.mp (List.foldlM_cons.symm.trans ended)
    obtain ⟨keeps, effect, meets⟩ := consider_effect considered
    cases keeps with
    | true =>
      rw [ih rest (effect.exact exact)]
      constructor
      · intro others
        refine ⟨meets.mp rfl, fun other same => ?_⟩
        rw [considered] at same
        cases same
        exact others
      · rintro ⟨_, others⟩
        exact others middle considered
    | false =>
      have lost : middle.includedNullifiers ⊂ middle.spentNullifierHashes := by
        cases effect with
        | leak spent committed => rwa [includedNullifiers_congr committed, ← exact]
      refine iff_of_false (fun same => (loop_lost rest lost).ne same.symm) fun all => ?_
      exact absurd (meets.mpr all.1) (by decide)

theorem spendNullifiers_spec {spending : Spending} {built : Built Nullifier Address Hash}
    (spent : state.spendNullifiers ctx spending = .ok built) :
    built.spentNullifiers = state.spentNullifierHashes ∧ built.state.committed = state.committed := by
  unfold spendNullifiers at spent
  split at spent
  · next none =>
    cases spent
    exact ⟨none.symm, rfl⟩
  · cases spending with
    | unbuildable => cases spent
    | failed nonce =>
      cases spent
      exact ⟨rfl, rfl⟩
    | included nonce gasUsed evmGasUsed txDaSize effectiveTip =>
      cases spent
      exact ⟨rfl, rfl⟩

end BuildState

/-- The collected nullifiers are those of the block exactly if every transaction that came to the test either left them
alone or had only new ones and was executed. -/
theorem spends_included_iff (ctx : BuilderCtx Address) (info : ExecutionInfo)
    (effectiveGasLimit cumulativeUncompressedBytes : UInt64) (offers : List (Offer Nullifier Address Hash))
    (state : BuildState Nullifier Address Hash)
    (ended : considerBestTransactions ctx info effectiveGasLimit cumulativeUncompressedBytes offers = .ok state) :
    (state.spentNullifierHashes = state.includedNullifiers ↔
      BuildState.KeepsExactAll ctx (ctx.verifiedGasLimit effectiveGasLimit)
        (.initial info effectiveGasLimit cumulativeUncompressedBytes) offers) ∧
    ∀ spending built,
      executeBestTransactions ctx info effectiveGasLimit cumulativeUncompressedBytes offers spending = .ok built →
      built.spentNullifiers = state.spentNullifierHashes ∧ built.state.committed = state.committed := by
  constructor
  · exact BuildState.loop_exact_iff ended rfl
  · intro spending built finished
    rw [executeBestTransactions, ended] at finished
    exact BuildState.spendNullifiers_spec finished

section Sample

def sampleCtx : BuilderCtx ℕ := ⟨50, none, fun _ _ _ _ _ => false, 77, 480, 1⟩

def sampleTx (signer : ℕ) (nullifiers : List ℕ) : PooledTx ℕ ℕ ℕ :=
  ⟨signer, signer, 0, 21000, 100, 110, false, false, 1, some nullifiers⟩

def sampleBuild (offers : List (Offer ℕ ℕ ℕ)) : Except Interruption (Built ℕ ℕ ℕ) :=
  executeBestTransactions sampleCtx ⟨0, 0, 0, 0⟩ 30000000 0 offers (.included 0 140000 140000 100 1)

def sampleOffers : List (Offer ℕ ℕ ℕ) :=
  [⟨sampleTx 1 [5], false, .executed 21000 21000⟩, ⟨sampleTx 2 [5], false, .executed 21000 21000⟩]

def sampleFilled : BuildState ℕ ℕ ℕ :=
  ⟨⟨21000, 21000, 100, 21000⟩, 29880000, 110, {5}, [(2, 0)], [2], [sampleTx 1 [5]]⟩

theorem spends_included_after_duplicate :
    considerBestTransactions sampleCtx ⟨0, 0, 0, 0⟩ 30000000 0 sampleOffers = .ok sampleFilled ∧
      sampleFilled.spentNullifierHashes = sampleFilled.includedNullifiers := by
  have ended : considerBestTransactions sampleCtx ⟨0, 0, 0, 0⟩ 30000000 0 sampleOffers = .ok sampleFilled := by
    decide +kernel
  refine ⟨ended, (spends_included_iff sampleCtx ⟨0, 0, 0, 0⟩ 30000000 0 sampleOffers sampleFilled ended).1.mpr ?_⟩
  decide +kernel

theorem excluded_nullifiers_are_spent :
    (sampleBuild [⟨sampleTx 1 [5], false, .invalid⟩]).toOption.map
      (fun built => (built.state.committed, built.spentNullifiers)) = some ([], {5}) ∧
    (sampleBuild [⟨sampleTx 1 [5], false, .executed 21000 21000⟩,
      ⟨sampleTx 2 [6, 5], false, .executed 21000 21000⟩]).toOption.map
      (fun built => (built.state.committed, built.spentNullifiers)) = some ([sampleTx 1 [5]], {5, 6}) := by
  decide +kernel

end Sample

end WorldChain.Builder
