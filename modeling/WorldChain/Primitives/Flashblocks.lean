import WorldChain.Primitives.Payload

/-! # The flashblocks of a payload

A flashblock reports what a built block adds to the one before it: the transactions and withdrawals past an offset, and
the roots and totals of the whole block.
-/

namespace WorldChain.Primitives

variable {Tx Receipt AccountChanges : Type}

/-- What is read of the header of a block. -/
structure BlockHeader where
  number : U64
  gasLimit : U64
  gasUsed : UInt64
  blobGasUsed : Option UInt64
  stateRoot : B256
  receiptsRoot : B256
  logsBloom : Bloom
  withdrawalsRoot : Option B256
  extraData : List UInt8
  baseFeePerGas : Option U64
deriving DecidableEq

structure Block (Tx : Type) where
  hash : B256
  header : BlockHeader
  transactions : List Tx
  withdrawals : Option (List Withdrawal)
deriving DecidableEq

/-- A block that has been built; it may be kept together with its execution, which gives the receipts. -/
structure OpBuiltPayload (Tx Receipt : Type) where
  id : B64
  fees : U256
  block : Block Tx
  executedBlock : Option (List Receipt)
deriving DecidableEq

/-- What a payload is built for. -/
structure PayloadConfig where
  payloadId : B64
  parentHash : B256
  parentBeaconBlockRoot : Option B256
  suggestedFeeRecipient : Address
  prevRandao : B256
  timestamp : U64

structure FlashblockMetadata where
  fees : U256
  flashblockTimestamp : Option ℤ
deriving DecidableEq

abbrev Flashblock (AccountChanges : Type) := FlashblocksPayloadV1 FlashblockMetadata AccountChanges

/-- The number in a machine word. -/
def U64.ofWord (word : UInt64) : U64 := ⟨word.toNat, word.toNat_lt⟩

def B256.zero : B256 := ⟨List.replicate 32 0, rfl⟩

theorem Address.length_zero : (List.replicate 20 (0 : UInt8)).length = 20 := rfl

def Address.zero : Address := ⟨List.replicate 20 0, Address.length_zero⟩

theorem Bloom.length_zero : (List.replicate 256 (0 : UInt8)).length = 256 := List.length_replicate

def Bloom.zero : Bloom := ⟨List.replicate 256 0, Bloom.length_zero⟩

namespace Flashblock

/-- What a payload adds before the offsets; the first flashblock has the base. Encodings, hashes and the time are
inputs. -/
def new (encode : Tx → List UInt8) (accessListHash : FlashblockAccessList AccountChanges → B256) (now : ℤ)
    (payload : OpBuiltPayload Tx Receipt) (config : PayloadConfig) (index : U64)
    (transactionsOffset withdrawalOffset : ℕ) (accessList : Option (FlashblockAccessList AccountChanges)) :
    Flashblock AccountChanges where
  payloadId := config.payloadId
  index
  base :=
    if index = 0 then
      some
        { parentBeaconBlockRoot := config.parentBeaconBlockRoot.getD .zero
          parentHash := config.parentHash
          feeRecipient := config.suggestedFeeRecipient
          prevRandao := config.prevRandao
          blockNumber := payload.block.header.number
          gasLimit := payload.block.header.gasLimit
          timestamp := config.timestamp
          extraData := payload.block.header.extraData
          baseFeePerGas := (payload.block.header.baseFeePerGas.map (Fin.castLE (by decide))).getD 0 }
    else none
  diff :=
    { stateRoot := payload.block.header.stateRoot
      receiptsRoot := payload.block.header.receiptsRoot
      logsBloom := payload.block.header.logsBloom
      gasUsed := .ofWord payload.block.header.gasUsed
      blockHash := payload.block.hash
      transactions := (payload.block.transactions.drop transactionsOffset).map encode
      withdrawals := (payload.block.withdrawals.map (·.drop withdrawalOffset)).getD []
      withdrawalsRoot := payload.block.header.withdrawalsRoot.getD .zero
      accessListData := accessList.map fun accessList => ⟨accessList, accessListHash accessList⟩ }
  metadata := ⟨payload.fees, some now⟩

def append (acc next : Flashblock AccountChanges) : Flashblock AccountChanges where
  payloadId := acc.payloadId
  index := next.index
  base := acc.base.or next.base
  diff :=
    { stateRoot := next.diff.stateRoot
      receiptsRoot := next.diff.receiptsRoot
      logsBloom := next.diff.logsBloom
      gasUsed := next.diff.gasUsed
      blockHash := next.diff.blockHash
      transactions := acc.diff.transactions ++ next.diff.transactions
      withdrawals := acc.diff.withdrawals ++ next.diff.withdrawals
      withdrawalsRoot := next.diff.withdrawalsRoot
      accessListData := acc.diff.accessListData }
  metadata := ⟨next.metadata.fees, next.metadata.flashblockTimestamp⟩

def reduce : List (Flashblock AccountChanges) → Option (Flashblock AccountChanges)
  | [] => none
  | first :: rest => some (rest.foldl append first)

theorem reduce_concat {flashblocks : List (Flashblock AccountChanges)} {acc : Flashblock AccountChanges}
    (reduced : reduce flashblocks = some acc) (next : Flashblock AccountChanges) :
    reduce (flashblocks ++ [next]) = some (acc.append next) := by
  cases flashblocks with
  | nil => cases reduced
  | cons first rest =>
    cases reduced
    simp [reduce]

end Flashblock

/-! ## Collections -/

/-- The flashblocks of one payload: there is a first one, it has the base, and the indices are contiguous from 0. -/
structure Flashblocks (AccountChanges : Type) where
  flashblocks : List (Flashblock AccountChanges)
  nonempty : flashblocks ≠ []
  has_base : (flashblocks.head nonempty).base.isSome = true
  same_id : ∀ flashblock ∈ flashblocks, flashblock.payloadId = (flashblocks.head nonempty).payloadId
  contiguous : flashblocks.map (·.index.val) = List.range flashblocks.length
deriving DecidableEq

/-- Why a flashblock does not come next. -/
inductive PushError
  | indexNotZero
  | missingBase
  | notLater
  | notContiguous (expected : ℕ) (got : U64) (payloadId : B64)
deriving DecidableEq

namespace Flashblocks

variable (collection : Flashblocks AccountChanges) (flashblock : Flashblock AccountChanges)

def last : Flashblock AccountChanges := collection.flashblocks.getLast collection.nonempty

def payloadId : B64 := (collection.flashblocks.head collection.nonempty).payloadId

def base : ExecutionPayloadBaseV1 := (collection.flashblocks.head collection.nonempty).base.get collection.has_base

/-- A collection of one flashblock. -/
def single (first : flashblock.index = 0) (base : flashblock.base.isSome = true) : Flashblocks AccountChanges where
  flashblocks := [flashblock]
  nonempty := List.cons_ne_nil _ _
  has_base := base
  same_id := by simp
  contiguous := by simp [first]

def default : Flashblocks AccountChanges :=
  .single
    { payloadId := ⟨List.replicate 8 0, rfl⟩
      index := 0
      diff := ⟨.zero, .zero, Bloom.zero, 0, .zero, [], [], .zero, none⟩
      metadata := ⟨0, none⟩
      base := some ⟨.zero, .zero, Address.zero, .zero, 0, 0, 0, [], 0⟩ }
    rfl rfl

def extend (same : flashblock.payloadId = collection.payloadId)
    (next : flashblock.index.val = collection.flashblocks.length) : Flashblocks AccountChanges where
  flashblocks := collection.flashblocks ++ [flashblock]
  nonempty := by simp
  has_base := by
    rw [List.head_append_left collection.nonempty]
    exact collection.has_base
  same_id := by
    intro other member
    rw [List.head_append_left collection.nonempty]
    rcases List.mem_append.mp member with earlier | last
    · exact collection.same_id other earlier
    · rw [List.mem_singleton.mp last, same, payloadId]
  contiguous := by
    rw [List.map_append, collection.contiguous, List.length_append, List.length_singleton, List.range_succ]
    simp [next]

def isNewPayload : Except PushError Bool :=
  if flashblock.payloadId ≠ collection.payloadId then
    if flashblock.index ≠ 0 then .error .indexNotZero
    else
      match flashblock.base with
      | none => .error .missingBase
      | some base => if base.timestamp ≤ collection.base.timestamp then .error .notLater else .ok true
  else if flashblock.index.val ≠ collection.flashblocks.length then
    .error (.notContiguous collection.flashblocks.length flashblock.index collection.payloadId)
  else .ok false

theorem isNewPayload_true (isNew : collection.isNewPayload flashblock = .ok true) :
    flashblock.index = 0 ∧ flashblock.base.isSome = true := by
  unfold isNewPayload at isNew
  split_ifs at isNew with other indexed
  · cases held : flashblock.base with
    | none => simp [held] at isNew
    | some base => exact ⟨by simpa using indexed, rfl⟩
  · cases isNew

theorem isNewPayload_false (known : collection.isNewPayload flashblock = .ok false) :
    flashblock.payloadId = collection.payloadId ∧ flashblock.index.val = collection.flashblocks.length := by
  unfold isNewPayload at known
  split_ifs at known with other indexed later
  · cases held : flashblock.base with
    | none => simp [held] at known
    | some base =>
      simp only [held] at known
      split at known <;> cases known
  · exact ⟨by simpa using other, by simpa using later⟩

def push : Except PushError (Flashblocks AccountChanges) :=
  match verdict : collection.isNewPayload flashblock with
  | .error error => .error error
  | .ok true =>
    have first := collection.isNewPayload_true flashblock verdict
    .ok (single flashblock first.1 first.2)
  | .ok false =>
    have next := collection.isNewPayload_false flashblock verdict
    .ok (collection.extend flashblock next.1 next.2)

variable {collection flashblock} {after : Flashblocks AccountChanges}

theorem isOk_push : (collection.push flashblock).isOk = (collection.isNewPayload flashblock).isOk := by
  unfold push
  split
  · next verdict => exact (congrArg Except.isOk verdict).symm
  · next verdict => exact (congrArg Except.isOk verdict).symm
  · next verdict => exact (congrArg Except.isOk verdict).symm

theorem last_push (pushed : collection.push flashblock = .ok after) : after.last = flashblock := by
  unfold push at pushed
  split at pushed
  · cases pushed
  · cases pushed
    rfl
  · cases pushed
    simp [last, extend]

theorem payloadId_last (collection : Flashblocks AccountChanges) : collection.last.payloadId = collection.payloadId :=
  collection.same_id _ (List.getLast_mem _)

theorem payloadId_push (pushed : collection.push flashblock = .ok after) : after.payloadId = flashblock.payloadId := by
  rw [← payloadId_last, last_push pushed]

theorem push_ne_self (pushed : collection.push flashblock = .ok after) : after ≠ collection := by
  unfold push at pushed
  split at pushed
  · cases pushed
  · next verdict =>
    cases pushed
    rintro same
    have : collection.payloadId = flashblock.payloadId := by rw [← same]; rfl
    simp [isNewPayload, this] at verdict
    split at verdict <;> cases verdict
  · cases pushed
    intro same
    simpa [extend] using congrArg (fun collection => collection.flashblocks.length) same

end Flashblocks

section Sample

def sampleB64 (byte : UInt8) : B64 := ⟨List.replicate 8 byte, rfl⟩

def sampleB256 (byte : UInt8) : B256 := ⟨List.replicate 32 byte, rfl⟩

def sampleHeader (gasUsed : UInt64) (blobGasUsed : Option UInt64) : BlockHeader where
  number := 1
  gasLimit := 30000000
  gasUsed
  blobGasUsed
  stateRoot := .zero
  receiptsRoot := .zero
  logsBloom := Bloom.zero
  withdrawalsRoot := none
  extraData := []
  baseFeePerGas := none

end Sample

end WorldChain.Primitives
