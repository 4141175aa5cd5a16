import WorldChain.Pbh.EntryPoint

/-! # The pool's validation of priority bundles

A transaction to the entry point that calls `handleAggregatedOps` gets priority when every payload of every group has
been validated, each against the signal of the operation at its index, and no nullifier hash occurs twice in the
transaction.
-/

namespace WorldChain.Pbh

open Machine

inductive PBHValidationError
  | invalidRoot
  | invalidExternalNullifierPeriod
  | invalidExternalNullifierNonce
  | invalidProof
  | proofError
  | invalidCalldata
  | missingPbhPayload
  | invalidSignatureAggregator
  | pbhGasLimitExceeded
  | duplicateNullifierHash
deriving DecidableEq, Repr

/-! ## One payload -/

structure PBHPayload where
  externalNullifier : ExternalNullifier
  nullifierHash : U256
  root : U256
  proof : Vector U256 8
deriving DecidableEq, Repr

/-- The proof system: verification may also fail, and a compressed proof may not decompress. -/
structure Semaphore where
  verifyProof : (root nullifierHash signal externalNullifier : U256) → Vector U256 8 → (treeDepth : ℕ) → Option Bool
  decompressProof : (a b c d : U256) → Option (Vector U256 8)

def treeDepth : ℕ := 30

namespace PBHPayload

def tryFrom (payload : IPBHPayload) : Except String PBHPayload := do
  let externalNullifier ← ExternalNullifier.tryFrom payload.pbhExternalNullifier
  pure ⟨externalNullifier, payload.nullifierHash, payload.root, payload.proof⟩

variable (payload : PBHPayload)

def validateRoot (validRoots : List U256) : Except PBHValidationError Unit :=
  revertIf (payload.root ∉ validRoots) .invalidRoot

def validateExternalNullifier (date : DateMarker) (pbhNonceLimit : BitVec 16) : Except PBHValidationError Unit := do
  revertIf (payload.externalNullifier.dateMarker ≠ date) .invalidExternalNullifierPeriod
  revertIf (payload.externalNullifier.nonce ≥ pbhNonceLimit) .invalidExternalNullifierNonce

def decompressed (semaphore : Semaphore) : Except PBHValidationError (Vector U256 8) :=
  let flat := payload.proof
  if flat[4] ||| flat[5] ||| flat[6] ||| flat[7] = 0 then
    match semaphore.decompressProof flat[0] flat[1] flat[2] flat[3] with
    | some proof => .ok proof
    | none => .error .invalidProof
  else .ok flat

def validate (semaphore : Semaphore) (signal : U256) (validRoots : List U256) (pbhNonceLimit : BitVec 16) (date : DateMarker) :
    Except PBHValidationError Unit := do
  payload.validateRoot validRoots
  payload.validateExternalNullifier date pbhNonceLimit
  let proof ← payload.decompressed semaphore
  match semaphore.verifyProof payload.root payload.nullifierHash signal payload.externalNullifier.encoded proof treeDepth with
  | some true => .ok ()
  | some false => .error .invalidProof
  | none => .error .proofError

end PBHPayload

def hashUserOp (abi : Abi) (userOp : PackedUserOperation) : U256 := abi.hashToField userOp.packed

/-! ## Transactions -/

/-- What the validator reads of a transaction, and the payloads that give it priority. -/
structure WorldChainPooledTransaction where
  toAddress : Option Address
  input : Bytes
  gasLimit : ℕ
  payload : Option (List PBHPayload)
deriving DecidableEq, Repr

inductive ValidTransaction
  | valid (transaction : WorldChainPooledTransaction)
  | validWithSidecar (transaction : WorldChainPooledTransaction)

inductive TransactionValidationOutcome
  | valid (transaction : ValidTransaction)
  | invalid (transaction : WorldChainPooledTransaction) (error : Option PBHValidationError)
  | error

/-- The validator of OP transactions, which returns what it was given. -/
structure OpTransactionValidator where
  validateOne : WorldChainPooledTransaction → TransactionValidationOutcome
  same : ∀ transaction result, validateOne transaction = .valid (.valid result) → result = transaction

structure WorldChainTransactionValidator where
  inner : OpTransactionValidator
  validRoots : List U256
  maxPbhNonce : BitVec 16
  maxPbhGasLimit : ℕ
  pbhEntrypoint : Address
  pbhSignatureAggregator : Address

namespace WorldChainTransactionValidator

variable (abi : Abi) (semaphore : Semaphore) (date : DateMarker) (validator : WorldChainTransactionValidator)

/-- A payload in the calldata, read by the pool. -/
def convert (entry : IPBHPayload × PackedUserOperation) : Except PBHValidationError (PBHPayload × PackedUserOperation) :=
  match PBHPayload.tryFrom entry.1 with
  | .ok payload => .ok (payload, entry.2)
  | .error _ => .error .invalidCalldata

def insertNullifierHash (seen : Finset U256) (entry : PBHPayload × PackedUserOperation) :
    Except PBHValidationError (Finset U256) := do
  revertIf (entry.1.nullifierHash ∈ seen) .duplicateNullifierHash
  pure (insert entry.1.nullifierHash seen)

def validatePair (entry : PBHPayload × PackedUserOperation) : Except PBHValidationError Unit :=
  entry.1.validate semaphore (hashUserOp abi entry.2) validator.validRoots validator.maxPbhNonce date

/-- The source validates the pairs of a group in parallel, so another error than that of the first bad pair may be
returned. -/
def validateGroup (state : List PBHPayload × Finset U256) (group : UserOpsPerAggregator) :
    Except PBHValidationError (List PBHPayload × Finset U256) :=
  match abi.pbhPayloads group.signature with
  | none => .error .invalidCalldata
  | some pbhPayloads => do
    revertIf (pbhPayloads.length ≠ group.userOps.length) .missingPbhPayload
    let payloadOps ← (pbhPayloads.zip group.userOps).mapM convert
    let seen ← payloadOps.foldlM insertNullifierHash state.2
    forEach (validator.validatePair abi semaphore date) payloadOps
    pure (state.1 ++ payloadOps.map Prod.fst, seen)

/-- The payloads of a bundle, from its calldata. -/
def bundlePayloads (input : Bytes) : Except PBHValidationError (List PBHPayload) :=
  match abi.handleAggregatedOpsCall input with
  | none => .error .invalidCalldata
  | some (opsPerAggregator, _) => do
    revertIf (opsPerAggregator = [] ∨ ∃ group ∈ opsPerAggregator, group.userOps = []) .missingPbhPayload
    revertIf (¬ ∀ group ∈ opsPerAggregator, group.aggregator = validator.pbhSignatureAggregator) .invalidSignatureAggregator
    let (aggregatedPayloads, _) ← opsPerAggregator.foldlM (validator.validateGroup abi semaphore date) ([], ∅)
    pure aggregatedPayloads

def validatePbhBundle (transaction : WorldChainPooledTransaction) : TransactionValidationOutcome :=
  match validator.inner.validateOne transaction with
  | .valid outcome =>
    match validator.bundlePayloads abi semaphore date transaction.input, outcome with
    | .error error, _ => .invalid transaction (some error)
    | .ok [], .valid result => .invalid result (some .missingPbhPayload)
    | .ok payloads, .valid result => .valid (.valid { result with payload := some payloads })
    | .ok _, .validWithSidecar result => .valid (.validWithSidecar result)
  | outcome => outcome

/-- The first four bytes of the calldata, or zeros. -/
def functionSignature (input : Bytes) : Bytes := if 4 ≤ input.length then input.take 4 else [0, 0, 0, 0]

def validatePbh (transaction : WorldChainPooledTransaction) : TransactionValidationOutcome :=
  if transaction.gasLimit > validator.maxPbhGasLimit then .invalid transaction (some .pbhGasLimitExceeded)
  else if functionSignature transaction.input = abi.selector then validator.validatePbhBundle abi semaphore date transaction
  else validator.inner.validateOne transaction

def validateTransaction (transaction : WorldChainPooledTransaction) : TransactionValidationOutcome :=
  if transaction.toAddress.getD 0 ≠ validator.pbhEntrypoint then validator.inner.validateOne transaction
  else validator.validatePbh abi semaphore date transaction

end WorldChainTransactionValidator

/-! ## What has been validated -/

theorem PBHPayload.tryFrom_eq_ok {raw : IPBHPayload} {payload : PBHPayload} : tryFrom raw = .ok payload ↔
    ExternalNullifier.tryFrom raw.pbhExternalNullifier = .ok payload.externalNullifier ∧
      raw.nullifierHash = payload.nullifierHash ∧ raw.root = payload.root ∧ raw.proof = payload.proof := by
  obtain ⟨externalNullifier, nullifierHash, root, proof⟩ := payload
  simp only [tryFrom, bind_eq_ok, pure_eq_ok, PBHPayload.mk.injEq]
  constructor
  · rintro ⟨_, read, rfl, same⟩
    exact ⟨read, same⟩
  · rintro ⟨read, same⟩
    exact ⟨externalNullifier, read, rfl, same⟩

theorem PBHPayload.nullifier_of_validate {semaphore : Semaphore} {payload : PBHPayload} {signal : U256} {validRoots : List U256}
    {limit : BitVec 16} {date : DateMarker} (valid : payload.validate semaphore signal validRoots limit date = .ok ()) :
    payload.externalNullifier.dateMarker = date ∧ payload.externalNullifier.nonce < limit := by
  simp only [validate, validateExternalNullifier, bind_eq_ok, revertIf_eq_ok, not_not, ge_iff_le, BitVec.not_le] at valid
  obtain ⟨_, _, _, ⟨_, period, below⟩, _⟩ := valid
  exact ⟨period, below⟩

namespace WorldChainTransactionValidator

variable {abi : Abi} {semaphore : Semaphore} {date : DateMarker} {validator : WorldChainTransactionValidator}
  {group : UserOpsPerAggregator} {groups : List UserOpsPerAggregator} {payloads : List PBHPayload}
  {seen after : Finset U256}

/-- The payload that the contract pairs with an operation, validated against the contract's signal, with an external
nullifier good for the month. -/
structure Proven (abi : Abi) (semaphore : Semaphore) (date : DateMarker) (validator : WorldChainTransactionValidator)
    (paired : PackedUserOperation × IPBHPayload) (payload : PBHPayload) : Prop where
  read : PBHPayload.tryFrom paired.2 = .ok payload
  encoded : payload.externalNullifier.encoded = paired.2.pbhExternalNullifier
  valid : payload.validate semaphore (PBHEntryPoint.signalHash abi paired.1) validator.validRoots validator.maxPbhNonce date =
    .ok ()
  verified : ∀ (calendar : Calendar) timestamp, calendar.dateMarker timestamp = date →
    PBHExternalNullifier.verify calendar timestamp paired.2.pbhExternalNullifier validator.maxPbhNonce
      (PBHEntryPoint.signalHash abi paired.1) = .ok ()

theorem Proven.of_valid {paired : PackedUserOperation × IPBHPayload} {payload : PBHPayload}
    (read : PBHPayload.tryFrom paired.2 = .ok payload)
    (valid : payload.validate semaphore (PBHEntryPoint.signalHash abi paired.1) validator.validRoots validator.maxPbhNonce date =
      .ok ()) : Proven abi semaphore date validator paired payload := by
  have nullifier := (PBHPayload.tryFrom_eq_ok.mp read).1
  obtain ⟨period, below⟩ := PBHPayload.nullifier_of_validate valid
  refine ⟨read, ExternalNullifier.encoded_of_tryFrom nullifier, valid, fun calendar timestamp inMonth => ?_⟩
  exact PBHExternalNullifier.verify_eq_ok.mpr ⟨_, nullifier, period.trans inMonth.symm, below⟩

/-- The hashes are new and all different, and have been noted. -/
structure Noted (seen : Finset U256) (hashes : List U256) (after : Finset U256) : Prop where
  is : after = seen ∪ hashes.toFinset
  new : ∀ hash ∈ hashes, hash ∉ seen
  distinct : hashes.Nodup

theorem Noted.append {first second : List U256} {middle : Finset U256} (left : Noted seen first middle)
    (right : Noted middle second after) : Noted seen (first ++ second) after where
  is := by rw [right.is, left.is, List.toFinset_append, Finset.union_assoc]
  new := fun hash member => by
    rcases List.mem_append.mp member with isFirst | isSecond
    · exact left.new hash isFirst
    · have fresh := right.new hash isSecond
      rw [left.is, Finset.mem_union, not_or] at fresh
      exact fresh.1
  distinct := by
    refine left.distinct.append right.distinct fun hash isFirst isSecond => ?_
    have fresh := right.new hash isSecond
    rw [left.is, Finset.mem_union, not_or, List.mem_toFinset] at fresh
    exact fresh.2 isFirst

theorem noted_of_foldlM {payloadOps : List (PBHPayload × PackedUserOperation)}
    (success : payloadOps.foldlM insertNullifierHash seen = .ok after) :
    Noted seen (payloadOps.map (·.1.nullifierHash)) after := by
  induction payloadOps generalizing seen with
  | nil =>
    obtain rfl : seen = after := by simpa using success
    exact ⟨by simp, by simp, by simp⟩
  | cons entry rest ih =>
    rw [List.foldlM_cons, bind_eq_ok] at success
    obtain ⟨middle, inserted, others⟩ := success
    simp only [insertNullifierHash, bind_eq_ok, revertIf_eq_ok, pure_eq_ok, Unique.exists_iff] at inserted
    obtain ⟨fresh, rfl⟩ := inserted
    have one : Noted seen [entry.1.nullifierHash] (insert entry.1.nullifierHash seen) :=
      ⟨by rw [Finset.union_comm]; rfl, by simpa using fresh, by simp⟩
    exact one.append (ih others)

theorem convert_eq_ok {raw : IPBHPayload} {userOp : PackedUserOperation} {entry : PBHPayload × PackedUserOperation} :
    convert (raw, userOp) = .ok entry ↔ PBHPayload.tryFrom raw = .ok entry.1 ∧ userOp = entry.2 := by
  obtain ⟨payload, other⟩ := entry
  simp only [convert]
  cases PBHPayload.tryFrom raw with
  | error => simp
  | ok value => simp

theorem validateGroup_eq_ok {state next : List PBHPayload × Finset U256}
    (success : validator.validateGroup abi semaphore date state group = .ok next) :
    ∃ pairs payloads, PBHEntryPoint.pair abi group = .ok pairs ∧
      List.Forall₂ (Proven abi semaphore date validator) pairs payloads ∧ next.1 = state.1 ++ payloads ∧
      Noted state.2 (pairs.map (·.2.nullifierHash)) next.2 := by
  rw [validateGroup] at success
  split at success
  · cases success
  · next pbhPayloads decoded =>
    simp only [bind_eq_ok, revertIf_eq_ok, pure_eq_ok, not_not, Unique.exists_iff, mapM_eq_ok] at success
    obtain ⟨sized, payloadOps, converted, seen, noted, valid, rfl⟩ := success
    rw [← List.zip_swap, List.forall₂_map_left_iff] at converted
    have each : List.Forall₂ (fun entry paired => validator.validatePair abi semaphore date entry = .ok () ∧
        convert paired.swap = .ok entry) payloadOps (group.userOps.zip pbhPayloads) :=
      (List.forall₂_and_left _ _).mpr ⟨forEach_eq_ok.mp valid, converted.flip⟩
    have read {entry : PBHPayload × PackedUserOperation} {paired : PackedUserOperation × IPBHPayload}
        (is : convert paired.swap = .ok entry) : PBHPayload.tryFrom paired.2 = .ok entry.1 ∧ paired.1 = entry.2 :=
      convert_eq_ok.mp is
    refine ⟨_, payloadOps.map Prod.fst, PBHEntryPoint.pair_eq_ok.mpr ⟨pbhPayloads, decoded, sized, rfl⟩, ?_, rfl, ?_⟩
    · refine List.Forall₂.flip (List.forall₂_map_left_iff.mpr (each.imp fun entry paired both => ?_))
      obtain ⟨isRead, same⟩ := read both.2
      refine Proven.of_valid isRead ?_
      rw [same]
      exact both.1
    · have hashes : (group.userOps.zip pbhPayloads).map (·.2.nullifierHash) = payloadOps.map (·.1.nullifierHash) := by
        rw [← List.forall₂_eq_eq_eq, List.forall₂_map_left_iff, List.forall₂_map_right_iff]
        exact converted.imp fun paired entry is => (PBHPayload.tryFrom_eq_ok.mp (read is).1).2.1
      rw [hashes]
      exact noted_of_foldlM noted

theorem foldlM_validateGroup_eq_ok {state result : List PBHPayload × Finset U256}
    (success : groups.foldlM (validator.validateGroup abi semaphore date) state = .ok result) :
    ∃ pairing payloads, List.Forall₂ (fun group pairs => PBHEntryPoint.pair abi group = .ok pairs) groups pairing ∧
      List.Forall₂ (Proven abi semaphore date validator) pairing.flatten payloads ∧ result.1 = state.1 ++ payloads ∧
      Noted state.2 (pairing.flatten.map (·.2.nullifierHash)) result.2 := by
  induction groups generalizing state with
  | nil =>
    obtain rfl : state = result := by simpa using success
    exact ⟨[], [], .nil, .nil, by simp, by simp, by simp, by simp⟩
  | cons group rest ih =>
    rw [List.foldlM_cons, bind_eq_ok] at success
    obtain ⟨next, one, others⟩ := success
    obtain ⟨pairs, payloads, paired, proven, extended, noted⟩ := validateGroup_eq_ok one
    obtain ⟨pairing, later, allPaired, allProven, allExtended, allNoted⟩ := ih others
    refine ⟨pairs :: pairing, payloads ++ later, .cons paired allPaired, ?_, ?_, ?_⟩
    · rw [List.flatten_cons]
      exact List.rel_append proven allProven
    · rw [allExtended, extended, List.append_assoc]
    · rw [List.flatten_cons, List.map_append]
      exact noted.append allNoted

/-- What stands behind the payloads of a bundle: the groups of its calldata, and what the contract pairs in them. -/
structure Bundle (abi : Abi) (semaphore : Semaphore) (date : DateMarker) (validator : WorldChainTransactionValidator)
    (input : Bytes) (payloads : List PBHPayload) (groups : List UserOpsPerAggregator)
    (pairing : List (List (PackedUserOperation × IPBHPayload))) : Prop where
  call : ∃ beneficiary, abi.handleAggregatedOpsCall input = some (groups, beneficiary)
  nonempty : groups ≠ [] ∧ ∀ group ∈ groups, group.userOps ≠ []
  aggregator : ∀ group ∈ groups, group.aggregator = validator.pbhSignatureAggregator
  paired : List.Forall₂ (fun group pairs => PBHEntryPoint.pair abi group = .ok pairs) groups pairing
  proven : List.Forall₂ (Proven abi semaphore date validator) pairing.flatten payloads
  distinct : (pairing.flatten.map (·.2.nullifierHash)).Nodup

theorem bundle_of_bundlePayloads {input : Bytes} (success : validator.bundlePayloads abi semaphore date input = .ok payloads) :
    ∃ groups pairing, Bundle abi semaphore date validator input payloads groups pairing := by
  rw [bundlePayloads] at success
  split at success
  · cases success
  · next groups beneficiary decoded =>
    simp only [bind_eq_ok, revertIf_eq_ok, pure_eq_ok, not_not, not_or, not_exists, not_and, Unique.exists_iff] at success
    obtain ⟨⟨some, full⟩, aggregator, ⟨aggregated, seen⟩, loop, rfl⟩ := success
    obtain ⟨pairing, payloads, paired, proven, extended, noted⟩ := foldlM_validateGroup_eq_ok loop
    obtain rfl : aggregated = payloads := by simpa using extended
    exact ⟨groups, pairing, ⟨beneficiary, decoded⟩, ⟨some, full⟩, aggregator, paired, proven, noted.distinct⟩

theorem bundlePayloads_of_attached {transaction result : WorldChainPooledTransaction} (new : transaction.payload ≠ some payloads)
    (outcome : validator.validateTransaction abi semaphore date transaction = .valid (.valid result))
    (attached : result.payload = some payloads) : functionSignature transaction.input = abi.selector ∧
      validator.bundlePayloads abi semaphore date transaction.input = .ok payloads := by
  have untouched (accepted : validator.inner.validateOne transaction = .valid (.valid result)) : False := by
    rw [validator.inner.same _ _ accepted] at attached
    exact new attached
  rw [validateTransaction] at outcome
  split at outcome
  · exact (untouched outcome).elim
  · rw [validatePbh] at outcome
    split at outcome
    · cases outcome
    · split at outcome
      · next isCall =>
        refine ⟨isCall, ?_⟩
        rw [validatePbhBundle] at outcome
        split at outcome
        · split at outcome
          · cases outcome
          · cases outcome
          · next ok _ =>
            cases outcome
            rw [ok, ← Option.some.inj attached]
          · cases outcome
        · next notValid => exact (untouched outcome).elim
      · exact (untouched outcome).elim

/-- The payloads that the pool attaches are those that the contract pairs with the operations, each validated for its
operation and good for the month, without a repeated nullifier hash. -/
theorem attached_payloads_are_proven (abi : Abi) (semaphore : Semaphore) (date : DateMarker)
    (validator : WorldChainTransactionValidator) (transaction result : WorldChainPooledTransaction) (payloads : List PBHPayload)
    (new : transaction.payload ≠ some payloads)
    (outcome : validator.validateTransaction abi semaphore date transaction = .valid (.valid result))
    (attached : result.payload = some payloads) : functionSignature transaction.input = abi.selector ∧
      ∃ groups beneficiary pairing, abi.handleAggregatedOpsCall transaction.input = some (groups, beneficiary) ∧ groups ≠ [] ∧
        (∀ group ∈ groups, group.userOps ≠ [] ∧ group.aggregator = validator.pbhSignatureAggregator) ∧
        List.Forall₂ (fun group pairs => PBHEntryPoint.pair abi group = .ok pairs) groups pairing ∧
        List.Forall₂ (Proven abi semaphore date validator) pairing.flatten payloads ∧
        (payloads.map (·.nullifierHash)).Nodup := by
  obtain ⟨isCall, bundled⟩ := bundlePayloads_of_attached new outcome attached
  obtain ⟨groups, pairing, bundle⟩ := bundle_of_bundlePayloads bundled
  obtain ⟨beneficiary, decoded⟩ := bundle.call
  refine ⟨isCall, groups, beneficiary, pairing, decoded, bundle.nonempty.1,
    fun group member => ⟨bundle.nonempty.2 group member, bundle.aggregator group member⟩, bundle.paired, bundle.proven, ?_⟩
  have hashes : pairing.flatten.map (·.2.nullifierHash) = payloads.map (·.nullifierHash) := by
    rw [← List.forall₂_eq_eq_eq, List.forall₂_map_left_iff, List.forall₂_map_right_iff]
    exact bundle.proven.imp fun paired payload proven => (PBHPayload.tryFrom_eq_ok.mp proven.read).2.1
  rw [← hashes]
  exact bundle.distinct

/-- In the month of validation, with no nullifier hash spent, the contract's checks pass exactly where no two groups
share a hash, for which the pool does not look. Pool and contract are assumed to decode alike: `abi` is that of both. -/
theorem handleAggregatedOps_of_attached (abi : Abi) (semaphore : Semaphore) (date : DateMarker)
    (validator : WorldChainTransactionValidator) (transaction result : WorldChainPooledTransaction)
    (payloads : List PBHPayload) (new : transaction.payload ≠ some payloads)
    (outcome : validator.validateTransaction abi semaphore date transaction = .valid (.valid result))
    (attached : result.payload = some payloads) (calendar : Calendar) (timestamp : ℕ)
    (inMonth : calendar.dateMarker timestamp = date) (entryPoint : PBHEntryPoint)
    (offChain : entryPoint.worldId = none) (limit : entryPoint.numPbhPerMonth = validator.maxPbhNonce)
    (unspent : ∀ payload ∈ payloads, entryPoint.nullifierHashes payload.nullifierHash = 0) :
    ∃ groups beneficiary, abi.handleAggregatedOpsCall transaction.input = some (groups, beneficiary) ∧
      ((∃ after, entryPoint.handleAggregatedOps abi calendar timestamp groups = .ok after) ↔
        groups.Pairwise fun first second =>
          abi.hashOps first.userOps = abi.hashOps second.userOps → abi.hashOps first.userOps = 0) := by
  obtain ⟨_, bundled⟩ := bundlePayloads_of_attached new outcome attached
  obtain ⟨groups, pairing, bundle⟩ := bundle_of_bundlePayloads bundled
  obtain ⟨beneficiary, decoded⟩ := bundle.call
  refine ⟨groups, beneficiary, decoded, ?_⟩
  have each := (List.forall₂_and_left _ _).mpr ⟨unspent, bundle.proven.flip⟩
  have verified : List.Forall₂
      (fun paired (_ : PBHPayload) => entryPoint.verifyPair abi calendar timestamp paired = .ok () ∧ True)
      pairing.flatten payloads := by
    refine List.Forall₂.flip (each.imp fun payload paired both => ⟨?_, trivial⟩)
    obtain ⟨fresh, proven⟩ := both
    have hash := (PBHPayload.tryFrom_eq_ok.mp proven.read).2.1
    refine (PBHEntryPoint.verifyPair_eq_ok offChain).mpr ⟨hash ▸ fresh, ?_⟩
    rw [limit]
    exact proven.verified calendar timestamp inMonth
  have all := ((List.forall₂_and_left _ _).mp verified).1
  rw [PBHEntryPoint.handleAggregatedOps, PBHEntryPoint.foldlM_handleGroup bundle.paired all]
  exact and_iff_right fun _ _ marked => absurd marked (Finset.notMem_empty _)

/-! ## A bundle of two groups -/

def sampleOp (sender : Address) : PackedUserOperation := ⟨sender, 2, [], [3], 0, 0, 0, [], []⟩

def samplePayload (pbhExternalNullifier nullifierHash : U256) : IPBHPayload :=
  ⟨7, pbhExternalNullifier, nullifierHash, Vector.replicate 8 1⟩

def sampleGroups : List UserOpsPerAggregator := [⟨[sampleOp 1], 5, [1]⟩, ⟨[sampleOp 1, sampleOp 8], 5, [2]⟩]

def sampleAbi : Abi where
  selector := [1, 2, 3, 4]
  handleAggregatedOpsCall := fun input => if input = [1, 2, 3, 4] then some (sampleGroups, 0) else none
  pbhPayloads := fun signature =>
    if signature = [1] then some [samplePayload 0x7E901000401 9]
    else if signature = [2] then some [samplePayload 0x7E901000501 10, samplePayload 0x7E901000601 11]
    else if signature = [3] then some [samplePayload 0x7E901000501 10]
    else none
  hashToField := fun bytes => BitVec.ofNat 256 bytes.length
  hashOps := fun userOps => BitVec.ofNat 256 userOps.length

def sampleSemaphore : Semaphore := ⟨fun _ _ _ _ _ _ => some true, fun _ _ _ _ => none⟩

theorem sampleSame (transaction result : WorldChainPooledTransaction)
    (accepted : TransactionValidationOutcome.valid (.valid transaction) = .valid (.valid result)) : result = transaction := by
  cases accepted
  rfl

def sampleValidator : WorldChainTransactionValidator :=
  ⟨⟨fun transaction => .valid (.valid transaction), sampleSame⟩, [7], 30, 100, 6, 5⟩

def sampleTransaction : WorldChainPooledTransaction := ⟨some 6, [1, 2, 3, 4], 50, none⟩

def sampleProven (pbhNonce : BitVec 16) (nullifierHash : U256) : PBHPayload :=
  ⟨⟨.v1, 2025, 1, pbhNonce⟩, nullifierHash, 7, Vector.replicate 8 1⟩

theorem sample_outcome : sampleValidator.validateTransaction sampleAbi sampleSemaphore ⟨2025, 1⟩ sampleTransaction =
    .valid (.valid { sampleTransaction with
      payload := some [sampleProven 4 9, sampleProven 5 10, sampleProven 6 11] }) := by
  rfl

theorem sample_payload_is_proven : List.Forall₂ (Proven sampleAbi sampleSemaphore ⟨2025, 1⟩ sampleValidator)
    [(sampleOp 1, samplePayload 0x7E901000401 9), (sampleOp 1, samplePayload 0x7E901000501 10),
      (sampleOp 8, samplePayload 0x7E901000601 11)]
    [sampleProven 4 9, sampleProven 5 10, sampleProven 6 11] := by
  obtain ⟨_, groups, beneficiary, pairing, decoded, _, _, paired, proven, _⟩ :=
    attached_payloads_are_proven sampleAbi sampleSemaphore ⟨2025, 1⟩ sampleValidator sampleTransaction _ _
      (by simp [sampleTransaction]) sample_outcome rfl
  obtain ⟨rfl, _⟩ := Prod.mk.inj (Option.some.inj decoded)
  cases paired with
  | cons isPaired rest =>
    cases rest with
    | cons alsoPaired rest =>
      cases rest
      obtain rfl := Except.ok.inj isPaired
      obtain rfl := Except.ok.inj alsoPaired
      exact proven

def sampleCalendar : Calendar := ⟨fun _ => 2025, fun _ => 1⟩

def sampleEntryPoint : PBHEntryPoint := ⟨fun _ => 0, 30, none⟩

theorem sample_is_handled : ∃ after, sampleEntryPoint.handleAggregatedOps sampleAbi sampleCalendar 0 sampleGroups =
    .ok after := by
  obtain ⟨groups, beneficiary, decoded, goes⟩ :=
    handleAggregatedOps_of_attached sampleAbi sampleSemaphore ⟨2025, 1⟩ sampleValidator sampleTransaction _ _
      (by simp [sampleTransaction]) sample_outcome rfl sampleCalendar 0 rfl sampleEntryPoint rfl rfl (fun _ _ => rfl)
  obtain ⟨rfl, _⟩ := Prod.mk.inj (Option.some.inj decoded)
  exact goes.mpr (by decide +kernel)

/-! ## An operation in two groups -/

def twinGroups : List UserOpsPerAggregator := [⟨[sampleOp 1], 5, [1]⟩, ⟨[sampleOp 1], 5, [3]⟩]

def twinAbi : Abi :=
  { sampleAbi with
    handleAggregatedOpsCall := fun input => if input = [1, 2, 3, 4] then some (twinGroups, 0) else none }

theorem twin_groups_collide :
    sampleValidator.validateTransaction twinAbi sampleSemaphore ⟨2025, 1⟩ sampleTransaction =
        .valid (.valid { sampleTransaction with payload := some [sampleProven 4 9, sampleProven 5 10] }) ∧
      twinAbi.handleAggregatedOpsCall sampleTransaction.input = some (twinGroups, 0) ∧
      sampleCalendar.dateMarker 0 = ⟨2025, 1⟩ ∧
      sampleEntryPoint.handleAggregatedOps twinAbi sampleCalendar 0 twinGroups = .error .storageCollision :=
  ⟨rfl, rfl, rfl, by decide⟩

end WorldChainTransactionValidator

end WorldChain.Pbh
