import WorldChain.Lib.BigEndian
import WorldChain.Lib.Checks
import WorldChain.Pbh.ExternalNullifier

/-! # The entry point of priority bundles

The contract takes groups of user operations. The signature of a group holds one payload for each of its operations;
the contract pairs them by index and verifies each payload against the signal of its operation.
-/

namespace WorldChain.Pbh

open Machine

abbrev Address := BitVec 160

abbrev Bytes := List UInt8

structure PackedUserOperation where
  sender : Address
  nonce : U256
  initCode : Bytes
  callData : Bytes
  accountGasLimits : U256
  preVerificationGas : U256
  gasFees : U256
  paymasterAndData : Bytes
  signature : Bytes
deriving DecidableEq, Repr

structure UserOpsPerAggregator where
  userOps : List PackedUserOperation
  aggregator : Address
  signature : Bytes
deriving DecidableEq, Repr

/-- A payload as it stands in the calldata. -/
structure IPBHPayload where
  root : U256
  pbhExternalNullifier : U256
  nullifierHash : U256
  proof : Vector U256 8
deriving DecidableEq, Repr

structure Abi where
  selector : Bytes
  handleAggregatedOpsCall : Bytes → Option (List UserOpsPerAggregator × Address)
  pbhPayloads : Bytes → Option (List IPBHPayload)
  hashToField : Bytes → U256
  hashOps : List PackedUserOperation → U256

def PackedUserOperation.packed (userOp : PackedUserOperation) : Bytes :=
  BigEndian.toBytes 20 userOp.sender.toNat ++ BigEndian.toBytes 32 userOp.nonce.toNat ++ userOp.callData

structure PBHEntryPoint where
  nullifierHashes : U256 → ℕ
  numPbhPerMonth : BitVec 16
  worldId : Option ((root signalHash nullifierHash externalNullifier : U256) → Vector U256 8 → Bool)

namespace PBHEntryPoint

variable (abi : Abi) (calendar : Calendar) (timestamp : ℕ) (entryPoint : PBHEntryPoint)

def signalHash (userOp : PackedUserOperation) : U256 := abi.hashToField userOp.packed

def verifyPbh (signalHash : U256) (payload : IPBHPayload) : Except PBHError Unit := do
  revertIf (entryPoint.nullifierHashes payload.nullifierHash ≠ 0) (.invalidNullifier payload.nullifierHash signalHash)
  PBHExternalNullifier.verify calendar timestamp payload.pbhExternalNullifier entryPoint.numPbhPerMonth signalHash
  match entryPoint.worldId with
  | some verifyProof =>
    revertIf (verifyProof payload.root signalHash payload.nullifierHash payload.pbhExternalNullifier payload.proof = false) .worldId
  | none => pure ()

/-- The operations of a group with their payloads. -/
def pair (group : UserOpsPerAggregator) : Except PBHError (List (PackedUserOperation × IPBHPayload)) :=
  match abi.pbhPayloads group.signature with
  | none => .error .decoding
  | some pbhPayloads => do
    revertIf (pbhPayloads.length ≠ group.userOps.length) (.invalidAggregatedSignature pbhPayloads.length group.userOps.length)
    pure (group.userOps.zip pbhPayloads)

def verifyPair (paired : PackedUserOperation × IPBHPayload) : Except PBHError Unit :=
  entryPoint.verifyPbh calendar timestamp (signalHash abi paired.1) paired.2

def handleGroup (transient : Finset U256) (group : UserOpsPerAggregator) : Except PBHError (Finset U256) := do
  let hashedOps := abi.hashOps group.userOps
  revertIf (hashedOps ∈ transient ∧ hashedOps ≠ 0) .storageCollision
  let paired ← pair abi group
  forEach (entryPoint.verifyPair abi calendar timestamp) paired
  pure (insert hashedOps transient)

def handleAggregatedOps (opsPerAggregator : List UserOpsPerAggregator) : Except PBHError (Finset U256) :=
  opsPerAggregator.foldlM (entryPoint.handleGroup abi calendar timestamp) ∅

variable {abi} {calendar} {timestamp} {entryPoint} {paired : PackedUserOperation × IPBHPayload}

theorem pair_eq_ok {group : UserOpsPerAggregator} {pairs : List (PackedUserOperation × IPBHPayload)} :
    pair abi group = .ok pairs ↔ ∃ pbhPayloads, abi.pbhPayloads group.signature = some pbhPayloads ∧
      pbhPayloads.length = group.userOps.length ∧ group.userOps.zip pbhPayloads = pairs := by
  rw [pair]
  cases abi.pbhPayloads group.signature with
  | none => simp
  | some pbhPayloads => simp

theorem verifyPair_eq_ok (offChain : entryPoint.worldId = none) : entryPoint.verifyPair abi calendar timestamp paired = .ok () ↔
    entryPoint.nullifierHashes paired.2.nullifierHash = 0 ∧
      PBHExternalNullifier.verify calendar timestamp paired.2.pbhExternalNullifier entryPoint.numPbhPerMonth
        (signalHash abi paired.1) = .ok () := by
  simp [verifyPair, verifyPbh, offChain, Unique.exists_iff]

theorem handleGroup_eq_ok {group : UserOpsPerAggregator} {pairs : List (PackedUserOperation × IPBHPayload)}
    {transient after : Finset U256} (isPaired : pair abi group = .ok pairs)
    (verified : ∀ entry ∈ pairs, entryPoint.verifyPair abi calendar timestamp entry = .ok ()) :
    entryPoint.handleGroup abi calendar timestamp transient group = .ok after ↔
      (abi.hashOps group.userOps ∈ transient → abi.hashOps group.userOps = 0) ∧
        insert (abi.hashOps group.userOps) transient = after := by
  simp only [handleGroup, isPaired, bind_eq_ok, revertIf_eq_ok, pure_eq_ok, Except.ok.injEq, exists_eq_left',
    Unique.exists_iff, forEach_eq_ok.mpr verified, true_and, not_and, not_not]

theorem foldlM_handleGroup {groups : List UserOpsPerAggregator}
    {pairing : List (List (PackedUserOperation × IPBHPayload))} {transient : Finset U256}
    (paired : List.Forall₂ (fun group pairs => pair abi group = .ok pairs) groups pairing)
    (verified : ∀ entry ∈ pairing.flatten, entryPoint.verifyPair abi calendar timestamp entry = .ok ()) :
    (∃ after, groups.foldlM (entryPoint.handleGroup abi calendar timestamp) transient = .ok after) ↔
      (∀ group ∈ groups, abi.hashOps group.userOps ∈ transient → abi.hashOps group.userOps = 0) ∧
        groups.Pairwise fun first second =>
          abi.hashOps first.userOps = abi.hashOps second.userOps → abi.hashOps first.userOps = 0 := by
  induction paired generalizing transient with
  | nil => simp
  | @cons group pairs groups pairing isPaired rest ih =>
    rw [List.flatten_cons] at verified
    have first := fun entry member => verified entry (List.mem_append_left _ member)
    have others := fun entry member => verified entry (List.mem_append_right _ member)
    simp only [List.foldlM_cons, bind_eq_ok, handleGroup_eq_ok isPaired first, List.forall_mem_cons, List.pairwise_cons]
    constructor
    · rintro ⟨after, _, ⟨fresh, rfl⟩, goes⟩
      obtain ⟨unmarked, distinct⟩ := (ih others).mp ⟨after, goes⟩
      refine ⟨⟨fresh, fun other member marked => ?_⟩, fun other member same => ?_, distinct⟩
      · exact unmarked other member (Finset.mem_insert_of_mem marked)
      · rw [same]
        exact unmarked other member (by rw [same]; exact Finset.mem_insert_self _ _)
    · rintro ⟨⟨fresh, unmarked⟩, different, distinct⟩
      have unmarkedAfter (other : UserOpsPerAggregator) (member : other ∈ groups)
          (marked : abi.hashOps other.userOps ∈ insert (abi.hashOps group.userOps) transient) :
          abi.hashOps other.userOps = 0 := by
        rcases Finset.mem_insert.mp marked with same | marked
        · rw [same]
          exact different other member same.symm
        · exact unmarked other member marked
      obtain ⟨after, goes⟩ := (ih others).mpr ⟨unmarkedAfter, distinct⟩
      exact ⟨after, _, ⟨fresh, rfl⟩, goes⟩

end PBHEntryPoint

end WorldChain.Pbh
