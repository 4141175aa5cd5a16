import WorldChain.Machine.Run
import WorldChain.Lib.BigEndian
import WorldChain.Lib.Ledger

/-! # Values shared by the dispute contracts

Addresses and hashes have the widths of the EVM; amounts, block numbers and timestamps are natural numbers whose
checked operations revert at the width of the Solidity type.
-/

namespace WorldChain.Dispute

open Machine

abbrev Address := BitVec 160
abbrev Bytes32 := BitVec 256
abbrev Bytes := List UInt8

instance fintypeBitVec (width : ℕ) : Fintype (BitVec width) :=
  Fintype.ofEquiv (Fin (2 ^ width)) ⟨BitVec.ofFin, BitVec.toFin, fun _ => rfl, fun _ => rfl⟩

def uint256Max : ℕ := 2 ^ 256 - 1
def uint160Max : ℕ := 2 ^ 160 - 1
def uint64Max : ℕ := 2 ^ 64 - 1

/-- `GameTypes.MULTI_PROOF_GAME_TYPE`. -/
def multiProofGameType : ℕ := 1006

/-- The three proof lanes, in the order of their bits. -/
inductive ProofLane where
  | validityProof
  | teeAttestation
  | securityCouncil
deriving DecidableEq, Repr

inductive InvalidationReason where
  | none
  | proofTimeout
  | invalidParent
deriving DecidableEq, Repr

inductive GameStatus where
  | inProgress
  | challengerWins
  | defenderWins
deriving DecidableEq, Repr

inductive BondDistributionMode where
  | undecided
  | normal
  | refund
deriving DecidableEq, Repr

/-- The lifecycle of the proposer's claim. -/
inductive ProposalStatus where
  | unchallenged
  | challenged
  | unchallengedAndValidProofProvided
  | challengedAndValidProofProvided
  | resolved
deriving DecidableEq, Repr

/-- Why a call reverted, with the arguments the source reports. -/
inductive Revert where
  -- checked arithmetic
  | panic
  -- a call to an address that carries no code
  | noCode
  -- the factory, outside the repository
  | noImplementation
  | deploymentFailed
  | gameAlreadyExists
  -- `MultiProofGame`
  | alreadyInitialized
  | badExtraData
  | notDisputeGameFactory (caller : Address)
  | incorrectBondAmount
  | gamePaused
  | invalidDomainHash (expected actual : Bytes32)
  | invalidParentGame
  | invalidL2BlockNumber (expected actual : ℕ)
  | unexpectedRootClaim (rootClaim : Bytes32)
  | gameNotRetryable (uuidPreimageHash : Bytes32)
  | timestampOutOfBounds (value : ℕ)
  | claimAlreadyResolved
  | gameOver
  | claimAlreadyChallenged
  | invalidLane (lane : ℕ)
  | invalidProof (lane : ProofLane) (rootId : Bytes32)
  | duplicateProofLane (lane : ProofLane) (rootId : Bytes32) (proofBitmap : BitVec 8)
  | parentGameNotResolved
  | gameNotOver
  | invalidProposalStatus
  | gameNotFinalized
  -- `ERC20StakingVault`
  | challengerBondAlreadyLocked (game : Address)
  | exactTransferRequired (expected actual : ℕ)
  | gameAlreadySettled (game : Address)
  | gameBondAlreadyInitialized (game : Address)
  | gameNotRegistered (game : Address)
  | insufficientBalance (account : Address) (available required : ℕ)
  | invalidPayoutTotal (expected actual : ℕ)
  | invalidAccount
  | invalidAmount
  | invalidVaultConfiguration
  | invalidWithdrawal
  | ownerMismatch (disputeGameFactoryOwner proxyAdminOwner : Address)
  | unexpectedGameAddress (expected actual : Address)
  | withdrawalDelayNotMet (availableAt : ℕ)
  | withdrawalPaused
  | tokenTransferFailed
deriving DecidableEq, Repr

/-- Solidity's checked `uint256` addition. -/
def checkedAdd (left right : ℕ) : Except Revert ℕ :=
  if left + right ≤ uint256Max then .ok (left + right) else .error .panic

/-- Solidity's checked subtraction. -/
def checkedSub (left right : ℕ) : Except Revert ℕ :=
  if right ≤ left then .ok (left - right) else .error .panic

/-- Solidity's checked `uint256` multiplication. -/
def checkedMul (left right : ℕ) : Except Revert ℕ :=
  if left * right ≤ uint256Max then .ok (left * right) else .error .panic

/-- Narrow a timestamp to `uint64`, or revert. -/
def toTimestamp (value : ℕ) : Except Revert ℕ :=
  if value > uint64Max then .error (.timestampOutOfBounds value) else .ok value

variable {left right : ℕ}

@[simp] theorem checkedAdd_eq_ok {total : ℕ} :
    checkedAdd left right = .ok total ↔ left + right ≤ uint256Max ∧ left + right = total := by
  by_cases fits : left + right ≤ uint256Max <;> simp [checkedAdd, fits]

theorem checkedAdd_eq_error {error : Revert} (failed : checkedAdd left right = .error error) :
    error = .panic := by
  unfold checkedAdd at failed
  split at failed
  · cases failed
  · exact (Except.error.inj failed).symm

@[simp] theorem checkedSub_eq_ok {difference : ℕ} :
    checkedSub left right = .ok difference ↔ right ≤ left ∧ left - right = difference := by
  by_cases covered : right ≤ left <;> simp [checkedSub, covered]

@[simp] theorem checkedMul_eq_ok {product : ℕ} :
    checkedMul left right = .ok product ↔ left * right ≤ uint256Max ∧ left * right = product := by
  by_cases fits : left * right ≤ uint256Max <;> simp [checkedMul, fits]

@[simp] theorem toTimestamp_eq_ok {value narrowed : ℕ} :
    toTimestamp value = .ok narrowed ↔ value ≤ uint64Max ∧ value = narrowed := by
  by_cases large : value > uint64Max
  · simp [toTimestamp, large]
  · simp [toTimestamp, large, Nat.le_of_not_lt large]

def creditChecked (ledger : Address → ℕ) (account : Address) (amount : ℕ) : Except Revert (Address → ℕ) := do
  let _ ← checkedAdd (ledger account) amount
  pure (Ledger.credit ledger account amount)

@[simp] theorem creditChecked_eq_ok {ledger credited : Address → ℕ} {account : Address} {amount : ℕ} :
    creditChecked ledger account amount = .ok credited ↔
      ledger account + amount ≤ uint256Max ∧ Ledger.credit ledger account amount = credited := by
  simp [creditChecked]

theorem creditChecked_eq_error {ledger : Address → ℕ} {account : Address} {amount : ℕ} {error : Revert}
    (failed : creditChecked ledger account amount = .error error) : error = .panic := by
  rw [creditChecked, bind_eq_error] at failed
  rcases failed with failed | ⟨_, _, failed⟩
  · exact checkedAdd_eq_error failed
  · cases failed

/-- `abi.encode` of a tuple of static words. -/
def abiEncode (words : List ℕ) : Bytes :=
  BigEndian.encode 32 words

end WorldChain.Dispute
