import WorldChain.Dispute.Vault

/-! # The multi-proof dispute game

`MultiProofGame`: the checked configuration, the immutable arguments of a clone, its storage, and the entry points as
functions of the clone. What a call reads from other contracts is an argument.
-/

namespace WorldChain.Dispute

open Machine

def challengerRewardBps : ℕ := 5000

/-- Basis-point denominator. -/
def bps : ℕ := 10000

/-- Per-deployment configuration, fixed as immutables on the implementation. -/
structure GameConfig where
  rollupConfigHash : Bytes32
  blockInterval : ℕ
  challengePeriod : ℕ
  proofPeriod : ℕ
  proposerBond : ℕ
  challengerBond : ℕ
  protocolFeeRecipient : Address
  proofThreshold : ℕ
  aggregationVKey : Bytes32
  rangeVKeyCommitment : Bytes32
  teeImageId : Bytes32
  validityProofVerifier : Address
  teeVerifier : Address
  securityCouncil : Address
  anchorStateRegistry : Address
  bondVault : Address
deriving DecidableEq, Repr

def GameConfig.Rejected (config : GameConfig) : Prop :=
  config.blockInterval = 0 ∨ config.challengePeriod = 0 ∨ config.proofPeriod ≤ config.challengePeriod ∨
    config.proposerBond = 0 ∨ config.proposerBond > uint256Max / challengerRewardBps ∨
    config.challengerBond = 0 ∨ config.proofThreshold < 2 ∨ config.proofThreshold > proofLaneCount ∨
    config.protocolFeeRecipient = 0#160 ∨ config.aggregationVKey = 0#256 ∨ config.rangeVKeyCommitment = 0#256 ∨
    config.teeImageId = 0#256 ∨ config.anchorStateRegistry = 0#160 ∨ config.bondVault = 0#160 ∨
    config.validityProofVerifier = 0#160 ∨ config.teeVerifier = 0#160 ∨ config.securityCouncil = 0#160

instance (config : GameConfig) : Decidable config.Rejected :=
  inferInstanceAs (Decidable (_ ∨ _))

/-- A constructed implementation: an accepted configuration wired to the deployment's contracts. -/
structure Implementation (deployment : Deployment) where
  config : GameConfig
  accepted : ¬ config.Rejected
  registry : config.anchorStateRegistry = deployment.anchorStateRegistry
  vault : config.bondVault = deployment.bondVault

namespace Implementation

variable {deployment : Deployment}

def domainHash (implementation : Implementation deployment) : Bytes32 :=
  Dispute.domainHash deployment.keccak256 deployment.l2ChainId proofSystemVersion
    implementation.config.rollupConfigHash implementation.config.blockInterval

variable (implementation : Implementation deployment)

theorem periods_lt : implementation.config.challengePeriod < implementation.config.proofPeriod := by
  have := implementation.accepted
  simp only [GameConfig.Rejected, not_or] at this
  omega

theorem proposerBond_le : implementation.config.proposerBond * challengerRewardBps ≤ uint256Max := by
  have accepted := implementation.accepted
  simp only [GameConfig.Rejected, not_or, not_lt, gt_iff_lt] at accepted
  calc implementation.config.proposerBond * challengerRewardBps
      ≤ uint256Max / challengerRewardBps * challengerRewardBps := Nat.mul_le_mul_right _ (by omega)
    _ ≤ uint256Max := Nat.div_mul_le_self ..

theorem two_le_threshold : 2 ≤ implementation.config.proofThreshold := by
  have := implementation.accepted
  simp only [GameConfig.Rejected, not_or] at this
  omega

theorem challengerBond_pos : 0 < implementation.config.challengerBond := by
  have := implementation.accepted
  simp only [GameConfig.Rejected, not_or] at this
  omega

end Implementation

/-- The arguments appended to a clone by `DisputeGameFactory.create`. -/
structure CloneArgs where
  gameCreator : Address
  rootClaim : Bytes32
  l1Head : Bytes32
  extraData : Bytes
deriving DecidableEq, Repr

namespace CloneArgs

variable (args : CloneArgs)

-- `extraData = abi.encode(domainHash, l2BlockNumber, parentRef, attempt)`

def proposalDomainHash : Bytes32 := BitVec.ofNat 256 (BigEndian.wordAt 32 args.extraData 0x00)

def l2SequenceNumber : ℕ := BigEndian.wordAt 32 args.extraData 0x20

def parentRef : Except Revert Address := do
  let rawParentRef := BigEndian.wordAt 32 args.extraData 0x40
  revertIf (rawParentRef > uint160Max) .badExtraData
  pure (BitVec.ofNat 160 rawParentRef)

def attempt : ℕ := BigEndian.wordAt 32 args.extraData 0x60

def packed : Bytes := packedArgs args.gameCreator args.rootClaim args.l1Head args.extraData

def calldataLength : ℕ := 0x04 + args.packed.length + 0x02

end CloneArgs

/-- The claim made by the proposer. -/
structure ClaimData where
  status : ProposalStatus
  challenger : Address
  deadline : ℕ
  proofBitmap : Bitmap
  invalidationReason : InvalidationReason
deriving DecidableEq, Repr

/-- An output root and its L2 block number. -/
structure Proposal where
  root : Bytes32
  l2SequenceNumber : ℕ
deriving DecidableEq, Repr

/-- What `resolutionStatus` reports. -/
structure ResolutionStatus where
  resolvable : Bool
  outcome : GameStatus
  reason : InvalidationReason
deriving DecidableEq, Repr

/-- What a game reads of its parent: its status and whether the registry has blacklisted it. -/
structure ParentResolution where
  status : GameStatus
  blacklisted : Bool
deriving DecidableEq, Repr

/-- A clone: its implementation, its arguments and its storage. -/
structure MultiProofGame (deployment : Deployment) where
  implementation : Implementation deployment
  args : CloneArgs
  createdAt : ℕ
  resolvedAt : ℕ
  status : GameStatus
  initialized : Bool
  l1OriginNumber : ℕ
  claimData : ClaimData
  normalModeCredit : Address → ℕ
  refundModeCredit : Address → ℕ
  bondDistributionMode : BondDistributionMode
  wasRespectedGameTypeWhenCreated : Bool
  totalBonds : ℕ
  laneRecipient : ProofLane → Address

namespace MultiProofGame

variable {deployment : Deployment}

def blank (implementation : Implementation deployment) (args : CloneArgs) : MultiProofGame deployment where
  implementation := implementation
  args := args
  createdAt := 0
  resolvedAt := 0
  status := .inProgress
  initialized := false
  l1OriginNumber := 0
  claimData := ⟨.unchallenged, 0#160, 0, 0#8, .none⟩
  normalModeCredit := fun _ => 0
  refundModeCredit := fun _ => 0
  bondDistributionMode := .undecided
  wasRespectedGameTypeWhenCreated := false
  totalBonds := 0
  laneRecipient := fun _ => 0#160

variable (game : MultiProofGame deployment)

abbrev config : GameConfig := game.implementation.config

/-- What the vault reads back from this game. -/
def view : GameView where
  gameType := multiProofGameType
  disputeGameFactory := deployment.disputeGameFactory
  bondVault := game.config.bondVault
  gameData := (multiProofGameType, game.args.rootClaim, game.args.extraData)
  gameCreator := game.args.gameCreator
  l1Head := game.args.l1Head
  proposerBond := game.config.proposerBond
  challenger := game.claimData.challenger
  challengerBond := game.config.challengerBond

def gameOver (now : ℕ) : Bool :=
  decide (game.claimData.deadline ≤ now) || game.claimData.proofBitmap.hasThreshold game.config.proofThreshold

def proofDeadline : Except Revert ℕ := do
  toTimestamp (← checkedAdd game.createdAt game.config.proofPeriod)

def rootId : Except Revert Bytes32 := do
  let parentRef ← game.args.parentRef
  pure (Dispute.rootId deployment.keccak256 game.implementation.domainHash parentRef game.args.rootClaim
    game.args.l2SequenceNumber game.args.l1Head game.l1OriginNumber)

def depositBond (refundRecipient : Address) (amount : ℕ) : Except Revert (MultiProofGame deployment) := do
  let refundModeCredit ← creditChecked game.refundModeCredit refundRecipient amount
  let totalBonds ← checkedAdd game.totalBonds amount
  pure { game with refundModeCredit, totalBonds }

/-- `challenge` up to the call that locks the bond. -/
def markChallenged (now : ℕ) (sender : Address) : Except Revert (MultiProofGame deployment) := do
  revertIf (game.status ≠ .inProgress) .claimAlreadyResolved
  revertIf (game.gameOver now = true) .gameOver
  revertIf (game.claimData.challenger ≠ 0#160) .claimAlreadyChallenged
  -- the proof deadline stays anchored at creation, so late challenges cannot extend the game
  let deadline ← game.proofDeadline
  pure { game with claimData := { game.claimData with challenger := sender, status := .challenged, deadline } }

/-- The public values a transition proof for this game must attest; block numbers are narrowed. -/
def transition (starting : Proposal) : TransitionPublicValues where
  l1Head := game.args.l1Head
  l2PreRoot := starting.root
  l2PreBlockNumber := BitVec.ofNat 64 starting.l2SequenceNumber
  l2PostRoot := game.args.rootClaim
  l2PostBlockNumber := BitVec.ofNat 64 game.args.l2SequenceNumber
  rollupConfigHash := game.config.rollupConfigHash

def verificationCallFor (rootId : Bytes32) (transition : TransitionPublicValues) :
    ProofLane → Address × Bytes32 × Bytes
  | .validityProof => (game.config.validityProofVerifier, game.config.aggregationVKey,
      abiEncode (transition.words ++ [game.config.rangeVKeyCommitment.toNat]))
  | .teeAttestation => (game.config.teeVerifier, game.config.teeImageId, abiEncode transition.words)
  | .securityCouncil => (game.config.securityCouncil, 0#256, abiEncode [rootId.toNat])

def acceptLane (lane : ProofLane) (recipient : Address) : MultiProofGame deployment :=
  let proofBitmap := game.claimData.proofBitmap.set lane
  let status :=
    if proofBitmap.hasThreshold game.config.proofThreshold then
      if game.claimData.challenger = 0#160 then .unchallengedAndValidProofProvided
      else .challengedAndValidProofProvided
    else if game.claimData.challenger = 0#160 then .unchallengedAndValidProofProvided
    else game.claimData.status
  { game with
    claimData := { game.claimData with proofBitmap, status }
    laneRecipient := Function.update game.laneRecipient lane recipient }

def submitProofLane (now : ℕ) (parentResolution : Except Revert ParentResolution)
    (startingProposal : Except Revert Proposal) (verify : Address → Bytes → Bytes32 → Bytes → Bool)
    (proof : Bytes) : Except Revert (MultiProofGame deployment) := do
  revertIf (game.status ≠ .inProgress) .claimAlreadyResolved
  let parent ← parentResolution
  revertIf (parent.blacklisted = true ∨ parent.status = .challengerWins) .invalidParentGame
  revertIf (game.gameOver now = true) .gameOver
  let rootId ← game.rootId
  revertIf (proof.length < proofHeaderLength) (.invalidProof .validityProof rootId)
  let compact := decodeCompact proof
  match ProofLane.ofNat? compact.laneId with
  | none => .error (.invalidLane compact.laneId)
  | some lane => do
    revertIf (game.claimData.proofBitmap.has lane = true)
      (.duplicateProofLane lane rootId game.claimData.proofBitmap)
    let starting ← startingProposal
    let (verifier, verifierId, publicValues) := game.verificationCallFor rootId (game.transition starting) lane
    revertIf (verify verifier compact.proof verifierId publicValues = false) (.invalidProof lane rootId)
    pure (game.acceptLane lane compact.recipient)

def creditInvalidParent : Except Revert (Address → ℕ) := do
  let credit ← creditChecked game.normalModeCredit game.args.gameCreator game.config.proposerBond
  if game.claimData.challenger ≠ 0#160 then creditChecked credit game.claimData.challenger game.config.challengerBond
  else pure credit

def challengerCredit : Except Revert ℕ :=
  if game.claimData.challenger = 0#160 then pure 0
  else do
    let scaled ← checkedMul game.config.proposerBond challengerRewardBps
    checkedAdd game.config.challengerBond (scaled / bps)

/-- Pay a winning challenger, if anything is owed. -/
def creditChallenger (amount : ℕ) : Except Revert (Address → ℕ) :=
  if amount ≠ 0 then creditChecked game.normalModeCredit game.claimData.challenger amount
  else pure game.normalModeCredit

def creditProofTimeout : Except Revert (Address → ℕ) := do
  let challengerCredit ← game.challengerCredit
  let credit ← game.creditChallenger challengerCredit
  let remainder ← checkedSub game.totalBonds challengerCredit
  creditChecked credit game.config.protocolFeeRecipient remainder

def creditLane (share : ℕ) (paid : (Address → ℕ) × ℕ) (lane : ProofLane) : Except Revert ((Address → ℕ) × ℕ) :=
  if game.claimData.proofBitmap.has lane = false then pure paid
  else do
    let credit ← creditChecked paid.1 (game.laneRecipient lane) share
    let distributed ← checkedAdd paid.2 share
    pure (credit, distributed)

def creditLanes (share : ℕ) : Except Revert ((Address → ℕ) × ℕ) :=
  if share ≠ 0 then ProofLane.all.foldlM (game.creditLane share) (game.normalModeCredit, 0)
  else pure (game.normalModeCredit, 0)

def creditDefenderWins : Except Revert (Address → ℕ) := do
  let stake := if game.claimData.challenger = 0#160 then 0 else game.config.challengerBond
  let share := stake / (game.claimData.proofBitmap.count + 1)
  let paid ← game.creditLanes share
  let remainder ← checkedSub game.totalBonds paid.2
  creditChecked paid.1 game.args.gameCreator remainder

def decideOutcome (now : ℕ) (parent : ParentResolution) :
    Except Revert (GameStatus × InvalidationReason × (Address → ℕ)) :=
  if parent.blacklisted = true ∨ parent.status = .challengerWins then do
    let credit ← game.creditInvalidParent
    pure (.challengerWins, .invalidParent, credit)
  else if parent.status = .inProgress then .error .parentGameNotResolved
  else do
    revertIf (game.gameOver now = false) .gameNotOver
    match game.claimData.status with
    | .unchallengedAndValidProofProvided | .challengedAndValidProofProvided => do
      let credit ← game.creditDefenderWins
      pure (.defenderWins, game.claimData.invalidationReason, credit)
    | .unchallenged | .challenged => do
      let credit ← game.creditProofTimeout
      pure (.challengerWins, .proofTimeout, credit)
    | .resolved => .error .invalidProposalStatus

def resolve (now : ℕ) (parentResolution : Except Revert ParentResolution) :
    Except Revert (MultiProofGame deployment) := do
  revertIf (game.status ≠ .inProgress) .claimAlreadyResolved
  let parent ← parentResolution
  let (status, invalidationReason, normalModeCredit) ← game.decideOutcome now parent
  let resolvedAt ← toTimestamp now
  pure { game with
    status
    normalModeCredit
    resolvedAt
    claimData := { game.claimData with status := .resolved, invalidationReason } }

def proven : Bool :=
  game.claimData.status = .unchallengedAndValidProofProvided ∨
    game.claimData.status = .challengedAndValidProofProvided

def resolutionStatus (now : ℕ) (parentResolution : Except Revert ParentResolution) :
    Except Revert ResolutionStatus :=
  if game.status ≠ .inProgress then .ok ⟨false, game.status, game.claimData.invalidationReason⟩
  else do
    let parent ← parentResolution
    if parent.blacklisted = true ∨ parent.status = .challengerWins then
      pure ⟨true, .challengerWins, .invalidParent⟩
    else
      let parentResolved := decide (parent.status ≠ .inProgress)
      if game.gameOver now = false then pure ⟨false, .inProgress, .none⟩
      else if game.proven = false then pure ⟨parentResolved, .challengerWins, .proofTimeout⟩
      else if parentResolved = false then pure ⟨false, .inProgress, .none⟩
      else pure ⟨true, .defenderWins, .none⟩

def settlementCandidates : List Address :=
  [game.args.gameCreator, game.claimData.challenger, game.config.protocolFeeRecipient] ++
    ProofLane.all.map game.laneRecipient

def collectPayouts (credit : Address → ℕ) : List Payout → List Address → List Payout
  | payouts, [] => payouts
  | payouts, candidate :: rest =>
    if candidate ∈ payouts.map (·.recipient) then collectPayouts credit payouts rest
    else if credit candidate = 0 then collectPayouts credit payouts rest
    else collectPayouts credit (payouts ++ [⟨candidate, credit candidate⟩]) rest

def settledCredit : Address → ℕ :=
  if game.bondDistributionMode = .refund then game.refundModeCredit else game.normalModeCredit

def settlementCredits : List Payout :=
  let payouts := collectPayouts game.settledCredit [] game.settlementCandidates
  payouts ++ List.replicate (game.settlementCandidates.length - payouts.length) ⟨0#160, 0⟩

end MultiProofGame

end WorldChain.Dispute
