import WorldChain.Dispute.Game

/-! # Games, factory, registry and vault together

The state of a running deployment: the clones, the factory's file of them, the vault, and the answers of everything
else, which one action replaces at once.
-/

namespace WorldChain.Dispute

open Machine

/-- The answers of `AnchorStateRegistry`, which is outside the repository. -/
structure AnchorStateRegistry where
  paused : Bool
  respectedGameType : ℕ
  anchorGame : Address
  startingAnchorRoot : Proposal
  isGameRegistered : Address → Bool
  isGameRespected : Address → Bool
  isGameBlacklisted : Address → Bool
  isGameRetired : Address → Bool
  isGameFinalized : Address → Bool
  isGameProper : Address → Bool

/-- A game of another type, seen through the standard getters. -/
structure DisputeGame where
  gameType : ℕ
  status : GameStatus
  rootClaim : Bytes32
  l2SequenceNumber : ℕ
  foreign : gameType ≠ multiProofGameType

/-- Everything the contracts read that they do not decide. -/
structure Environment (deployment : Deployment) where
  timestamp : ℕ
  blockNumber : ℕ
  blockHash : Bytes32
  registry : AnchorStateRegistry
  others : Address → Option DisputeGame
  verify : (verifier : Address) → (proof : Bytes) → (verifierId : Bytes32) → (publicValues : Bytes) → Bool
  implementation : Option (Address × Implementation deployment)
  tokenAccepts : Bool
  withdrawalsPaused : Bool
  factoryOwner : Address
  proxyAdmin : Address
  proxyAdminOwner : Address

structure World (deployment : Deployment) where
  environment : Environment deployment
  vault : ERC20StakingVault
  games : Address → Option (MultiProofGame deployment)
  registered : Bytes32 → Bytes → Option Address

namespace World

variable {deployment : Deployment} (world : World deployment)

/-- A deployment before its first game. -/
def genesis (environment : Environment deployment) (token : Address → ℕ) : World deployment where
  environment := environment
  vault := .fresh token
  games := fun _ => none
  registered := fun _ _ => none

abbrev now : ℕ := world.environment.timestamp
abbrev registry : AnchorStateRegistry := world.environment.registry

/-- What the vault's calls read of the world. -/
def context : Context where
  timestamp := world.now
  paused := world.environment.withdrawalsPaused
  tokenAccepts := world.environment.tokenAccepts
  factoryOwner := world.environment.factoryOwner
  proxyAdmin := world.environment.proxyAdmin
  proxyAdminOwner := world.environment.proxyAdminOwner
  gameImplementation := (world.environment.implementation.map Prod.fst).getD 0#160
  games := fun gameType rootClaim extraData =>
    if gameType = multiProofGameType then (world.registered rootClaim extraData).getD 0#160 else 0#160

def gameAt (address : Address) : Except Revert (MultiProofGame deployment) :=
  match world.games address with
  | some game => .ok game
  | none => .error .noCode

/-- `IDisputeGame.status()` of any game. -/
def statusAt (address : Address) : Except Revert GameStatus :=
  match world.games address, world.environment.others address with
  | some game, _ => .ok game.status
  | none, some other => .ok other.status
  | none, none => .error .noCode

def proposalAt (address : Address) : Except Revert Proposal :=
  match world.games address, world.environment.others address with
  | some game, _ => .ok ⟨game.args.rootClaim, game.args.l2SequenceNumber⟩
  | none, some other => .ok ⟨other.rootClaim, other.l2SequenceNumber⟩
  | none, none => .error .noCode

def parentResolution (args : CloneArgs) : Except Revert ParentResolution := do
  let parentRef ← args.parentRef
  if parentRef = deployment.anchorStateRegistry then pure ⟨.defenderWins, false⟩
  else if world.registry.isGameBlacklisted parentRef = true then pure ⟨.inProgress, true⟩
  else do
    let status ← world.statusAt parentRef
    pure ⟨status, false⟩

def startingProposal (args : CloneArgs) : Except Revert Proposal := do
  let parentRef ← args.parentRef
  if parentRef = deployment.anchorStateRegistry then pure world.registry.startingAnchorRoot
  else world.proposalAt parentRef

def resolutionStatus (game : MultiProofGame deployment) : Except Revert ResolutionStatus :=
  game.resolutionStatus world.now (world.parentResolution game.args)

def isValidGame (address : Address) : Except Revert Bool :=
  if world.registry.isGameRegistered address = false ∨ world.registry.isGameRespected address = false ∨
      world.registry.isGameBlacklisted address = true ∨ world.registry.isGameRetired address = true then
    pure false
  else
    match world.games address, world.environment.others address with
    | some game, _ => do
      let report ← world.resolutionStatus game
      pure (decide (report.outcome ≠ .challengerWins))
    -- games of other types only expose the standard status getter
    | none, some other => pure (decide (other.status ≠ .challengerWins))
    | none, none => .error .noCode

def isValidParent (parentRef : Address) : Except Revert Bool :=
  if parentRef = deployment.anchorStateRegistry then pure (decide (world.registry.anchorGame = 0#160))
  else world.isValidGame parentRef

def encodeExtraData (domainHash : Bytes32) (l2SequenceNumber : ℕ) (parentRef : Address) (attempt : ℕ) : Bytes :=
  abiEncode [domainHash.toNat, l2SequenceNumber, parentRef.toNat, attempt]

def retryable (implementation : Implementation deployment) (args : CloneArgs) (parentRef : Address) :
    Except Revert Unit :=
  if args.attempt = 0 then pure ()
  else do
    let previousExtraData := encodeExtraData implementation.domainHash args.l2SequenceNumber parentRef (args.attempt - 1)
    let previousUuid := deployment.gameUUID multiProofGameType args.rootClaim previousExtraData
    match world.registered args.rootClaim previousExtraData with
    | none => .error (.gameNotRetryable previousUuid)
    | some address => do
      let previous ← world.gameAt address
      let report ← world.resolutionStatus previous
      revertIf (previous.wasRespectedGameTypeWhenCreated = true ∧
        (report.outcome ≠ .challengerWins ∨ report.reason ≠ .proofTimeout)) (.gameNotRetryable previousUuid)

def prepare (sender : Address) (value : ℕ) (game : MultiProofGame deployment) :
    Except Revert (MultiProofGame deployment) := do
  revertIf (game.initialized = true) .alreadyInitialized
  revertIf (game.args.calldataLength ≠ 0xDA) .badExtraData
  revertIf (sender ≠ deployment.disputeGameFactory) (.notDisputeGameFactory sender)
  revertIf (value ≠ 0) .incorrectBondAmount
  revertIf (world.registry.paused = true) .gamePaused
  revertIf (game.args.proposalDomainHash ≠ game.implementation.domainHash)
    (.invalidDomainHash game.implementation.domainHash game.args.proposalDomainHash)
  let parentRef ← game.args.parentRef
  let valid ← world.isValidParent parentRef
  revertIf (valid = false) .invalidParentGame
  let starting ← world.startingProposal game.args
  let expected ← checkedAdd starting.l2SequenceNumber game.config.blockInterval
  revertIf (game.args.l2SequenceNumber ≠ expected) (.invalidL2BlockNumber expected game.args.l2SequenceNumber)
  revertIf (game.args.l2SequenceNumber > uint64Max) (.unexpectedRootClaim game.args.rootClaim)
  world.retryable game.implementation game.args parentRef
  let originNumber ← checkedSub world.environment.blockNumber 1
  let deadline ← toTimestamp (← checkedAdd world.now game.config.challengePeriod)
  pure { game with
    l1OriginNumber := originNumber % 2 ^ 64
    claimData := ⟨.unchallenged, 0#160, deadline, 0#8, .none⟩
    initialized := true }

def initializeClone (self sender : Address) (value : ℕ) (game : MultiProofGame deployment) :
    Except Revert (MultiProofGame deployment × ERC20StakingVault) := do
  let prepared ← world.prepare sender value game
  let vault ← world.vault.lockProposerBond deployment world.context self prepared.view
  let bonded ← prepared.depositBond game.args.gameCreator game.config.proposerBond
  let createdAt ← toTimestamp world.now
  pure ({ bonded with
    createdAt
    wasRespectedGameTypeWhenCreated := decide (world.registry.respectedGameType = multiProofGameType) }, vault)

def create (sender : Address) (value : ℕ) (rootClaim : Bytes32) (extraData : Bytes) :
    Except Revert (World deployment) :=
  match world.environment.implementation with
  | none => .error .noImplementation
  | some (implementationAddress, implementation) => do
    let args : CloneArgs := ⟨sender, rootClaim, world.environment.blockHash, extraData⟩
    let self := deployment.predictDeterministicAddress implementationAddress args.packed
      (deployment.gameUUID multiProofGameType rootClaim extraData) deployment.disputeGameFactory
    revertIf ((world.games self).isSome = true ∨ (world.environment.others self).isSome = true) .deploymentFailed
    let (game, vault) ← world.initializeClone self deployment.disputeGameFactory value (.blank implementation args)
    revertIf ((world.registered rootClaim extraData).isSome = true) .gameAlreadyExists
    pure { world with
      vault
      games := Function.update world.games self (some game)
      registered := Function.update world.registered rootClaim
        (Function.update (world.registered rootClaim) extraData (some self)) }

/-- Replace the clone at an address. -/
def setGame (self : Address) (game : MultiProofGame deployment) : World deployment :=
  { world with games := Function.update world.games self (some game) }

def challenge (sender self : Address) : Except Revert (World deployment) := do
  let game ← world.gameAt self
  let challenged ← game.markChallenged world.now sender
  let vault ← world.vault.lockChallengerBond deployment world.context self challenged.view
  let bonded ← challenged.depositBond sender game.config.challengerBond
  pure { world.setGame self bonded with vault }

def submitProofLane (self : Address) (proof : Bytes) : Except Revert (World deployment) := do
  let game ← world.gameAt self
  let proved ← game.submitProofLane world.now (world.parentResolution game.args)
    (world.startingProposal game.args) world.environment.verify proof
  pure (world.setGame self proved)

def resolve (self : Address) : Except Revert (World deployment) := do
  let game ← world.gameAt self
  let resolved ← game.resolve world.now (world.parentResolution game.args)
  pure (world.setGame self resolved)

def closeGame (self : Address) (anchored : AnchorStateRegistry) : Except Revert (World deployment) := do
  let game ← world.gameAt self
  match game.bondDistributionMode with
  | .refund | .normal => pure world
  | .undecided => do
    revertIf (world.registry.paused = true) .gamePaused
    revertIf (world.registry.isGameFinalized self = false) .gameNotFinalized
    let mode := if anchored.isGameProper self then BondDistributionMode.normal else .refund
    let closed := { game with bondDistributionMode := mode }
    let vault ← world.vault.settle deployment world.context self closed.view closed.settlementCredits
    pure { world.setGame self closed with
      vault
      environment := { world.environment with registry := anchored } }

/-- Every transaction of a deployment, and every change of what surrounds it. -/
inductive Action (deployment : Deployment) where
  | create (sender : Address) (value : ℕ) (rootClaim : Bytes32) (extraData : Bytes)
  | challenge (sender game : Address)
  | submitProofLane (game : Address) (proof : Bytes)
  | resolve (game : Address)
  | closeGame (game : Address) (anchored : AnchorStateRegistry)
  | deposit (sender account : Address) (amount : ℕ)
  | requestWithdrawal (sender : Address) (amount : ℕ)
  | withdraw (sender : Address) (amount : ℕ)
  | transfer (source target : Address) (amount : ℕ)
  | environment (next : Environment deployment)

/-- A transaction with the vault alone. -/
def callVault (call : ERC20StakingVault.Call) : Except Revert (World deployment) := do
  let vault ← world.vault.exec deployment ⟨world.context, call⟩
  pure { world with vault }

def exec (world : World deployment) : Action deployment → Except Revert (World deployment)
  | .create sender value rootClaim extraData => world.create sender value rootClaim extraData
  | .challenge sender game => world.challenge sender game
  | .submitProofLane game proof => world.submitProofLane game proof
  | .resolve game => world.resolve game
  | .closeGame game anchored => world.closeGame game anchored
  | .deposit sender account amount => world.callVault (.deposit sender account amount)
  | .requestWithdrawal sender amount => world.callVault (.requestWithdrawal sender amount)
  | .withdraw sender amount => world.callVault (.withdraw sender amount)
  | .transfer source target amount => world.callVault (.transfer source target amount)
  | .environment next => .ok { world with environment := next }

end World

end WorldChain.Dispute
