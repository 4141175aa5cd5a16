import WorldChain.Dispute.Opening
import WorldChain.Lib.Checks

/-! # The lineage a proposer extends

Off chain, the proposer reads the anchor, or the recovery parent its operator named, and follows the games that claim
the canonical output root of each next interval, taking the highest attempt it finds for each.
-/

namespace WorldChain.Proposer

open Machine Dispute

def maxAttemptScan : ℕ := 64

structure LineageAnchor where
  address : Address
  l2BlockNumber : ℕ
deriving DecidableEq, Repr

structure RecoveryParent where
  anchor : LineageAnchor
  rootClaim : Bytes32
  eligible : Bool
deriving DecidableEq, Repr

structure LineageTransition where
  parentRef : Address
  rootClaim : Bytes32
  l2BlockNumber : ℕ
deriving DecidableEq, Repr

structure LineageGame where
  address : Address
  attempt : ℕ
deriving DecidableEq, Repr

structure SelectedLineageGame where
  transition : LineageTransition
  game : LineageGame
deriving DecidableEq, Repr

structure RegisteredLineageConfig where
  domainHash : Bytes32
  blockInterval : ℕ
  anchorRegistry : Address
deriving DecidableEq, Repr

/-- The stored status of a game together with its own evaluation. -/
structure ResolutionStatus where
  status : GameStatus
  resolvable : Bool
  outcome : GameStatus
  invalidationReason : InvalidationReason
deriving DecidableEq, Repr

inductive LineageStop where
  | caughtUp (targetBlock finalizedBlock : ℕ)
  | missing (transition : LineageTransition)
  | invalidated (transition : LineageTransition) (game : LineageGame) (status : ResolutionStatus)
deriving DecidableEq, Repr

structure SelectedLineage where
  anchor : LineageAnchor
  games : List SelectedLineageGame
  stop : LineageStop
deriving DecidableEq, Repr

inductive ConsensusError where
  | missingOutputRoot
  | finalizedBlockNotFound
  | rpc (message : String)
  | endpoint (endpoint : String) (source : ConsensusError)
  | outputRootMismatch (l2BlockNumber : ℕ) (primary verifying : Bytes32)
deriving DecidableEq, Repr

/-- The answers of the L2 consensus client. -/
structure ConsensusProvider where
  latestL2FinalizedBlock : Except ConsensusError ℕ
  outputRootAtBlock : ℕ → Except ConsensusError Bytes32

/-- Why a contract read has no usable result, one constructor for each message. -/
inductive ContractFailure where
  | reverted (revert : Revert)
  | noImplementation (factory : Address)
  | noAnchorRegistry
  | blockIntervalOverflow
  | anchorRootOverflow
  | recoveryParentOverflow (parent : Address)

inductive LineageError where
  | invalidRecoveryParent (parent : Address)
  | nonCanonicalRecoveryParent (parent : Address)
  | contract (failure : ContractFailure)
  | blockNumberOverflow (parentBlock blockInterval : ℕ)
  | zeroBlockInterval
  | consensus (error : ConsensusError)
  | exhausted

/-- A contract call as the client sees it. -/
def call {α : Type} (result : Except Revert α) : Except LineageError α :=
  result.mapError fun revert => .contract (.reverted revert)

/-! ## Contract reads -/

section Reads

variable {deployment : Deployment} (world : World deployment)

def getAnchorRoot : Except Revert Dispute.Proposal :=
  if world.registry.anchorGame = 0#160 then pure world.registry.startingAnchorRoot
  else world.proposalAt world.registry.anchorGame

/-- `AnchorStateRegistry.isGameClaimValid`. -/
def isGameClaimValid (game : Address) : Except Revert Bool :=
  if world.registry.isGameProper game = false ∨ world.registry.isGameRespected game = false ∨
      world.registry.isGameFinalized game = false then pure false
  else do
    let status ← world.statusAt game
    pure (decide (status = .defenderWins))

def readRegisteredLineageConfig : Except LineageError RegisteredLineageConfig :=
  match world.environment.implementation with
  | none => .error (.contract (.noImplementation deployment.disputeGameFactory))
  | some (_, implementation) => do
    let config := implementation.config
    revertIf (config.anchorStateRegistry = 0#160) (.contract .noAnchorRegistry)
    revertIf (config.blockInterval > uint64Max) (.contract .blockIntervalOverflow)
    revertIf (config.blockInterval = 0) .zeroBlockInterval
    pure ⟨implementation.domainHash, config.blockInterval, config.anchorStateRegistry⟩

variable (registered : RegisteredLineageConfig)

def readLineageAnchor : Except LineageError LineageAnchor := do
  let anchorRoot ← call (getAnchorRoot world)
  revertIf (anchorRoot.l2SequenceNumber > uint64Max) (.contract .anchorRootOverflow)
  let anchorGame := world.registry.anchorGame
  pure ⟨if anchorGame = 0#160 then registered.anchorRegistry else anchorGame, anchorRoot.l2SequenceNumber⟩

def readRecoveryParent (address : Address) : Except LineageError RecoveryParent := do
  revertIf (address = 0#160 ∨ address = registered.anchorRegistry) (.invalidRecoveryParent address)
  let status ← call (world.statusAt address)
  let claim ← call (world.proposalAt address)
  revertIf (claim.l2SequenceNumber > uint64Max) (.contract (.recoveryParentOverflow address))
  pure ⟨⟨address, claim.l2SequenceNumber⟩, claim.root, world.registry.isGameProper address &&
    world.registry.isGameRespected address && decide (status = .defenderWins)⟩

def probeAttempts (entry : ℕ → Address) : ℕ → ℕ → Option LineageGame → Option LineageGame
  | 0, _, latest => latest
  | remaining + 1, attempt, latest =>
    if entry attempt = 0#160 then latest
    else probeAttempts entry remaining (attempt + 1) (some ⟨entry attempt, attempt⟩)

def attemptEntry (domainHash : Bytes32) (transition : LineageTransition) (attempt : ℕ) : Address :=
  (world.registered transition.rootClaim
    (World.encodeExtraData domainHash transition.l2BlockNumber transition.parentRef attempt)).getD 0#160

def readGameForTransition (domainHash : Bytes32) (transition : LineageTransition) : Option LineageGame :=
  probeAttempts (attemptEntry world domainHash transition) maxAttemptScan 0 none

def readLineageResolutionStatus (address : Address) : Except LineageError ResolutionStatus := do
  let game ← call (world.gameAt address)
  let report ← call (world.resolutionStatus game)
  pure ⟨game.status, report.resolvable, report.outcome, report.reason⟩

end Reads

/-! ## Selection -/

section Select

variable {deployment : Deployment} (world : World deployment) (registered : RegisteredLineageConfig)
  (consensus : ConsensusProvider)

def anchorRecovered (anchor recovery : LineageAnchor) : Except LineageError Bool :=
  if anchor.l2BlockNumber > recovery.l2BlockNumber then call (isGameClaimValid world anchor.address) else pure false

def recoveredAnchor (finalizedBlock : ℕ) (anchor : LineageAnchor) : Option Address → Except LineageError LineageAnchor
  | none => pure anchor
  | some address => do
    revertIf (address = 0#160) (.invalidRecoveryParent address)
    let recovery ← readRecoveryParent world registered address
    let recovered ← anchorRecovered world anchor recovery.anchor
    if recovered = true then pure anchor
    else do
      revertIf (recovery.eligible = false) (.invalidRecoveryParent address)
      revertIf (recovery.anchor.l2BlockNumber > finalizedBlock) (.nonCanonicalRecoveryParent address)
      let root ← (consensus.outputRootAtBlock recovery.anchor.l2BlockNumber).mapError .consensus
      revertIf (root ≠ recovery.rootClaim) (.nonCanonicalRecoveryParent address)
      pure recovery.anchor

def extendLineage (finalizedBlock : ℕ) : ℕ → LineageAnchor → List SelectedLineageGame →
    Except LineageError (List SelectedLineageGame × LineageStop)
  | 0, _, _ => .error .exhausted
  | fuel + 1, parent, games => do
    let l2BlockNumber := parent.l2BlockNumber + registered.blockInterval
    revertIf (l2BlockNumber > uint64Max) (.blockNumberOverflow parent.l2BlockNumber registered.blockInterval)
    if l2BlockNumber > finalizedBlock then pure (games, .caughtUp l2BlockNumber finalizedBlock)
    else do
      let rootClaim ← (consensus.outputRootAtBlock l2BlockNumber).mapError .consensus
      let transition : LineageTransition := ⟨parent.address, rootClaim, l2BlockNumber⟩
      match readGameForTransition world registered.domainHash transition with
      | none => pure (games, .missing transition)
      | some game => do
        let status ← readLineageResolutionStatus world game.address
        if status.outcome = .challengerWins then pure (games, .invalidated transition game status)
        else extendLineage finalizedBlock fuel ⟨game.address, l2BlockNumber⟩ (games ++ [⟨transition, game⟩])

def selectLineage (recoveryParent : Option Address) : Except LineageError SelectedLineage := do
  revertIf (registered.blockInterval = 0) .zeroBlockInterval
  let anchor ← readLineageAnchor world registered
  let finalizedBlock ← consensus.latestL2FinalizedBlock.mapError .consensus
  let anchor ← recoveredAnchor world registered consensus finalizedBlock anchor recoveryParent
  let (games, stop) ← extendLineage world registered consensus finalizedBlock (finalizedBlock + 1) anchor []
  pure ⟨anchor, games, stop⟩

end Select

@[simp] theorem call_eq_ok {α : Type} {result : Except Revert α} {value : α} :
    call result = .ok value ↔ result = .ok value := mapError_eq_ok

theorem readLineageResolutionStatus_eq_ok {deployment : Deployment} {world : World deployment} {address : Address}
    {status : ResolutionStatus} : readLineageResolutionStatus world address = .ok status ↔
      ∃ game, world.games address = some game ∧ ∃ report, world.resolutionStatus game = .ok report ∧
        ⟨game.status, report.resolvable, report.outcome, report.reason⟩ = status := by
  simp only [readLineageResolutionStatus, bind_eq_ok, call_eq_ok, World.gameAt_eq_ok, pure_eq_ok]

/-! ## The probed attempts -/

theorem le_uint64Max_of_probed {attempt : ℕ} (few : attempt ≤ maxAttemptScan) : attempt ≤ uint64Max :=
  few.trans (by simp [maxAttemptScan, uint64Max])

/-- The last attempt of the unbroken sequence from attempt zero, as far as it was probed. -/
structure Latest (entry : ℕ → Address) (game : LineageGame) : Prop where
  address : entry game.attempt = game.address
  probed : game.attempt < maxAttemptScan
  sequential : ∀ attempt ≤ game.attempt, entry attempt ≠ 0#160
  last : game.attempt + 1 < maxAttemptScan → entry (game.attempt + 1) = 0#160

theorem probeAttempts_cases (entry : ℕ → Address) (remaining attempt : ℕ) (latest : Option LineageGame) :
    (probeAttempts entry remaining attempt latest = latest ∧ (remaining = 0 ∨ entry attempt = 0#160)) ∨
      ∃ last, attempt ≤ last ∧ last < attempt + remaining ∧
        probeAttempts entry remaining attempt latest = some ⟨entry last, last⟩ ∧
        (∀ earlier, attempt ≤ earlier → earlier ≤ last → entry earlier ≠ 0#160) ∧
        (last + 1 < attempt + remaining → entry (last + 1) = 0#160) := by
  induction remaining generalizing attempt latest with
  | zero => exact .inl ⟨rfl, .inl rfl⟩
  | succ remaining ih =>
    by_cases unused : entry attempt = 0#160
    · exact .inl ⟨by rw [probeAttempts, if_pos unused], .inr unused⟩
    · right
      rw [probeAttempts, if_neg unused]
      rcases ih (attempt + 1) (some ⟨entry attempt, attempt⟩) with ⟨same, ended⟩ | ⟨last, lower, upper, same, used, next⟩
      · refine ⟨attempt, le_rfl, by omega, same, ?_, ?_⟩
        · intro earlier above below
          obtain rfl := Nat.le_antisymm above below
          exact unused
        · intro more
          exact ended.resolve_left (by omega)
      · refine ⟨last, by omega, by omega, same, ?_, fun more => next (by omega)⟩
        intro earlier above below
        rcases Nat.eq_or_lt_of_le above with rfl | above
        · exact unused
        · exact used earlier above below

section Probe

variable {deployment : Deployment} {world : World deployment} {domainHash : Bytes32} {transition : LineageTransition}

theorem readGameForTransition_eq_none (missing : readGameForTransition world domainHash transition = none) :
    attemptEntry world domainHash transition 0 = 0#160 := by
  rcases probeAttempts_cases (attemptEntry world domainHash transition) maxAttemptScan 0 none with
    ⟨_, ended⟩ | ⟨last, _, _, found, _⟩
  · exact ended.resolve_left (by decide)
  · cases missing.symm.trans found

theorem readGameForTransition_eq_some {game : LineageGame} :
    readGameForTransition world domainHash transition = some game ↔
      Latest (attemptEntry world domainHash transition) game := by
  rcases probeAttempts_cases (attemptEntry world domainHash transition) maxAttemptScan 0 none with
    ⟨missing, ended⟩ | ⟨last, _, upper, found, used, next⟩
  · refine iff_of_false (fun present => by cases present.symm.trans missing) fun latest => ?_
    exact latest.sequential 0 (Nat.zero_le _) (ended.resolve_left (by decide))
  · rw [readGameForTransition, found]
    constructor
    · rintro ⟨⟩
      rw [Nat.zero_add] at upper next
      exact ⟨rfl, upper, fun attempt below => used attempt (Nat.zero_le _) below, next⟩
    · intro latest
      -- both are the end of the same unbroken sequence
      have probed := latest.probed
      have same : last = game.attempt := by
        rcases Nat.lt_trichotomy last game.attempt with earlier | same | later
        · exact absurd (next (by omega)) (latest.sequential _ earlier)
        · exact same
        · exact absurd (latest.last (by omega)) (used _ (Nat.zero_le _) later)
      rw [same, latest.address]

end Probe

/-! ## The walk without its fuel -/

section Walk

variable {deployment : Deployment} {world : World deployment} {registered : RegisteredLineageConfig}
  {consensus : ConsensusProvider} {finalizedBlock : ℕ}

/-- What a walk from `parent` selects, and where it stops. -/
inductive Selects (world : World deployment) (registered : RegisteredLineageConfig) (consensus : ConsensusProvider)
    (finalizedBlock : ℕ) : LineageAnchor → List SelectedLineageGame → LineageStop → Prop
  | caughtUp {parent : LineageAnchor} (fits : parent.l2BlockNumber + registered.blockInterval ≤ uint64Max)
      (ahead : finalizedBlock < parent.l2BlockNumber + registered.blockInterval) :
      Selects world registered consensus finalizedBlock parent []
        (.caughtUp (parent.l2BlockNumber + registered.blockInterval) finalizedBlock)
  | missing {parent : LineageAnchor} {rootClaim : Bytes32}
      (fits : parent.l2BlockNumber + registered.blockInterval ≤ uint64Max)
      (final : parent.l2BlockNumber + registered.blockInterval ≤ finalizedBlock)
      (canonical : consensus.outputRootAtBlock (parent.l2BlockNumber + registered.blockInterval) = .ok rootClaim)
      (unfiled : readGameForTransition world registered.domainHash
        ⟨parent.address, rootClaim, parent.l2BlockNumber + registered.blockInterval⟩ = none) :
      Selects world registered consensus finalizedBlock parent []
        (.missing ⟨parent.address, rootClaim, parent.l2BlockNumber + registered.blockInterval⟩)
  | invalidated {parent : LineageAnchor} {rootClaim : Bytes32} {game : LineageGame} {status : ResolutionStatus}
      (fits : parent.l2BlockNumber + registered.blockInterval ≤ uint64Max)
      (final : parent.l2BlockNumber + registered.blockInterval ≤ finalizedBlock)
      (canonical : consensus.outputRootAtBlock (parent.l2BlockNumber + registered.blockInterval) = .ok rootClaim)
      (filed : readGameForTransition world registered.domainHash
        ⟨parent.address, rootClaim, parent.l2BlockNumber + registered.blockInterval⟩ = some game)
      (read : readLineageResolutionStatus world game.address = .ok status) (lost : status.outcome = .challengerWins) :
      Selects world registered consensus finalizedBlock parent []
        (.invalidated ⟨parent.address, rootClaim, parent.l2BlockNumber + registered.blockInterval⟩ game status)
  | step {parent : LineageAnchor} {rootClaim : Bytes32} {game : LineageGame} {status : ResolutionStatus}
      {games : List SelectedLineageGame} {stop : LineageStop}
      (fits : parent.l2BlockNumber + registered.blockInterval ≤ uint64Max)
      (final : parent.l2BlockNumber + registered.blockInterval ≤ finalizedBlock)
      (canonical : consensus.outputRootAtBlock (parent.l2BlockNumber + registered.blockInterval) = .ok rootClaim)
      (filed : readGameForTransition world registered.domainHash
        ⟨parent.address, rootClaim, parent.l2BlockNumber + registered.blockInterval⟩ = some game)
      (read : readLineageResolutionStatus world game.address = .ok status) (unlost : status.outcome ≠ .challengerWins)
      (rest : Selects world registered consensus finalizedBlock
        ⟨game.address, parent.l2BlockNumber + registered.blockInterval⟩ games stop) :
      Selects world registered consensus finalizedBlock parent
        (⟨⟨parent.address, rootClaim, parent.l2BlockNumber + registered.blockInterval⟩, game⟩ :: games) stop

variable {fuel : ℕ} {games : List SelectedLineageGame} {parent : LineageAnchor}

theorem selects_of_extendLineage {selected : List SelectedLineageGame} {stop : LineageStop}
    (success : extendLineage world registered consensus finalizedBlock fuel parent games = .ok (selected, stop)) :
    ∃ more, selected = games ++ more ∧ Selects world registered consensus finalizedBlock parent more stop := by
  induction fuel generalizing parent games with
  | zero => cases success
  | succ fuel ih =>
    simp only [extendLineage, bind_eq_ok, revertIf_eq_ok, not_lt, gt_iff_lt] at success
    obtain ⟨_, fits, success⟩ := success
    split at success
    · next ahead =>
      obtain ⟨rfl, rfl⟩ := Prod.mk.inj (pure_eq_ok.mp success)
      exact ⟨[], (List.append_nil _).symm, .caughtUp fits ahead⟩
    · next final =>
      rw [not_lt] at final
      simp only [bind_eq_ok, mapError_eq_ok] at success
      obtain ⟨rootClaim, canonical, success⟩ := success
      split at success
      · next unfiled =>
        obtain ⟨rfl, rfl⟩ := Prod.mk.inj (pure_eq_ok.mp success)
        exact ⟨[], (List.append_nil _).symm, .missing fits final canonical unfiled⟩
      · next game filed =>
        simp only [bind_eq_ok] at success
        obtain ⟨status, read, success⟩ := success
        split at success
        · next lost =>
          obtain ⟨rfl, rfl⟩ := Prod.mk.inj (pure_eq_ok.mp success)
          exact ⟨[], (List.append_nil _).symm, .invalidated fits final canonical filed read lost⟩
        · next unlost =>
          obtain ⟨more, rfl, rest⟩ := ih success
          exact ⟨_, List.append_assoc .., .step fits final canonical filed read unlost rest⟩

theorem extendLineage_of_selects (positive : registered.blockInterval ≠ 0) {more : List SelectedLineageGame}
    {stop : LineageStop} (selects : Selects world registered consensus finalizedBlock parent more stop)
    (fueled : fuel ≠ 0) (enough : finalizedBlock < fuel + parent.l2BlockNumber) :
    extendLineage world registered consensus finalizedBlock fuel parent games = .ok (games ++ more, stop) := by
  induction selects generalizing fuel games with
  | caughtUp fits ahead =>
    obtain ⟨fuel, rfl⟩ := Nat.exists_eq_succ_of_ne_zero fueled
    simp only [extendLineage, bind_eq_ok, revertIf_eq_ok]
    exact ⟨(), not_lt.mpr fits, by rw [if_pos ahead, List.append_nil]; rfl⟩
  | missing fits final canonical unfiled =>
    obtain ⟨fuel, rfl⟩ := Nat.exists_eq_succ_of_ne_zero fueled
    simp only [extendLineage, bind_eq_ok, revertIf_eq_ok, if_neg (not_lt.mpr final), mapError_eq_ok]
    exact ⟨(), not_lt.mpr fits, _, canonical, by rw [unfiled, List.append_nil]; rfl⟩
  | invalidated fits final canonical filed read lost =>
    obtain ⟨fuel, rfl⟩ := Nat.exists_eq_succ_of_ne_zero fueled
    simp only [extendLineage, bind_eq_ok, revertIf_eq_ok, if_neg (not_lt.mpr final), mapError_eq_ok]
    refine ⟨(), not_lt.mpr fits, _, canonical, ?_⟩
    simp only [filed, bind_eq_ok]
    exact ⟨_, read, by rw [if_pos lost, List.append_nil]; rfl⟩
  | step fits final canonical filed read unlost rest ih =>
    obtain ⟨fuel, rfl⟩ := Nat.exists_eq_succ_of_ne_zero fueled
    simp only [extendLineage, bind_eq_ok, revertIf_eq_ok, if_neg (not_lt.mpr final), mapError_eq_ok]
    refine ⟨(), not_lt.mpr fits, _, canonical, ?_⟩
    simp only [filed, bind_eq_ok]
    refine ⟨_, read, ?_⟩
    rw [if_neg unlost, ih (by omega) (by change finalizedBlock < fuel + (_ + _); omega), List.append_assoc,
      List.singleton_append]

theorem call_ne_exhausted {α : Type} (result : Except Revert α) : call result ≠ .error .exhausted :=
  mapError_ne_error result fun _ => by simp

theorem extendLineage_ne_exhausted (positive : registered.blockInterval ≠ 0) (fueled : fuel ≠ 0)
    (enough : finalizedBlock < fuel + parent.l2BlockNumber) :
    extendLineage world registered consensus finalizedBlock fuel parent games ≠ .error .exhausted := by
  induction fuel generalizing parent games with
  | zero => exact absurd rfl fueled
  | succ fuel ih =>
    refine bind_ne_error (revertIf_ne_error (by simp)) fun _ _ => ?_
    split
    · simp
    · next final =>
      refine bind_ne_error (mapError_ne_error _ fun _ => by simp) fun rootClaim _ => ?_
      dsimp only
      split
      · simp
      · refine bind_ne_error ?_ fun status _ => ?_
        · exact bind_ne_error (call_ne_exhausted _) fun _ _ =>
            bind_ne_error (call_ne_exhausted _) fun _ _ => by simp
        · split
          · simp
          · refine ih (by omega) ?_
            change finalizedBlock < fuel + (parent.l2BlockNumber + registered.blockInterval)
            omega

theorem recoveredAnchor_ne_exhausted (anchor : LineageAnchor) (recoveryParent : Option Address) :
    recoveredAnchor world registered consensus finalizedBlock anchor recoveryParent ≠ .error .exhausted := by
  cases recoveryParent with
  | none => simp [recoveredAnchor]
  | some address =>
    refine bind_ne_error (revertIf_ne_error (by simp)) fun _ _ => bind_ne_error ?_ fun recovery _ =>
      bind_ne_error ?_ fun recovered _ => ?_
    · refine bind_ne_error (revertIf_ne_error (by simp)) fun _ _ => bind_ne_error (call_ne_exhausted _) fun _ _ =>
        bind_ne_error (call_ne_exhausted _) fun _ _ => bind_ne_error (revertIf_ne_error (by simp)) fun _ _ => ?_
      simp
    · unfold anchorRecovered
      split
      · exact call_ne_exhausted _
      · simp
    · split
      · simp
      · refine bind_ne_error (revertIf_ne_error (by simp)) fun _ _ => bind_ne_error (revertIf_ne_error (by simp))
          fun _ _ => bind_ne_error (mapError_ne_error _ fun _ => by simp) fun _ _ =>
          bind_ne_error (revertIf_ne_error (by simp)) fun _ _ => ?_
        simp

theorem selectLineage_ne_exhausted (recoveryParent : Option Address) :
    selectLineage world registered consensus recoveryParent ≠ .error .exhausted := by
  refine bind_ne_error (revertIf_ne_error (by simp)) fun _ positive => bind_ne_error ?_ fun anchor _ =>
    bind_ne_error (mapError_ne_error _ fun _ => by simp) fun finalizedBlock _ =>
    bind_ne_error (recoveredAnchor_ne_exhausted _ _) fun start _ => bind_ne_error ?_ fun _ _ => by simp
  · exact bind_ne_error (call_ne_exhausted _) fun _ _ => bind_ne_error (revertIf_ne_error (by simp)) fun _ _ => by simp
  · exact extendLineage_ne_exhausted (revertIf_eq_ok.mp positive) (Nat.succ_ne_zero _) (by omega)

end Walk

end WorldChain.Proposer
