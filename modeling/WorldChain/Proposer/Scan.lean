import WorldChain.Proposer.Lineage

/-! # What the scan knows of the proposal it ends in

The scan of the selected lineage ends in a proposal where no game is filed for the next transition, or where the last
attempt at it timed out.
-/

namespace WorldChain.Proposer

open Machine Dispute

structure ProposerConfig where
  recoveryParent : Option Address
  pollInterval : ℕ
  maxResolutionsPerTick : ℕ
deriving DecidableEq, Repr

inductive ProposerError where
  | invalidConfig (message : String)
  | lineage (error : LineageError)
  | overflow

def ProposerConfig.validate (config : ProposerConfig) : Except ProposerError Unit := do
  revertIf (config.pollInterval = 0) (.invalidConfig "poll_interval must be greater than zero")
  revertIf (config.maxResolutionsPerTick = 0) (.invalidConfig "max_resolutions_per_tick must be greater than zero")

/-- Candidate proposal data supplied to the dispute-game factory. -/
structure Proposal where
  parentRef : Address
  rootClaim : Bytes32
  l2BlockNumber : ℕ
  attempt : ℕ
deriving DecidableEq, Repr

/-- The transition a proposal is an attempt at. -/
def Proposal.transition (proposal : Proposal) : LineageTransition :=
  ⟨proposal.parentRef, proposal.rootClaim, proposal.l2BlockNumber⟩

/-- `ProposalCommitment::extra_data`. -/
def Proposal.extraData (proposal : Proposal) (domainHash : Bytes32) : Bytes :=
  World.encodeExtraData domainHash proposal.l2BlockNumber proposal.parentRef proposal.attempt

inductive NextProposalAction where
  | propose (proposal : Proposal)
  | retryTimedOut (proposal : Proposal) (invalidatedGame : Address)
  | resolveNegative (game : Address) (reason : InvalidationReason)
  | blockedByInvalidation (game : Address) (reason : InvalidationReason)
  | caughtUp (targetBlock finalizedBlock : ℕ)
deriving DecidableEq, Repr

def NextProposalAction.proposal? : NextProposalAction → Option Proposal
  | .propose proposal => some proposal
  | .retryTimedOut proposal _ => some proposal
  | .resolveNegative _ _ => none
  | .blockedByInvalidation _ _ => none
  | .caughtUp _ _ => none

structure ProposerScan where
  lineage : SelectedLineage
  nextAction : NextProposalAction
deriving DecidableEq, Repr

def nextAction : LineageStop → Except ProposerError NextProposalAction
  | .caughtUp targetBlock finalizedBlock => pure (.caughtUp targetBlock finalizedBlock)
  | .missing transition =>
    pure (.propose ⟨transition.parentRef, transition.rootClaim, transition.l2BlockNumber, 0⟩)
  | .invalidated transition game status =>
    if status.resolvable = true then pure (.resolveNegative game.address status.invalidationReason)
    else if status.invalidationReason = .proofTimeout then do
      revertIf (game.attempt + 1 > uint64Max) .overflow
      -- a retry must reuse the invalidated game's transition commitment
      pure (.retryTimedOut ⟨transition.parentRef, transition.rootClaim, transition.l2BlockNumber, game.attempt + 1⟩
        game.address)
    else pure (.blockedByInvalidation game.address status.invalidationReason)

section Scan

variable {deployment : Deployment} (world : World deployment)

def scanSelectedLineage (registered : RegisteredLineageConfig) (consensus : ConsensusProvider)
    (config : ProposerConfig) : Except ProposerError ProposerScan := do
  config.validate
  let lineage ← (selectLineage world registered consensus config.recoveryParent).mapError .lineage
  let action ← nextAction lineage.stop
  pure ⟨lineage, action⟩

/-- The anchor and the games a lineage consists of. -/
def SelectedLineage.references (lineage : SelectedLineage) : List Address :=
  lineage.anchor.address :: lineage.games.map (·.game.address)

/-- The registry lets this game be extended. -/
structure Eligible (address : Address) : Prop where
  registered : world.registry.isGameRegistered address = true
  respected : world.registry.isGameRespected address = true
  listed : world.registry.isGameBlacklisted address = false
  current : world.registry.isGameRetired address = false

/-- No game lives at the zero address or in the place of the registry, and the registry only makes a game its anchor
when the defender has won it. -/
structure Coherent : Prop where
  zero : world.games 0#160 = none
  registry : world.games deployment.anchorStateRegistry = none ∧
    world.environment.others deployment.anchorStateRegistry = none
  anchored : world.registry.anchorGame ≠ 0#160 → world.statusAt world.registry.anchorGame = .ok .defenderWins

end Scan

/-! ## Standing -/

section Standing

variable {deployment : Deployment} {world : World deployment} {address : Address}

def Unlost (world : World deployment) (address : Address) : Prop :=
  world.statusAt address = .ok .defenderWins ∨
    ∃ game report, world.games address = some game ∧ world.resolutionStatus game = .ok report ∧
      report.outcome ≠ .challengerWins

theorem Unlost.isValidGame (unlost : Unlost world address) (eligible : Eligible world address) :
    world.isValidGame address = .ok true := by
  rw [World.isValidGame, if_neg (by simp [eligible.registered, eligible.respected, eligible.listed, eligible.current])]
  rcases unlost with won | ⟨game, report, found, reported, outcome⟩
  · cases found : world.games address with
    | some game =>
      simp only [World.statusAt, found, Except.ok.injEq] at won
      have reported : world.resolutionStatus game = .ok ⟨false, .defenderWins, game.claimData.invalidationReason⟩ := by
        rw [World.resolutionStatus, MultiProofGame.resolutionStatus, if_pos (by simp [won]), won]
      simp [reported, bind, Except.bind, pure, Except.pure]
    | none =>
      cases other : world.environment.others address with
      | some game =>
        simp only [World.statusAt, found, other, Except.ok.injEq] at won
        simp [won, pure, Except.pure]
      | none =>
        simp only [World.statusAt, found, other] at won
        cases won
  · simp only [found, bind_eq_ok, pure_eq_ok]
    exact ⟨_, reported, by simpa using outcome⟩

inductive Standing (world : World deployment) (reference : LineageAnchor) : Prop
  | sentinel (placed : reference.address = deployment.anchorStateRegistry) (first : world.registry.anchorGame = 0#160)
      (number : world.registry.startingAnchorRoot.l2SequenceNumber = reference.l2BlockNumber)
  | game {claim : Dispute.Proposal} (elsewhere : reference.address ≠ deployment.anchorStateRegistry)
      (read : world.proposalAt reference.address = .ok claim) (number : claim.l2SequenceNumber = reference.l2BlockNumber)
      (unlost : Unlost world reference.address)

variable {reference : LineageAnchor}

theorem Standing.isValidParent (standing : Standing world reference)
    (eligible : reference.address ≠ deployment.anchorStateRegistry → Eligible world reference.address) :
    world.isValidParent reference.address = .ok true := by
  cases standing with
  | sentinel placed first number => simp [World.isValidParent, placed, first, pure, Except.pure]
  | game elsewhere read number unlost =>
    rw [World.isValidParent, if_neg elsewhere]
    exact unlost.isValidGame (eligible elsewhere)

theorem Standing.startingProposal (standing : Standing world reference) {args : CloneArgs}
    (parentRead : args.parentRef = .ok reference.address) :
    ∃ starting, world.startingProposal args = .ok starting ∧ starting.l2SequenceNumber = reference.l2BlockNumber := by
  simp only [World.startingProposal, parentRead, bind, Except.bind]
  cases standing with
  | sentinel placed first number => exact ⟨_, if_pos placed, number⟩
  | game elsewhere read number unlost => exact ⟨_, (if_neg elsewhere).trans read, number⟩

theorem Coherent.elsewhere (coherent : Coherent world) {claim : Dispute.Proposal}
    (read : world.proposalAt address = .ok claim) :
    address ≠ deployment.anchorStateRegistry := by
  rintro rfl
  rw [World.proposalAt, coherent.registry.1, coherent.registry.2] at read
  cases read

variable {registered : RegisteredLineageConfig} {consensus : ConsensusProvider} {finalizedBlock : ℕ}

theorem standing_of_anchor (coherent : Coherent world)
    (configured : registered.anchorRegistry = deployment.anchorStateRegistry)
    (read : readLineageAnchor world registered = .ok reference) : Standing world reference := by
  simp only [readLineageAnchor, bind_eq_ok, call_eq_ok, pure_eq_ok] at read
  obtain ⟨root, rootRead, _, _, rfl⟩ := read
  by_cases first : world.registry.anchorGame = 0#160
  · rw [getAnchorRoot, if_pos first, pure_eq_ok] at rootRead
    exact .sentinel (by rw [if_pos first, configured]) first (by rw [rootRead])
  · rw [getAnchorRoot, if_neg first] at rootRead
    rw [if_neg first]
    exact .game (coherent.elsewhere rootRead) rootRead rfl (.inl (coherent.anchored first))

theorem standing_of_recovered {anchor : LineageAnchor} {recoveryParent : Option Address} (coherent : Coherent world)
    (standing : Standing world anchor)
    (recovered : recoveredAnchor world registered consensus finalizedBlock anchor recoveryParent = .ok reference) :
    Standing world reference := by
  cases recoveryParent with
  | none =>
    obtain rfl := pure_eq_ok.mp recovered
    exact standing
  | some address =>
    simp only [recoveredAnchor, bind_eq_ok, revertIf_eq_ok] at recovered
    obtain ⟨_, _, recovery, read, valid, _, recovered⟩ := recovered
    split at recovered
    · obtain rfl := pure_eq_ok.mp recovered
      exact standing
    · simp only [bind_eq_ok, revertIf_eq_ok, pure_eq_ok, Bool.not_eq_false] at recovered
      obtain ⟨_, eligible, _, _, _, _, _, _, rfl⟩ := recovered
      simp only [readRecoveryParent, bind_eq_ok, revertIf_eq_ok, call_eq_ok, pure_eq_ok] at read
      obtain ⟨_, _, status, statusRead, claim, claimRead, _, _, rfl⟩ := read
      simp only [Bool.and_eq_true, decide_eq_true_eq] at eligible
      obtain ⟨_, rfl⟩ := eligible
      exact .game (coherent.elsewhere claimRead) claimRead rfl (.inl statusRead)

end Standing

/-! ## Filed attempts -/

section Tip

variable {deployment : Deployment} {world : World deployment} {registered : RegisteredLineageConfig}
  {consensus : ConsensusProvider} {finalizedBlock : ℕ} {transition : LineageTransition} {domainHash : Bytes32}

/-- The factory has no game for this attempt at the transition. -/
abbrev Unfiled (world : World deployment) (domainHash : Bytes32) (transition : LineageTransition) (attempt : ℕ) : Prop :=
  world.registered transition.rootClaim
    (World.encodeExtraData domainHash transition.l2BlockNumber transition.parentRef attempt) = none

theorem unfiled_of_attemptEntry (filed : world.Filed) (coherent : Coherent world) {attempt : ℕ} :
    attemptEntry world domainHash transition attempt = 0#160 ↔ Unfiled world domainHash transition attempt := by
  unfold attemptEntry Unfiled
  cases entry : world.registered transition.rootClaim
      (World.encodeExtraData domainHash transition.l2BlockNumber transition.parentRef attempt) with
  | none => simp
  | some address =>
    simp only [Option.getD_some, reduceCtorEq, iff_false]
    rintro rfl
    obtain ⟨game, found, _⟩ := filed.clone _ _ _ entry
    cases coherent.zero.symm.trans found

variable {game : LineageGame}

theorem Latest.filed (latest : Latest (attemptEntry world domainHash transition) game) :
    world.registered transition.rootClaim (World.encodeExtraData domainHash transition.l2BlockNumber
      transition.parentRef game.attempt) = some game.address := by
  have used := latest.sequential game.attempt le_rfl
  rw [← latest.address]
  unfold attemptEntry at used ⊢
  cases entry : world.registered transition.rootClaim
      (World.encodeExtraData domainHash transition.l2BlockNumber transition.parentRef game.attempt) with
  | none => simp [entry] at used
  | some address => rfl

theorem Latest.next_unfiled_iff (filed : world.Filed) (coherent : Coherent world)
    (latest : Latest (attemptEntry world domainHash transition) game) :
    Unfiled world domainHash transition (game.attempt + 1) ↔
      ∃ attempt ≤ maxAttemptScan, Unfiled world domainHash transition attempt := by
  have probed := latest.probed
  constructor
  · intro unfiled
    exact ⟨_, probed, unfiled⟩
  · rintro ⟨attempt, bounded, unfiled⟩
    by_cases more : game.attempt + 1 < maxAttemptScan
    · exact (unfiled_of_attemptEntry filed coherent).mp (latest.last more)
    · have later : ¬ attempt ≤ game.attempt := fun earlier =>
        latest.sequential attempt earlier ((unfiled_of_attemptEntry filed coherent).mpr unfiled)
      have same : attempt = game.attempt + 1 := by omega
      rwa [← same]

theorem standing_of_latest {status : ResolutionStatus} (filed : world.Filed) (coherent : Coherent world)
    (fits : transition.l2BlockNumber ≤ uint64Max) (latest : Latest (attemptEntry world domainHash transition) game)
    (read : readLineageResolutionStatus world game.address = .ok status) (unlost : status.outcome ≠ .challengerWins) :
    Standing world ⟨game.address, transition.l2BlockNumber⟩ := by
  obtain ⟨clone, found, _, written⟩ := filed.clone _ _ _ latest.filed
  obtain ⟨_, _, _, number, _⟩ := CloneArgs.fields_of_encode written fits (le_uint64Max_of_probed latest.probed.le)
  obtain ⟨same, again, report, reported, rfl⟩ := readLineageResolutionStatus_eq_ok.mp read
  obtain rfl := Option.some.inj (found.symm.trans again)
  have claimRead : world.proposalAt game.address = .ok ⟨clone.args.rootClaim, clone.args.l2SequenceNumber⟩ := by
    rw [World.proposalAt, found]
  exact .game (coherent.elsewhere claimRead) claimRead number (.inr ⟨clone, report, found, reported, unlost⟩)

theorem Selects.tip {parent : LineageAnchor} {games : List SelectedLineageGame} {stop : LineageStop}
    (filed : world.Filed) (coherent : Coherent world)
    (selects : Selects world registered consensus finalizedBlock parent games stop) (standing : Standing world parent) :
    ∃ tip, Standing world tip ∧ tip.address ∈ parent.address :: games.map (·.game.address) ∧
      Selects world registered consensus finalizedBlock tip [] stop := by
  induction selects with
  | caughtUp fits ahead => exact ⟨_, standing, List.mem_cons_self, .caughtUp fits ahead⟩
  | missing fits final canonical unfiled =>
    exact ⟨_, standing, List.mem_cons_self, .missing fits final canonical unfiled⟩
  | invalidated fits final canonical probed read lost =>
    exact ⟨_, standing, List.mem_cons_self, .invalidated fits final canonical probed read lost⟩
  | step fits final canonical probed read unlost rest ih =>
    obtain ⟨tip, stands, member, ended⟩ :=
      ih (standing_of_latest filed coherent fits (readGameForTransition_eq_some.mp probed) read unlost)
    exact ⟨tip, stands, List.mem_cons_of_mem _ member, ended⟩

/-! ## The proposal at the tip -/

/-- What the scan knows of a proposal that extends `tip`. -/
inductive Offers (world : World deployment) (registered : RegisteredLineageConfig) (tip : LineageAnchor) : Proposal → Prop
  | first {rootClaim : Bytes32} (fits : tip.l2BlockNumber + registered.blockInterval ≤ uint64Max)
      (unfiled : readGameForTransition world registered.domainHash
        ⟨tip.address, rootClaim, tip.l2BlockNumber + registered.blockInterval⟩ = none) :
      Offers world registered tip ⟨tip.address, rootClaim, tip.l2BlockNumber + registered.blockInterval, 0⟩
  | retry {rootClaim : Bytes32} {game : LineageGame} {status : ResolutionStatus}
      (fits : tip.l2BlockNumber + registered.blockInterval ≤ uint64Max)
      (probed : readGameForTransition world registered.domainHash
        ⟨tip.address, rootClaim, tip.l2BlockNumber + registered.blockInterval⟩ = some game)
      (read : readLineageResolutionStatus world game.address = .ok status) (lost : status.outcome = .challengerWins)
      (timeout : status.invalidationReason = .proofTimeout) :
      Offers world registered tip
        ⟨tip.address, rootClaim, tip.l2BlockNumber + registered.blockInterval, game.attempt + 1⟩

theorem offers_of_stop {tip : LineageAnchor} {stop : LineageStop} {action : NextProposalAction} {proposal : Proposal}
    (ended : Selects world registered consensus finalizedBlock tip [] stop) (next : nextAction stop = .ok action)
    (proposed : action.proposal? = some proposal) : Offers world registered tip proposal := by
  cases ended with
  | caughtUp fits ahead =>
    obtain rfl := pure_eq_ok.mp next
    cases proposed
  | missing fits final canonical unfiled =>
    obtain rfl := pure_eq_ok.mp next
    obtain rfl := Option.some.inj proposed
    exact .first fits unfiled
  | invalidated fits final canonical probed read lost =>
    rw [nextAction] at next
    split at next
    · obtain rfl := pure_eq_ok.mp next
      cases proposed
    · split at next
      · next timeout =>
        simp only [bind_eq_ok, revertIf_eq_ok, pure_eq_ok] at next
        obtain ⟨_, _, rfl⟩ := next
        obtain rfl := Option.some.inj proposed
        exact .retry fits probed read lost timeout
      · obtain rfl := pure_eq_ok.mp next
        cases proposed

variable {implementation : Implementation deployment} {tip : LineageAnchor} {proposal : Proposal}

theorem retryable_of_timeout {args : CloneArgs} {parentRef address : Address} {attempt : ℕ}
    {clone : MultiProofGame deployment} {report : Dispute.ResolutionStatus} (count : args.attempt = attempt + 1)
    (entry : world.registered args.rootClaim
      (World.encodeExtraData implementation.domainHash args.l2SequenceNumber parentRef attempt) = some address)
    (found : world.games address = some clone) (reported : world.resolutionStatus clone = .ok report)
    (lost : report.outcome = .challengerWins) (timeout : report.reason = .proofTimeout) :
    world.retryable implementation args parentRef = .ok () := by
  rw [World.retryable, if_neg (by rw [count]; exact Nat.succ_ne_zero _)]
  simp only [count, Nat.add_sub_cancel, entry, bind_eq_ok, World.gameAt_eq_ok, revertIf_eq_ok]
  refine ⟨clone, found, report, reported, ?_⟩
  rintro ⟨_, won | other⟩
  · exact won lost
  · exact other timeout

section

variable (offers : Offers world registered tip proposal)

include offers

theorem Offers.retryable (hash : registered.domainHash = implementation.domainHash) {args : CloneArgs}
    (claim : args.rootClaim = proposal.rootClaim) (number : args.l2SequenceNumber = proposal.l2BlockNumber)
    (count : args.attempt = proposal.attempt) : world.retryable implementation args tip.address = .ok () := by
  cases offers with
  | first fits unfiled => exact if_pos count
  | retry fits probed read lost timeout =>
    have entry := (readGameForTransition_eq_some.mp probed).filed
    obtain ⟨clone, found, report, reported, rfl⟩ := readLineageResolutionStatus_eq_ok.mp read
    exact retryable_of_timeout count (by rw [claim, number, ← hash]; exact entry) found reported lost timeout

theorem Offers.attempt_le : proposal.attempt ≤ maxAttemptScan := by
  cases offers with
  | first fits unfiled => exact Nat.zero_le _
  | retry fits probed read lost timeout => exact (readGameForTransition_eq_some.mp probed).probed

theorem Offers.extends_tip : proposal.parentRef = tip.address ∧
    proposal.l2BlockNumber = tip.l2BlockNumber + registered.blockInterval ∧ proposal.l2BlockNumber ≤ uint64Max := by
  cases offers with
  | first fits unfiled => exact ⟨rfl, rfl, fits⟩
  | retry fits probed read lost timeout => exact ⟨rfl, rfl, fits⟩

theorem Offers.fields {args : CloneArgs} (data : args.extraData = proposal.extraData registered.domainHash) :
    args.calldataLength = 0xDA ∧ args.proposalDomainHash = registered.domainHash ∧ args.parentRef = .ok tip.address ∧
      args.l2SequenceNumber = tip.l2BlockNumber + registered.blockInterval ∧ args.attempt = proposal.attempt := by
  obtain ⟨parent, number, narrow⟩ := offers.extends_tip
  rw [← parent, ← number]
  exact CloneArgs.fields_of_encode data narrow (le_uint64Max_of_probed offers.attempt_le)

end

variable {args : CloneArgs}

theorem Standing.opens (standing : Standing world tip)
    (eligible : tip.address ≠ deployment.anchorStateRegistry → Eligible world tip.address)
    (sized : args.calldataLength = 0xDA) (domain : args.proposalDomainHash = implementation.domainHash)
    (parentRead : args.parentRef = .ok tip.address)
    (number : args.l2SequenceNumber = tip.l2BlockNumber + implementation.config.blockInterval)
    (narrow : args.l2SequenceNumber ≤ uint64Max) (retryable : world.retryable implementation args tip.address = .ok ())
    (onTime : world.now + implementation.config.challengePeriod ≤ uint64Max) :
    ∃ starting, world.Opens implementation args tip.address starting := by
  obtain ⟨starting, startRead, start⟩ := standing.startingProposal parentRead
  exact ⟨starting,
    { sized, domain, parentRead, startRead, narrow, retryable, onTime
      validParent := standing.isValidParent eligible
      advanced := number.trans (by rw [start]) }⟩

theorem Offers.opens (offers : Offers world registered tip proposal) (standing : Standing world tip)
    (eligible : tip.address ≠ deployment.anchorStateRegistry → Eligible world tip.address)
    (hash : registered.domainHash = implementation.domainHash)
    (interval : registered.blockInterval = implementation.config.blockInterval)
    (onTime : world.now + implementation.config.challengePeriod ≤ uint64Max)
    (claim : args.rootClaim = proposal.rootClaim) (data : args.extraData = proposal.extraData registered.domainHash) :
    ∃ starting, world.Opens implementation args tip.address starting := by
  obtain ⟨_, number, narrow⟩ := offers.extends_tip
  obtain ⟨sized, domain, parentRead, numberRead, count⟩ := offers.fields data
  have same : args.l2SequenceNumber = proposal.l2BlockNumber := numberRead.trans number.symm
  exact standing.opens eligible sized (domain.trans hash) parentRead (interval ▸ numberRead) (same.trans_le narrow)
    (offers.retryable hash claim same count) onTime

theorem Offers.current_of_opens (offers : Offers world registered tip proposal) (standing : Standing world tip)
    (data : args.extraData = proposal.extraData registered.domainHash) {parentRef : Address} {starting : Dispute.Proposal}
    (opens : world.Opens implementation args parentRef starting) :
    registered.domainHash = implementation.domainHash ∧
      registered.blockInterval = implementation.config.blockInterval := by
  obtain ⟨_, domain, parentRead, numberRead, _⟩ := offers.fields data
  obtain ⟨other, startRead, start⟩ := standing.startingProposal parentRead
  obtain rfl := Except.ok.inj (startRead.symm.trans opens.startRead)
  have advanced := opens.advanced
  exact ⟨domain.symm.trans opens.domain, by omega⟩

theorem Offers.unfiled_iff (offers : Offers world registered tip proposal) (filed : world.Filed)
    (coherent : Coherent world) :
    Unfiled world registered.domainHash proposal.transition proposal.attempt ↔
      ∃ attempt ≤ maxAttemptScan, Unfiled world registered.domainHash proposal.transition attempt := by
  cases offers with
  | first fits unfiled =>
    have free := (unfiled_of_attemptEntry filed coherent).mp (readGameForTransition_eq_none unfiled)
    exact iff_of_true free ⟨0, Nat.zero_le _, free⟩
  | retry fits probed read lost timeout =>
    exact (readGameForTransition_eq_some.mp probed).next_unfiled_iff filed coherent

theorem anchorRegistry_of_read {started : World deployment}
    (connected : readRegisteredLineageConfig started = .ok registered) :
    registered.anchorRegistry = deployment.anchorStateRegistry := by
  unfold readRegisteredLineageConfig at connected
  split at connected
  · cases connected
  · next _ implementation _ =>
    simp only [bind_eq_ok, revertIf_eq_ok, pure_eq_ok] at connected
    obtain ⟨_, _, _, _, _, _, rfl⟩ := connected
    exact implementation.registry

theorem offers_of_scan {config : ProposerConfig} {scan : ProposerScan} (filed : world.Filed) (coherent : Coherent world)
    (configured : registered.anchorRegistry = deployment.anchorStateRegistry)
    (scanned : scanSelectedLineage world registered consensus config = .ok scan)
    (proposed : scan.nextAction.proposal? = some proposal) :
    ∃ tip, Standing world tip ∧ tip.address ∈ scan.lineage.references ∧ Offers world registered tip proposal := by
  simp only [scanSelectedLineage, selectLineage, bind_eq_ok, mapError_eq_ok, pure_eq_ok] at scanned
  obtain ⟨_, _, lineage, ⟨_, _, anchor, anchorRead, finalizedBlock, _, start, recovered, ⟨games, stop⟩, walked, rfl⟩,
    action, next, rfl⟩ := scanned
  obtain ⟨more, rfl, selects⟩ := selects_of_extendLineage walked
  have standing := standing_of_recovered coherent (standing_of_anchor coherent configured anchorRead) recovered
  obtain ⟨tip, stands, member, ended⟩ := selects.tip filed coherent standing
  exact ⟨tip, stands, member, offers_of_stop ended next proposed⟩

end Tip

end WorldChain.Proposer
