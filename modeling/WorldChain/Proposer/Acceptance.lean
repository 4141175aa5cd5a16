import WorldChain.Proposer.Scan

/-! # What the proposer submits is accepted

The contract's checks against the scan's reads, in one L1 state: `initialize` takes every proposal that a scan ends in,
and the factory files it, except where the scan has probed all the attempts it looks at and found them filed.
-/

namespace WorldChain.Proposer

open Machine Dispute

section Accept

variable {deployment : Deployment} {world : World deployment} {registered : RegisteredLineageConfig}
  {consensus : ConsensusProvider} {implementation : Implementation deployment} {tip : LineageAnchor}
  {proposal : Proposal} {args : CloneArgs}

theorem Offers.create_of_filed {allowed : World deployment → World.Action deployment → Prop}
    {environment : Environment deployment} {token : Address → ℕ} {log : List (World.Action deployment)}
    {implementationAddress sender : Address}
    (run : Run World.exec allowed (World.genesis environment token) log world)
    (current : world.environment.implementation = some (implementationAddress, implementation))
    (offers : Offers world registered tip proposal) (standing : Standing world tip)
    (eligible : tip.address ≠ deployment.anchorStateRegistry → Eligible world tip.address)
    (hash : registered.domainHash = implementation.domainHash)
    (interval : registered.blockInterval = implementation.config.blockInterval)
    (admits : world.Admits implementation sender (World.cloneAddress deployment implementationAddress
      ⟨sender, proposal.rootClaim, world.environment.blockHash, proposal.extraData registered.domainHash⟩))
    (filed : ¬ Unfiled world registered.domainHash proposal.transition proposal.attempt) :
    world.create sender 0 proposal.rootClaim (proposal.extraData registered.domainHash) =
      .error .gameAlreadyExists := by
  obtain ⟨starting, opens⟩ : ∃ starting, world.Opens implementation
      ⟨sender, proposal.rootClaim, world.environment.blockHash, proposal.extraData registered.domainHash⟩
      tip.address starting :=
    -- `rfl` would unfold the encoding before the projection
    offers.opens standing eligible hash interval admits.onTime rfl (by dsimp only)
  exact World.create_of_filed current opens rfl admits (World.unbonded_of_run run admits.vacant.1) filed

/-- `initialize` accepts the proposal that a scan ends in if and only if the client still has the registered
configuration and one of the attempts that a scan probes is not filed. -/
theorem proposal_accepted_iff {allowed : World deployment → World.Action deployment → Prop}
    {environment : Environment deployment} {token : Address → ℕ} {log : List (World.Action deployment)}
    (run : Run World.exec allowed (World.genesis environment token) log world) (coherent : Coherent world)
    {implementationAddress : Address}
    (current : world.environment.implementation = some (implementationAddress, implementation))
    {started : World deployment} (connected : readRegisteredLineageConfig started = .ok registered)
    {config : ProposerConfig} {scan : ProposerScan}
    (scanned : scanSelectedLineage world registered consensus config = .ok scan)
    (proposed : scan.nextAction.proposal? = some proposal)
    (eligible : ∀ reference ∈ scan.lineage.references,
      reference ≠ deployment.anchorStateRegistry → Eligible world reference)
    (claim : args.rootClaim = proposal.rootClaim) (data : args.extraData = proposal.extraData registered.domainHash)
    (admits : world.Admits implementation args.gameCreator (World.cloneAddress deployment implementationAddress args)) :
    ((∃ opened, world.initializeClone (World.cloneAddress deployment implementationAddress args)
        deployment.disputeGameFactory 0 (.blank implementation args) = .ok opened) ∧
      world.registered args.rootClaim args.extraData = none) ↔
    (registered.domainHash = implementation.domainHash ∧
      registered.blockInterval = implementation.config.blockInterval) ∧
      ∃ attempt ≤ maxAttemptScan, Unfiled world registered.domainHash proposal.transition attempt := by
  have filed := World.filed_of_run run
  obtain ⟨tip, standing, member, offers⟩ :=
    offers_of_scan filed coherent (anchorRegistry_of_read connected) scanned proposed
  have unfiled : world.registered args.rootClaim args.extraData = none ↔
      ∃ attempt ≤ maxAttemptScan, Unfiled world registered.domainHash proposal.transition attempt := by
    rw [claim, data]
    exact offers.unfiled_iff filed coherent
  refine and_congr ⟨?_, ?_⟩ unfiled
  · rintro ⟨⟨game, vault⟩, initialized⟩
    obtain ⟨⟨parentRef, starting, opens⟩, _⟩ := World.initializeClone_spec initialized
    exact offers.current_of_opens standing data opens
  · rintro ⟨hash, interval⟩
    obtain ⟨starting, opens⟩ := offers.opens standing (eligible _ member) hash interval admits.onTime claim data
    exact ⟨_, World.initializeClone_of_opens current opens rfl admits (World.unbonded_of_run run admits.vacant.1)⟩

end Accept

/-! ## A sample deployment -/

section Sample

def sampleDeployment : Deployment :=
  { ERC20StakingVault.sampleDeployment with
    predictDeterministicAddress := fun _ args _ _ =>
      BitVec.ofNat 160 (1000 * BigEndian.wordAt 32 args 52 + BigEndian.wordAt 32 args 180) }

theorem sampleConfig_accepted : ¬ World.sampleConfig.Rejected := World.sampleImplementation.accepted

theorem sampleConfig_registry : World.sampleConfig.anchorStateRegistry = sampleDeployment.anchorStateRegistry := rfl

theorem sampleConfig_vault : World.sampleConfig.bondVault = sampleDeployment.bondVault := rfl

def sampleImplementation : Implementation sampleDeployment :=
  ⟨World.sampleConfig, sampleConfig_accepted, sampleConfig_registry, sampleConfig_vault⟩

def sampleEnvironment (timestamp : ℕ) (blockHash : Bytes32) : Environment sampleDeployment where
  timestamp := timestamp
  blockNumber := 100
  blockHash := blockHash
  registry := World.sampleRegistry false
  others := fun _ => none
  verify := fun _ _ _ _ => true
  implementation := some (3, sampleImplementation)
  tokenAccepts := true
  withdrawalsPaused := false
  factoryOwner := 5
  proxyAdmin := 4
  proxyAdminOwner := 5

def sampleGenesis : World sampleDeployment :=
  World.genesis (sampleEnvironment 50 77) fun account => if account = 1 then 4000 else 0

def sampleArgs (l1Head : Bytes32) (attempt : ℕ) : CloneArgs :=
  ⟨1, 42, l1Head, World.encodeExtraData sampleImplementation.domainHash 1010 8 attempt⟩

theorem sampleArgs_fields (l1Head : Bytes32) {attempt : ℕ} (few : attempt ≤ uint64Max) :
    (sampleArgs l1Head attempt).calldataLength = 0xDA ∧
      (sampleArgs l1Head attempt).proposalDomainHash = sampleImplementation.domainHash ∧
      (sampleArgs l1Head attempt).parentRef = .ok 8 ∧ (sampleArgs l1Head attempt).l2SequenceNumber = 1010 ∧
      (sampleArgs l1Head attempt).attempt = attempt :=
  CloneArgs.fields_of_encode rfl (by decide) few

theorem sampleArgs_address (implementationAddress : Address) (l1Head : Bytes32) {attempt : ℕ}
    (few : attempt ≤ uint64Max) :
    World.cloneAddress sampleDeployment implementationAddress (sampleArgs l1Head attempt) =
      BitVec.ofNat 160 (1000 * l1Head.toNat + attempt) := by
  have count := (sampleArgs_fields l1Head few).2.2.2.2
  have head : BigEndian.wordAt 32 (sampleArgs l1Head attempt).packed 52 = l1Head.toNat := by
    rw [CloneArgs.packed, packedArgs, List.append_assoc, BigEndian.wordAt, List.drop_left' (by simp),
      List.take_left' (by simp), BigEndian.ofBytes_toBytes]
    · rfl
    · exact l1Head.isLt.trans_eq (by norm_num)
  have last : BigEndian.wordAt 32 (sampleArgs l1Head attempt).packed 180 = attempt := by
    have rest : (sampleArgs l1Head attempt).packed.drop 180 = (sampleArgs l1Head attempt).extraData.drop 0x60 := by
      rw [CloneArgs.packed, packedArgs, List.drop_append, List.drop_eq_nil_of_le (by simp), List.nil_append]
      simp only [List.length_append, BigEndian.toBytes_length]
    rw [BigEndian.wordAt, rest]
    exact count
  change BitVec.ofNat 160 (1000 * BigEndian.wordAt 32 (sampleArgs l1Head attempt).packed 52 +
    BigEndian.wordAt 32 (sampleArgs l1Head attempt).packed 180) = _
  rw [head, last]

def sampleAddress (attempt : ℕ) : Address := BitVec.ofNat 160 (77000 + attempt)

theorem sampleAddress_inj {first second : ℕ} (few : first ≤ maxAttemptScan) (fewer : second ≤ maxAttemptScan)
    (same : sampleAddress first = sampleAddress second) : first = second := by
  have numbers := congrArg BitVec.toNat same
  simp only [sampleAddress, BitVec.toNat_ofNat, maxAttemptScan] at *
  omega

theorem sampleAddress_ne {attempt number : ℕ} (few : attempt ≤ maxAttemptScan) (small : number < 77000) :
    BitVec.ofNat 160 number ≠ sampleAddress attempt := by
  intro same
  have numbers := congrArg BitVec.toNat same
  simp only [sampleAddress, BitVec.toNat_ofNat, maxAttemptScan] at *
  omega

theorem admits_of_sample {world : World sampleDeployment} {timestamp : ℕ} {blockHash : Bytes32} {clone : Address}
    (environment : world.environment = sampleEnvironment timestamp blockHash) (early : timestamp ≤ 10000)
    (funded : 31 ≤ world.vault.availableBalance 1) (vacant : world.games clone = none) :
    world.Admits sampleImplementation 1 clone := by
  refine ⟨?_, ?_, ?_, ?_, ⟨vacant, ?_⟩, funded⟩
  · rw [World.registry, environment]
    rfl
  · rw [environment]
    change 1 ≤ 100
    decide
  · rw [World.now, environment]
    change timestamp + 100 ≤ uint64Max
    simp only [uint64Max]
    omega
  · rw [World.context, environment]
    rfl
  · rw [environment]
    rfl

/-- A running game on the anchor whose time is up, without a proof. -/
structure Expired {deployment : Deployment} (world : World deployment) (game : MultiProofGame deployment) : Prop where
  running : game.status = .inProgress
  late : game.claimData.deadline ≤ world.now
  unproven : game.proven = false
  rooted : game.args.parentRef = .ok deployment.anchorStateRegistry

theorem Expired.report {deployment : Deployment} {world : World deployment} {game : MultiProofGame deployment}
    (expired : Expired world game) : world.resolutionStatus game = .ok ⟨true, .challengerWins, .proofTimeout⟩ := by
  have parent : world.parentResolution game.args = .ok ⟨.defenderWins, false⟩ := by
    simp [World.parentResolution, expired.rooted, bind, Except.bind, pure, Except.pure]
  have finished := MultiProofGame.gameOver_eq_true.mpr (.inl expired.late)
  simp [World.resolutionStatus, parent, MultiProofGame.resolutionStatus, expired.running, finished, expired.unproven,
    bind, Except.bind, pure, Except.pure]

/-- `count` attempts are filed and have expired, one after another, and there are tokens for more. -/
structure Piled (world : World sampleDeployment) (count : ℕ) : Prop where
  environment : world.environment = sampleEnvironment (50 + 100 * count) 77
  funded : world.vault.availableBalance 1 + 31 * count = 4000
  filed : ∀ attempt < count,
    world.registered 42 (sampleArgs 77 attempt).extraData = some (sampleAddress attempt) ∧
      ∃ game, world.games (sampleAddress attempt) = some game ∧ Expired world game
  unfiled : ∀ attempt, count ≤ attempt → attempt ≤ maxAttemptScan →
    world.registered 42 (sampleArgs 77 attempt).extraData = none
  vacant : ∀ address, (∀ attempt < count, address ≠ sampleAddress attempt) → world.games address = none

variable {world : World sampleDeployment} {count : ℕ} {log : List (World.Action sampleDeployment)}

theorem Piled.opens (piled : Piled world count) (more : count ≤ maxAttemptScan) :
    ∃ starting, world.Opens sampleImplementation (sampleArgs 77 count) 8 starting := by
  obtain ⟨sized, domain, parentRead, number, attempt⟩ := sampleArgs_fields 77 (le_uint64Max_of_probed more)
  have standing : Standing world ⟨8, 1000⟩ := by
    refine .sentinel rfl ?_ ?_ <;> rw [World.registry, piled.environment] <;> rfl
  refine standing.opens (fun elsewhere => absurd rfl elsewhere) sized domain parentRead number ?_ ?_ ?_
  · rw [number]
    decide
  · cases count with
    | zero => exact if_pos attempt
    | succ count =>
      obtain ⟨entry, clone, found, expired⟩ := piled.filed count (Nat.lt_succ_self _)
      refine retryable_of_timeout attempt ?_ found expired.report rfl rfl
      rw [number]
      exact entry
  · rw [World.now, piled.environment]
    change 50 + 100 * count + 100 ≤ uint64Max
    simp only [maxAttemptScan, uint64Max] at *
    omega

/-- The world after one more attempt. -/
def withAttempt (world : World sampleDeployment) (attempt : ℕ) : World sampleDeployment where
  environment := world.environment
  vault := world.bonded sampleImplementation 1 (sampleAddress attempt)
  games := Function.update world.games (sampleAddress attempt)
    (some (world.opened sampleImplementation (sampleArgs 77 attempt)))
  registered := Function.update world.registered 42
    (Function.update (world.registered 42) (sampleArgs 77 attempt).extraData (some (sampleAddress attempt)))

theorem Piled.create (run : Run World.exec (fun _ _ => True) sampleGenesis log world) (piled : Piled world count)
    (more : count ≤ maxAttemptScan) :
    world.create 1 0 42 (sampleArgs 77 count).extraData = .ok (withAttempt world count) := by
  obtain ⟨starting, opens⟩ := piled.opens more
  have unfiled := piled.unfiled count le_rfl more
  have vacant := piled.vacant (sampleAddress count) fun attempt earlier same =>
    absurd (sampleAddress_inj more (by omega) same) (by omega)
  have hash : world.environment.blockHash = 77 := by
    rw [piled.environment]
    rfl
  have current : world.environment.implementation = some (3, sampleImplementation) := by
    rw [piled.environment]
    rfl
  have args : (⟨1, 42, world.environment.blockHash, (sampleArgs 77 count).extraData⟩ : CloneArgs) =
      sampleArgs 77 count := by
    rw [hash]
    rfl
  have admits : world.Admits sampleImplementation 1 (sampleAddress count) := by
    have funded := piled.funded
    simp only [maxAttemptScan] at more
    exact admits_of_sample piled.environment (by omega) (by omega) vacant
  have created := World.create_of_opens current (args ▸ opens) ((congrArg _ args).trans
    (sampleArgs_address 3 77 (le_uint64Max_of_probed more))) admits (World.unbonded_of_run run vacant) unfiled
  rw [args] at created
  exact created

theorem sampleArgs_data_ne {first second : ℕ} (few : first ≤ maxAttemptScan) (fewer : second ≤ maxAttemptScan)
    (other : first ≠ second) :
    (sampleArgs 77 first).extraData ≠ (sampleArgs 77 second).extraData := by
  intro same
  have args : sampleArgs 77 first = sampleArgs 77 second := congrArg (CloneArgs.mk 1 42 77) same
  have count := (sampleArgs_fields 77 (le_uint64Max_of_probed few)).2.2.2.2
  rw [args] at count
  exact other (count.symm.trans (sampleArgs_fields 77 (le_uint64Max_of_probed fewer)).2.2.2.2)

/-- The world in which it has expired. -/
def withExpired (world : World sampleDeployment) (attempt : ℕ) : World sampleDeployment where
  environment := sampleEnvironment (50 + 100 * (attempt + 1)) 77
  vault := (withAttempt world attempt).vault
  games := (withAttempt world attempt).games
  registered := (withAttempt world attempt).registered

theorem withExpired_games_of_ne {attempt : ℕ} {address : Address} (other : address ≠ sampleAddress attempt) :
    (withExpired world attempt).games address = world.games address := Function.update_of_ne other ..

theorem withExpired_games_self (attempt : ℕ) : (withExpired world attempt).games (sampleAddress attempt) =
    some (world.opened sampleImplementation (sampleArgs 77 attempt)) := Function.update_self ..

theorem withExpired_registered (attempt : ℕ) : (withExpired world attempt).registered 42 =
    Function.update (world.registered 42) (sampleArgs 77 attempt).extraData (some (sampleAddress attempt)) := by
  change Function.update world.registered 42 _ 42 = _
  exact Function.update_self ..

theorem Piled.withExpired (piled : Piled world count) (more : count ≤ maxAttemptScan) :
    Piled (withExpired world count) (count + 1) := by
  have now : world.now = 50 + 100 * count := by
    rw [World.now, piled.environment]
    rfl
  constructor
  · rfl
  · have funded := piled.funded
    change world.vault.availableBalance 1 - 31 + 31 * (count + 1) = 4000
    simp only [maxAttemptScan] at more
    omega
  · intro attempt lower
    rcases Nat.lt_succ_iff_lt_or_eq.mp lower with earlier | rfl
    · obtain ⟨entry, game, found, expired⟩ := piled.filed attempt earlier
      rw [withExpired_registered, Function.update_of_ne (sampleArgs_data_ne (by omega) more (by omega)),
        withExpired_games_of_ne fun same => absurd (sampleAddress_inj (by omega) more same) (by omega)]
      refine ⟨entry, game, found, expired.running, ?_, expired.unproven, expired.rooted⟩
      have late := expired.late
      change game.claimData.deadline ≤ 50 + 100 * (count + 1)
      omega
    · rw [withExpired_registered, Function.update_self]
      refine ⟨rfl, _, withExpired_games_self _, rfl, ?_, rfl, (sampleArgs_fields 77 (le_uint64Max_of_probed more)).2.2.1⟩
      change world.now + 100 ≤ 50 + 100 * (attempt + 1)
      omega
  · intro attempt above few
    rw [withExpired_registered, Function.update_of_ne (sampleArgs_data_ne few more (by omega))]
    exact piled.unfiled attempt (by omega) few
  · intro address elsewhere
    rw [withExpired_games_of_ne (elsewhere count (Nat.lt_succ_self _))]
    exact piled.vacant address fun attempt lower => elsewhere attempt (Nat.lt_succ_of_lt lower)

theorem exists_piled (few : count ≤ maxAttemptScan + 1) :
    ∃ log world, Run World.exec (fun _ _ => True) sampleGenesis log world ∧ Piled world count := by
  induction count with
  | zero =>
    have deposited : ∃ vault, sampleGenesis.exec (.deposit 1 1 4000) = .ok { sampleGenesis with vault } ∧
        vault.availableBalance 1 = 4000 := by
      have balance : (sampleGenesis.exec (.deposit 1 1 4000)).toOption.map (·.vault.availableBalance 1) = some 4000 := by
        decide +kernel
      cases result : sampleGenesis.exec (.deposit 1 1 4000) with
      | error _ =>
        rw [result] at balance
        cases balance
      | ok world =>
        rw [result] at balance
        have balance := Option.some.inj balance
        simp only [World.exec, World.callVault, bind_eq_ok, pure_eq_ok] at result
        obtain ⟨vault, _, rfl⟩ := result
        exact ⟨vault, rfl, balance⟩
    obtain ⟨vault, deposited, balance⟩ := deposited
    refine ⟨_, _, .single trivial deposited, rfl, balance, ?_, fun _ _ _ => rfl, fun _ _ => rfl⟩
    intro attempt lower
    omega
  | succ count ih =>
    obtain ⟨log, world, run, piled⟩ := ih (by omega)
    have more : count ≤ maxAttemptScan := by omega
    have created : world.exec (.create 1 0 42 (sampleArgs 77 count).extraData) = .ok (withAttempt world count) :=
      piled.create run more
    have waited : (withAttempt world count).exec (.environment (sampleEnvironment (50 + 100 * (count + 1)) 77)) =
        .ok (withExpired world count) := rfl
    exact ⟨_, _, .effect (.effect run trivial created) trivial waited, piled.withExpired more⟩

/-! ## Samples of accepted and refused proposals -/

def sampleRegistered : RegisteredLineageConfig := ⟨sampleImplementation.domainHash, 10, 8⟩

def sampleConsensus : ConsensusProvider := ⟨.ok 2000, fun _ => .ok 42⟩

def sampleProposer : ProposerConfig := ⟨none, 1, 1⟩

def sampleTransition : LineageTransition := ⟨8, 42, 1010⟩

/-- After `count` expired attempts one of them was resolved, and a block has passed. -/
structure Resolved (world : World sampleDeployment) (count attempt : ℕ) : Prop where
  environment : world.environment = sampleEnvironment (50 + 100 * count) 78
  funded : world.vault.availableBalance 1 + 31 * count = 4000
  filed : ∀ attempt < count, world.registered 42 (sampleArgs 77 attempt).extraData = some (sampleAddress attempt)
  unfiled : ∀ attempt, count ≤ attempt → attempt ≤ maxAttemptScan →
    world.registered 42 (sampleArgs 77 attempt).extraData = none
  vacant : ∀ address, (∀ attempt < count, address ≠ sampleAddress attempt) → world.games address = none
  status : readLineageResolutionStatus world (sampleAddress attempt) =
    .ok ⟨.challengerWins, false, .challengerWins, .proofTimeout⟩

theorem exists_resolved {attempt : ℕ} (few : count ≤ maxAttemptScan + 1) (lower : attempt < count) :
    ∃ log world, Run World.exec (fun _ _ => True) sampleGenesis log world ∧ Resolved world count attempt := by
  obtain ⟨log, world, run, piled⟩ := exists_piled few
  obtain ⟨entry, game, found, expired⟩ := piled.filed attempt lower
  have onTime : world.now ≤ uint64Max := by
    rw [World.now, piled.environment]
    change 50 + 100 * count ≤ uint64Max
    simp only [maxAttemptScan, uint64Max] at *
    omega
  have sound := World.sound_of_run run found
  obtain ⟨resolved, resolves⟩ := sound.resolve_of_resolvable onTime expired.report rfl
  obtain ⟨_, report, reported, _, outcome, reason⟩ := sound.resolve_reports resolves
  obtain rfl := Except.ok.inj (expired.report.symm.trans reported)
  have ended : world.exec (.resolve (sampleAddress attempt)) = .ok (world.setGame (sampleAddress attempt) resolved) := by
    simp only [World.exec, World.resolve, bind_eq_ok, World.gameAt_eq_ok, pure_eq_ok]
    exact ⟨game, found, resolved, resolves, rfl⟩
  have waited : (world.setGame (sampleAddress attempt) resolved).exec
      (.environment (sampleEnvironment (50 + 100 * count) 78)) = .ok ⟨sampleEnvironment (50 + 100 * count) 78,
        world.vault, (world.setGame (sampleAddress attempt) resolved).games, world.registered⟩ := rfl
  refine ⟨_, _, .effect (.effect run trivial ended) trivial waited,
    ⟨rfl, piled.funded, fun attempt lower => (piled.filed attempt lower).1, piled.unfiled, ?_, ?_⟩⟩
  · intro address elsewhere
    exact (Function.update_of_ne (elsewhere attempt lower) ..).trans (piled.vacant address elsewhere)
  · refine readLineageResolutionStatus_eq_ok.mpr ⟨resolved, Function.update_self .., ⟨false, .challengerWins, .proofTimeout⟩, ?_, by rw [outcome]⟩
    rw [World.resolutionStatus, MultiProofGame.resolutionStatus, if_pos (by simp [outcome]), outcome, reason]

variable {attempt : ℕ}

section

variable (resolved : Resolved world count attempt)

include resolved

theorem Resolved.coherent (few : count ≤ maxAttemptScan + 1) : Coherent world := by
  have unplaced {number : ℕ} (small : number < 77000) : world.games (BitVec.ofNat 160 number) = none :=
    resolved.vacant _ fun attempt lower => sampleAddress_ne (by omega) small
  refine ⟨unplaced (by decide), ⟨unplaced (by decide), ?_⟩, ?_⟩
  · rw [resolved.environment]
    rfl
  · rw [World.registry, resolved.environment]
    exact fun named => absurd rfl named

theorem Resolved.eligible (reference : Address) : Eligible world reference := by
  constructor <;> rw [World.registry, resolved.environment] <;> rfl

theorem Resolved.connected : readRegisteredLineageConfig world = .ok sampleRegistered := by
  rw [readRegisteredLineageConfig, resolved.environment]
  rfl

theorem Resolved.scan
    (latest : Latest (attemptEntry world sampleRegistered.domainHash sampleTransition) ⟨sampleAddress attempt, attempt⟩) :
    scanSelectedLineage world sampleRegistered sampleConsensus sampleProposer =
      .ok ⟨⟨⟨8, 1000⟩, [], .invalidated sampleTransition ⟨sampleAddress attempt, attempt⟩
        ⟨.challengerWins, false, .challengerWins, .proofTimeout⟩⟩,
        .retryTimedOut ⟨8, 42, 1010, attempt + 1⟩ (sampleAddress attempt)⟩ := by
  have anchor : readLineageAnchor world sampleRegistered = .ok ⟨8, 1000⟩ := by
    rw [readLineageAnchor, getAnchorRoot, World.registry, resolved.environment]
    rfl
  have selects : Selects world sampleRegistered sampleConsensus 2000 ⟨8, 1000⟩ [] (.invalidated sampleTransition
      ⟨sampleAddress attempt, attempt⟩ ⟨.challengerWins, false, .challengerWins, .proofTimeout⟩) :=
    .invalidated (by decide) (by decide) rfl (readGameForTransition_eq_some.mpr latest) resolved.status rfl
  have walked : extendLineage world sampleRegistered sampleConsensus 2000 (2000 + 1) ⟨8, 1000⟩ [] = _ :=
    extendLineage_of_selects (by decide) selects (by decide) (by decide)
  simp only [scanSelectedLineage, selectLineage, bind_eq_ok, mapError_eq_ok, pure_eq_ok]
  refine ⟨(), rfl, _, ⟨(), rfl, _, anchor, 2000, rfl, _, rfl, _, walked, rfl⟩, _, ?_, rfl⟩
  simp only [nextAction, Bool.false_eq_true, if_false, if_true, bind_eq_ok, revertIf_eq_ok, pure_eq_ok]
  exact ⟨(), not_lt.mpr (le_uint64Max_of_probed latest.probed), rfl⟩

end

theorem attemptEntry_sample (number : ℕ) : attemptEntry world sampleRegistered.domainHash sampleTransition number =
    (world.registered 42 (sampleArgs 77 number).extraData).getD 0#160 := by
  simp only [attemptEntry, sampleRegistered, sampleTransition, sampleArgs]

theorem unfiled_sample (number : ℕ) : Unfiled world sampleRegistered.domainHash sampleTransition number ↔
    world.registered 42 (sampleArgs 77 number).extraData = none := by
  simp only [Unfiled, sampleRegistered, sampleTransition, sampleArgs]

theorem Resolved.entry (resolved : Resolved world count attempt) {number : ℕ} (lower : number < count) :
    attemptEntry world sampleRegistered.domainHash sampleTransition number = sampleAddress number := by
  rw [attemptEntry_sample, resolved.filed number lower, Option.getD_some]

theorem Resolved.latest (resolved : Resolved world count attempt) (lower : attempt < count)
    (probed : attempt < maxAttemptScan) (last : attempt + 1 = count ∨ attempt + 1 = maxAttemptScan) :
    Latest (attemptEntry world sampleRegistered.domainHash sampleTransition) ⟨sampleAddress attempt, attempt⟩ := by
  refine ⟨resolved.entry lower, probed, ?_, ?_⟩
  · intro number below
    change number ≤ attempt at below
    rw [resolved.entry (below.trans_lt lower)]
    exact (sampleAddress_ne (by omega) (by decide)).symm
  · intro more
    change attempt + 1 < maxAttemptScan at more
    rw [attemptEntry_sample, resolved.unfiled (attempt + 1) (by omega) more.le, Option.getD_none]

def sampleRetry (attempt : ℕ) : Proposal := ⟨8, 42, 1010, attempt + 1⟩

theorem sampleRetry_extraData (l1Head : Bytes32) (attempt : ℕ) :
    (sampleRetry attempt).extraData sampleRegistered.domainHash = (sampleArgs l1Head (attempt + 1)).extraData := by
  simp only [Proposal.extraData, sampleRetry, sampleRegistered, sampleArgs]

theorem Resolved.admits (resolved : Resolved world count attempt) (few : count ≤ maxAttemptScan + 1)
    (lower : attempt < maxAttemptScan) : world.Admits sampleImplementation 1
      (World.cloneAddress sampleDeployment 3 (sampleArgs 78 (attempt + 1))) := by
  have funded := resolved.funded
  have head : (78 : Bytes32).toNat = 78 := rfl
  rw [sampleArgs_address 3 78 (le_uint64Max_of_probed lower), head]
  simp only [maxAttemptScan] at few lower
  refine admits_of_sample resolved.environment (by omega) (by omega) (resolved.vacant _ ?_)
  intro other earlier same
  have numbers := congrArg BitVec.toNat same
  simp only [sampleAddress, BitVec.toNat_ofNat] at numbers
  omega

theorem Resolved.current (resolved : Resolved world count attempt) :
    world.environment.implementation = some (3, sampleImplementation) := by
  rw [resolved.environment]
  rfl

theorem retry_key_already_filed : ∃ log world scan,
    Run World.exec (fun _ _ => True) sampleGenesis log world ∧ Coherent world ∧
      readRegisteredLineageConfig world = .ok sampleRegistered ∧
      scanSelectedLineage world sampleRegistered sampleConsensus sampleProposer = .ok scan ∧
      scan.nextAction.proposal? = some (sampleRetry 63) ∧ (∀ reference, Eligible world reference) ∧
      world.Admits sampleImplementation 1 (World.cloneAddress sampleDeployment 3 (sampleArgs 78 64)) ∧
      world.environment.blockHash = 78 ∧
      world.create 1 0 (sampleRetry 63).rootClaim ((sampleRetry 63).extraData sampleRegistered.domainHash) =
        .error .gameAlreadyExists := by
  obtain ⟨log, world, run, resolved⟩ : ∃ log world, Run World.exec (fun _ _ => True) sampleGenesis log world ∧
      Resolved world 65 63 := exists_resolved (by decide) (by decide)
  have coherent := resolved.coherent (by decide)
  have scanned := resolved.scan (resolved.latest (by decide) (by decide) (.inr rfl))
  have admits := resolved.admits (by decide) (by decide)
  have proposed : (NextProposalAction.retryTimedOut ⟨8, 42, 1010, 64⟩ (sampleAddress 63)).proposal? =
      some (sampleRetry 63) := rfl
  have head : world.environment.blockHash = 78 := by
    rw [resolved.environment]
    rfl
  obtain ⟨tip, standing, member, offers⟩ := offers_of_scan (World.filed_of_run run) coherent rfl scanned proposed
  refine ⟨log, world, _, run, coherent, resolved.connected, scanned, proposed, resolved.eligible, admits, head, ?_⟩
  refine offers.create_of_filed run resolved.current standing (fun _ => resolved.eligible _) rfl rfl ?_ ?_
  · rw [head, sampleRetry_extraData 78]
    exact admits
  · intro unfiled
    cases (resolved.filed 64 (by decide)).symm.trans ((unfiled_sample 64).mp unfiled)

theorem first_retry_accepted : ∃ log world, Run World.exec (fun _ _ => True) sampleGenesis log world ∧
    (∃ opened, world.initializeClone (World.cloneAddress sampleDeployment 3 (sampleArgs 78 1))
      sampleDeployment.disputeGameFactory 0 (.blank sampleImplementation (sampleArgs 78 1)) = .ok opened) ∧
    world.registered 42 (sampleArgs 78 1).extraData = none := by
  obtain ⟨log, world, run, resolved⟩ : ∃ log world, Run World.exec (fun _ _ => True) sampleGenesis log world ∧
      Resolved world 1 0 := exists_resolved (by decide) (by decide)
  have scanned := resolved.scan (resolved.latest (by decide) (by decide) (.inl rfl))
  have proposed : (NextProposalAction.retryTimedOut ⟨8, 42, 1010, 1⟩ (sampleAddress 0)).proposal? =
      some (sampleRetry 0) := rfl
  have accepted := proposal_accepted_iff run (resolved.coherent (by decide)) resolved.current
    resolved.connected scanned proposed (fun _ _ _ => resolved.eligible _) rfl (sampleRetry_extraData 78 0).symm
    (resolved.admits (by decide) (by decide))
  have unfiled := (unfiled_sample 1).mpr (resolved.unfiled 1 le_rfl (by decide))
  exact ⟨log, world, run, accepted.mpr ⟨⟨rfl, rfl⟩, 1, by decide, unfiled⟩⟩

end Sample

end WorldChain.Proposer
