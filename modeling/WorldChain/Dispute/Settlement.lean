import WorldChain.Dispute.WorldSteps
import WorldChain.Dispute.VaultAccounting

/-! # Settlement pays out exactly the bonds

Whatever the outcome, the mode and the roles one address plays, the payouts of a resolved game name each credited
address once, amount to the bonds the vault recorded on its own, and leave every account richer by exactly its credit.
-/

namespace WorldChain.Dispute

open Machine

namespace MultiProofGame

variable {deployment : Deployment} {game : MultiProofGame deployment} {bond : GameBond}

theorem Sound.distributes (sound : game.Sound bond) (resolved : game.status ≠ .inProgress)
    (mode : BondDistributionMode) :
    (game.closedIn mode).Distributes
      (game.closedIn mode).settledCredit game.staked := by
  unfold settledCredit
  split
  · change (game.closedIn mode).Distributes game.refundModeCredit game.staked
    rw [sound.refund]
    exact (paidIn_distributes sound.fits).of_candidates rfl
  · exact (sound.normal resolved).of_candidates rfl

theorem settlement_credit {total : ℕ} (distributes : game.Distributes game.settledCredit total) (account : Address) :
    (game.settlementCredits.map fun payout => if account = payout.recipient then payout.amount else 0).sum =
      game.settledCredit account := by
  obtain ⟨payouts, padding, split, once, amounts, -⟩ := settlementCredits_spec distributes
  have counted : ∀ entries : List Payout, (∀ payout ∈ entries, payout.amount = game.settledCredit payout.recipient) →
      (entries.map fun payout => if account = payout.recipient then payout.amount else 0).sum =
        (entries.map (·.recipient)).count account * game.settledCredit account := by
    intro entries full
    induction entries with
    | nil => simp
    | cons payout rest ih =>
      have tail := ih fun other member => full other (List.mem_cons_of_mem _ member)
      rw [List.map_cons, List.sum_cons, tail, List.map_cons, full payout List.mem_cons_self]
      by_cases named : account = payout.recipient
      · rw [if_pos named, ← named, List.count_cons_self, Nat.add_mul]
        omega
      · rw [if_neg named, List.count_cons_of_ne (Ne.symm named), Nat.zero_add]
  rw [split, List.map_append, List.sum_append, counted payouts amounts, once]
  by_cases funded : game.settledCredit account = 0 <;> simp [funded]

end MultiProofGame

namespace World

variable {deployment : Deployment} {world after : World deployment}

variable {anchored : AnchorStateRegistry} {self : Address}

theorem closeGame_settles {game : MultiProofGame deployment} (found : world.games self = some game)
    (undecided : game.bondDistributionMode = .undecided) (success : world.closeGame self anchored = .ok after) :
    ∃ mode, mode ≠ .undecided ∧ world.registry.isGameFinalized self = true ∧
      after.games self = some (game.closedIn mode) ∧
      ERC20StakingVault.creditPayouts world.vault.availableBalance
        (game.closedIn mode).settlementCredits = .ok after.vault.availableBalance := by
  simp only [closeGame, bind_eq_ok, gameAt_eq_ok] at success
  obtain ⟨same, again, success⟩ := success
  obtain rfl := Option.some.inj (found.symm.trans again)
  simp only [undecided, bind_eq_ok, revertIf_eq_ok, pure_eq_ok, Bool.not_eq_false] at success
  obtain ⟨_, _, _, finalized, vault, settled, rfl⟩ := success
  obtain ⟨_, _, _, credited, _⟩ := ERC20StakingVault.settle_spec settled
  refine ⟨_, ?_, finalized, Function.update_self .., credited⟩
  split <;> decide

/-- The game at an address has distributed its pot. -/
def Closed (world : World deployment) (address : Address) : Prop :=
  ∃ game, world.games address = some game ∧ game.bondDistributionMode ≠ .undecided

theorem closeGame_closed (success : world.closeGame self anchored = .ok after) : after.Closed self := by
  obtain ⟨game, found, rest⟩ := bind_eq_ok.mp success
  rw [gameAt_eq_ok] at found
  by_cases undecided : game.bondDistributionMode = .undecided
  · obtain ⟨mode, decided, _, closed, _⟩ := closeGame_settles found undecided success
    exact ⟨_, closed, decided⟩
  · refine ⟨game, ?_, undecided⟩
    split at rest
    · rw [← pure_eq_ok.mp rest, found]
    · rw [← pure_eq_ok.mp rest, found]
    · next open' => exact absurd open' undecided

theorem challenge_unsettled {sender : Address} (success : world.challenge sender self = .ok after) :
    (world.vault.gameBonds self).settled = false := by
  simp only [challenge, bind_eq_ok] at success
  obtain ⟨_, _, _, _, _, locked, _⟩ := success
  exact (ERC20StakingVault.lockChallengerBond_spec locked).2.2.1

theorem settled_iff_closed_of_exec {action : Action deployment} (success : world.exec action = .ok after)
    {address : Address} (recorded : (world.vault.gameBonds address).settled = true ↔ world.Closed address) :
    ((after.vault.gameBonds address).settled = true ↔ after.Closed address) ∧
      (world.Closed address → after.Closed address) := by
  unfold Closed at recorded
  rcases exec_game success address with
    ⟨games, bonds, _⟩ | ⟨_, implementation, args, creation⟩ | ⟨game, next, bond, stepped⟩
  · rw [Closed, Closed, games, bonds]
    exact ⟨recorded, id⟩
  · simp [Closed, creation.games, creation.bonds, creation.vacant, opened, MultiProofGame.blank]
  · obtain ⟨found, step, games, bonds, _, _⟩ := stepped
    simp only [found, Option.some.injEq, exists_eq_left'] at recorded
    simp only [Closed, games, bonds, found, Function.update_self, Option.some.injEq, exists_eq_left']
    cases step with
    | challenge =>
      rw [challenge_unsettled success] at recorded
      simpa [MultiProofGame.challengedBy] using recorded
    | prove => exact ⟨recorded, id⟩
    | resolve => exact ⟨recorded, id⟩
    | close mode =>
      obtain ⟨closed, now, decided⟩ := closeGame_closed success
      rw [games, Function.update_self, Option.some.injEq] at now
      rw [now]
      exact ⟨by simp [decided], fun _ => decided⟩

section

variable {allowed : World deployment → Action deployment → Prop} {environment : Environment deployment}
  {token : Address → ℕ} {log : List (Action deployment)}
  (run : Run exec allowed (genesis environment token) log world)

include run

theorem settled_iff_closed (address : Address) :
    (world.vault.gameBonds address).settled = true ↔ world.Closed address := by
  refine run.invariant (motive := fun world => (world.vault.gameBonds address).settled = true ↔ world.Closed address)
    (by simp [genesis, ERC20StakingVault.fresh, Closed]) ?_
  intro before after action recorded _ success
  exact (settled_iff_closed_of_exec success recorded).1

theorem settled_of_run {permitted : World deployment → Action deployment → Prop} {more : List (Action deployment)}
    (later : Run exec permitted world more after) {address : Address}
    (settled : (world.vault.gameBonds address).settled = true) :
    (after.vault.gameBonds address).settled = true := by
  have recorded := settled_iff_closed run address
  have kept := later.invariant (motive := fun world =>
    ((world.vault.gameBonds address).settled = true ↔ world.Closed address) ∧ world.Closed address)
    ⟨recorded, recorded.mp settled⟩ (by
      intro before after action holds _ success
      obtain ⟨same, lasts⟩ := settled_iff_closed_of_exec success holds.1
      exact ⟨same, lasts holds.2⟩)
  exact kept.1.mpr kept.2

end

theorem closeGame_ne_invalidPayoutTotal {game : MultiProofGame deployment} {expected actual : ℕ}
    (found : world.games self = some game) (balanced : world.registry.isGameFinalized self = true → ∀ mode,
      ((game.closedIn mode).settlementCredits.map (·.amount)).sum =
        (world.vault.gameBonds self).proposerBond + (world.vault.gameBonds self).challengerBond) :
    world.closeGame self anchored ≠ .error (.invalidPayoutTotal expected actual) := by
  intro failed
  simp only [closeGame, gameAt, found, bind_eq_error, reduceCtorEq, false_or, Except.ok.injEq,
    exists_eq_left'] at failed
  split at failed
  · cases failed
  · cases failed
  · simp only [bind_eq_error, revertIf_eq_error, revertIf_eq_ok, reduceCtorEq, and_false, false_or,
      Bool.not_eq_false] at failed
    obtain ⟨_, _, _, finalized, failed | ⟨_, _, failed⟩⟩ := failed
    · exact ERC20StakingVault.settle_ne_invalidPayoutTotal (balanced finalized _) failed
    · cases failed

/-- The payouts of a finalized game name each credited address once, with its whole credit, and their total is what the
game collected; closing pays exactly the credits. -/
theorem settlement_pays_bonds {environment : Environment deployment} {token : Address → ℕ}
    {log : List (Action deployment)} (run : Run exec (fun _ _ => True) (genesis environment token) log world)
    {self : Address} {game : MultiProofGame deployment} (found : world.games self = some game)
    (finality : world.registry.isGameFinalized self = true → game.status ≠ .inProgress) :
    (world.registry.isGameFinalized self = true → ∀ mode, mode ≠ .undecided →
      ∃ payouts padding, (game.closedIn mode).settlementCredits = payouts ++ List.replicate padding ⟨0#160, 0⟩ ∧
        (∀ account, (payouts.map (·.recipient)).count account =
          if (game.closedIn mode).settledCredit account = 0 then 0 else 1) ∧
        (∀ payout ∈ payouts, payout.amount = (game.closedIn mode).settledCredit payout.recipient) ∧
        ((game.closedIn mode).settlementCredits.map (·.amount)).sum = game.totalBonds) ∧
      game.totalBonds = (world.vault.gameBonds self).proposerBond + (world.vault.gameBonds self).challengerBond ∧
      (∀ anchored expected actual, world.closeGame self anchored ≠ .error (.invalidPayoutTotal expected actual)) ∧
      (∀ anchored after, game.bondDistributionMode = .undecided → world.closeGame self anchored = .ok after →
        ∃ mode, mode ≠ .undecided ∧ after.games self = some (game.closedIn mode) ∧
          ∀ account, after.vault.availableBalance account =
            world.vault.availableBalance account + (game.closedIn mode).settledCredit account) := by
  have sound := sound_of_run run found
  have recorded := sound.total.trans sound.recorded.symm
  refine ⟨fun finalized mode _ => ?_, recorded, fun anchored expected actual => ?_, fun anchored after undecided success => ?_⟩
  · rw [sound.total]
    exact MultiProofGame.settlementCredits_spec (sound.distributes (finality finalized) mode)
  · apply closeGame_ne_invalidPayoutTotal found
    intro finalized mode
    obtain ⟨_, _, _, _, _, total⟩ :=
      MultiProofGame.settlementCredits_spec (sound.distributes (finality finalized) mode)
    rw [total, sound.recorded]
  · obtain ⟨mode, decided, finalized, closed, credited⟩ := closeGame_settles found undecided success
    refine ⟨mode, decided, closed, ?_⟩
    intro account
    rw [ERC20StakingVault.creditPayouts_apply credited account,
      MultiProofGame.settlement_credit (sound.distributes (finality finalized) mode)]

/-! ## A sample deployment -/

open ERC20StakingVault (sampleDeployment)

def sampleConfig : GameConfig where
  rollupConfigHash := 21
  blockInterval := 10
  challengePeriod := 100
  proofPeriod := 200
  proposerBond := 31
  challengerBond := 20
  protocolFeeRecipient := 11
  proofThreshold := 2
  aggregationVKey := 22
  rangeVKeyCommitment := 23
  teeImageId := 24
  validityProofVerifier := 12
  teeVerifier := 13
  securityCouncil := 14
  anchorStateRegistry := 8
  bondVault := 9

def sampleImplementation : Implementation sampleDeployment where
  config := sampleConfig
  accepted := by decide
  registry := rfl
  vault := rfl

def sampleRegistry (finalized : Bool) : AnchorStateRegistry where
  paused := false
  respectedGameType := multiProofGameType
  anchorGame := 0#160
  startingAnchorRoot := ⟨5, 1000⟩
  isGameRegistered := fun _ => true
  isGameRespected := fun _ => true
  isGameBlacklisted := fun _ => false
  isGameRetired := fun _ => false
  isGameFinalized := fun _ => finalized
  isGameProper := fun _ => true

def sampleEnvironment (timestamp : ℕ) (finalized : Bool) : Environment sampleDeployment where
  timestamp := timestamp
  blockNumber := 100
  blockHash := 77
  registry := sampleRegistry finalized
  others := fun _ => none
  verify := fun _ _ _ _ => true
  implementation := some (3, sampleImplementation)
  tokenAccepts := true
  withdrawalsPaused := false
  factoryOwner := 5
  proxyAdmin := 4
  proxyAdminOwner := 5

def sampleGenesis : World sampleDeployment :=
  genesis (sampleEnvironment 50 false) fun account => if account = 1 ∨ account = 2 then 100 else 0

def sampleWorld (log : List (Action sampleDeployment)) : World sampleDeployment :=
  Run.final exec sampleGenesis log

theorem sample_run (log : List (Action sampleDeployment)) (effective : (log.foldlM exec sampleGenesis).isOk = true) :
    Run exec (fun _ _ => True) sampleGenesis log (sampleWorld log) := Run.run_final effective

def Quiet (world : World sampleDeployment) (call : Action sampleDeployment) : Prop :=
  world.environment = sampleEnvironment 50 false ∧ ∀ environment, call.surroundings environment = environment

theorem sample_quiet_run (log : List (Action sampleDeployment))
    (quiet : ∀ call ∈ log, ∀ environment, Action.surroundings environment call = environment)
    (effective : (log.foldlM exec sampleGenesis).isOk = true) :
    Run exec Quiet sampleGenesis log (sampleWorld log) ∧ (sampleWorld log).environment = sampleEnvironment 50 false := by
  refine Run.of_foldlM (motive := fun world => world.environment = sampleEnvironment 50 false)
    (Run.foldlM_eq_final effective) rfl ?_
  intro before after call member same success
  refine ⟨⟨same, quiet call member⟩, ?_⟩
  rcases exec_surroundings success with kept | kept
  · rw [kept, same]
  · rw [kept, quiet call member, same]

def sampleExtraData (number : ℕ) (parentRef : Address) (attempt : ℕ) : Bytes :=
  encodeExtraData sampleImplementation.domainHash number parentRef attempt

def sampleGame : Address :=
  (sampleDeployment.gameUUID multiProofGameType 42 (sampleExtraData 1010 8 0)).setWidth 160

def sampleProof (laneId : UInt8) (recipient : Address) : Bytes :=
  laneId :: BigEndian.toBytes 20 recipient.toNat ++ [1, 2, 3]

def sampleLog : List (Action sampleDeployment) :=
  [.deposit 1 1 50, .deposit 2 2 60, .create 1 0 42 (sampleExtraData 1010 8 0), .challenge 2 sampleGame,
    .submitProofLane sampleGame (sampleProof 0 15), .submitProofLane sampleGame (sampleProof 2 1),
    .resolve sampleGame, .environment (sampleEnvironment 60 true)]

theorem settlement_pays_sample_bonds : ∃ game, (sampleWorld sampleLog).games sampleGame = some game ∧
    game.status = .defenderWins ∧ ∀ mode, mode ≠ .undecided →
      ((game.closedIn mode).settlementCredits.map (·.amount)).sum = 51 := by
  have facts : ((sampleWorld sampleLog).games sampleGame).map (fun game => (game.status, game.totalBonds)) =
      some (.defenderWins, 51) := by decide +kernel
  obtain ⟨game, found, same⟩ := Option.map_eq_some_iff.mp facts
  obtain ⟨won, collected⟩ := Prod.mk.inj same
  refine ⟨game, found, won, ?_⟩
  intro mode decided
  have settles := settlement_pays_bonds (sample_run sampleLog (by decide +kernel)) found fun _ => by simp [won]
  obtain ⟨_, _, _, _, _, total⟩ := settles.1 (by decide +kernel) mode decided
  rw [total, collected]

end World

end WorldChain.Dispute
