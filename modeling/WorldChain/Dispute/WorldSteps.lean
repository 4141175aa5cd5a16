import WorldChain.Dispute.GameInvariant
import WorldChain.Dispute.World

/-! # What a transaction does to one game

Every transaction of a deployment is inverted once. `GameStep` lists what can happen to an existing clone and to the
vault's record of its bonds, with everything the contracts checked first; `Opens` is what a clone's initialization
checked.
-/

namespace WorldChain.Dispute.World

open Machine

variable {deployment : Deployment} {world after : World deployment}

variable {game next : MultiProofGame deployment} {args : CloneArgs} {implementation : Implementation deployment}
  {sender self : Address} {value : ℕ} {action : Action deployment} {bond recorded : GameBond}

theorem gameAt_eq_ok {address : Address} :
    world.gameAt address = .ok game ↔ world.games address = some game := by
  unfold gameAt
  split <;> simp_all

/-! ## Creation -/

/-- A clone as its initialization leaves it. -/
def opened (world : World deployment) (implementation : Implementation deployment) (args : CloneArgs) :
    MultiProofGame deployment :=
  { MultiProofGame.blank implementation args with
    createdAt := world.now
    initialized := true
    l1OriginNumber := (world.environment.blockNumber - 1) % 2 ^ 64
    claimData := ⟨.unchallenged, 0#160, world.now + implementation.config.challengePeriod, 0#8, .none⟩
    refundModeCredit := Ledger.credit (fun _ => 0) args.gameCreator implementation.config.proposerBond
    totalBonds := implementation.config.proposerBond
    wasRespectedGameTypeWhenCreated := decide (world.registry.respectedGameType = multiProofGameType) }

/-- What initialization checks of a clone's arguments. -/
structure Opens (world : World deployment) (implementation : Implementation deployment) (args : CloneArgs)
    (parentRef : Address) (starting : Proposal) : Prop where
  sized : args.calldataLength = 0xDA
  domain : args.proposalDomainHash = implementation.domainHash
  parentRead : args.parentRef = .ok parentRef
  validParent : world.isValidParent parentRef = .ok true
  startRead : world.startingProposal args = .ok starting
  advanced : args.l2SequenceNumber = starting.l2SequenceNumber + implementation.config.blockInterval
  narrow : args.l2SequenceNumber ≤ uint64Max
  retryable : world.retryable implementation args parentRef = .ok ()
  onTime : world.now + implementation.config.challengePeriod ≤ uint64Max

theorem prepare_spec {prepared : MultiProofGame deployment}
    (success : world.prepare sender value (.blank implementation args) = .ok prepared) :
    ∃ parentRef starting, world.Opens implementation args parentRef starting ∧
      prepared = { MultiProofGame.blank implementation args with
        l1OriginNumber := (world.environment.blockNumber - 1) % 2 ^ 64
        claimData := ⟨.unchallenged, 0#160, world.now + implementation.config.challengePeriod, 0#8, .none⟩
        initialized := true } := by
  simp only [prepare, bind_eq_ok, revertIf_eq_ok, checkedAdd_eq_ok, checkedSub_eq_ok,
    toTimestamp_eq_ok, pure_eq_ok, not_not, ne_eq, not_lt, gt_iff_lt, Bool.not_eq_false] at success
  obtain ⟨_, _, _, sized, _, _, _, _, _, _, _, domain, parentRef, parentRead, _, validParent, _, rfl, starting, startRead,
    _, ⟨_, rfl⟩, _, advanced, _, narrow, _, retryable, _, ⟨_, rfl⟩, _, ⟨_, rfl⟩, _, ⟨onTime, rfl⟩, rfl⟩ := success
  exact ⟨parentRef, starting, ⟨sized, domain, parentRead, validParent, startRead, advanced, narrow, retryable, onTime⟩,
    rfl⟩

theorem initializeClone_spec {vault : ERC20StakingVault}
    (success : world.initializeClone self sender value (.blank implementation args) = .ok (game, vault)) :
    (∃ parentRef starting, world.Opens implementation args parentRef starting) ∧
      game = world.opened implementation args ∧
      implementation.config.proposerBond ≤ uint256Max ∧
      ∃ view : GameView, view.proposerBond = implementation.config.proposerBond ∧
        world.vault.lockProposerBond deployment world.context self view = .ok vault := by
  simp only [initializeClone, bind_eq_ok, toTimestamp_eq_ok, pure_eq_ok, Prod.mk.injEq] at success
  obtain ⟨prepared, ready, _, locked, bonded, deposited, _, ⟨_, rfl⟩, rfl, rfl⟩ := success
  obtain ⟨parentRef, starting, opens, rfl⟩ := prepare_spec ready
  obtain ⟨fits, rfl⟩ := MultiProofGame.depositBond_spec deposited
  refine ⟨⟨parentRef, starting, opens⟩, ?_, ?_, _, rfl, locked⟩
  · simp [opened, MultiProofGame.blank]
  · simpa [MultiProofGame.blank] using fits

/-- The factory opened a clone for `args` at `address`. -/
structure Creation (world after : World deployment) (address : Address) (implementation : Implementation deployment)
    (args : CloneArgs) : Prop where
  vacant : world.games address = none
  unclaimed : world.environment.others address = none
  current : world.environment.implementation.map Prod.snd = some implementation
  opens : ∃ parentRef starting, world.Opens implementation args parentRef starting
  fits : implementation.config.proposerBond ≤ uint256Max
  unfiled : world.registered args.rootClaim args.extraData = none
  games : after.games = Function.update world.games address (some (world.opened implementation args))
  bonds : after.vault.gameBonds =
    Function.update world.vault.gameBonds address ⟨implementation.config.proposerBond, 0, false⟩
  registered : after.registered = Function.update world.registered args.rootClaim
    (Function.update (world.registered args.rootClaim) args.extraData (some address))
  environment : after.environment = world.environment

theorem create_spec {rootClaim : Bytes32} {extraData : Bytes}
    (success : world.create sender value rootClaim extraData = .ok after) :
    ∃ self implementation, Creation world after self implementation
      ⟨sender, rootClaim, world.environment.blockHash, extraData⟩ := by
  unfold create at success
  split at success
  · cases success
  · next implementationAddress implementation current =>
    simp only [bind_eq_ok, revertIf_eq_ok, pure_eq_ok, not_or, Option.not_isSome_iff_eq_none] at success
    obtain ⟨_, ⟨vacant, unclaimed⟩, ⟨game, vault⟩, initialized, _, unfiled, rfl⟩ := success
    obtain ⟨opens, rfl, fits, view, amount, locked⟩ := initializeClone_spec initialized
    obtain ⟨_, _, _, rfl⟩ := ERC20StakingVault.lockProposerBond_spec locked
    exact ⟨_, implementation,
      { vacant, unclaimed, opens, fits, unfiled
        current := by simp [current]
        games := rfl, bonds := by simp [amount], registered := rfl, environment := rfl }⟩

/-! ## Calls to an existing clone -/

/-- What one transaction can do to an existing clone and to the vault's record of its bonds. -/
inductive GameStep (world : World deployment) (self : Address) (game : MultiProofGame deployment)
    (bond : GameBond) : Action deployment → MultiProofGame deployment → GameBond → Prop
  | challenge {sender : Address} (challengeable : game.Challengeable world.now) (named : sender ≠ 0#160)
      (unlocked : bond.challengerBond = 0)
      (fits : game.totalBonds + game.config.challengerBond ≤ uint256Max) :
      GameStep world self game bond (.challenge sender self) (game.challengedBy sender)
        ⟨bond.proposerBond, game.config.challengerBond, false⟩
  | prove {proof : Bytes} {lane : ProofLane}
      (accepts : game.Accepts world.now (world.parentResolution game.args) (world.startingProposal game.args)
        world.environment.verify proof lane) :
      GameStep world self game bond (.submitProofLane self proof)
        (game.acceptLane lane (decodeCompact proof).recipient) bond
  | resolve {parent : ParentResolution} {status : GameStatus} {reason : InvalidationReason} {credit : Address → ℕ}
      (running : game.status = .inProgress) (parentRead : world.parentResolution game.args = .ok parent)
      (decided : game.decideOutcome world.now parent = .ok (status, reason, credit)) :
      GameStep world self game bond (.resolve self) (game.resolvedWith world.now status reason credit) bond
  | close {anchored : AnchorStateRegistry} (mode : BondDistributionMode)
      (finalized : world.registry.isGameFinalized self = true) :
      GameStep world self game bond (.closeGame self anchored) (game.closedIn mode)
        ⟨bond.proposerBond, bond.challengerBond, true⟩

def Action.surroundings (environment : Environment deployment) : Action deployment → Environment deployment
  | .environment next => next
  | .closeGame _ anchored => { environment with registry := anchored }
  | _ => environment

/-- The clone at `address` took one step and nothing else changed but balances, and, after a settlement,
the registry. -/
structure Stepped (world after : World deployment) (action : Action deployment) (address : Address)
    (game next : MultiProofGame deployment) (bond : GameBond) : Prop where
  found : world.games address = some game
  step : GameStep world address game (world.vault.gameBonds address) action next bond
  games : after.games = Function.update world.games address (some next)
  bonds : after.vault.gameBonds = Function.update world.vault.gameBonds address bond
  registered : after.registered = world.registered
  environment : after.environment = action.surroundings world.environment

theorem challenge_spec (success : world.challenge sender self = .ok after) :
    ∃ game next bond, Stepped world after (.challenge sender self) self game next bond := by
  simp only [challenge, bind_eq_ok, gameAt_eq_ok, pure_eq_ok] at success
  obtain ⟨game, found, marked, success, vault, locked, bonded, deposited, rfl⟩ := success
  obtain ⟨challengeable, challenger, amount, next⟩ := MultiProofGame.markChallenged_spec success
  obtain ⟨fits, rfl⟩ := next deposited
  obtain ⟨_, unlocked, _, named, _, _, rfl⟩ := ERC20StakingVault.lockChallengerBond_spec locked
  rw [challenger] at named
  exact ⟨game, _, _,
    { found, step := .challenge challengeable named unlocked fits, games := rfl, bonds := by rw [amount]
      registered := rfl, environment := rfl }⟩

theorem submitProofLane_spec {proof : Bytes} (success : world.submitProofLane self proof = .ok after) :
    ∃ game next bond, Stepped world after (.submitProofLane self proof) self game next bond := by
  simp only [submitProofLane, bind_eq_ok, gameAt_eq_ok, pure_eq_ok] at success
  obtain ⟨game, found, proved, success, rfl⟩ := success
  obtain ⟨lane, accepts, rfl⟩ := MultiProofGame.submitProofLane_spec success
  exact ⟨game, _, world.vault.gameBonds self,
    { found, step := .prove accepts, games := rfl, bonds := by simp [setGame]
      registered := rfl, environment := rfl }⟩

theorem resolve_spec (success : world.resolve self = .ok after) :
    ∃ game next bond, Stepped world after (.resolve self) self game next bond := by
  simp only [resolve, bind_eq_ok, gameAt_eq_ok, pure_eq_ok] at success
  obtain ⟨game, found, resolved, success, rfl⟩ := success
  obtain ⟨running, _, parent, parentRead, status, reason, credit, decided, rfl⟩ :=
    MultiProofGame.resolve_eq_ok.mp success
  exact ⟨game, _, world.vault.gameBonds self,
    { found, step := .resolve running parentRead decided, games := rfl, bonds := by simp [setGame]
      registered := rfl, environment := rfl }⟩

theorem closeGame_spec {anchored : AnchorStateRegistry} (success : world.closeGame self anchored = .ok after) :
    after = world ∨ ∃ game next bond, Stepped world after (.closeGame self anchored) self game next bond := by
  simp only [closeGame, bind_eq_ok, gameAt_eq_ok] at success
  obtain ⟨game, found, success⟩ := success
  split at success
  · simp only [pure_eq_ok] at success
    exact .inl success.symm
  · simp only [pure_eq_ok] at success
    exact .inl success.symm
  · simp only [bind_eq_ok, revertIf_eq_ok, pure_eq_ok, Bool.not_eq_false] at success
    obtain ⟨_, _, _, finalized, vault, settled, rfl⟩ := success
    obtain ⟨_, _, _, _, balances⟩ := ERC20StakingVault.settle_spec settled
    exact .inr ⟨game, _, _,
      { found, step := .close _ finalized, games := rfl, bonds := by rw [balances]
        registered := rfl, environment := rfl }⟩

/-! ## One transaction, seen from the whole world and from one address -/

def Action.target : Action deployment → Option Address
  | .challenge _ game | .submitProofLane game _ | .resolve game => some game
  | _ => none

/-- No clone, no bond and no entry of the factory changed; at most the surroundings did. -/
structure Untouched (world after : World deployment) (action : Action deployment) : Prop where
  games : after.games = world.games
  bonds : after.vault.gameBonds = world.vault.gameBonds
  registered : after.registered = world.registered
  environment : after.environment = world.environment ∨ after.environment = action.surroundings world.environment
  still : action.target = none

theorem callVault_spec {call : ERC20StakingVault.Call} (still : action.target = none)
    (success : world.callVault call = .ok after)
    (plain : ∀ vault, world.vault.exec deployment ⟨world.context, call⟩ = .ok vault →
      vault.gameBonds = world.vault.gameBonds) : Untouched world after action := by
  simp only [callVault, bind_eq_ok, pure_eq_ok] at success
  obtain ⟨vault, effective, rfl⟩ := success
  exact ⟨rfl, plain vault effective, rfl, .inl rfl, still⟩

theorem exec_effect (success : world.exec action = .ok after) :
    (action.target = none ∧ ∃ self implementation args, Creation world after self implementation args) ∨
      (∃ self game next bond, Stepped world after action self game next bond) ∨
      Untouched world after action := by
  cases action with
  | create sender value rootClaim extraData =>
    obtain ⟨self, implementation, creation⟩ := create_spec success
    exact .inl ⟨rfl, self, implementation, _, creation⟩
  | challenge sender self => exact .inr (.inl ⟨self, challenge_spec success⟩)
  | submitProofLane self proof => exact .inr (.inl ⟨self, submitProofLane_spec success⟩)
  | resolve self => exact .inr (.inl ⟨self, resolve_spec success⟩)
  | closeGame self anchored =>
    rcases closeGame_spec success with rfl | stepped
    · exact .inr (.inr ⟨rfl, rfl, rfl, .inl rfl, rfl⟩)
    · exact .inr (.inl ⟨self, stepped⟩)
  | deposit sender account amount =>
    refine .inr (.inr (callVault_spec rfl success ?_))
    intro vault effective
    rw [(ERC20StakingVault.deposit_spec effective).2.2.2]
  | requestWithdrawal sender amount =>
    refine .inr (.inr (callVault_spec rfl success ?_))
    intro vault effective
    rw [(ERC20StakingVault.requestWithdrawal_spec effective).2.2]
  | withdraw sender amount =>
    refine .inr (.inr (callVault_spec rfl success ?_))
    intro vault effective
    rw [(ERC20StakingVault.withdraw_spec effective).2.2.2.2.2]
  | transfer source target amount =>
    refine .inr (.inr (callVault_spec rfl success ?_))
    intro vault effective
    simp only [ERC20StakingVault.exec, bind_eq_ok, pure_eq_ok] at effective
    obtain ⟨_, _, _, _, rfl⟩ := effective
    rfl
  | environment next =>
    obtain rfl := Except.ok.inj success
    exact .inr (.inr ⟨rfl, rfl, rfl, .inr rfl, rfl⟩)

theorem GameStep.target_eq (step : GameStep world self game bond action next recorded) {address : Address}
    (named : action.target = some address) : address = self := by
  cases step with
  | challenge | prove | resolve => exact (Option.some.inj named).symm
  | close => cases named

theorem exec_game (success : world.exec action = .ok after) (address : Address) :
    (after.games address = world.games address ∧
        after.vault.gameBonds address = world.vault.gameBonds address ∧ action.target ≠ some address) ∨
      (action.target = none ∧ ∃ implementation args, Creation world after address implementation args) ∨
      (∃ game next bond, Stepped world after action address game next bond) := by
  rcases exec_effect success with
    ⟨still, self, implementation, args, creation⟩ | ⟨self, game, next, bond, stepped⟩ | untouched
  · by_cases here : address = self
    · subst here
      exact .inr (.inl ⟨still, implementation, args, creation⟩)
    · refine .inl ⟨?_, ?_, by simp [still]⟩
      · rw [creation.games, Function.update_of_ne here]
      · rw [creation.bonds, Function.update_of_ne here]
  · by_cases here : address = self
    · subst here
      exact .inr (.inr ⟨game, next, bond, stepped⟩)
    · refine .inl ⟨?_, ?_, fun named => here (stepped.step.target_eq named)⟩
      · rw [stepped.games, Function.update_of_ne here]
      · rw [stepped.bonds, Function.update_of_ne here]
  · exact .inl ⟨congrFun untouched.games address, congrFun untouched.bonds address, by simp [untouched.still]⟩

theorem game_invariant {motive : MultiProofGame deployment → GameBond → Prop}
    {allowed : World deployment → Action deployment → Prop} {environment : Environment deployment}
    {token : Address → ℕ} {log : List (Action deployment)}
    (run : Run exec allowed (genesis environment token) log world)
    (initial : ∀ {before after : World deployment} {self : Address} {implementation : Implementation deployment}
      {args : CloneArgs}, Creation before after self implementation args →
      motive (before.opened implementation args) ⟨implementation.config.proposerBond, 0, false⟩)
    (step : ∀ {before : World deployment} {self : Address} {game next : MultiProofGame deployment}
      {bond recorded : GameBond} {action : Action deployment}, motive game bond →
      GameStep before self game bond action next recorded → motive next recorded)
    (found : world.games self = some game) : motive game (world.vault.gameBonds self) := by
  refine run.invariant (motive := fun world => ∀ self game, world.games self = some game →
    motive game (world.vault.gameBonds self)) (fun _ _ missing => by cases missing) ?_ self game found
  intro before after action holds _ success self game found
  rcases exec_game success self with
    ⟨games, bonds, _⟩ | ⟨_, implementation, args, creation⟩ | ⟨earlier, next, bond, stepped⟩
  · rw [bonds]
    exact holds self game (games ▸ found)
  · rw [creation.games, Function.update_self, Option.some.injEq] at found
    rw [creation.bonds, Function.update_self, ← found]
    exact initial creation
  · rw [stepped.games, Function.update_self, Option.some.injEq] at found
    rw [stepped.bonds, Function.update_self, ← found]
    exact step (holds self earlier stepped.found) stepped.step

theorem Creation.sound (creation : Creation world after self implementation args) :
    (world.opened implementation args).Sound ⟨implementation.config.proposerBond, 0, false⟩ where
  deadline := rfl
  lanes := by simp [opened]
  status := by simp [opened, MultiProofGame.blank, MultiProofGame.documentedStatus]
  recorded := rfl
  total := rfl
  fits := creation.fits
  refund := rfl
  uncredited := fun _ => rfl
  normal := fun resolved => absurd rfl resolved
  reason := fun _ => rfl

theorem GameStep.sound (sound : game.Sound bond) (step : GameStep world self game bond action next recorded) :
    next.Sound recorded := by
  cases step with
  | challenge challengeable named unlocked fits => exact sound.challenge challengeable named unlocked fits
  | prove accepts => exact sound.acceptLane _ accepts.running accepts.undecided accepts.fresh
  | resolve running _ decided => exact sound.resolve running decided
  | close mode _ => exact sound.close mode

theorem sound_of_run {allowed : World deployment → Action deployment → Prop} {environment : Environment deployment}
    {token : Address → ℕ} {log : List (Action deployment)}
    (run : Run exec allowed (genesis environment token) log world) (found : world.games self = some game) :
    game.Sound (world.vault.gameBonds self) :=
  game_invariant run (fun creation => creation.sound) (fun sound step => step.sound sound) found

/-! ## What lasts -/

/-- What a clone keeps for life, and what it keeps once it is resolved. -/
structure Continues (game next : MultiProofGame deployment) : Prop where
  implementation : next.implementation = game.implementation
  args : next.args = game.args
  respected : next.wasRespectedGameTypeWhenCreated = game.wasRespectedGameTypeWhenCreated
  status : game.status ≠ .inProgress → next.status = game.status

theorem GameStep.continues (step : GameStep world self game bond action next recorded) :
    Continues game next := by
  cases step with
  | challenge challengeable => exact ⟨rfl, rfl, rfl, fun _ => rfl⟩
  | prove accepts => exact ⟨rfl, rfl, rfl, fun _ => rfl⟩
  | resolve running => exact ⟨rfl, rfl, rfl, fun resolved => absurd running resolved⟩
  | close => exact ⟨rfl, rfl, rfl, fun _ => rfl⟩

section

variable {action : Action deployment} (success : world.exec action = .ok after)

include success

theorem exec_continues {address : Address} {game : MultiProofGame deployment}
    (found : world.games address = some game) :
    ∃ next, after.games address = some next ∧ Continues game next := by
  rcases exec_game success address with
    ⟨games, _, _⟩ | ⟨_, implementation, args, creation⟩ | ⟨earlier, next, bond, stepped⟩
  · exact ⟨game, games.trans found, rfl, rfl, rfl, fun _ => rfl⟩
  · cases creation.vacant.symm.trans found
  · obtain rfl := Option.some.inj (found.symm.trans stepped.found)
    exact ⟨next, by rw [stepped.games, Function.update_self], stepped.step.continues⟩

theorem exec_registered {rootClaim : Bytes32} {extraData : Bytes} {address : Address}
    (filed : world.registered rootClaim extraData = some address) :
    after.registered rootClaim extraData = some address := by
  rcases exec_effect success with
    ⟨_, self, implementation, args, creation⟩ | ⟨self, game, next, bond, stepped⟩ | untouched
  · rw [creation.registered]
    by_cases claim : rootClaim = args.rootClaim
    · subst claim
      have data : extraData ≠ args.extraData := by
        rintro rfl
        cases creation.unfiled.symm.trans filed
      rw [Function.update_self, Function.update_of_ne data, filed]
    · rw [Function.update_of_ne claim, filed]
  · rw [stepped.registered, filed]
  · rw [untouched.registered, filed]

theorem exec_surroundings :
    after.environment = world.environment ∨ after.environment = action.surroundings world.environment := by
  rcases exec_effect success with
    ⟨_, self, implementation, args, creation⟩ | ⟨self, game, next, bond, stepped⟩ | untouched
  · exact .inl creation.environment
  · exact .inr stepped.environment
  · exact untouched.environment

end

end WorldChain.Dispute.World
