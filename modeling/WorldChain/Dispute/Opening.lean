import WorldChain.Dispute.Retries

/-! # What suffices to open a game

`WorldSteps` inverts a successful creation. This is the other direction: a clone whose arguments pass the checks of
`Opens` is initialized, files under its identity if that is unused, and locks its bond if the vault holds one for its
creator.
-/

namespace WorldChain.Dispute

open Machine

theorem CloneArgs.fields_of_encode {args : CloneArgs} {domainHash : Bytes32} {parentRef : Address} {number attempt : ℕ}
    (written : args.extraData = World.encodeExtraData domainHash number parentRef attempt)
    (numberFits : number ≤ uint64Max) (attemptFits : attempt ≤ uint64Max) :
    args.calldataLength = 0xDA ∧ args.proposalDomainHash = domainHash ∧ args.parentRef = .ok parentRef ∧
      args.l2SequenceNumber = number ∧ args.attempt = attempt := by
  have hash := domainHash.isLt
  have reference := parentRef.isLt
  have fits : ∀ word ∈ [domainHash.toNat, number, parentRef.toNat, attempt], word < 256 ^ 32 := by
    simp only [List.mem_cons, List.not_mem_nil, or_false, forall_eq_or_imp, forall_eq]
    simp only [uint64Max] at numberFits attemptFits
    omega
  have words := BigEndian.decode_encode 32 _ fits
  change BigEndian.decode 32 4 (World.encodeExtraData domainHash number parentRef attempt) = _ at words
  rw [← written, BigEndian.decode_eq_wordAt] at words
  simp only [List.range_succ, List.range_zero, List.nil_append, List.map_cons, List.map_nil,
    List.cons_append, List.cons.injEq, and_true, Nat.zero_mul, Nat.one_mul] at words
  obtain ⟨first, second, third, fourth⟩ := words
  refine ⟨?_, ?_, ?_, second, fourth⟩
  · have sized : args.extraData.length = 128 := by
      rw [written, World.encodeExtraData, abiEncode]
      simp [BigEndian.encode]
    simp only [calldataLength, packed, packedArgs, List.length_append, BigEndian.toBytes_length, sized]
  · rw [proposalDomainHash, first, BitVec.ofNat_toNat, BitVec.setWidth_eq]
  · simp only [CloneArgs.parentRef, bind_eq_ok, revertIf_eq_ok, pure_eq_ok, third]
    exact ⟨(), by simp only [uint160Max]; omega, by rw [BitVec.ofNat_toNat, BitVec.setWidth_eq]⟩

namespace World

variable {deployment : Deployment} {world after : World deployment} {self parentRef : Address}
  {implementation : Implementation deployment} {args : CloneArgs} {starting : Proposal}

/-- What the chain and the vault add to the checks of a clone's arguments. -/
structure Admits (world : World deployment) (implementation : Implementation deployment) (sender clone : Address) :
    Prop where
  unpaused : world.registry.paused = false
  mined : 1 ≤ world.environment.blockNumber
  onTime : world.now + implementation.config.challengePeriod ≤ uint64Max
  aligned : ERC20StakingVault.ownersAligned world.context = .ok ()
  vacant : world.games clone = none ∧ world.environment.others clone = none
  funded : implementation.config.proposerBond ≤ world.vault.availableBalance sender

theorem prepare_of_opens (opens : world.Opens implementation args parentRef starting)
    (unpaused : world.registry.paused = false) (mined : 1 ≤ world.environment.blockNumber) :
    world.prepare deployment.disputeGameFactory 0 (.blank implementation args) =
      .ok { MultiProofGame.blank implementation args with
        l1OriginNumber := (world.environment.blockNumber - 1) % 2 ^ 64
        claimData := ⟨.unchallenged, 0#160, world.now + implementation.config.challengePeriod, 0#8, .none⟩
        initialized := true } := by
  have narrow := opens.narrow
  have onTime := opens.onTime
  have advanced := opens.advanced
  simp only [prepare, bind_eq_ok, revertIf_eq_ok, checkedAdd_eq_ok, checkedSub_eq_ok, toTimestamp_eq_ok, pure_eq_ok]
  refine ⟨(), by simp [MultiProofGame.blank], (), not_not.mpr opens.sized, (), by simp, (), by simp, (),
    by simp [unpaused], (), not_not.mpr opens.domain, parentRef, opens.parentRead, true, opens.validParent, (),
    by simp, starting, opens.startRead, _, ⟨?_, rfl⟩, (), ?_, (), not_lt.mpr narrow, (), opens.retryable, _,
    ⟨mined, rfl⟩, _, ⟨?_, rfl⟩, _, ⟨onTime, rfl⟩, rfl⟩
  · change starting.l2SequenceNumber + implementation.config.blockInterval ≤ uint256Max
    simp only [uint64Max, uint256Max] at narrow ⊢
    omega
  · exact not_not.mpr advanced
  · change world.now + implementation.config.challengePeriod ≤ uint256Max
    simp only [uint64Max, uint256Max] at onTime ⊢
    omega

def bonded (world : World deployment) (implementation : Implementation deployment) (sender self : Address) :
    ERC20StakingVault :=
  { world.vault with
    availableBalance := Ledger.debit world.vault.availableBalance sender implementation.config.proposerBond
    gameBonds := Function.update world.vault.gameBonds self ⟨implementation.config.proposerBond, 0, false⟩ }

def cloneAddress (deployment : Deployment) (implementationAddress : Address) (args : CloneArgs) : Address :=
  deployment.predictDeterministicAddress implementationAddress args.packed
    (deployment.gameUUID multiProofGameType args.rootClaim args.extraData) deployment.disputeGameFactory

section

variable {implementationAddress : Address}
  (current : world.environment.implementation = some (implementationAddress, implementation))

include current

theorem lockProposerBond_of_admits {game : MultiProofGame deployment} (same : game.implementation = implementation)
    (located : cloneAddress deployment implementationAddress game.args = self)
    (admits : world.Admits implementation game.args.gameCreator self)
    (unbonded : (world.vault.gameBonds self).proposerBond = 0) :
    world.vault.lockProposerBond deployment world.context self game.view =
      .ok (world.bonded implementation game.args.gameCreator self) := by
  subst same
  have address : world.context.gameImplementation = implementationAddress := by simp [context, current]
  have bond : game.implementation.config.proposerBond ≠ 0 := by
    have accepted := game.implementation.accepted
    simp only [GameConfig.Rejected, not_or] at accepted
    omega
  simp only [ERC20StakingVault.lockProposerBond, bind_eq_ok, revertIf_eq_ok, ERC20StakingVault.debitAvailable_eq_ok,
    pure_eq_ok, address]
  refine ⟨(), admits.aligned, (), ?_, (), not_not.mpr located, (), not_not.mpr unbonded, (), ?_, _,
    ⟨admits.funded, rfl⟩, rfl⟩
  · simp [MultiProofGame.view, game.implementation.vault]
  · simp only [MultiProofGame.view]
    omega

theorem initializeClone_of_opens (opens : world.Opens implementation args parentRef starting)
    (located : cloneAddress deployment implementationAddress args = self)
    (admits : world.Admits implementation args.gameCreator self)
    (unbonded : (world.vault.gameBonds self).proposerBond = 0) :
    world.initializeClone self deployment.disputeGameFactory 0 (.blank implementation args) =
      .ok (world.opened implementation args, world.bonded implementation args.gameCreator self) := by
  have fits : implementation.config.proposerBond ≤ uint256Max :=
    (Nat.le_mul_of_pos_right _ (by decide)).trans implementation.proposerBond_le
  have onTime := opens.onTime
  have prepared := prepare_of_opens opens admits.unpaused admits.mined
  simp only [initializeClone, bind_eq_ok, toTimestamp_eq_ok, pure_eq_ok]
  refine ⟨_, prepared, _, lockProposerBond_of_admits current rfl located admits unbonded,
    { MultiProofGame.blank implementation args with
      l1OriginNumber := (world.environment.blockNumber - 1) % 2 ^ 64
      claimData := ⟨.unchallenged, 0#160, world.now + implementation.config.challengePeriod, 0#8, .none⟩
      initialized := true
      refundModeCredit := Ledger.credit (fun _ => 0) args.gameCreator implementation.config.proposerBond
      totalBonds := implementation.config.proposerBond }, ?_, _, ⟨by omega, rfl⟩, rfl⟩
  simp only [MultiProofGame.depositBond, bind_eq_ok, creditChecked_eq_ok, checkedAdd_eq_ok, pure_eq_ok]
  refine ⟨_, ⟨?_, rfl⟩, _, ⟨?_, rfl⟩, ?_⟩
  · simpa [MultiProofGame.blank] using fits
  · simpa [MultiProofGame.blank] using fits
  · simp [MultiProofGame.blank]

end

section

variable {implementationAddress sender : Address} {rootClaim : Bytes32} {extraData : Bytes}
  (current : world.environment.implementation = some (implementationAddress, implementation))
  (opens : world.Opens implementation ⟨sender, rootClaim, world.environment.blockHash, extraData⟩ parentRef starting)
  (located : cloneAddress deployment implementationAddress
    ⟨sender, rootClaim, world.environment.blockHash, extraData⟩ = self)
  (admits : world.Admits implementation sender self) (unbonded : (world.vault.gameBonds self).proposerBond = 0)

include current opens located admits unbonded

theorem create_of_opens (unfiled : world.registered rootClaim extraData = none) :
    world.create sender 0 rootClaim extraData = .ok { world with
      vault := world.bonded implementation sender self
      games := Function.update world.games self
        (some (world.opened implementation ⟨sender, rootClaim, world.environment.blockHash, extraData⟩))
      registered := Function.update world.registered rootClaim
        (Function.update (world.registered rootClaim) extraData (some self)) } := by
  have initialized := initializeClone_of_opens current opens located admits unbonded
  subst located
  have vacant := admits.vacant
  rw [cloneAddress] at vacant
  simp only [create, current, bind_eq_ok, revertIf_eq_ok, pure_eq_ok]
  exact ⟨(), by simp [vacant], _, initialized, (), by simp [unfiled], rfl⟩

theorem create_of_filed (filed : world.registered rootClaim extraData ≠ none) :
    world.create sender 0 rootClaim extraData = .error .gameAlreadyExists := by
  have initialized := initializeClone_of_opens current opens located admits unbonded
  subst located
  have vacant := admits.vacant
  rw [cloneAddress] at vacant initialized
  simp only [create, current]
  rw [bind_eq_error]
  refine .inr ⟨(), revertIf_eq_ok.mpr (by simp [vacant]), ?_⟩
  rw [bind_eq_error]
  refine .inr ⟨_, initialized, ?_⟩
  rw [bind_eq_error]
  exact .inl (revertIf_eq_error.mpr ⟨Option.isSome_iff_ne_none.mpr filed, rfl⟩)

end

theorem unbonded_of_run {allowed : World deployment → Action deployment → Prop} {environment : Environment deployment}
    {token : Address → ℕ} {log : List (Action deployment)}
    (run : Run exec allowed (genesis environment token) log world) (vacant : world.games self = none) :
    (world.vault.gameBonds self).proposerBond = 0 := by
  refine run.invariant (motive := fun world => world.games self = none → (world.vault.gameBonds self).proposerBond = 0)
    (fun _ => rfl) ?_ vacant
  intro before after action unbonded _ success vacant
  rcases exec_game success self with
    ⟨games, bonds, _⟩ | ⟨_, implementation, args, creation⟩ | ⟨earlier, next, bond, stepped⟩
  · rw [bonds]
    exact unbonded (games ▸ vacant)
  · rw [creation.games, Function.update_self] at vacant
    cases vacant
  · rw [stepped.games, Function.update_self] at vacant
    cases vacant

end World

end WorldChain.Dispute
