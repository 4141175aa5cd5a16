import WorldChain.Dispute.LibProof

/-! # The staking vault

`ERC20StakingVault` keeps three records over one token: spendable balances, pending withdrawals with the time of their
latest request, and the bonds locked for each game.
-/

namespace WorldChain.Dispute

open Machine

/-- An account's pending external withdrawal. -/
structure WithdrawalRequest where
  amount : ℕ
  timestamp : ℕ
deriving DecidableEq, Repr

/-- The bonds a game has in custody and whether its pot has been distributed. -/
structure GameBond where
  proposerBond : ℕ
  challengerBond : ℕ
  settled : Bool
deriving DecidableEq, Repr

/-- A single credit within a game settlement. -/
structure Payout where
  recipient : Address
  amount : ℕ
deriving DecidableEq, Repr

/-- The answers the vault gets from the contracts around it during one call. -/
structure Context where
  timestamp : ℕ
  paused : Bool
  tokenAccepts : Bool
  factoryOwner : Address
  proxyAdmin : Address
  proxyAdminOwner : Address
  gameImplementation : Address
  games : (gameType : ℕ) → (rootClaim : Bytes32) → (extraData : Bytes) → Address

/-- The answers the vault gets from the game that calls it. -/
structure GameView where
  gameType : ℕ
  disputeGameFactory : Address
  bondVault : Address
  gameData : ℕ × Bytes32 × Bytes
  gameCreator : Address
  l1Head : Bytes32
  proposerBond : ℕ
  challenger : Address
  challengerBond : ℕ

def packedArgs (creator : Address) (rootClaim l1Head : Bytes32) (extraData : Bytes) : Bytes :=
  BigEndian.toBytes 20 creator.toNat ++ BigEndian.toBytes 32 rootClaim.toNat ++
    BigEndian.toBytes 32 l1Head.toNat ++ extraData

structure ERC20StakingVault where
  token : Address → ℕ
  availableBalance : Address → ℕ
  withdrawals : Address → WithdrawalRequest
  gameBonds : Address → GameBond

namespace ERC20StakingVault

def safeTransfer (accepts : Bool) (token : Address → ℕ) (source target : Address) (amount : ℕ) :
    Except Revert (Address → ℕ) := do
  revertIf (accepts = false ∨ token source < amount) .tokenTransferFailed
  pure (Ledger.credit (Ledger.debit token source amount) target amount)

def fresh (token : Address → ℕ) : ERC20StakingVault where
  token := token
  availableBalance := fun _ => 0
  withdrawals := fun _ => ⟨0, 0⟩
  gameBonds := fun _ => ⟨0, 0, false⟩

variable (deployment : Deployment) (context : Context) (vault : ERC20StakingVault)

def deposit (sender account : Address) (amount : ℕ) : Except Revert ERC20StakingVault := do
  revertIf (account = 0#160) .invalidAccount
  revertIf (amount = 0) .invalidAmount
  let balanceBefore := vault.token deployment.bondVault
  let token ← safeTransfer context.tokenAccepts vault.token sender deployment.bondVault amount
  let received ← checkedSub (token deployment.bondVault) balanceBefore
  revertIf (received ≠ amount) (.exactTransferRequired amount received)
  let availableBalance ← creditChecked vault.availableBalance account amount
  pure { vault with token, availableBalance }

def requestWithdrawal (sender : Address) (amount : ℕ) : Except Revert ERC20StakingVault := do
  revertIf (amount = 0) .invalidWithdrawal
  let available := vault.availableBalance sender
  revertIf (available < amount) (.insufficientBalance sender available amount)
  let pending ← checkedAdd (vault.withdrawals sender).amount amount
  -- the event reports the claim time, whose computation is checked
  let _availableAt ← checkedAdd context.timestamp deployment.delaySeconds
  pure { vault with
    availableBalance := Ledger.debit vault.availableBalance sender amount
    withdrawals := Function.update vault.withdrawals sender ⟨pending, context.timestamp⟩ }

def withdraw (sender : Address) (amount : ℕ) : Except Revert ERC20StakingVault := do
  revertIf (amount = 0) .invalidWithdrawal
  revertIf (context.paused = true) .withdrawalPaused
  let request := vault.withdrawals sender
  revertIf (request.amount < amount ∨ request.timestamp = 0) .invalidWithdrawal
  let availableAt ← checkedAdd request.timestamp deployment.delaySeconds
  revertIf (context.timestamp < availableAt) (.withdrawalDelayNotMet availableAt)
  let remaining := request.amount - amount
  let token ← safeTransfer context.tokenAccepts vault.token deployment.bondVault sender amount
  pure { vault with
    token
    withdrawals := Function.update vault.withdrawals sender
      ⟨remaining, if remaining = 0 then 0 else request.timestamp⟩ }

def proxyAdminOwner : Except Revert Address := do
  revertIf (context.proxyAdmin = 0#160) .invalidVaultConfiguration
  pure context.proxyAdminOwner

def ownersAligned : Except Revert Unit := do
  let vaultOwner ← proxyAdminOwner context
  revertIf (context.factoryOwner ≠ vaultOwner) (.ownerMismatch context.factoryOwner vaultOwner)

def debitAvailable (account : Address) (amount : ℕ) : Except Revert (Address → ℕ) := do
  let available := vault.availableBalance account
  revertIf (available < amount) (.insufficientBalance account available amount)
  pure (Ledger.debit vault.availableBalance account amount)

def registeredGame (sender : Address) (game : GameView) : Except Revert Unit := do
  revertIf (game.gameData.1 ≠ multiProofGameType) (.gameNotRegistered sender)
  revertIf (context.games game.gameData.1 game.gameData.2.1 game.gameData.2.2 ≠ sender ∨
    game.bondVault ≠ deployment.bondVault) (.gameNotRegistered sender)

def lockProposerBond (sender : Address) (game : GameView) : Except Revert ERC20StakingVault := do
  ownersAligned context
  revertIf (game.gameType ≠ multiProofGameType ∨ game.disputeGameFactory ≠ deployment.disputeGameFactory ∨
    game.bondVault ≠ deployment.bondVault) (.gameNotRegistered sender)
  -- the factory registers a game only after `initialize` returns, so the caller is authenticated by
  -- the clone address its creation data determines
  let (gameType, rootClaim, extraData) := game.gameData
  let uuid := deployment.gameUUID gameType rootClaim extraData
  let expectedGame := deployment.predictDeterministicAddress context.gameImplementation
    (packedArgs game.gameCreator rootClaim game.l1Head extraData) uuid deployment.disputeGameFactory
  revertIf (expectedGame ≠ sender) (.unexpectedGameAddress expectedGame sender)
  revertIf ((vault.gameBonds sender).proposerBond ≠ 0) (.gameBondAlreadyInitialized sender)
  revertIf (game.proposerBond = 0) .invalidVaultConfiguration
  let availableBalance ← vault.debitAvailable game.gameCreator game.proposerBond
  pure { vault with
    availableBalance
    gameBonds := Function.update vault.gameBonds sender ⟨game.proposerBond, 0, false⟩ }

def lockChallengerBond (sender : Address) (game : GameView) : Except Revert ERC20StakingVault := do
  ownersAligned context
  registeredGame deployment context sender game
  let bond := vault.gameBonds sender
  revertIf (bond.proposerBond = 0) (.gameNotRegistered sender)
  revertIf (bond.challengerBond ≠ 0 ∨ bond.settled = true) (.challengerBondAlreadyLocked sender)
  revertIf (game.challenger = 0#160 ∨ game.challengerBond = 0) .invalidVaultConfiguration
  let availableBalance ← vault.debitAvailable game.challenger game.challengerBond
  pure { vault with
    availableBalance
    gameBonds := Function.update vault.gameBonds sender { bond with challengerBond := game.challengerBond } }

/-- The first loop of `settle`. -/
def payoutTotal (payouts : List Payout) : Except Revert ℕ :=
  payouts.foldlM (fun total payout => checkedAdd total payout.amount) 0

/-- The second loop of `settle`. -/
def creditPayouts (ledger : Address → ℕ) (payouts : List Payout) : Except Revert (Address → ℕ) :=
  payouts.foldlM (fun ledger payout => creditChecked ledger payout.recipient payout.amount) ledger

def settle (sender : Address) (game : GameView) (payouts : List Payout) : Except Revert ERC20StakingVault := do
  registeredGame deployment context sender game
  let bond := vault.gameBonds sender
  revertIf (bond.proposerBond = 0) (.gameNotRegistered sender)
  revertIf (bond.settled = true) (.gameAlreadySettled sender)
  let total ← payoutTotal payouts
  let expected ← checkedAdd bond.proposerBond bond.challengerBond
  revertIf (total ≠ expected) (.invalidPayoutTotal expected total)
  let availableBalance ← creditPayouts vault.availableBalance payouts
  pure { vault with
    availableBalance
    gameBonds := Function.update vault.gameBonds sender { bond with settled := true } }

/-! ## What each entry point does when it succeeds -/

variable {deployment context vault} {after : ERC20StakingVault} {sender account : Address} {amount : ℕ}
  {game : GameView} {payouts : List Payout}

theorem safeTransfer_eq_ok {accepts : Bool} {token moved : Address → ℕ} {source target : Address} :
    safeTransfer accepts token source target amount = .ok moved ↔
      accepts = true ∧ amount ≤ token source ∧
        Ledger.credit (Ledger.debit token source amount) target amount = moved := by
  simp [safeTransfer, and_assoc]

theorem debitAvailable_eq_ok {debited : Address → ℕ} :
    vault.debitAvailable account amount = .ok debited ↔
      amount ≤ vault.availableBalance account ∧
        Ledger.debit vault.availableBalance account amount = debited := by
  simp [debitAvailable]

theorem deposit_spec (success : vault.deposit deployment context sender account amount = .ok after) :
    account ≠ 0#160 ∧ amount ≠ 0 ∧ after.token deployment.bondVault = vault.token deployment.bondVault + amount ∧
      after = { vault with token := after.token, availableBalance := Ledger.credit vault.availableBalance account amount } := by
  simp only [deposit, bind_eq_ok, revertIf_eq_ok, checkedSub_eq_ok, creditChecked_eq_ok, pure_eq_ok,
    safeTransfer_eq_ok, not_not, ne_eq] at success
  obtain ⟨_, nonzero, _, positive, moved, ⟨_, _, transferred⟩, received, ⟨grown, rfl⟩, _, exact, _, ⟨_, rfl⟩, rfl⟩ :=
    success
  refine ⟨nonzero, positive, ?_, rfl⟩
  change moved deployment.bondVault = _
  omega

theorem requestWithdrawal_spec
    (success : vault.requestWithdrawal deployment context sender amount = .ok after) :
    amount ≠ 0 ∧ amount ≤ vault.availableBalance sender ∧
      after = { vault with
        availableBalance := Ledger.debit vault.availableBalance sender amount
        withdrawals := Function.update vault.withdrawals sender
          ⟨(vault.withdrawals sender).amount + amount, context.timestamp⟩ } := by
  simp only [requestWithdrawal, bind_eq_ok, revertIf_eq_ok, checkedAdd_eq_ok, pure_eq_ok, not_lt] at success
  obtain ⟨_, positive, _, covered, _, ⟨_, rfl⟩, _, _, rfl⟩ := success
  exact ⟨positive, covered, rfl⟩

theorem withdraw_spec (success : vault.withdraw deployment context sender amount = .ok after) :
    amount ≠ 0 ∧ amount ≤ (vault.withdrawals sender).amount ∧ (vault.withdrawals sender).timestamp ≠ 0 ∧
      (vault.withdrawals sender).timestamp + deployment.delaySeconds ≤ context.timestamp ∧
      amount ≤ vault.token deployment.bondVault ∧
      after = { vault with
        token := Ledger.credit (Ledger.debit vault.token deployment.bondVault amount) sender amount
        withdrawals := Function.update vault.withdrawals sender
          ⟨(vault.withdrawals sender).amount - amount,
            if (vault.withdrawals sender).amount - amount = 0 then 0 else (vault.withdrawals sender).timestamp⟩ } := by
  simp only [withdraw, bind_eq_ok, revertIf_eq_ok, checkedAdd_eq_ok, safeTransfer_eq_ok, pure_eq_ok,
    not_or, not_lt] at success
  obtain ⟨_, positive, _, _, _, ⟨pending, requested⟩, _, ⟨_, rfl⟩, _, matured, _, ⟨_, held, rfl⟩, rfl⟩ := success
  exact ⟨positive, pending, requested, matured, held, rfl⟩

theorem lockProposerBond_spec
    (success : vault.lockProposerBond deployment context sender game = .ok after) :
    (vault.gameBonds sender).proposerBond = 0 ∧ game.proposerBond ≠ 0 ∧
      game.proposerBond ≤ vault.availableBalance game.gameCreator ∧
      after = { vault with
        availableBalance := Ledger.debit vault.availableBalance game.gameCreator game.proposerBond
        gameBonds := Function.update vault.gameBonds sender ⟨game.proposerBond, 0, false⟩ } := by
  simp only [lockProposerBond, bind_eq_ok, revertIf_eq_ok, debitAvailable_eq_ok, pure_eq_ok, not_not,
    ne_eq] at success
  obtain ⟨_, _, _, _, _, _, _, fresh, _, positive, _, ⟨covered, rfl⟩, rfl⟩ := success
  exact ⟨fresh, positive, covered, rfl⟩

theorem lockChallengerBond_spec
    (success : vault.lockChallengerBond deployment context sender game = .ok after) :
    (vault.gameBonds sender).proposerBond ≠ 0 ∧ (vault.gameBonds sender).challengerBond = 0 ∧
      (vault.gameBonds sender).settled = false ∧ game.challenger ≠ 0#160 ∧ game.challengerBond ≠ 0 ∧
      game.challengerBond ≤ vault.availableBalance game.challenger ∧
      after = { vault with
        availableBalance := Ledger.debit vault.availableBalance game.challenger game.challengerBond
        gameBonds := Function.update vault.gameBonds sender
          ⟨(vault.gameBonds sender).proposerBond, game.challengerBond, false⟩ } := by
  simp only [lockChallengerBond, bind_eq_ok, revertIf_eq_ok, debitAvailable_eq_ok, pure_eq_ok, not_or,
    not_not, ne_eq, Bool.not_eq_true] at success
  obtain ⟨_, _, _, _, _, registered, _, ⟨unlocked, open'⟩, _, ⟨named, positive⟩, _, ⟨covered, rfl⟩, rfl⟩ := success
  refine ⟨registered, unlocked, open', named, positive, covered, ?_⟩
  rw [open']

theorem payoutTotal_eq_ok {total : ℕ} (success : payoutTotal payouts = .ok total) :
    total = (payouts.map (·.amount)).sum := by
  suffices accumulated : ∀ start, payouts.foldlM (fun total payout => checkedAdd total payout.amount) start =
      Except.ok total → total = start + (payouts.map (·.amount)).sum by
    simpa using accumulated 0 success
  clear success
  intro start success
  induction payouts generalizing start with
  | nil =>
    simp only [List.foldlM_nil, pure_eq_ok] at success
    simp [success]
  | cons payout rest ih =>
    simp only [List.foldlM_cons, bind_eq_ok, checkedAdd_eq_ok] at success
    obtain ⟨_, ⟨_, rfl⟩, success⟩ := success
    rw [ih _ success, List.map_cons, List.sum_cons, Nat.add_assoc]

theorem creditPayouts_sum {ledger credited : Address → ℕ} (success : creditPayouts ledger payouts = .ok credited) :
    ∑ account, credited account = ∑ account, ledger account + (payouts.map (·.amount)).sum := by
  unfold creditPayouts at success
  induction payouts generalizing ledger with
  | nil =>
    simp only [List.foldlM_nil, pure_eq_ok] at success
    simp [success]
  | cons payout rest ih =>
    simp only [List.foldlM_cons, bind_eq_ok, creditChecked_eq_ok] at success
    obtain ⟨_, ⟨_, rfl⟩, success⟩ := success
    rw [ih success, Ledger.sum_credit, List.map_cons, List.sum_cons, Nat.add_assoc]

theorem settle_spec (success : vault.settle deployment context sender game payouts = .ok after) :
    (vault.gameBonds sender).proposerBond ≠ 0 ∧ (vault.gameBonds sender).settled = false ∧
      (payouts.map (·.amount)).sum =
        (vault.gameBonds sender).proposerBond + (vault.gameBonds sender).challengerBond ∧
      creditPayouts vault.availableBalance payouts = .ok after.availableBalance ∧
      after = { vault with
        availableBalance := after.availableBalance
        gameBonds := Function.update vault.gameBonds sender
          ⟨(vault.gameBonds sender).proposerBond, (vault.gameBonds sender).challengerBond, true⟩ } := by
  simp only [settle, bind_eq_ok, revertIf_eq_ok, checkedAdd_eq_ok, pure_eq_ok, not_not, ne_eq,
    Bool.not_eq_true] at success
  obtain ⟨_, _, _, registered, _, unsettled, total, summed, _, ⟨_, rfl⟩, _, exact, _, credited, rfl⟩ := success
  exact ⟨registered, unsettled, (payoutTotal_eq_ok summed).symm.trans exact, credited, rfl⟩

theorem settle_ne_invalidPayoutTotal {expected actual : ℕ}
    (balanced : (payouts.map (·.amount)).sum =
      (vault.gameBonds sender).proposerBond + (vault.gameBonds sender).challengerBond) :
    vault.settle deployment context sender game payouts ≠ .error (.invalidPayoutTotal expected actual) := by
  intro failed
  simp only [settle, registeredGame, bind_eq_error, bind_eq_ok, revertIf_eq_error, revertIf_eq_ok,
    checkedAdd_eq_ok, reduceCtorEq, and_false, exists_false, false_or, or_false] at failed
  obtain ⟨_, _, _, _, _, _, failed⟩ := failed
  rcases failed with failed | ⟨total, summed, failed⟩
  · cases foldlM_error (motive := (· = .panic)) (fun _ _ _ => checkedAdd_eq_error) failed
  rcases failed with failed | ⟨_, ⟨_, rfl⟩, failed⟩
  · cases checkedAdd_eq_error failed
  rcases failed with ⟨unequal, _⟩ | ⟨_, _, failed⟩
  · exact unequal ((payoutTotal_eq_ok summed).trans balanced)
  rcases failed with failed | ⟨_, _, failed⟩
  · cases foldlM_error (motive := (· = .panic)) (fun _ _ _ => creditChecked_eq_error) failed
  · cases failed

theorem creditPayouts_apply {ledger credited : Address → ℕ} (success : creditPayouts ledger payouts = .ok credited)
    (account : Address) : credited account =
      ledger account + (payouts.map fun payout => if account = payout.recipient then payout.amount else 0).sum := by
  unfold creditPayouts at success
  induction payouts generalizing ledger with
  | nil =>
    simp only [List.foldlM_nil, pure_eq_ok] at success
    simp [success]
  | cons payout rest ih =>
    simp only [List.foldlM_cons, bind_eq_ok, creditChecked_eq_ok] at success
    obtain ⟨_, ⟨_, rfl⟩, success⟩ := success
    rw [ih success, Ledger.credit_apply, List.map_cons, List.sum_cons, Nat.add_assoc]

/-! ## The vault as a machine -/

/-- The entry points of the vault, and token transfers it takes no part in. -/
inductive Call where
  | deposit (sender account : Address) (amount : ℕ)
  | requestWithdrawal (sender : Address) (amount : ℕ)
  | withdraw (sender : Address) (amount : ℕ)
  | lockProposerBond (sender : Address) (game : GameView)
  | lockChallengerBond (sender : Address) (game : GameView)
  | settle (sender : Address) (game : GameView) (payouts : List Payout)
  | transfer (source target : Address) (amount : ℕ)

/-- A call in the surroundings it is made in. -/
structure Transaction where
  context : Context
  call : Call

def exec (deployment : Deployment) (vault : ERC20StakingVault) (transaction : Transaction) :
    Except Revert ERC20StakingVault :=
  match transaction.call with
  | .deposit sender account amount => vault.deposit deployment transaction.context sender account amount
  | .requestWithdrawal sender amount => vault.requestWithdrawal deployment transaction.context sender amount
  | .withdraw sender amount => vault.withdraw deployment transaction.context sender amount
  | .lockProposerBond sender game => vault.lockProposerBond deployment transaction.context sender game
  | .lockChallengerBond sender game => vault.lockChallengerBond deployment transaction.context sender game
  | .settle sender game payouts => vault.settle deployment transaction.context sender game payouts
  | .transfer source target amount => do
    revertIf (source = deployment.bondVault) .tokenTransferFailed
    let token ← safeTransfer transaction.context.tokenAccepts vault.token source target amount
    pure { vault with token }

/-- Any account, any game and any surroundings may call the vault at any time. -/
abbrev Runs (deployment : Deployment) : ERC20StakingVault → List Transaction → ERC20StakingVault → Prop :=
  Run (exec deployment) (fun _ _ => True)

end ERC20StakingVault

end WorldChain.Dispute
