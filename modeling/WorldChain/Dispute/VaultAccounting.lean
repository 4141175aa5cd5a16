import WorldChain.Dispute.Vault

/-! # Solvency and delay of the staking vault

Every successful transaction moves the vault's liabilities by exactly what it deposits or withdraws, and its token
holding by at least as much in the vault's favour. Each game's bonds follow one short history.
-/

namespace WorldChain.Dispute

open Machine

/-- What the vault still owes on a game's bonds. -/
def GameBond.locked (bond : GameBond) : ℕ :=
  if bond.settled then 0 else bond.proposerBond + bond.challengerBond

namespace ERC20StakingVault

def liabilities (vault : ERC20StakingVault) : ℕ :=
  ∑ account, vault.availableBalance account + ∑ account, (vault.withdrawals account).amount +
    ∑ game, (vault.gameBonds game).locked

/-- What a transaction brings into the vault. -/
def Transaction.deposited (transaction : Transaction) : ℕ :=
  match transaction.call with
  | .deposit _ _ amount => amount
  | _ => 0

/-- What a transaction pays out of the vault. -/
def Transaction.withdrawn (transaction : Transaction) : ℕ :=
  match transaction.call with
  | .withdraw _ amount => amount
  | _ => 0

def totalDeposits (log : List Transaction) : ℕ := (log.map Transaction.deposited).sum
def totalWithdrawals (log : List Transaction) : ℕ := (log.map Transaction.withdrawn).sum

variable {deployment : Deployment} {vault after : ERC20StakingVault} {transaction : Transaction}
  {log : List Transaction}

private theorem transfer_spec {context : Context} {source target : Address} {amount : ℕ}
    (success : exec deployment vault ⟨context, .transfer source target amount⟩ = .ok after) :
    vault.token deployment.bondVault ≤ after.token deployment.bondVault ∧
      after = { vault with token := after.token } := by
  simp only [exec, bind_eq_ok, revertIf_eq_ok, safeTransfer_eq_ok, pure_eq_ok] at success
  obtain ⟨_, foreign, _, ⟨_, _, rfl⟩, rfl⟩ := success
  refine ⟨?_, rfl⟩
  change _ ≤ Ledger.credit _ _ _ _
  rw [Ledger.credit_apply, Ledger.debit, Function.update_of_ne (Ne.symm foreign)]
  exact Nat.le_add_right ..

def Tidy (vault : ERC20StakingVault) : Prop :=
  ∀ game, (vault.gameBonds game).proposerBond = 0 → vault.gameBonds game = ⟨0, 0, false⟩

theorem exec_liabilities (tidy : vault.Tidy) (success : exec deployment vault transaction = .ok after) :
    after.liabilities + transaction.withdrawn = vault.liabilities + transaction.deposited := by
  obtain ⟨context, call⟩ := transaction
  cases call with
  | deposit sender account amount =>
    obtain ⟨_, _, _, same⟩ := deposit_spec success
    have credited := Ledger.sum_credit vault.availableBalance account amount
    rw [same]
    simp only [liabilities, Transaction.withdrawn, Transaction.deposited]
    omega
  | requestWithdrawal sender amount =>
    obtain ⟨_, covered, rfl⟩ := requestWithdrawal_spec success
    have debited := Ledger.sum_debit vault.availableBalance sender amount covered
    have queued := Ledger.sum_update_add WithdrawalRequest.amount vault.withdrawals sender
      ⟨(vault.withdrawals sender).amount + amount, context.timestamp⟩
    dsimp only at queued
    simp only [liabilities, Transaction.withdrawn, Transaction.deposited]
    omega
  | withdraw sender amount =>
    obtain ⟨_, pending, _, _, _, rfl⟩ := withdraw_spec success
    have claimed := Ledger.sum_update_add WithdrawalRequest.amount vault.withdrawals sender
      ⟨(vault.withdrawals sender).amount - amount,
        if (vault.withdrawals sender).amount - amount = 0 then 0 else (vault.withdrawals sender).timestamp⟩
    dsimp only at claimed
    simp only [liabilities, Transaction.withdrawn, Transaction.deposited]
    omega
  | lockProposerBond sender game =>
    obtain ⟨unlocked, _, covered, rfl⟩ := lockProposerBond_spec success
    have debited := Ledger.sum_debit vault.availableBalance game.gameCreator game.proposerBond covered
    have moved := Ledger.sum_update_add GameBond.locked vault.gameBonds sender ⟨game.proposerBond, 0, false⟩
    have none : (vault.gameBonds sender).locked = 0 := by rw [tidy sender unlocked]; rfl
    have locked : GameBond.locked ⟨game.proposerBond, 0, false⟩ = game.proposerBond := rfl
    simp only [liabilities, Transaction.withdrawn, Transaction.deposited]
    omega
  | lockChallengerBond sender game =>
    obtain ⟨_, none, unsettled, _, _, covered, rfl⟩ := lockChallengerBond_spec success
    have debited := Ledger.sum_debit vault.availableBalance game.challenger game.challengerBond covered
    have moved := Ledger.sum_update_add GameBond.locked vault.gameBonds sender
      ⟨(vault.gameBonds sender).proposerBond, game.challengerBond, false⟩
    have before : (vault.gameBonds sender).locked = (vault.gameBonds sender).proposerBond := by
      simp [GameBond.locked, none, unsettled]
    have locked : GameBond.locked ⟨(vault.gameBonds sender).proposerBond, game.challengerBond, false⟩ =
        (vault.gameBonds sender).proposerBond + game.challengerBond := rfl
    simp only [liabilities, Transaction.withdrawn, Transaction.deposited]
    omega
  | settle sender game payouts =>
    obtain ⟨_, unsettled, total, credited, same⟩ := settle_spec success
    have paid := creditPayouts_sum credited
    have released := Ledger.sum_update_add GameBond.locked vault.gameBonds sender
      ⟨(vault.gameBonds sender).proposerBond, (vault.gameBonds sender).challengerBond, true⟩
    have before : (vault.gameBonds sender).locked =
        (vault.gameBonds sender).proposerBond + (vault.gameBonds sender).challengerBond := by
      simp [GameBond.locked, unsettled]
    have freed : GameBond.locked ⟨(vault.gameBonds sender).proposerBond,
        (vault.gameBonds sender).challengerBond, true⟩ = 0 := rfl
    rw [same]
    simp only [liabilities, Transaction.withdrawn, Transaction.deposited]
    omega
  | transfer source target amount =>
    obtain ⟨_, same⟩ := transfer_spec success
    rw [same]
    rfl

theorem exec_holding (success : exec deployment vault transaction = .ok after) :
    vault.token deployment.bondVault + transaction.deposited ≤
      after.token deployment.bondVault + transaction.withdrawn := by
  obtain ⟨context, call⟩ := transaction
  cases call with
  | deposit sender account amount =>
    obtain ⟨_, _, grown, _⟩ := deposit_spec success
    simp only [Transaction.withdrawn, Transaction.deposited]
    omega
  | requestWithdrawal sender amount =>
    obtain ⟨_, _, rfl⟩ := requestWithdrawal_spec success
    rfl
  | withdraw sender amount =>
    obtain ⟨_, _, _, _, held, rfl⟩ := withdraw_spec success
    simp only [Transaction.withdrawn, Transaction.deposited, Ledger.credit_apply, Ledger.debit, Function.update_self]
    omega
  | lockProposerBond sender game =>
    obtain ⟨_, _, _, rfl⟩ := lockProposerBond_spec success
    rfl
  | lockChallengerBond sender game =>
    obtain ⟨_, _, _, _, _, _, rfl⟩ := lockChallengerBond_spec success
    rfl
  | settle sender game payouts =>
    obtain ⟨_, _, _, _, same⟩ := settle_spec success
    rw [same]
    rfl
  | transfer source target amount =>
    obtain ⟨grown, _⟩ := transfer_spec success
    exact grown

/-! ## The history of one game's bonds -/

/-- What can happen to the bonds of a game. -/
inductive BondEvent where
  | proposerLocked
  | challengerLocked
  | settled
deriving DecidableEq, Repr

def Transaction.bondEvent? (game : Address) (transaction : Transaction) : Option BondEvent :=
  match transaction.call with
  | .lockProposerBond sender _ => if sender = game then some .proposerLocked else none
  | .lockChallengerBond sender _ => if sender = game then some .challengerLocked else none
  | .settle sender _ _ => if sender = game then some .settled else none
  | _ => none

def bondEvents (game : Address) (log : List Transaction) : List BondEvent :=
  log.filterMap (Transaction.bondEvent? game)

/-- The bond record of a game and the events that led to it. -/
inductive BondHistory : GameBond → List BondEvent → Prop
  | absent : BondHistory ⟨0, 0, false⟩ []
  | proposed {proposer : ℕ} : proposer ≠ 0 → BondHistory ⟨proposer, 0, false⟩ [.proposerLocked]
  | challenged {proposer challenger : ℕ} : proposer ≠ 0 → challenger ≠ 0 →
      BondHistory ⟨proposer, challenger, false⟩ [.proposerLocked, .challengerLocked]
  | settled {proposer challenger : ℕ} {events : List BondEvent} :
      BondHistory ⟨proposer, challenger, false⟩ events → proposer ≠ 0 →
      BondHistory ⟨proposer, challenger, true⟩ (events ++ [.settled])

namespace BondHistory

variable {bond : GameBond} {events : List BondEvent}

theorem sublist (history : BondHistory bond events) :
    events.Sublist [.proposerLocked, .challengerLocked, .settled] := by
  cases history with
  | absent => decide
  | proposed _ => decide
  | challenged _ _ => decide
  | settled open' _ => cases open' <;> decide

theorem absent_of_zero (history : BondHistory bond events) (zero : bond.proposerBond = 0) :
    bond = ⟨0, 0, false⟩ ∧ events = [] := by
  cases history with
  | absent => exact ⟨rfl, rfl⟩
  | proposed positive => exact absurd zero positive
  | challenged positive _ => exact absurd zero positive
  | settled _ positive => exact absurd zero positive

theorem proposed_of_unchallenged (history : BondHistory bond events) (positive : bond.proposerBond ≠ 0)
    (unlocked : bond.challengerBond = 0) (unsettled : bond.settled = false) :
    events = [.proposerLocked] := by
  cases history with
  | absent => exact absurd rfl positive
  | proposed _ => rfl
  | challenged _ locked => exact absurd unlocked locked
  | settled _ _ => cases unsettled

end BondHistory

theorem exec_bondHistory {events : List BondEvent} (game : Address)
    (history : BondHistory (vault.gameBonds game) events)
    (success : exec deployment vault transaction = .ok after) :
    BondHistory (after.gameBonds game) (events ++ (transaction.bondEvent? game).toList) := by
  obtain ⟨context, call⟩ := transaction
  cases call with
  | deposit sender account amount =>
    obtain ⟨_, _, _, same⟩ := deposit_spec success
    rw [same]
    simpa [Transaction.bondEvent?] using history
  | requestWithdrawal sender amount =>
    obtain ⟨_, _, rfl⟩ := requestWithdrawal_spec success
    simpa [Transaction.bondEvent?] using history
  | withdraw sender amount =>
    obtain ⟨_, _, _, _, _, rfl⟩ := withdraw_spec success
    simpa [Transaction.bondEvent?] using history
  | lockProposerBond sender view =>
    obtain ⟨unlocked, positive, _, rfl⟩ := lockProposerBond_spec success
    by_cases own : sender = game
    · subst own
      obtain ⟨_, rfl⟩ := history.absent_of_zero unlocked
      simpa [Transaction.bondEvent?] using BondHistory.proposed positive
    · simpa [Transaction.bondEvent?, own, Ne.symm own] using history
  | lockChallengerBond sender view =>
    obtain ⟨proposed, unlocked, unsettled, _, positive, _, rfl⟩ := lockChallengerBond_spec success
    by_cases own : sender = game
    · subst own
      obtain rfl := history.proposed_of_unchallenged proposed unlocked unsettled
      simpa [Transaction.bondEvent?] using BondHistory.challenged proposed positive
    · simpa [Transaction.bondEvent?, own, Ne.symm own] using history
  | settle sender view payouts =>
    obtain ⟨proposed, unsettled, _, _, same⟩ := settle_spec success
    rw [same]
    by_cases own : sender = game
    · subst own
      have shape : vault.gameBonds sender =
          ⟨(vault.gameBonds sender).proposerBond, (vault.gameBonds sender).challengerBond, false⟩ := by
        rw [← unsettled]
      rw [shape] at history
      simpa [Transaction.bondEvent?] using BondHistory.settled history proposed
    · simpa [Transaction.bondEvent?, own, Ne.symm own] using history
  | transfer source target amount =>
    obtain ⟨_, same⟩ := transfer_spec success
    rw [same]
    simpa [Transaction.bondEvent?] using history

section

variable {token : Address → ℕ} (run : Runs deployment (fresh token) log vault)

include run

theorem bondHistory_of_runs (game : Address) :
    BondHistory (vault.gameBonds game) (bondEvents game log) := by
  refine run.history (motive := fun past state => BondHistory (state.gameBonds game) (bondEvents game past)) .absent ?_
  intro past before after transaction _ history _ success
  have extended := exec_bondHistory game history success
  rw [bondEvents, List.filterMap_append]
  cases event : transaction.bondEvent? game <;> simpa [bondEvents, event] using extended

theorem tidy_of_runs : vault.Tidy :=
  fun game zero => ((bondHistory_of_runs run game).absent_of_zero zero).1

theorem balance_of_runs :
    vault.liabilities + totalWithdrawals log = totalDeposits log ∧
      totalDeposits log ≤ vault.token deployment.bondVault + totalWithdrawals log := by
  refine run.history (motive := fun past state => state.liabilities + totalWithdrawals past = totalDeposits past ∧
    totalDeposits past ≤ state.token deployment.bondVault + totalWithdrawals past) ?_ ?_
  · simp [liabilities, fresh, GameBond.locked, totalDeposits, totalWithdrawals]
  · intro past before after transaction earlier holds _ success
    have owed := exec_liabilities (tidy_of_runs earlier) success
    have held := exec_holding success
    simp only [totalDeposits, totalWithdrawals, List.map_append, List.sum_append, List.map_cons,
      List.map_nil, List.sum_cons, List.sum_nil] at holds ⊢
    omega

end

/-- The liabilities are the deposits less the withdrawals, the holding covers them, and bonds enter and leave them once.
-/
theorem accounting_of_runs {token : Address → ℕ} (run : Runs deployment (fresh token) log vault) :
    vault.liabilities + totalWithdrawals log = totalDeposits log ∧
      vault.liabilities ≤ vault.token deployment.bondVault ∧
      ∀ game, (bondEvents game log).Sublist [.proposerLocked, .challengerLocked, .settled] := by
  obtain ⟨owed, held⟩ := balance_of_runs run
  exact ⟨owed, by omega, fun game => (bondHistory_of_runs run game).sublist⟩

/-! ## A sample history -/

def sampleDeployment : Deployment where
  keccak256 := fun bytes => BitVec.ofNat 256 (BigEndian.ofBytes bytes % (2 ^ 255 - 19))
  predictDeterministicAddress := fun _ _ salt _ => salt.setWidth 160
  disputeGameFactory := 7
  anchorStateRegistry := 8
  systemConfig := 6
  bondVault := 9
  l2ChainId := 480
  delaySeconds := 10

def sampleBonded : Address := (sampleDeployment.gameUUID multiProofGameType 42 []).setWidth 160

def sampleContext (timestamp : ℕ) : Context where
  timestamp := timestamp
  paused := false
  tokenAccepts := true
  factoryOwner := 5
  proxyAdmin := 4
  proxyAdminOwner := 5
  gameImplementation := 3
  games := fun _ _ _ => sampleBonded

def sampleView : GameView where
  gameType := multiProofGameType
  disputeGameFactory := 7
  bondVault := 9
  gameData := (multiProofGameType, 42, [])
  gameCreator := 1
  l1Head := 0
  proposerBond := 15
  challenger := 2
  challengerBond := 10

def sampleToken : Address → ℕ := fun account => if account = 1 then 100 else 0

def sampleLog : List Transaction :=
  [⟨sampleContext 4, .deposit 1 2 30⟩, ⟨sampleContext 5, .deposit 1 1 50⟩, ⟨sampleContext 6, .requestWithdrawal 1 20⟩,
    ⟨sampleContext 7, .lockProposerBond sampleBonded sampleView⟩, ⟨sampleContext 8, .requestWithdrawal 1 10⟩,
    ⟨sampleContext 9, .lockChallengerBond sampleBonded sampleView⟩, ⟨sampleContext 18, .withdraw 1 25⟩,
    ⟨sampleContext 18, .settle sampleBonded sampleView [⟨1, 20⟩, ⟨2, 5⟩]⟩, ⟨sampleContext 19, .withdraw 1 5⟩]

theorem sample_runs : ∃ vault, Runs sampleDeployment (fresh sampleToken) sampleLog vault :=
  ⟨_, Run.run_final (by decide +kernel)⟩

theorem accounting_sample : ∃ vault, Runs sampleDeployment (fresh sampleToken) sampleLog vault ∧
    vault.liabilities + 30 = 80 ∧ bondEvents sampleBonded sampleLog = [.proposerLocked, .challengerLocked, .settled] ∧
      (bondEvents sampleBonded sampleLog).Sublist [.proposerLocked, .challengerLocked, .settled] := by
  obtain ⟨vault, run⟩ := sample_runs
  obtain ⟨owed, _, bonds⟩ := accounting_of_runs run
  exact ⟨vault, run, owed, by decide +kernel, bonds sampleBonded⟩

/-! ## The withdrawal delay -/

def Transaction.requestedBy (account : Address) (transaction : Transaction) : ℕ :=
  match transaction.call with
  | .requestWithdrawal sender amount => if sender = account then amount else 0
  | _ => 0

/-- What a transaction pays out to `account`. -/
def Transaction.withdrawnBy (account : Address) (transaction : Transaction) : ℕ :=
  match transaction.call with
  | .withdraw sender amount => if sender = account then amount else 0
  | _ => 0

def maturedRequests (deployment : Deployment) (account : Address) (time : ℕ) (log : List Transaction) : ℕ :=
  ((log.filter fun transaction =>
    decide (transaction.context.timestamp + deployment.delaySeconds ≤ time)).map (·.requestedBy account)).sum

def withdrawnUpTo (account : Address) (time : ℕ) (log : List Transaction) : ℕ :=
  ((log.filter fun transaction => decide (transaction.context.timestamp ≤ time)).map (·.withdrawnBy account)).sum

/-- A transaction a game makes about its bonds. -/
def Transaction.IsBonding (transaction : Transaction) : Prop :=
  match transaction.call with
  | .lockProposerBond _ _ | .lockChallengerBond _ _ | .settle _ _ _ => True
  | _ => False

def Transaction.withdrawalsAfter (vault : ERC20StakingVault) (transaction : Transaction) : Address → WithdrawalRequest :=
  match transaction.call with
  | .requestWithdrawal sender amount => Function.update vault.withdrawals sender
    ⟨(vault.withdrawals sender).amount + amount, transaction.context.timestamp⟩
  | .withdraw sender amount => Function.update vault.withdrawals sender
    ⟨(vault.withdrawals sender).amount - amount,
      if (vault.withdrawals sender).amount - amount = 0 then 0 else (vault.withdrawals sender).timestamp⟩
  | _ => vault.withdrawals

section

variable (success : exec deployment vault transaction = .ok after)

include success

theorem exec_withdrawals : after.withdrawals = transaction.withdrawalsAfter vault := by
  obtain ⟨context, call⟩ := transaction
  cases call with
  | deposit sender account amount =>
    obtain ⟨_, _, _, same⟩ := deposit_spec success
    rw [same]
    rfl
  | requestWithdrawal sender amount =>
    obtain ⟨_, _, rfl⟩ := requestWithdrawal_spec success
    rfl
  | withdraw sender amount =>
    obtain ⟨_, _, _, _, _, rfl⟩ := withdraw_spec success
    rfl
  | lockProposerBond sender game =>
    obtain ⟨_, _, _, rfl⟩ := lockProposerBond_spec success
    rfl
  | lockChallengerBond sender game =>
    obtain ⟨_, _, _, _, _, _, rfl⟩ := lockChallengerBond_spec success
    rfl
  | settle sender game payouts =>
    obtain ⟨_, _, _, _, same⟩ := settle_spec success
    rw [same]
    rfl
  | transfer source target amount =>
    obtain ⟨_, same⟩ := transfer_spec success
    rw [same]
    rfl

theorem exec_bonding_withdrawals (bonding : transaction.IsBonding) : after.withdrawals = vault.withdrawals := by
  rw [exec_withdrawals success]
  obtain ⟨context, call⟩ := transaction
  cases call with
  | lockProposerBond _ _ => rfl
  | lockChallengerBond _ _ => rfl
  | settle _ _ _ => rfl
  | deposit _ _ _ => exact bonding.elim
  | requestWithdrawal _ _ => exact bonding.elim
  | withdraw _ _ => exact bonding.elim
  | transfer _ _ _ => exact bonding.elim

theorem exec_pending (account : Address) :
    (after.withdrawals account).amount + transaction.withdrawnBy account =
      (vault.withdrawals account).amount + transaction.requestedBy account := by
  rw [exec_withdrawals success]
  obtain ⟨context, call⟩ := transaction
  cases call with
  | requestWithdrawal sender amount =>
    by_cases own : sender = account
    · subst own
      simp [Transaction.withdrawalsAfter, Transaction.withdrawnBy, Transaction.requestedBy]
    · simp [Transaction.withdrawalsAfter, Transaction.withdrawnBy, Transaction.requestedBy, own, Ne.symm own]
  | withdraw sender amount =>
    obtain ⟨_, pending, _⟩ := withdraw_spec success
    by_cases own : sender = account
    · subst own
      simp [Transaction.withdrawalsAfter, Transaction.withdrawnBy, Transaction.requestedBy, Nat.sub_add_cancel pending]
    · simp [Transaction.withdrawalsAfter, Transaction.withdrawnBy, Transaction.requestedBy, own, Ne.symm own]
  | deposit _ _ _ => rfl
  | lockProposerBond _ _ => rfl
  | lockChallengerBond _ _ => rfl
  | settle _ _ _ => rfl
  | transfer _ _ _ => rfl

theorem exec_stamp (account : Address) :
    (after.withdrawals account).timestamp = 0 ∨
      (transaction.requestedBy account = 0 ∧
        (after.withdrawals account).timestamp = (vault.withdrawals account).timestamp) ∨
      (after.withdrawals account).timestamp = transaction.context.timestamp := by
  rw [exec_withdrawals success]
  obtain ⟨context, call⟩ := transaction
  cases call with
  | requestWithdrawal sender amount =>
    by_cases own : sender = account
    · subst own
      exact .inr (.inr (by simp [Transaction.withdrawalsAfter]))
    · exact .inr (.inl (by simp [Transaction.withdrawalsAfter, Transaction.requestedBy, own, Ne.symm own]))
  | withdraw sender amount =>
    by_cases own : sender = account
    · subst own
      simp only [Transaction.withdrawalsAfter, Function.update_self, Transaction.requestedBy, true_and]
      split
      · exact .inl rfl
      · exact .inr (.inl rfl)
    · exact .inr (.inl (by simp [Transaction.withdrawalsAfter, Transaction.requestedBy, Ne.symm own]))
  | deposit _ _ _ => exact .inr (.inl ⟨rfl, rfl⟩)
  | lockProposerBond _ _ => exact .inr (.inl ⟨rfl, rfl⟩)
  | lockChallengerBond _ _ => exact .inr (.inl ⟨rfl, rfl⟩)
  | settle _ _ _ => exact .inr (.inl ⟨rfl, rfl⟩)
  | transfer _ _ _ => exact .inr (.inl ⟨rfl, rfl⟩)

theorem exec_matured {account : Address} (paid : transaction.withdrawnBy account ≠ 0) :
    (vault.withdrawals account).timestamp ≠ 0 ∧
      (vault.withdrawals account).timestamp + deployment.delaySeconds ≤ transaction.context.timestamp := by
  obtain ⟨context, call⟩ := transaction
  cases call with
  | withdraw sender amount =>
    obtain ⟨_, _, requested, matured, _, _⟩ := withdraw_spec success
    by_cases own : sender = account
    · subst own
      exact ⟨requested, matured⟩
    · simp [Transaction.withdrawnBy, own] at paid
  | deposit _ _ _ => exact absurd rfl paid
  | requestWithdrawal _ _ => exact absurd rfl paid
  | lockProposerBond _ _ => exact absurd rfl paid
  | lockChallengerBond _ _ => exact absurd rfl paid
  | settle _ _ _ => exact absurd rfl paid
  | transfer _ _ _ => exact absurd rfl paid

end

theorem withdrawnUpTo_append (account : Address) (time : ℕ) (log : List Transaction) (transaction : Transaction) :
    withdrawnUpTo account time (log ++ [transaction]) = withdrawnUpTo account time log +
      if transaction.context.timestamp ≤ time then transaction.withdrawnBy account else 0 := by
  simp only [withdrawnUpTo, List.filter_append, List.map_append, List.sum_append]
  split
  · next reached => simp [reached]
  · next early => simp [early]

theorem maturedRequests_le_append (deployment : Deployment) (account : Address) (time : ℕ) (log : List Transaction)
    (transaction : Transaction) :
    maturedRequests deployment account time log ≤ maturedRequests deployment account time (log ++ [transaction]) := by
  simp only [maturedRequests, List.filter_append, List.map_append, List.sum_append]
  exact Nat.le_add_right ..

theorem Transaction.requestedBy_of_withdrawnBy {account : Address} (paid : transaction.withdrawnBy account ≠ 0) :
    transaction.requestedBy account = 0 := by
  obtain ⟨context, call⟩ := transaction
  cases call <;> first | rfl | exact absurd rfl paid

/-- What ties the history of one account's requests and withdrawals to its pending record. -/
structure Delayed (deployment : Deployment) (account : Address) (log : List Transaction)
    (vault : ERC20StakingVault) : Prop where
  pending : (vault.withdrawals account).amount + (log.map (·.withdrawnBy account)).sum =
    (log.map (·.requestedBy account)).sum
  stamped : (vault.withdrawals account).timestamp ≠ 0 → ∀ transaction ∈ log,
    transaction.requestedBy account ≠ 0 →
      transaction.context.timestamp ≤ (vault.withdrawals account).timestamp
  bounded : ∀ time, withdrawnUpTo account time log ≤ maturedRequests deployment account time log

theorem Delayed.step {account : Address} {past : List Transaction}
    (delayed : Delayed deployment account past vault)
    (latest : ∀ earlier ∈ past, earlier.context.timestamp ≤ transaction.context.timestamp)
    (success : exec deployment vault transaction = .ok after) :
    Delayed deployment account (past ++ [transaction]) after where
  pending := by
    have moved := exec_pending success account
    have before := delayed.pending
    simp only [List.map_append, List.sum_append, List.map_cons, List.map_nil, List.sum_cons, List.sum_nil]
    omega
  stamped := by
    intro recorded other member asked
    rcases exec_stamp success account with cleared | ⟨none, kept⟩ | renewed
    · exact absurd cleared recorded
    · rcases List.mem_append.mp member with old | new
      · rw [kept] at recorded ⊢
        exact delayed.stamped recorded other old asked
      · obtain rfl := List.mem_singleton.mp new
        exact absurd none asked
    · rw [renewed]
      rcases List.mem_append.mp member with old | new
      · exact latest other old
      · obtain rfl := List.mem_singleton.mp new
        exact Nat.le_refl _
  bounded := by
    intro time
    have before := delayed.bounded time
    have requested := maturedRequests_le_append deployment account time past transaction
    rw [withdrawnUpTo_append]
    split
    · next reached =>
      by_cases paid : transaction.withdrawnBy account = 0
      · omega
      · -- every earlier withdrawal has happened and every earlier request has matured
        obtain ⟨recorded, matured⟩ := exec_matured success paid
        have moved := exec_pending success account
        have none := Transaction.requestedBy_of_withdrawnBy paid
        have all := delayed.pending
        have withdrawals : withdrawnUpTo account time past = (past.map (·.withdrawnBy account)).sum :=
          Ledger.sum_map_filter _ _ past fun tx member _ => decide_eq_true (by have := latest tx member; omega)
        have requests : maturedRequests deployment account time past = (past.map (·.requestedBy account)).sum :=
          Ledger.sum_map_filter _ _ past fun tx member asked =>
            decide_eq_true (by have := delayed.stamped recorded tx member asked; omega)
        omega
    · omega

/-- An account has withdrawn no more than it had requested a full delay earlier; bonds touch no pending withdrawal. -/
theorem withdrawals_delayed {token : Address → ℕ} (run : Runs deployment (fresh token) log vault)
    (ordered : log.Pairwise fun earlier later => earlier.context.timestamp ≤ later.context.timestamp)
    (account : Address) :
    (∀ time, withdrawnUpTo account time log ≤ maturedRequests deployment account time log) ∧
      ∀ transaction after, transaction.IsBonding → exec deployment vault transaction = .ok after →
        after.withdrawals = vault.withdrawals := by
  have delayed : Delayed deployment account log vault := by
    refine run.history (motive := fun past state =>
      (past.Pairwise fun earlier later => earlier.context.timestamp ≤ later.context.timestamp) →
        Delayed deployment account past state) ?_ ?_ ordered
    · intro _
      exact ⟨rfl, fun _ _ member => absurd member List.not_mem_nil, fun _ => Nat.le_refl _⟩
    · intro past before after transaction _ holds _ success sorted
      obtain ⟨sorted, _, latest⟩ := List.pairwise_append.mp sorted
      exact (holds sorted).step (fun earlier member => latest earlier member _ List.mem_cons_self) success
  exact ⟨delayed.bounded, fun _ _ bonding success => exec_bonding_withdrawals success bonding⟩

theorem withdrawals_delayed_sample : withdrawnUpTo 1 18 sampleLog = 25 ∧
    25 ≤ maturedRequests sampleDeployment 1 18 sampleLog := by
  obtain ⟨vault, run⟩ := sample_runs
  exact ⟨by decide, (withdrawals_delayed run (by decide) 1).1 18⟩

end ERC20StakingVault

end WorldChain.Dispute
