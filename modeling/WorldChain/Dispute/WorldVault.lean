import WorldChain.Dispute.VaultAccounting
import WorldChain.Dispute.Settlement

/-! # The vault inside a deployment

A deployment's transactions reach the vault one call at a time, made in the surroundings of that moment by a
participant or by a clone.
-/

namespace WorldChain.Dispute.World

open Machine

variable {deployment : Deployment} {world after : World deployment}

theorem callVault_exec {call : ERC20StakingVault.Call} (success : world.callVault call = .ok after) :
    ERC20StakingVault.exec deployment world.vault ⟨world.context, call⟩ = .ok after.vault := by
  simp only [callVault, bind_eq_ok, pure_eq_ok] at success
  obtain ⟨vault, effective, rfl⟩ := success
  exact effective

theorem exec_vault {action : Action deployment} (success : world.exec action = .ok after) :
    after.vault = world.vault ∨
      ∃ call, ERC20StakingVault.exec deployment world.vault ⟨world.context, call⟩ = .ok after.vault := by
  cases action with
  | create sender value rootClaim extraData =>
    change world.create sender value rootClaim extraData = _ at success
    unfold create at success
    split at success
    · cases success
    · simp only [bind_eq_ok, revertIf_eq_ok, pure_eq_ok] at success
      obtain ⟨_, _, ⟨_, vault⟩, initialized, _, _, rfl⟩ := success
      obtain ⟨_, _, _, view, _, locked⟩ := initializeClone_spec initialized
      exact .inr ⟨.lockProposerBond _ view, locked⟩
  | challenge sender self =>
    simp only [exec, challenge, bind_eq_ok, pure_eq_ok] at success
    obtain ⟨_, _, challenged, _, vault, locked, _, _, rfl⟩ := success
    exact .inr ⟨.lockChallengerBond self challenged.view, locked⟩
  | submitProofLane self proof =>
    simp only [exec, submitProofLane, bind_eq_ok, pure_eq_ok] at success
    obtain ⟨_, _, _, _, rfl⟩ := success
    exact .inl rfl
  | resolve self =>
    simp only [exec, resolve, bind_eq_ok, pure_eq_ok] at success
    obtain ⟨_, _, _, _, rfl⟩ := success
    exact .inl rfl
  | closeGame self anchored =>
    simp only [exec, closeGame, bind_eq_ok] at success
    obtain ⟨game, _, success⟩ := success
    split at success
    · simp only [pure_eq_ok] at success
      exact .inl (by rw [success])
    · simp only [pure_eq_ok] at success
      exact .inl (by rw [success])
    · simp only [bind_eq_ok, revertIf_eq_ok, pure_eq_ok] at success
      obtain ⟨_, _, _, _, vault, settled, rfl⟩ := success
      exact .inr ⟨.settle self _ _, settled⟩
  | deposit sender account amount => exact .inr ⟨_, callVault_exec success⟩
  | requestWithdrawal sender amount => exact .inr ⟨_, callVault_exec success⟩
  | withdraw sender amount => exact .inr ⟨_, callVault_exec success⟩
  | transfer source target amount => exact .inr ⟨_, callVault_exec success⟩
  | environment next =>
    cases success
    exact .inl rfl

variable {allowed : World deployment → Action deployment → Prop} {environment : Environment deployment}
  {token : Address → ℕ} {log : List (Action deployment)}

theorem vault_runs (run : Run exec allowed (genesis environment token) log world) :
    ∃ transactions, ERC20StakingVault.Runs deployment (.fresh token) transactions world.vault := by
  refine run.invariant (motive := fun reached =>
    ∃ transactions, ERC20StakingVault.Runs deployment (.fresh token) transactions reached.vault) ⟨[], .start _⟩ ?_
  rintro before after action ⟨transactions, earlier⟩ _ success
  rcases exec_vault success with same | ⟨call, effective⟩
  · rw [same]
    exact ⟨transactions, earlier⟩
  · exact ⟨_, .effect earlier trivial effective⟩

theorem solvent_of_run (run : Run exec allowed (genesis environment token) log world) :
    world.vault.liabilities ≤ world.vault.token deployment.bondVault := by
  obtain ⟨transactions, own⟩ := vault_runs run
  obtain ⟨owed, held⟩ := ERC20StakingVault.balance_of_runs own
  omega

theorem sample_vault_solvent : (sampleWorld sampleLog).vault.liabilities ≤
    (sampleWorld sampleLog).vault.token ERC20StakingVault.sampleDeployment.bondVault :=
  solvent_of_run (sample_run sampleLog (by decide +kernel))

end WorldChain.Dispute.World
