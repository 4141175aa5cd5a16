import WorldChain.Dispute.Game

/-! # Every outcome distributes exactly the bonds

The three credit rules of `resolve` start from an empty credit map and end in one whose total is the bonds of the game,
funding only addresses that settlement looks at.
-/

namespace WorldChain.Dispute

open Machine

namespace MultiProofGame

variable {deployment : Deployment} (game : MultiProofGame deployment)

/-- A credit map that distributes `total` among addresses that settlement looks at. -/
structure Distributes (credit : Address → ℕ) (total : ℕ) : Prop where
  total : ∑ account, credit account = total
  covered : ∀ account, credit account ≠ 0 → account ∈ game.settlementCandidates

variable {game}

theorem creator_mem : game.args.gameCreator ∈ game.settlementCandidates := by
  simp [settlementCandidates]

theorem challenger_mem : game.claimData.challenger ∈ game.settlementCandidates := by
  simp [settlementCandidates]

theorem protocol_mem : game.config.protocolFeeRecipient ∈ game.settlementCandidates := by
  simp [settlementCandidates]

theorem recipient_mem (lane : ProofLane) : game.laneRecipient lane ∈ game.settlementCandidates := by
  cases lane <;> simp [settlementCandidates, ProofLane.all]

theorem Distributes.empty : game.Distributes (fun _ => 0) 0 :=
  ⟨by simp, fun _ funded => absurd rfl funded⟩

theorem Distributes.of_candidates {other : MultiProofGame deployment} {credit : Address → ℕ} {total : ℕ}
    (distributes : game.Distributes credit total) (same : other.settlementCandidates = game.settlementCandidates) :
    other.Distributes credit total :=
  ⟨distributes.total, fun account funded => same ▸ distributes.covered account funded⟩

theorem Distributes.credit {credit : Address → ℕ} {total amount : ℕ} {account : Address}
    (distributes : game.Distributes credit total) (candidate : account ∈ game.settlementCandidates)
    (fits : total + amount ≤ uint256Max) :
    creditChecked credit account amount = .ok (Ledger.credit credit account amount) ∧
      game.Distributes (Ledger.credit credit account amount) (total + amount) := by
  refine ⟨?_, ?_, ?_⟩
  · have share := Finset.single_le_sum (f := credit) (fun _ _ => Nat.zero_le _) (Finset.mem_univ account)
    rw [distributes.total] at share
    exact creditChecked_eq_ok.mpr ⟨by omega, rfl⟩
  · rw [Ledger.sum_credit, distributes.total]
  · intro other funded
    rcases Ledger.eq_or_ne_zero_of_credit funded with rfl | funded
    · exact candidate
    · exact distributes.covered other funded

def staked (game : MultiProofGame deployment) : ℕ :=
  game.config.proposerBond + if game.claimData.challenger = 0#160 then 0 else game.config.challengerBond

theorem staked_of_unchallenged (unchallenged : game.claimData.challenger = 0#160) :
    game.staked = game.config.proposerBond := by
  simp [staked, unchallenged]

theorem staked_of_challenged (challenged : game.claimData.challenger ≠ 0#160) :
    game.staked = game.config.proposerBond + game.config.challengerBond := by
  simp [staked, challenged]

theorem creditInvalidParent_ok (uncredited : game.normalModeCredit = fun _ => 0)
    (fits : game.staked ≤ uint256Max) :
    ∃ credit, game.creditInvalidParent = .ok credit ∧ game.Distributes credit game.staked := by
  by_cases challenged : game.claimData.challenger = 0#160
  · have stake := staked_of_unchallenged challenged
    obtain ⟨proposer, distributes⟩ := Distributes.empty.credit creator_mem
      (by omega : 0 + game.config.proposerBond ≤ uint256Max)
    rw [Nat.zero_add] at distributes
    refine ⟨_, ?_, by rw [stake]; exact distributes⟩
    simp only [creditInvalidParent, uncredited, bind_eq_ok]
    exact ⟨_, proposer, by simp [challenged]⟩
  · have stake := staked_of_challenged challenged
    obtain ⟨proposer, partly⟩ := Distributes.empty.credit creator_mem
      (by omega : 0 + game.config.proposerBond ≤ uint256Max)
    obtain ⟨challenger, complete⟩ := partly.credit challenger_mem
      (by omega : 0 + game.config.proposerBond + game.config.challengerBond ≤ uint256Max)
    rw [Nat.zero_add, ← stake] at complete
    refine ⟨_, ?_, complete⟩
    simp only [creditInvalidParent, uncredited, bind_eq_ok]
    exact ⟨_, proposer, by simpa only [challenged, ne_eq, not_false_eq_true, if_true] using challenger⟩

theorem reward_le (bond : ℕ) : bond * challengerRewardBps / bps ≤ bond := by
  unfold challengerRewardBps bps
  omega

theorem creditProofTimeout_ok (uncredited : game.normalModeCredit = fun _ => 0)
    (total : game.totalBonds = game.staked) (fits : game.staked ≤ uint256Max) :
    ∃ credit, game.creditProofTimeout = .ok credit ∧ game.Distributes credit game.staked := by
  by_cases challenged : game.claimData.challenger = 0#160
  · obtain ⟨protocol, distributes⟩ := Distributes.empty.credit protocol_mem
      (by omega : 0 + game.staked ≤ uint256Max)
    rw [Nat.zero_add] at distributes
    refine ⟨_, ?_, distributes⟩
    simp only [creditProofTimeout, challengerCredit, creditChallenger, uncredited, total, challenged, if_true,
      bind_eq_ok, checkedSub_eq_ok]
    exact ⟨0, rfl, _, rfl, _, ⟨Nat.zero_le _, rfl⟩, protocol⟩
  · have scaled := game.implementation.proposerBond_le
    have reward := reward_le game.config.proposerBond
    have stake := staked_of_challenged challenged
    have positive : 0 < game.config.challengerBond := game.implementation.challengerBond_pos
    let credited := game.config.challengerBond + game.config.proposerBond * challengerRewardBps / bps
    have covered : credited ≤ game.staked := by omega
    obtain ⟨challenger, partly⟩ := Distributes.empty.credit challenger_mem
      (by omega : 0 + credited ≤ uint256Max)
    obtain ⟨protocol, complete⟩ := partly.credit protocol_mem
      (by omega : 0 + credited + (game.staked - credited) ≤ uint256Max)
    rw [Nat.zero_add, Nat.add_sub_cancel' covered] at complete
    refine ⟨_, ?_, complete⟩
    simp only [creditProofTimeout, challengerCredit, creditChallenger, uncredited, total, challenged, if_false,
      bind_eq_ok, checkedSub_eq_ok, checkedMul_eq_ok, checkedAdd_eq_ok]
    refine ⟨credited, ⟨_, ⟨scaled, rfl⟩, by omega, rfl⟩, _, ?_, _, ⟨covered, rfl⟩, protocol⟩
    rw [if_pos (Nat.add_pos_left positive _).ne']
    exact challenger

theorem creditLane_loop (share : ℕ) (lanes : List ProofLane) {credit : Address → ℕ} {distributed : ℕ}
    (distributes : game.Distributes credit distributed)
    (fits : distributed + share * lanes.countP game.claimData.proofBitmap.has ≤ uint256Max) :
    ∃ paid, lanes.foldlM (game.creditLane share) (credit, distributed) =
        .ok (paid, distributed + share * lanes.countP game.claimData.proofBitmap.has) ∧
      game.Distributes paid (distributed + share * lanes.countP game.claimData.proofBitmap.has) := by
  induction lanes generalizing credit distributed with
  | nil => exact ⟨credit, by simp [pure, Except.pure], by simpa using distributes⟩
  | cons lane rest ih =>
    by_cases accepted : game.claimData.proofBitmap.has lane = true
    · have count : (lane :: rest).countP game.claimData.proofBitmap.has =
          rest.countP game.claimData.proofBitmap.has + 1 := List.countP_cons_of_pos accepted
      rw [count, Nat.mul_add, Nat.mul_one, Nat.add_comm (share * _), ← Nat.add_assoc] at fits ⊢
      obtain ⟨credited, extended⟩ := distributes.credit (recipient_mem lane)
        (by omega : distributed + share ≤ uint256Max)
      obtain ⟨paid, loop, complete⟩ := ih extended fits
      refine ⟨paid, ?_, complete⟩
      simp only [List.foldlM_cons, bind_eq_ok]
      refine ⟨_, ?_, loop⟩
      simp only [creditLane, accepted, Bool.true_eq_false, if_false, bind_eq_ok, checkedAdd_eq_ok, pure_eq_ok]
      exact ⟨_, credited, _, ⟨by omega, rfl⟩, rfl⟩
    · have count : (lane :: rest).countP game.claimData.proofBitmap.has =
          rest.countP game.claimData.proofBitmap.has := List.countP_cons_of_neg accepted
      rw [count] at fits ⊢
      obtain ⟨paid, loop, complete⟩ := ih distributes fits
      refine ⟨paid, ?_, complete⟩
      simp only [List.foldlM_cons, bind_eq_ok]
      exact ⟨_, by simp [creditLane, accepted], loop⟩

theorem creditLanes_ok (share : ℕ) (uncredited : game.normalModeCredit = fun _ => 0)
    (fits : share * game.claimData.proofBitmap.count ≤ uint256Max) :
    ∃ paid, game.creditLanes share = .ok (paid, share * game.claimData.proofBitmap.count) ∧
      game.Distributes paid (share * game.claimData.proofBitmap.count) := by
  by_cases shared : share = 0
  · refine ⟨fun _ => 0, ?_, ?_⟩
    · simp [creditLanes, shared, uncredited, pure, Except.pure]
    · simpa [shared] using Distributes.empty
  · obtain ⟨paid, loop, distributes⟩ := creditLane_loop share ProofLane.all Distributes.empty
      (by rw [Nat.zero_add]; exact fits)
    rw [Nat.zero_add] at loop distributes
    refine ⟨paid, ?_, distributes⟩
    rw [creditLanes, if_pos shared, uncredited]
    exact loop

theorem creditDefenderWins_ok (uncredited : game.normalModeCredit = fun _ => 0)
    (total : game.totalBonds = game.staked) (fits : game.staked ≤ uint256Max) :
    ∃ credit, game.creditDefenderWins = .ok credit ∧ game.Distributes credit game.staked := by
  let stake := if game.claimData.challenger = 0#160 then 0 else game.config.challengerBond
  let share := stake / (game.claimData.proofBitmap.count + 1)
  have split : share * game.claimData.proofBitmap.count ≤ game.staked := by
    calc share * game.claimData.proofBitmap.count
        ≤ share * (game.claimData.proofBitmap.count + 1) := Nat.mul_le_mul_left _ (Nat.le_succ _)
      _ ≤ stake := Nat.div_mul_le_self ..
      _ ≤ game.staked := Nat.le_add_left ..
  obtain ⟨paid, loop, partly⟩ := creditLanes_ok share uncredited (split.trans fits)
  obtain ⟨proposer, complete⟩ := partly.credit creator_mem
    (by omega : share * game.claimData.proofBitmap.count +
      (game.staked - share * game.claimData.proofBitmap.count) ≤ uint256Max)
  rw [Nat.add_sub_cancel' split] at complete
  refine ⟨_, ?_, complete⟩
  simp only [creditDefenderWins, bind_eq_ok, checkedSub_eq_ok, total]
  exact ⟨_, loop, _, ⟨split, rfl⟩, proposer⟩

/-! ## The payout loop -/

/-- What the loop has collected so far: each entry pays a credit in full, and no address twice. -/
structure Collected (credit : Address → ℕ) (payouts : List Payout) : Prop where
  once : (payouts.map (·.recipient)).Nodup
  inFull : ∀ payout ∈ payouts, payout.amount = credit payout.recipient ∧ payout.amount ≠ 0

theorem collectPayouts_collected {credit : Address → ℕ} (candidates : List Address) {payouts : List Payout}
    (collected : Collected credit payouts) : Collected credit (collectPayouts credit payouts candidates) := by
  induction candidates generalizing payouts with
  | nil => exact collected
  | cons candidate rest ih =>
    simp only [collectPayouts]
    split
    · exact ih collected
    · next fresh =>
      split
      · exact ih collected
      · next funded =>
        refine ih ⟨?_, ?_⟩
        · simpa [List.nodup_append, List.nodup_cons] using ⟨collected.once, by simpa using fresh⟩
        · intro payout member
          rcases List.mem_append.mp member with old | new
          · exact collected.inFull payout old
          · obtain rfl := List.mem_singleton.mp new
            exact ⟨rfl, funded⟩

theorem collectPayouts_recipients {credit : Address → ℕ} (candidates : List Address) (payouts : List Payout)
    {account : Address} (named : account ∈ payouts.map (·.recipient) ∨ (account ∈ candidates ∧ credit account ≠ 0)) :
    account ∈ (collectPayouts credit payouts candidates).map (·.recipient) := by
  induction candidates generalizing payouts with
  | nil => simpa [collectPayouts] using named
  | cons candidate rest ih =>
    simp only [collectPayouts]
    split
    · next known =>
      apply ih
      rcases named with old | ⟨member, funded⟩
      · exact .inl old
      · rcases List.mem_cons.mp member with rfl | later
        · exact .inl known
        · exact .inr ⟨later, funded⟩
    · split
      · next unfunded =>
        apply ih
        rcases named with old | ⟨member, funded⟩
        · exact .inl old
        · rcases List.mem_cons.mp member with rfl | later
          · exact absurd unfunded funded
          · exact .inr ⟨later, funded⟩
      · apply ih
        rcases named with old | ⟨member, funded⟩
        · exact .inl (by simpa using .inl (by simpa using old))
        · rcases List.mem_cons.mp member with rfl | later
          · exact .inl (by simp)
          · exact .inr ⟨later, funded⟩

theorem collected_settlement :
    Collected game.settledCredit (collectPayouts game.settledCredit [] game.settlementCandidates) :=
  collectPayouts_collected _ ⟨List.nodup_nil, fun _ member => absurd member List.not_mem_nil⟩

theorem mem_settlement_iff {total : ℕ} (distributes : game.Distributes game.settledCredit total) (account : Address) :
    account ∈ (collectPayouts game.settledCredit [] game.settlementCandidates).map (·.recipient) ↔
      game.settledCredit account ≠ 0 := by
  constructor
  · intro member
    obtain ⟨payout, paid, rfl⟩ := List.mem_map.mp member
    obtain ⟨amount, positive⟩ := collected_settlement.inFull payout paid
    rwa [← amount]
  · intro funded
    exact collectPayouts_recipients _ _ (.inr ⟨distributes.covered account funded, funded⟩)

theorem settlementCredits_spec {total : ℕ} (distributes : game.Distributes game.settledCredit total) :
    ∃ payouts padding, game.settlementCredits = payouts ++ List.replicate padding ⟨0#160, 0⟩ ∧
      (∀ account, (payouts.map (·.recipient)).count account =
        if game.settledCredit account = 0 then 0 else 1) ∧
      (∀ payout ∈ payouts, payout.amount = game.settledCredit payout.recipient) ∧
      (game.settlementCredits.map (·.amount)).sum = total := by
  have collected : Collected game.settledCredit _ := collected_settlement
  have members := mem_settlement_iff distributes
  have amounts : (collectPayouts game.settledCredit [] game.settlementCandidates).map (·.amount) =
      ((collectPayouts game.settledCredit [] game.settlementCandidates).map (·.recipient)).map
        game.settledCredit := by
    rw [List.map_map]
    exact List.map_congr_left fun payout paid => (collected.inFull payout paid).1
  refine ⟨_, _, rfl, ?_, fun payout paid => (collected.inFull payout paid).1, ?_⟩
  · intro account
    by_cases funded : game.settledCredit account = 0
    · rw [if_pos funded]
      exact List.count_eq_zero.mpr fun member => (members account).mp member funded
    · rw [if_neg funded]
      exact List.count_eq_one_of_mem collected.once ((members account).mpr funded)
  · have paid := Ledger.sum_map_of_covers game.settledCredit collected.once
      (fun account funded => (members account).mpr funded)
    rw [settlementCredits, List.map_append, List.sum_append, amounts, paid, distributes.total]
    simp

end MultiProofGame

end WorldChain.Dispute
