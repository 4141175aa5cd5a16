import WorldChain.Dispute.GameCredits

/-! # The state machine of one game

Each entry point of a game is inverted once: what it checked and what it left behind. `Sound` is what every initialized
game keeps, together with the vault's record of its bonds.
-/

namespace WorldChain.Dispute

open Machine

namespace MultiProofGame

variable {deployment : Deployment} {game after : MultiProofGame deployment} {now : ℕ} {sender : Address}

theorem gameOver_eq_false : game.gameOver now = false ↔
    now < game.claimData.deadline ∧ game.claimData.proofBitmap.count < game.config.proofThreshold := by
  simp [gameOver, Bitmap.hasThreshold]

theorem gameOver_eq_true : game.gameOver now = true ↔
    game.claimData.deadline ≤ now ∨ game.config.proofThreshold ≤ game.claimData.proofBitmap.count := by
  simp [gameOver, Bitmap.hasThreshold]

theorem depositBond_spec {amount : ℕ} (success : game.depositBond sender amount = .ok after) :
    game.totalBonds + amount ≤ uint256Max ∧
      after = { game with
        refundModeCredit := Ledger.credit game.refundModeCredit sender amount
        totalBonds := game.totalBonds + amount } := by
  simp only [depositBond, bind_eq_ok, creditChecked_eq_ok, checkedAdd_eq_ok, pure_eq_ok] at success
  obtain ⟨_, ⟨_, rfl⟩, _, ⟨fits, rfl⟩, rfl⟩ := success
  exact ⟨fits, rfl⟩

/-- The game as a challenge leaves it. -/
def challengedBy (game : MultiProofGame deployment) (sender : Address) : MultiProofGame deployment :=
  { game with
    claimData := { game.claimData with
      challenger := sender, status := .challenged, deadline := game.createdAt + game.config.proofPeriod }
    refundModeCredit := Ledger.credit game.refundModeCredit sender game.config.challengerBond
    totalBonds := game.totalBonds + game.config.challengerBond }

/-- What a challenge has checked before its bond is deposited. -/
structure Challengeable (game : MultiProofGame deployment) (now : ℕ) : Prop where
  running : game.status = .inProgress
  undecided : game.gameOver now = false
  unchallenged : game.claimData.challenger = 0#160

theorem markChallenged_spec {marked : MultiProofGame deployment}
    (success : game.markChallenged now sender = .ok marked) :
    game.Challengeable now ∧ marked.view.challenger = sender ∧ marked.view.challengerBond = game.config.challengerBond ∧
      (marked.depositBond sender game.config.challengerBond = .ok after →
        game.totalBonds + game.config.challengerBond ≤ uint256Max ∧ after = game.challengedBy sender) := by
  simp only [markChallenged, proofDeadline, bind_eq_ok, revertIf_eq_ok, checkedAdd_eq_ok, toTimestamp_eq_ok,
    pure_eq_ok, not_not, ne_eq, Bool.not_eq_true] at success
  obtain ⟨_, running, _, undecided, _, unchallenged, _, ⟨_, ⟨_, rfl⟩, _, rfl⟩, rfl⟩ := success
  exact ⟨⟨running, undecided, unchallenged⟩, rfl, rfl, depositBond_spec⟩

/-- What `submitProofLane` has checked when it accepts `lane`. -/
structure Accepts (game : MultiProofGame deployment) (now : ℕ) (parentResolution : Except Revert ParentResolution)
    (startingProposal : Except Revert Proposal) (verify : Address → Bytes → Bytes32 → Bytes → Bool)
    (proof : Bytes) (lane : ProofLane) : Prop where
  running : game.status = .inProgress
  parent : ∃ parent, parentResolution = .ok parent ∧ parent.blacklisted = false ∧ parent.status ≠ .challengerWins
  undecided : game.gameOver now = false
  named : ProofLane.ofNat? (decodeCompact proof).laneId = some lane
  fresh : game.claimData.proofBitmap.has lane = false
  verified : ∃ rootId starting, game.rootId = .ok rootId ∧ startingProposal = .ok starting ∧
    verify (game.verificationCallFor rootId (game.transition starting) lane).1 (decodeCompact proof).proof
      (game.verificationCallFor rootId (game.transition starting) lane).2.1
      (game.verificationCallFor rootId (game.transition starting) lane).2.2 = true

theorem submitProofLane_spec {parentResolution : Except Revert ParentResolution}
    {startingProposal : Except Revert Proposal} {verify : Address → Bytes → Bytes32 → Bytes → Bool}
    {proof : Bytes}
    (success : game.submitProofLane now parentResolution startingProposal verify proof = .ok after) :
    ∃ lane, game.Accepts now parentResolution startingProposal verify proof lane ∧
      after = game.acceptLane lane (decodeCompact proof).recipient := by
  simp only [submitProofLane, bind_eq_ok, revertIf_eq_ok, not_or, not_not, ne_eq, Bool.not_eq_true] at success
  obtain ⟨_, running, parent, parentRead, _, ⟨clean, standing⟩, _, undecided, rootId, rootRead, _, _, success⟩ := success
  split at success
  · cases success
  · next lane named =>
    simp only [bind_eq_ok, revertIf_eq_ok, pure_eq_ok, Bool.not_eq_true, Bool.not_eq_false] at success
    obtain ⟨_, fresh, starting, startRead, _, verified, rfl⟩ := success
    exact ⟨lane, ⟨running, ⟨parent, parentRead, clean, standing⟩, undecided, named, fresh,
      rootId, starting, rootRead, startRead, verified⟩, rfl⟩

/-- The game as `resolve` leaves it. -/
def resolvedWith (game : MultiProofGame deployment) (now : ℕ) (status : GameStatus) (reason : InvalidationReason)
    (credit : Address → ℕ) : MultiProofGame deployment :=
  { game with
    status := status
    normalModeCredit := credit
    resolvedAt := now
    claimData := { game.claimData with status := .resolved, invalidationReason := reason } }

theorem resolve_eq_ok {parentResolution : Except Revert ParentResolution} :
    game.resolve now parentResolution = .ok after ↔
      game.status = .inProgress ∧ now ≤ uint64Max ∧ ∃ parent, parentResolution = .ok parent ∧
        ∃ status reason credit, game.decideOutcome now parent = .ok (status, reason, credit) ∧
          after = game.resolvedWith now status reason credit := by
  simp only [resolve, bind_eq_ok, revertIf_eq_ok, toTimestamp_eq_ok, pure_eq_ok, not_not, ne_eq]
  constructor
  · rintro ⟨_, running, parent, parentRead, ⟨status, reason, credit⟩, outcome, _, ⟨fits, rfl⟩, rfl⟩
    exact ⟨running, fits, parent, parentRead, status, reason, credit, outcome, rfl⟩
  · rintro ⟨running, fits, parent, parentRead, status, reason, credit, outcome, rfl⟩
    exact ⟨(), running, parent, parentRead, _, outcome, _, ⟨fits, rfl⟩, rfl⟩

/-- The game with its distribution mode locked in. -/
def closedIn (game : MultiProofGame deployment) (mode : BondDistributionMode) : MultiProofGame deployment :=
  { game with bondDistributionMode := mode }

theorem credited_of_decided {credits : Except Revert (Address → ℕ)} {outcome status : GameStatus}
    {cause reason : InvalidationReason} {credit : Address → ℕ}
    (decided : (do let credit ← credits; pure (outcome, cause, credit)) = Except.ok (status, reason, credit)) :
    status = outcome ∧ reason = cause ∧ credits = .ok credit := by
  simp only [bind_eq_ok, pure_eq_ok, Prod.mk.injEq] at decided
  obtain ⟨_, credited, rfl, rfl, rfl⟩ := decided
  exact ⟨rfl, rfl, credited⟩

theorem decideOutcome_cases {parent : ParentResolution} {status : GameStatus} {reason : InvalidationReason}
    {credit : Address → ℕ} (decided : game.decideOutcome now parent = .ok (status, reason, credit)) :
    ((parent.blacklisted = true ∨ parent.status = .challengerWins) ∧ status = .challengerWins ∧
        reason = .invalidParent ∧ game.creditInvalidParent = .ok credit) ∨
      (parent.blacklisted = false ∧ parent.status = .defenderWins ∧ game.gameOver now = true ∧
        game.proven = true ∧ status = .defenderWins ∧ reason = game.claimData.invalidationReason ∧
        game.creditDefenderWins = .ok credit) ∨
      (parent.blacklisted = false ∧ parent.status = .defenderWins ∧ game.gameOver now = true ∧
        game.proven = false ∧ status = .challengerWins ∧ reason = .proofTimeout ∧
        game.creditProofTimeout = .ok credit) := by
  unfold decideOutcome at decided
  split at decided
  · next invalid =>
    exact .inl ⟨invalid, credited_of_decided decided⟩
  · next valid =>
    obtain ⟨clean, standing⟩ := not_or.mp valid
    rw [Bool.not_eq_true] at clean
    split at decided
    · cases decided
    · next resolved =>
      have won : parent.status = .defenderWins := by
        cases status : parent.status with
        | inProgress => exact absurd status resolved
        | challengerWins => exact absurd status standing
        | defenderWins => rfl
      simp only [bind_eq_ok, revertIf_eq_ok, Bool.not_eq_false] at decided
      obtain ⟨_, finished, decided⟩ := decided
      split at decided
      · next shown =>
        exact .inr (.inl ⟨clean, won, finished, by simp [proven, shown], credited_of_decided decided⟩)
      · next shown =>
        exact .inr (.inl ⟨clean, won, finished, by simp [proven, shown], credited_of_decided decided⟩)
      · next open' =>
        exact .inr (.inr ⟨clean, won, finished, by simp [proven, open'], credited_of_decided decided⟩)
      · next open' =>
        exact .inr (.inr ⟨clean, won, finished, by simp [proven, open'], credited_of_decided decided⟩)
      · cases decided

def ParentInvalid (parent : ParentResolution) : Prop := parent.blacklisted = true ∨ parent.status = .challengerWins

theorem resolutionStatus_cases {parent : ParentResolution} {report : ResolutionStatus}
    (running : game.status = .inProgress) (reported : game.resolutionStatus now (.ok parent) = .ok report) :
    (ParentInvalid parent ∧ report = ⟨true, .challengerWins, .invalidParent⟩) ∨
      ¬ ParentInvalid parent ∧
        ((game.gameOver now = false ∧ report = ⟨false, .inProgress, .none⟩) ∨
        (game.gameOver now = true ∧ game.proven = false ∧
          report = ⟨decide (parent.status ≠ .inProgress), .challengerWins, .proofTimeout⟩) ∨
        (game.gameOver now = true ∧ game.proven = true ∧ parent.status = .inProgress ∧
          report = ⟨false, .inProgress, .none⟩) ∨
        (game.gameOver now = true ∧ game.proven = true ∧ parent.status ≠ .inProgress ∧
          report = ⟨true, .defenderWins, .none⟩)) := by
  simp only [resolutionStatus, running, ne_eq, not_true_eq_false, if_false, bind, Except.bind] at reported
  unfold ParentInvalid
  split at reported
  · next invalid => exact .inl ⟨invalid, (pure_eq_ok.mp reported).symm⟩
  next valid =>
  refine .inr ⟨valid, ?_⟩
  split at reported
  · next open' => exact .inl ⟨open', (pure_eq_ok.mp reported).symm⟩
  next finished =>
  rw [Bool.not_eq_false] at finished
  split at reported
  · next unproven => exact .inr (.inl ⟨finished, unproven, (pure_eq_ok.mp reported).symm⟩)
  next shown =>
  rw [Bool.not_eq_false] at shown
  split at reported
  · next waiting => exact .inr (.inr (.inl ⟨finished, shown, by simpa using waiting, (pure_eq_ok.mp reported).symm⟩))
  · next resolved => exact .inr (.inr (.inr ⟨finished, shown, by simpa using resolved, (pure_eq_ok.mp reported).symm⟩))

def paidIn (game : MultiProofGame deployment) : Address → ℕ :=
  if game.claimData.challenger = 0#160 then
    Ledger.credit (fun _ => 0) game.args.gameCreator game.config.proposerBond
  else
    Ledger.credit (Ledger.credit (fun _ => 0) game.args.gameCreator game.config.proposerBond)
      game.claimData.challenger game.config.challengerBond

theorem paidIn_distributes (fits : game.staked ≤ uint256Max) : game.Distributes game.paidIn game.staked := by
  by_cases challenged : game.claimData.challenger = 0#160
  · rw [staked_of_unchallenged challenged] at fits ⊢
    simp only [paidIn, challenged, if_true]
    simpa using (Distributes.empty.credit creator_mem (by omega)).2
  · rw [staked_of_challenged challenged] at fits ⊢
    simp only [paidIn, challenged, if_false]
    have proposer : game.Distributes (Ledger.credit (fun _ => 0) game.args.gameCreator game.config.proposerBond)
        (0 + game.config.proposerBond) := (Distributes.empty.credit creator_mem (by omega)).2
    simpa using (proposer.credit challenger_mem (by omega)).2

/-- One lane suffices while unchallenged, the threshold is required once challenged, whatever came first. -/
def documentedStatus (resolved : Bool) (challenger : Address) (lanes threshold : ℕ) : ProposalStatus :=
  if resolved then .resolved
  else if challenger = 0#160 then
    if lanes = 0 then .unchallenged else .unchallengedAndValidProofProvided
  else if lanes < threshold then .challenged else .challengedAndValidProofProvided

def activePeriod (game : MultiProofGame deployment) : ℕ :=
  if game.claimData.challenger = 0#160 then game.config.challengePeriod else game.config.proofPeriod

theorem activePeriod_le : game.activePeriod ≤ game.config.proofPeriod := by
  have := game.implementation.periods_lt
  unfold activePeriod
  split
  · exact this.le
  · exact le_rfl

/-- What every initialized game keeps, together with the vault's record of its bonds. -/
structure Sound (game : MultiProofGame deployment) (bond : GameBond) : Prop where
  deadline : game.claimData.deadline = game.createdAt + game.activePeriod
  lanes : game.claimData.proofBitmap.count ≤ game.config.proofThreshold
  status : game.claimData.status = documentedStatus (decide (game.status ≠ .inProgress)) game.claimData.challenger
    game.claimData.proofBitmap.count game.config.proofThreshold
  recorded : bond.proposerBond + bond.challengerBond = game.staked
  total : game.totalBonds = game.staked
  fits : game.staked ≤ uint256Max
  refund : game.refundModeCredit = game.paidIn
  uncredited : game.status = .inProgress → game.normalModeCredit = fun _ => 0
  normal : game.status ≠ .inProgress → game.Distributes game.normalModeCredit game.staked
  reason : game.status ≠ .challengerWins → game.claimData.invalidationReason = .none

namespace Sound

variable {bond : GameBond}

section

variable (sound : game.Sound bond)

include sound

theorem proven_iff (running : game.status = .inProgress) :
    game.proven = true ↔ if game.claimData.challenger = 0#160 then game.claimData.proofBitmap.count ≠ 0
      else game.config.proofThreshold ≤ game.claimData.proofBitmap.count := by
  simp only [proven, sound.status, documentedStatus, running, ne_eq, not_true_eq_false, decide_false,
    Bool.false_eq_true, if_false]
  split_ifs <;> simp <;> omega

theorem status_ne_resolved (running : game.status = .inProgress) :
    game.claimData.status ≠ .resolved := by
  simp only [sound.status, documentedStatus, running, ne_eq, not_true_eq_false, decide_false,
    Bool.false_eq_true, if_false]
  split_ifs <;> simp

theorem challenge (challengeable : game.Challengeable now) (named : sender ≠ 0#160)
    (unlocked : bond.challengerBond = 0) (fits : game.totalBonds + game.config.challengerBond ≤ uint256Max) :
    (game.challengedBy sender).Sound ⟨bond.proposerBond, game.config.challengerBond, false⟩ := by
  obtain ⟨running, undecided, unchallenged⟩ := challengeable
  obtain ⟨_, below⟩ := gameOver_eq_false.mp undecided
  have stake := staked_of_unchallenged unchallenged
  have recorded := sound.recorded
  have total := sound.total
  have staked : (game.challengedBy sender).staked = game.config.proposerBond + game.config.challengerBond :=
    staked_of_challenged named
  refine
    { deadline := ?_, lanes := sound.lanes, status := ?_, recorded := ?_, total := ?_, fits := ?_, refund := ?_
      uncredited := sound.uncredited, normal := fun resolved => absurd running resolved, reason := sound.reason }
  · exact (congrArg (game.createdAt + ·) (if_neg named)).symm
  · change ProposalStatus.challenged = documentedStatus (decide (game.status ≠ .inProgress)) sender
      game.claimData.proofBitmap.count game.config.proofThreshold
    simp [documentedStatus, running, named, below]
  · change bond.proposerBond + game.config.challengerBond = (game.challengedBy sender).staked
    omega
  · change game.totalBonds + game.config.challengerBond = (game.challengedBy sender).staked
    omega
  · omega
  · change Ledger.credit game.refundModeCredit sender game.config.challengerBond = (game.challengedBy sender).paidIn
    rw [sound.refund, paidIn, if_pos unchallenged]
    exact (if_neg named).symm

theorem acceptLane {lane : ProofLane} (recipient : Address) (running : game.status = .inProgress)
    (undecided : game.gameOver now = false) (fresh : game.claimData.proofBitmap.has lane = false) :
    (game.acceptLane lane recipient).Sound bond := by
  obtain ⟨_, below⟩ := gameOver_eq_false.mp undecided
  have count := Bitmap.count_set fresh
  refine { sound with lanes := ?_, status := ?_, normal := fun resolved => absurd running resolved }
  · change (game.claimData.proofBitmap.set lane).count ≤ game.config.proofThreshold
    omega
  · have before := sound.status
    change _ = documentedStatus (decide (game.status ≠ .inProgress)) game.claimData.challenger
      (game.claimData.proofBitmap.set lane).count game.config.proofThreshold
    simp only [documentedStatus, running, ne_eq, not_true_eq_false, decide_false, Bool.false_eq_true, if_false,
      MultiProofGame.acceptLane, Bitmap.hasThreshold, decide_eq_true_eq, count] at before ⊢
    by_cases unchallenged : game.claimData.challenger = 0#160
    · simp [unchallenged]
    · simp only [unchallenged, if_false, below, if_true] at before ⊢
      split_ifs <;> first | rfl | exact before | omega

theorem resolve (running : game.status = .inProgress) {parent : ParentResolution} {status : GameStatus}
    {reason : InvalidationReason} {credit : Address → ℕ}
    (decided : game.decideOutcome now parent = .ok (status, reason, credit)) :
    (game.resolvedWith now status reason credit).Sound bond := by
  obtain ⟨resolved, distributes, reasoned⟩ : status ≠ .inProgress ∧ game.Distributes credit game.staked ∧
      (status ≠ .challengerWins → reason = .none) := by
    rcases decideOutcome_cases decided with
      ⟨_, rfl, rfl, credited⟩ | ⟨_, _, _, _, rfl, rfl, credited⟩ | ⟨_, _, _, _, rfl, rfl, credited⟩
    · obtain ⟨paid, success, distributes⟩ := creditInvalidParent_ok (sound.uncredited running) sound.fits
      obtain rfl := Except.ok.inj (success.symm.trans credited)
      exact ⟨by decide, distributes, fun lost => absurd rfl lost⟩
    · obtain ⟨paid, success, distributes⟩ := creditDefenderWins_ok (sound.uncredited running) sound.total sound.fits
      obtain rfl := Except.ok.inj (success.symm.trans credited)
      exact ⟨by decide, distributes, fun _ => sound.reason (by simp [running])⟩
    · obtain ⟨paid, success, distributes⟩ := creditProofTimeout_ok (sound.uncredited running) sound.total sound.fits
      obtain rfl := Except.ok.inj (success.symm.trans credited)
      exact ⟨by decide, distributes, fun lost => absurd rfl lost⟩
  refine
    { sound with
      status := by simp [documentedStatus, resolvedWith, resolved]
      uncredited := fun running => absurd running resolved
      normal := fun _ => distributes.of_candidates rfl
      reason := reasoned }

theorem close (mode : BondDistributionMode) :
    (game.closedIn mode).Sound { bond with settled := true } :=
  { sound with normal := fun resolved => (sound.normal resolved).of_candidates rfl }

end

end Sound

end MultiProofGame

end WorldChain.Dispute
