import WorldChain.Dispute.Settlement

/-! # The prediction and the resolution agree

`resolutionStatus` and `resolve` reach their answers through different branches. On every game a run can produce they
agree, up to one check of the block timestamp that the prediction does not make.
-/

namespace WorldChain.Dispute

open Machine

namespace MultiProofGame

variable {deployment : Deployment} {game : MultiProofGame deployment} {bond : GameBond} {now : ℕ}
  {parent : ParentResolution} {report : ResolutionStatus}

theorem decideOutcome_invalid (invalid : ParentInvalid parent) : game.decideOutcome now parent =
    (do let credit ← game.creditInvalidParent; pure (.challengerWins, .invalidParent, credit)) :=
  if_pos invalid

theorem decideOutcome_waiting (valid : ¬ ParentInvalid parent) (waiting : parent.status = .inProgress) :
    game.decideOutcome now parent = .error .parentGameNotResolved :=
  (if_neg valid).trans (if_pos waiting)

section

variable (valid : ¬ ParentInvalid parent) (resolved : parent.status ≠ .inProgress)

include valid resolved

theorem decideOutcome_early (early : game.gameOver now = false) :
    game.decideOutcome now parent = .error .gameNotOver := by
  refine (if_neg valid).trans ((if_neg resolved).trans ?_)
  simp [early, revertIf, bind, Except.bind]

theorem decideOutcome_proven (finished : game.gameOver now = true) (shown : game.proven = true) :
    game.decideOutcome now parent =
    (do let credit ← game.creditDefenderWins; pure (.defenderWins, game.claimData.invalidationReason, credit)) := by
  refine (if_neg valid).trans ((if_neg resolved).trans ?_)
  simp only [proven, decide_eq_true_eq] at shown
  rcases shown with shown | shown <;> simp [shown, finished, revertIf, bind, Except.bind]

theorem decideOutcome_unproven (finished : game.gameOver now = true) (unproven : game.proven = false)
    (unresolved : game.claimData.status ≠ .resolved) : game.decideOutcome now parent =
    (do let credit ← game.creditProofTimeout; pure (.challengerWins, .proofTimeout, credit)) := by
  refine (if_neg valid).trans ((if_neg resolved).trans ?_)
  simp only [proven, decide_eq_false_iff_not, not_or] at unproven
  cases status : game.claimData.status with
  | unchallenged => simp [finished, revertIf, bind, Except.bind]
  | challenged => simp [finished, revertIf, bind, Except.bind]
  | unchallengedAndValidProofProvided => exact absurd status unproven.1
  | challengedAndValidProofProvided => exact absurd status unproven.2
  | resolved => exact absurd status unresolved

end

theorem Sound.decideOutcome_of_resolvable (sound : game.Sound bond) (running : game.status = .inProgress)
    (reported : game.resolutionStatus now (.ok parent) = .ok report) (resolvable : report.resolvable = true) :
    ∃ credit, game.decideOutcome now parent = .ok (report.outcome, report.reason, credit) := by
  rcases resolutionStatus_cases running reported with ⟨invalid, rfl⟩ | ⟨valid, ⟨_, rfl⟩ |
    ⟨finished, unproven, rfl⟩ | ⟨_, _, _, rfl⟩ | ⟨finished, shown, resolved, rfl⟩⟩
  · obtain ⟨credit, credited, _⟩ := creditInvalidParent_ok (sound.uncredited running) sound.fits
    exact ⟨credit, by rw [decideOutcome_invalid invalid, credited]; rfl⟩
  · cases resolvable
  · obtain ⟨credit, credited, _⟩ := creditProofTimeout_ok (sound.uncredited running) sound.total sound.fits
    refine ⟨credit, ?_⟩
    rw [decideOutcome_unproven valid (of_decide_eq_true resolvable) finished unproven
      (sound.status_ne_resolved running), credited]
    rfl
  · cases resolvable
  · obtain ⟨credit, credited, _⟩ := creditDefenderWins_ok (sound.uncredited running) sound.total sound.fits
    refine ⟨credit, ?_⟩
    rw [decideOutcome_proven valid resolved finished shown, credited, sound.reason (by simp [running])]
    rfl

theorem decideOutcome_of_unresolvable (running : game.status = .inProgress)
    (reported : game.resolutionStatus now (.ok parent) = .ok report) (unresolvable : report.resolvable = false) :
    game.decideOutcome now parent = .error .parentGameNotResolved ∨
      game.decideOutcome now parent = .error .gameNotOver := by
  rcases resolutionStatus_cases running reported with ⟨_, rfl⟩ | ⟨valid, ⟨early, rfl⟩ |
    ⟨_, _, rfl⟩ | ⟨_, _, waiting, rfl⟩ | ⟨_, _, _, rfl⟩⟩
  · cases unresolvable
  · by_cases waiting : parent.status = .inProgress
    · exact .inl (decideOutcome_waiting valid waiting)
    · exact .inr (decideOutcome_early valid waiting early)
  · exact .inl (decideOutcome_waiting valid (not_not.mp (of_decide_eq_false unresolvable)))
  · exact .inl (decideOutcome_waiting valid waiting)
  · cases unresolvable

theorem resolutionStatus_total (game : MultiProofGame deployment) (now : ℕ) (parent : ParentResolution) :
    ∃ report, game.resolutionStatus now (.ok parent) = .ok report := by
  unfold resolutionStatus
  simp only [bind, Except.bind]
  split_ifs <;> exact ⟨_, rfl⟩

variable {after : MultiProofGame deployment} {parentResolution : Except Revert ParentResolution}

theorem Sound.resolve_reports (sound : game.Sound bond) (success : game.resolve now parentResolution = .ok after) :
    now ≤ uint64Max ∧ ∃ report, game.resolutionStatus now parentResolution = .ok report ∧ report.resolvable = true ∧
      after.status = report.outcome ∧ after.claimData.invalidationReason = report.reason := by
  obtain ⟨running, onTime, parent, rfl, status, reason, credit, decided, rfl⟩ := resolve_eq_ok.mp success
  obtain ⟨report, reported⟩ := game.resolutionStatus_total now parent
  have resolvable : report.resolvable = true := by
    rw [← Bool.not_eq_false]
    intro unresolvable
    rcases decideOutcome_of_unresolvable running reported unresolvable with failed | failed <;>
      cases failed.symm.trans decided
  obtain ⟨paid, outcome⟩ := sound.decideOutcome_of_resolvable running reported resolvable
  obtain ⟨rfl, rfl, rfl⟩ : report.outcome = status ∧ report.reason = reason ∧ paid = credit := by
    simpa using outcome.symm.trans decided
  exact ⟨onTime, report, reported, resolvable, rfl, rfl⟩

theorem Sound.resolve_of_resolvable (sound : game.Sound bond) (onTime : now ≤ uint64Max)
    (reported : game.resolutionStatus now parentResolution = .ok report) (resolvable : report.resolvable = true) :
    ∃ after, game.resolve now parentResolution = .ok after := by
  have running : game.status = .inProgress := by
    by_contra resolved
    rw [resolutionStatus, if_pos resolved] at reported
    obtain rfl := Except.ok.inj reported
    cases resolvable
  cases parentResolution with
  | error _ =>
    rw [resolutionStatus, if_neg (not_not.mpr running)] at reported
    cases reported
  | ok parent =>
    obtain ⟨credit, decided⟩ := sound.decideOutcome_of_resolvable running reported resolvable
    exact ⟨_, resolve_eq_ok.mpr ⟨running, onTime, parent, rfl, _, _, _, decided, rfl⟩⟩

theorem Sound.resolve_ne_invalidProposalStatus (sound : game.Sound bond)
    (readable : parentResolution ≠ .error .invalidProposalStatus) :
    game.resolve now parentResolution ≠ .error .invalidProposalStatus := by
  intro failed
  simp only [MultiProofGame.resolve, bind_eq_error, revertIf_eq_error, revertIf_eq_ok, reduceCtorEq, and_false, false_or,
    ne_eq, not_not] at failed
  obtain ⟨_, running, failed | ⟨parent, rfl, failed⟩⟩ := failed
  · exact readable failed
  obtain ⟨report, reported⟩ := game.resolutionStatus_total now parent
  cases resolvable : report.resolvable with
  | false =>
    rcases decideOutcome_of_unresolvable running reported resolvable with outcome | outcome <;>
      simp [outcome] at failed
  | true =>
    obtain ⟨credit, outcome⟩ := sound.decideOutcome_of_resolvable running reported resolvable
    simp only [outcome, reduceCtorEq, false_or, Except.ok.injEq, exists_eq_left', toTimestamp] at failed
    rcases failed with failed | ⟨_, _, failed⟩
    · split at failed <;> cases failed
    · cases failed

end MultiProofGame

namespace World

variable {deployment : Deployment} {world : World deployment}

theorem parentResolution_ne_invalidProposalStatus (args : CloneArgs) :
    world.parentResolution args ≠ .error .invalidProposalStatus := by
  intro failed
  simp only [parentResolution, CloneArgs.parentRef, bind_eq_error, bind_eq_ok, revertIf_eq_error, reduceCtorEq, and_false,
    false_or, pure_eq_ok] at failed
  rcases failed with ⟨_, _, failed⟩ | ⟨parentRef, _, failed⟩
  · cases failed
  split at failed
  · cases failed
  split at failed
  · cases failed
  · rw [bind_eq_error] at failed
    rcases failed with failed | ⟨_, _, failed⟩
    · unfold statusAt at failed
      split at failed <;> cases failed
    · cases failed

/-- `resolve` goes through exactly when the report is resolvable and the timestamp fits its field, and stores the
reported outcome and reason. -/
theorem resolve_agrees_with_resolutionStatus {environment : Environment deployment} {token : Address → ℕ}
    {log : List (Action deployment)} (run : Run exec (fun _ _ => True) (genesis environment token) log world)
    {self : Address} {game : MultiProofGame deployment} (found : world.games self = some game) :
    ((∃ after, world.resolve self = .ok after) ↔
      world.now ≤ uint64Max ∧ ∃ report, world.resolutionStatus game = .ok report ∧ report.resolvable = true) ∧
    (∀ report after, world.resolutionStatus game = .ok report → world.resolve self = .ok after →
      ∃ resolved, after.games self = some resolved ∧ resolved.status = report.outcome ∧
        resolved.claimData.invalidationReason = report.reason) ∧
    (∀ report, world.resolutionStatus game = .ok report → report.resolvable = false →
      ∃ error, world.resolve self = .error error) ∧
    world.resolve self ≠ .error .invalidProposalStatus := by
  have sound := sound_of_run run found
  have unfolded : world.resolve self = (do
      let resolved ← game.resolve world.now (world.parentResolution game.args)
      pure (world.setGame self resolved)) := by
    rw [resolve, gameAt_eq_ok.mpr found]
    rfl
  have success : ∀ after, world.resolve self = .ok after → ∃ resolved,
      game.resolve world.now (world.parentResolution game.args) = .ok resolved ∧ after.games self = some resolved := by
    intro after success
    simp only [unfolded, bind_eq_ok, pure_eq_ok] at success
    obtain ⟨resolved, success, rfl⟩ := success
    exact ⟨resolved, success, Function.update_self ..⟩
  refine ⟨⟨?_, ?_⟩, ?_, ?_, ?_⟩
  · rintro ⟨after, resolves⟩
    obtain ⟨resolved, resolves, _⟩ := success after resolves
    obtain ⟨onTime, report, reported, resolvable, _⟩ := sound.resolve_reports resolves
    exact ⟨onTime, report, reported, resolvable⟩
  · rintro ⟨onTime, report, reported, resolvable⟩
    obtain ⟨resolved, resolves⟩ := sound.resolve_of_resolvable onTime reported resolvable
    exact ⟨world.setGame self resolved, by rw [unfolded, resolves]; rfl⟩
  · intro report after reported resolves
    obtain ⟨resolved, resolves, stored⟩ := success after resolves
    obtain ⟨_, actual, again, _, outcome, reason⟩ := sound.resolve_reports resolves
    obtain rfl := Except.ok.inj (reported.symm.trans again)
    exact ⟨resolved, stored, outcome, reason⟩
  · intro report reported unresolvable
    cases outcome : world.resolve self with
    | error error => exact ⟨error, rfl⟩
    | ok after =>
      obtain ⟨resolved, resolves, _⟩ := success after outcome
      obtain ⟨_, actual, again, resolvable, _⟩ := sound.resolve_reports resolves
      obtain rfl := Except.ok.inj (reported.symm.trans again)
      cases unresolvable.symm.trans resolvable
  · intro failed
    rw [unfolded, bind_eq_error] at failed
    rcases failed with failed | ⟨_, _, failed⟩
    · exact sound.resolve_ne_invalidProposalStatus (parentResolution_ne_invalidProposalStatus _) failed
    · cases failed

open ERC20StakingVault (sampleDeployment)

theorem resolve_agrees_on_sample : ∃ game, (sampleWorld (sampleLog.take 6)).games sampleGame = some game ∧
    ∃ after, (sampleWorld (sampleLog.take 6)).resolve sampleGame = .ok after := by
  have facts : ((sampleWorld (sampleLog.take 6)).games sampleGame).map (sampleWorld (sampleLog.take 6)).resolutionStatus =
      some (.ok ⟨true, .defenderWins, .none⟩) := by decide +kernel
  obtain ⟨game, found, reported⟩ := Option.map_eq_some_iff.mp facts
  have agrees := resolve_agrees_with_resolutionStatus (sample_run (sampleLog.take 6) (by decide +kernel)) found
  exact ⟨game, found, agrees.1.mpr ⟨by decide +kernel, _, reported, rfl⟩⟩

def lateLog : List (Action sampleDeployment) :=
  [.deposit 1 1 50, .create 1 0 42 (sampleExtraData 1010 8 0), .environment (sampleEnvironment (2 ^ 64) false)]

theorem resolve_reverts_beyond_uint64 : ∃ world game, Run exec (fun _ _ => True) sampleGenesis lateLog world ∧
    world.games sampleGame = some game ∧
    world.resolutionStatus game = .ok ⟨true, .challengerWins, .proofTimeout⟩ ∧
    world.resolve sampleGame = .error (.timestampOutOfBounds (2 ^ 64)) := by
  have facts : ((sampleWorld lateLog).games sampleGame).map (sampleWorld lateLog).resolutionStatus =
      some (.ok ⟨true, .challengerWins, .proofTimeout⟩) := by decide +kernel
  obtain ⟨game, found, reported⟩ := Option.map_eq_some_iff.mp facts
  refine ⟨sampleWorld lateLog, game, sample_run lateLog (by decide +kernel), found, reported, ?_⟩
  have fails : ((sampleWorld lateLog).resolve sampleGame).map (fun _ => ()) =
      .error (.timestampOutOfBounds (2 ^ 64)) := by decide +kernel
  cases outcome : (sampleWorld lateLog).resolve sampleGame with
  | error error => simpa [outcome, Except.map] using fails
  | ok after => simp [outcome, Except.map] at fails

end World

end WorldChain.Dispute
