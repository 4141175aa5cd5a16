import WorldChain.Dispute.Lanes

/-! # Doom is irrevocable

A report of `CHALLENGER_WINS` has one of three causes: the game is settled that way, its parent is invalid, or its own
deadline passed without the proofs it needs.
-/

namespace WorldChain.Dispute

open Machine

variable {deployment : Deployment}

/-- The promises of the surroundings: nothing that a doom rests on is taken back. -/
structure Environment.Keeps (earlier later : Environment deployment) : Prop where
  time : earlier.timestamp ≤ later.timestamp
  blacklist : ∀ address, earlier.registry.isGameBlacklisted address = true →
    later.registry.isGameBlacklisted address = true
  others : ∀ address game, earlier.others address = some game →
    ∃ next, later.others address = some next ∧ (game.status ≠ .inProgress → next.status = game.status)

theorem Environment.Keeps.refl (environment : Environment deployment) : environment.Keeps environment :=
  ⟨le_rfl, fun _ listed => listed, fun _ game found => ⟨game, found, fun _ => rfl⟩⟩

namespace World

variable {world after : World deployment} {action : Action deployment} {self : Address}
  {game : MultiProofGame deployment}

/-- Every change of the surroundings keeps their promises. -/
def Steady (world : World deployment) (action : Action deployment) : Prop :=
  world.environment.Keeps (action.surroundings world.environment)

section

variable (steady : world.Steady action) (success : world.exec action = .ok after)

include steady success

theorem exec_keeps : world.environment.Keeps after.environment := by
  rcases exec_surroundings success with same | changed
  · rw [same]
    exact .refl _
  · rw [changed]
    exact steady

theorem exec_statusAt {address : Address} {status : GameStatus} (read : world.statusAt address = .ok status) :
    ∃ later, after.statusAt address = .ok later ∧ (status ≠ .inProgress → later = status) := by
  unfold statusAt at read ⊢
  split at read
  · next game found =>
    obtain rfl := Except.ok.inj read
    obtain ⟨next, found, continues⟩ := exec_continues success found
    exact ⟨next.status, by rw [found], continues.status⟩
  · next other vacant found =>
    obtain rfl := Except.ok.inj read
    obtain ⟨next, found', kept⟩ := (exec_keeps steady success).others address other found
    rcases exec_game success address with
      ⟨games, _, _⟩ | ⟨_, implementation, args, creation⟩ | ⟨earlier, next, bond, stepped⟩
    · exact ⟨next.status, by rw [games, vacant, found'], kept⟩
    · cases creation.unclaimed.symm.trans found
    · cases vacant.symm.trans stepped.found
  · cases read

theorem exec_parentResolution {args : CloneArgs} {parent : ParentResolution}
    (read : world.parentResolution args = .ok parent) :
    ∃ later, after.parentResolution args = .ok later ∧
      (MultiProofGame.ParentInvalid parent → MultiProofGame.ParentInvalid later) := by
  simp only [parentResolution, bind_eq_ok] at read ⊢
  obtain ⟨parentRef, parentRead, read⟩ := read
  split at read
  · next sentinel => exact ⟨parent, ⟨parentRef, parentRead, by rw [if_pos sentinel]; exact read⟩, id⟩
  next proposal =>
  split at read
  · next listed =>
    have still := (exec_keeps steady success).blacklist parentRef listed
    exact ⟨⟨.inProgress, true⟩, ⟨parentRef, parentRead, by rw [if_neg proposal, if_pos still]; rfl⟩,
      fun _ => .inl rfl⟩
  · simp only [bind_eq_ok, pure_eq_ok] at read
    obtain ⟨status, statusRead, rfl⟩ := read
    obtain ⟨later, laterRead, kept⟩ := exec_statusAt steady success statusRead
    by_cases listed : after.registry.isGameBlacklisted parentRef = true
    · exact ⟨⟨.inProgress, true⟩, ⟨parentRef, parentRead, by rw [if_neg proposal, if_pos listed]; rfl⟩,
        fun _ => .inl rfl⟩
    · refine ⟨⟨later, false⟩, ⟨parentRef, parentRead, by rw [if_neg proposal, if_neg listed, laterRead]; rfl⟩, ?_⟩
      rintro (listed | lost)
      · cases listed
      · change status = .challengerWins at lost
        exact .inr ((kept (by simp [lost])).trans lost)

end

def Doomed (world : World deployment) (game : MultiProofGame deployment) : Prop :=
  ∃ report, world.resolutionStatus game = .ok report ∧ report.outcome = .challengerWins

/-- The three causes of such a report. -/
inductive Cause (world : World deployment) (game : MultiProofGame deployment) : Prop
  | lost (status : game.status = .challengerWins)
  | parent {parent : ParentResolution} (running : game.status = .inProgress)
      (read : world.parentResolution game.args = .ok parent) (invalid : MultiProofGame.ParentInvalid parent)
  | timeout {parent : ParentResolution} (running : game.status = .inProgress)
      (read : world.parentResolution game.args = .ok parent) (late : game.claimData.deadline ≤ world.now)
      (unproven : game.proven = false)

theorem doomed_iff {bond : GameBond} (sound : game.Sound bond) : world.Doomed game ↔ world.Cause game := by
  constructor
  · rintro ⟨report, reported, outcome⟩
    by_cases running : game.status = .inProgress
    · simp only [resolutionStatus] at reported
      cases read : world.parentResolution game.args with
      | error _ =>
        rw [read, MultiProofGame.resolutionStatus, if_neg (not_not.mpr running)] at reported
        cases reported
      | ok parent =>
        rw [read] at reported
        rcases MultiProofGame.resolutionStatus_cases running reported with ⟨invalid, rfl⟩ | ⟨valid, ⟨_, rfl⟩ |
          ⟨finished, unproven, rfl⟩ | ⟨_, _, _, rfl⟩ | ⟨_, _, _, rfl⟩⟩
        · exact .parent running read invalid
        · cases outcome
        · refine .timeout running read ?_ unproven
          rcases MultiProofGame.gameOver_eq_true.mp finished with late | enough
          · exact late
          · have shown : game.proven = true := by
              rw [sound.proven_iff running]
              have := game.implementation.two_le_threshold
              change 2 ≤ game.config.proofThreshold at this
              split_ifs <;> omega
            cases unproven.symm.trans shown
        · cases outcome
        · cases outcome
    · rw [resolutionStatus, MultiProofGame.resolutionStatus, if_pos running] at reported
      obtain rfl := Except.ok.inj reported
      exact .lost outcome
  · intro cause
    cases cause with
    | lost status =>
      exact ⟨_, by rw [resolutionStatus, MultiProofGame.resolutionStatus, if_pos (by simp [status])], status⟩
    | parent running read invalid =>
      obtain ⟨report, reported⟩ := game.resolutionStatus_total world.now _
      refine ⟨report, by rw [resolutionStatus, read, reported], ?_⟩
      rcases MultiProofGame.resolutionStatus_cases running reported with ⟨_, rfl⟩ | ⟨valid, _⟩
      · rfl
      · exact absurd invalid valid
    | timeout running read late unproven =>
      obtain ⟨report, reported⟩ := game.resolutionStatus_total world.now _
      refine ⟨report, by rw [resolutionStatus, read, reported], ?_⟩
      have finished := MultiProofGame.gameOver_eq_true.mpr (.inl late)
      rcases MultiProofGame.resolutionStatus_cases running reported with ⟨_, rfl⟩ | ⟨_, ⟨early, _⟩ |
        ⟨_, _, rfl⟩ | ⟨_, shown, _⟩ | ⟨_, shown, _⟩⟩
      · rfl
      · cases early.symm.trans finished
      · rfl
      · cases unproven.symm.trans shown
      · cases unproven.symm.trans shown

theorem Cause.frame (cause : world.Cause game) (steady : world.Steady action) (success : world.exec action = .ok after)
    {next : MultiProofGame deployment} (status : next.status = game.status) (args : next.args = game.args)
    (claim : next.claimData = game.claimData) : after.Cause next := by
  cases cause with
  | lost lost => exact .lost (status.trans lost)
  | parent running read invalid =>
    obtain ⟨later, read, kept⟩ := exec_parentResolution steady success read
    exact .parent (status.trans running) (args ▸ read) (kept invalid)
  | timeout running read late unproven =>
    obtain ⟨later, read, _⟩ := exec_parentResolution steady success read
    refine .timeout (status.trans running) (args ▸ read) ?_ ?_
    · rw [claim]
      exact late.trans (exec_keeps steady success).time
    · rw [MultiProofGame.proven, claim]
      exact unproven

theorem Cause.step {bond recorded : GameBond} {next : MultiProofGame deployment} (cause : world.Cause game)
    (steady : world.Steady action) (success : world.exec action = .ok after)
    (step : GameStep world self game bond action next recorded) : after.Cause next := by
  cases step with
  | challenge challengeable =>
    cases cause with
    | lost lost => cases challengeable.running.symm.trans lost
    | parent running read invalid =>
      obtain ⟨later, read, kept⟩ := exec_parentResolution steady success read
      exact .parent running read (kept invalid)
    | timeout _ _ late _ =>
      have := (MultiProofGame.gameOver_eq_false.mp challengeable.undecided).1
      omega
  | prove accepts =>
    obtain ⟨parent, parentRead, clean, standing⟩ := accepts.parent
    cases cause with
    | lost lost => cases accepts.running.symm.trans lost
    | parent _ read invalid =>
      obtain rfl := Except.ok.inj (parentRead.symm.trans read)
      rcases invalid with listed | lost
      · cases clean.symm.trans listed
      · exact absurd lost standing
    | timeout _ _ late _ =>
      have := (MultiProofGame.gameOver_eq_false.mp accepts.undecided).1
      omega
  | resolve running parentRead decided =>
    apply Cause.lost
    rcases MultiProofGame.decideOutcome_cases decided with
      ⟨_, rfl, _⟩ | ⟨clean, won, _, shown, rfl, _⟩ | ⟨_, _, _, _, rfl, _⟩
    · rfl
    · cases cause with
      | lost lost => cases running.symm.trans lost
      | parent _ read invalid =>
        obtain rfl := Except.ok.inj (parentRead.symm.trans read)
        rcases invalid with listed | lost
        · cases clean.symm.trans listed
        · cases won.symm.trans lost
      | timeout _ _ _ unproven => cases unproven.symm.trans shown
    · rfl
  | close mode => exact cause.frame steady success rfl rfl rfl

theorem exec_cause (steady : world.Steady action) (success : world.exec action = .ok after)
    (found : world.games self = some game) (cause : world.Cause game) :
    ∃ next, after.games self = some next ∧ Continues game next ∧ after.Cause next := by
  obtain ⟨next, present, continues⟩ := exec_continues success found
  refine ⟨next, present, continues, ?_⟩
  rcases exec_game success self with
    ⟨games, _, _⟩ | ⟨_, implementation, args, creation⟩ | ⟨earlier, moved, bond, stepped⟩
  · obtain rfl := Option.some.inj (found.symm.trans (games.symm.trans present))
    exact cause.frame steady success rfl rfl rfl
  · cases creation.vacant.symm.trans found
  · obtain rfl := Option.some.inj (found.symm.trans stepped.found)
    rw [stepped.games, Function.update_self, Option.some.injEq] at present
    exact present ▸ cause.step steady success stepped.step

theorem Cause.forever {log : List (Action deployment)} (found : world.games self = some game)
    (cause : world.Cause game) (run : Run exec Steady world log after) :
    ∃ next, after.games self = some next ∧ after.Cause next := by
  refine run.invariant (motive := fun world => ∃ next, world.games self = some next ∧ world.Cause next)
    ⟨game, found, cause⟩ ?_
  rintro before after action ⟨game, found, cause⟩ steady success
  obtain ⟨next, present, _, cause⟩ := exec_cause steady success found cause
  exact ⟨next, present, cause⟩

theorem Cause.not_defenderWins (cause : world.Cause game) : game.status ≠ .defenderWins := by
  cases cause with
  | lost status => simp [status]
  | parent running => simp [running]
  | timeout running => simp [running]

end World

end WorldChain.Dispute
