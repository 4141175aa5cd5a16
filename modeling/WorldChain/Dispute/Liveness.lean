import WorldChain.Dispute.Lineage

/-! # Every game can be resolved

A game waits for its parent, and the parent for its own. So no game gets stuck if the calls go down the line of
ancestors: `every_game_can_be_resolved` gives them, the oldest ancestor first, for a game of any run.
-/

namespace WorldChain.Dispute

open Machine

variable {deployment : Deployment} {game : MultiProofGame deployment}

theorem MultiProofGame.Sound.resolve_of_expired {bond : GameBond} {now : ℕ} {parent : ParentResolution}
    (sound : game.Sound bond) (running : game.status = .inProgress) (expired : game.claimData.deadline ≤ now)
    (onTime : now ≤ uint64Max) (decided : parent.status = .inProgress → parent.blacklisted = true) :
    ∃ after, game.resolve now (.ok parent) = .ok after ∧ after.args = game.args ∧ after.status ≠ .inProgress := by
  obtain ⟨report, reported⟩ := game.resolutionStatus_total now parent
  have finished : game.gameOver now = true := gameOver_eq_true.mpr (.inl expired)
  have resolvable : report.resolvable = true := by
    rcases resolutionStatus_cases running reported with ⟨_, rfl⟩ | ⟨valid, ⟨early, _⟩ | ⟨_, _, rfl⟩ |
      ⟨_, _, waiting, _⟩ | ⟨_, _, _, rfl⟩⟩
    · rfl
    · cases finished.symm.trans early
    · exact decide_eq_true fun waiting => valid (.inl (decided waiting))
    · exact absurd (.inl (decided waiting)) valid
    · rfl
  obtain ⟨after, resolves⟩ := sound.resolve_of_resolvable onTime reported resolvable
  obtain ⟨_, _, _, _, status, reason, credit, outcome, rfl⟩ := resolve_eq_ok.mp resolves
  refine ⟨_, resolves, rfl, ?_⟩
  rcases decideOutcome_cases outcome with ⟨_, rfl, _⟩ | ⟨_, _, _, _, rfl, _⟩ | ⟨_, _, _, _, rfl, _⟩ <;>
    exact GameStatus.noConfusion

namespace World

variable {world after : World deployment} {self : Address} {args : CloneArgs} {path : List Address}

/-- The clones that a proposal descends from, the oldest first, when the deadlines of all have passed; a game of another
type that the oldest stands on is resolved. -/
inductive ExpiredAncestors (world : World deployment) : CloneArgs → List Address → Prop
  | anchor {args : CloneArgs} (parentRead : args.parentRef = .ok deployment.anchorStateRegistry) :
      ExpiredAncestors world args []
  | foreign {args : CloneArgs} {parentRef : Address} {other : DisputeGame} (parentRead : args.parentRef = .ok parentRef)
      (vacant : world.games parentRef = none) (found : world.environment.others parentRef = some other)
      (resolved : other.status ≠ .inProgress) : ExpiredAncestors world args []
  | child {args : CloneArgs} {parentRef : Address} {parent : MultiProofGame deployment} {path : List Address}
      (parentRead : args.parentRef = .ok parentRef) (found : world.games parentRef = some parent)
      (expired : parent.claimData.deadline ≤ world.now) (ancestors : ExpiredAncestors world parent.args path) :
      ExpiredAncestors world args (path ++ [parentRef])

/-- Games on a path are resolved, in its order, and nothing else is done. -/
structure Resolves (world : World deployment) (path : List Address) (after : World deployment) : Prop where
  run : ∃ calls, List.Sublist calls path ∧ Run exec (fun _ _ => True) world (calls.map .resolve) after
  environment : after.environment = world.environment
  games : ∀ address game, world.games address = some game →
    ∃ next, after.games address = some next ∧ next.args = game.args ∧ (next = game ∨ next.status ≠ .inProgress)

/-- The parent of a proposal does not stand in the way of its resolution. -/
def Unblocked (world : World deployment) (args : CloneArgs) : Prop :=
  ∃ parent, world.parentResolution args = .ok parent ∧ (parent.status = .inProgress → parent.blacklisted = true)

theorem unblocked_of_statusAt {parentRef : Address} {status : GameStatus} (parentRead : args.parentRef = .ok parentRef)
    (read : world.statusAt parentRef = .ok status) (resolved : status ≠ .inProgress) : world.Unblocked args := by
  simp only [Unblocked, parentResolution, parentRead, read, bind, Except.bind]
  split
  · exact ⟨_, rfl, fun waiting => by cases waiting⟩
  · split
    · exact ⟨_, rfl, fun _ => rfl⟩
    · exact ⟨_, rfl, fun waiting => absurd waiting resolved⟩

section

variable {environment : Environment deployment} {token : Address → ℕ} {log : List (Action deployment)}
  (run : Run exec (fun _ _ => True) (genesis environment token) log world)
  (onTime : world.now ≤ uint64Max)

include run onTime

theorem Resolves.next (resolves : Resolves world path after) (found : world.games self = some game)
    (expired : game.claimData.deadline ≤ world.now) (unblocked : after.Unblocked game.args) :
    ∃ final next, Resolves world (path ++ [self]) final ∧ final.games self = some next ∧
      next.status ≠ .inProgress := by
  obtain ⟨calls, below, made⟩ := resolves.run
  have still : Resolves world (path ++ [self]) after :=
    { resolves with run := ⟨calls, below.trans (List.sublist_append_left ..), made⟩ }
  obtain ⟨next, present, same, rfl | resolved⟩ := resolves.games self game found
  · by_cases running : next.status = .inProgress
    · obtain ⟨parent, read, decided⟩ := unblocked
      have now : after.now = world.now := congrArg Environment.timestamp resolves.environment
      obtain ⟨resolved, effective, kept, ended⟩ := (sound_of_run (run.append made) present).resolve_of_expired
        running expired onTime decided
      have step : after.exec (.resolve self) = .ok (after.setGame self resolved) := by
        simp only [exec, resolve, gameAt_eq_ok.mpr present, read, now, effective, bind, Except.bind]
        rfl
      refine ⟨after.setGame self resolved, resolved,
        ⟨⟨calls ++ [self], below.append_right _, ?_⟩, resolves.environment, fun address earlier here => ?_⟩,
        Function.update_self .., ended⟩
      · rw [List.map_append]
        exact .effect made trivial step
      · by_cases isSelf : address = self
        · subst isSelf
          obtain rfl := Option.some.inj (found.symm.trans here)
          exact ⟨resolved, Function.update_self .., kept, .inr ended⟩
        · obtain ⟨next, present, rest⟩ := resolves.games address earlier here
          exact ⟨next, (Function.update_of_ne isSelf ..).trans present, rest⟩
    · exact ⟨after, next, still, present, running⟩
  · exact ⟨after, next, still, present, resolved⟩

theorem ExpiredAncestors.exists_resolves (ancestors : ExpiredAncestors world args path) :
    ∃ after, Resolves world path after ∧ after.Unblocked args := by
  have start : Resolves world [] world :=
    ⟨⟨[], List.Sublist.refl _, .start _⟩, rfl, fun _ game found => ⟨game, found, rfl, .inl rfl⟩⟩
  induction ancestors with
  | anchor parentRead =>
    refine ⟨world, start, ⟨.defenderWins, false⟩, ?_, fun waiting => by cases waiting⟩
    simp [parentResolution, parentRead]
  | foreign parentRead vacant found settled =>
    exact ⟨world, start, unblocked_of_statusAt parentRead (by rw [statusAt, vacant, found]) settled⟩
  | child parentRead found expired _ ih =>
    obtain ⟨after, resolves, unblocked⟩ := ih
    obtain ⟨final, next, resolves, present, resolved⟩ := resolves.next run onTime found expired unblocked
    exact ⟨final, resolves, unblocked_of_statusAt parentRead (by rw [statusAt, present]) resolved⟩

/-- Once the deadlines of a game and its ancestors have passed, calls of `resolve` for some of them, the oldest ancestor
first and the game last, resolve the game. -/
theorem every_game_can_be_resolved (found : world.games self = some game)
    (expired : game.claimData.deadline ≤ world.now) (ancestors : ExpiredAncestors world game.args path) :
    ∃ (calls : List Address) (after : World deployment) (next : MultiProofGame deployment),
      calls.Sublist (path ++ [self]) ∧ Run exec (fun _ _ => True) world (calls.map .resolve) after ∧
      after.games self = some next ∧ next.status ≠ .inProgress := by
  obtain ⟨after, resolves, unblocked⟩ := ancestors.exists_resolves run onTime
  obtain ⟨final, next, resolves, present, resolved⟩ := resolves.next run onTime found expired unblocked
  obtain ⟨calls, below, made⟩ := resolves.run
  exact ⟨calls, final, next, below, made, present, resolved⟩

end

def waitingLog : List (Action ERC20StakingVault.sampleDeployment) :=
  sampleLog.take 3 ++ [.create 2 0 43 (sampleExtraData 1020 sampleGame 0)]

theorem sample_game_can_be_resolved : ∃ (calls : List Address) (after : World _) (next : MultiProofGame _),
    calls.Sublist [sampleGame, sampleChild] ∧
    Run exec (fun _ _ => True) { sampleWorld waitingLog with environment := sampleEnvironment 150 false }
      (calls.map .resolve) after ∧ after.games sampleChild = some next ∧ next.status ≠ .inProgress := by
  have facts : ([sampleGame, sampleChild].map fun address => ((sampleWorld waitingLog).games address).map fun game =>
      (game.args.parentRef, game.claimData.deadline)) = [some (.ok 8, 150), some (.ok sampleGame, 150)] := by
    decide +kernel
  have run := sample_run waitingLog (by decide +kernel)
  generalize sampleWorld waitingLog = world at *
  obtain ⟨parent, child⟩ := List.cons.inj facts
  obtain ⟨game, found, same⟩ := Option.map_eq_some_iff.mp parent
  obtain ⟨parentRead, deadline⟩ := Prod.mk.inj same
  obtain ⟨last, lastFound, same⟩ := Option.map_eq_some_iff.mp (List.cons.inj child).1
  obtain ⟨lastRead, lastDeadline⟩ := Prod.mk.inj same
  have later : world.exec (.environment (sampleEnvironment 150 false)) =
      .ok { world with environment := sampleEnvironment 150 false } := rfl
  exact every_game_can_be_resolved (.effect run trivial later) (show 150 ≤ uint64Max by decide) lastFound
    lastDeadline.le (.child lastRead found deadline.le (.anchor parentRead))

end World

end WorldChain.Dispute
