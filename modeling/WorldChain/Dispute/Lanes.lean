import WorldChain.Dispute.Resolution

/-! # A defender wins only on proofs accepted in time

The bitmap of a game is tied to the history of the run that produced it: a lane is set exactly when a call that its
verifier accepted set it, and every such call came before the deadline that was active then.
-/

namespace WorldChain.Dispute.World

open Machine

variable {deployment : Deployment} {world after : World deployment} {log : List (Action deployment)}
  {self : Address} {game : MultiProofGame deployment}

/-- During the history `log`, in the state `before`, the verifier of `lane` accepted a proof for the
clone at `self`. -/
def AcceptedAt (source : World deployment) (log : List (Action deployment)) (self : Address) (lane : ProofLane)
    (before : World deployment) : Prop :=
  ∃ proof game, Occurs exec (fun _ _ => True) source log (.submitProofLane self proof) before ∧
    before.games self = some game ∧
    game.Accepts before.now (before.parentResolution game.args) (before.startingProposal game.args)
      before.environment.verify proof lane

/-- What the history of a run says about one of its games. -/
structure Evidence (source : World deployment) (log : List (Action deployment)) (address : Address)
    (game : MultiProofGame deployment) : Prop where
  accepted : ∀ lane, game.claimData.proofBitmap.has lane = true → ∃ before, AcceptedAt source log address lane before
  timely : ∀ lane before, AcceptedAt source log address lane before →
    game.claimData.proofBitmap.has lane = true ∧ before.now < game.createdAt + game.activePeriod
  challenged : game.claimData.challenger ≠ 0#160 ↔ ∃ sender, .challenge sender address ∈ log
  resolved : game.status ≠ .inProgress →
    ∃ before, Occurs exec (fun _ _ => True) source log (.resolve address) before ∧ before.now = game.resolvedAt
  won : game.status = .defenderWins →
    (if game.claimData.challenger = 0#160 then game.claimData.proofBitmap.count ≠ 0
      else game.config.proofThreshold ≤ game.claimData.proofBitmap.count) ∧
    (game.claimData.deadline ≤ game.resolvedAt ∨
      game.config.proofThreshold ≤ game.claimData.proofBitmap.count)

variable {source : World deployment} {lane : ProofLane} {before : World deployment} {action : Action deployment}

theorem AcceptedAt.extend (accepted : AcceptedAt source log self lane before) :
    AcceptedAt source (log ++ [action]) self lane before := by
  obtain ⟨proof, game, occurs, found, accepts⟩ := accepted
  exact ⟨proof, game, occurs.extend, found, accepts⟩

section

variable (accepted : AcceptedAt source (log ++ [action]) self lane before)
  (run : Run exec (fun _ _ => True) source log world)

include accepted run

theorem AcceptedAt.append_singleton_cases :
    AcceptedAt source log self lane before ∨ (before = world ∧ ∃ proof game,
      action = .submitProofLane self proof ∧ world.games self = some game ∧
      game.Accepts world.now (world.parentResolution game.args) (world.startingProposal game.args)
        world.environment.verify proof lane) := by
  obtain ⟨proof, game, occurs, found, accepts⟩ := accepted
  rcases occurs.append_singleton_cases run with occurs | ⟨rfl, rfl⟩
  · exact .inl ⟨proof, game, occurs, found, accepts⟩
  · exact .inr ⟨rfl, proof, game, rfl, found, accepts⟩

theorem AcceptedAt.of_other (other : ∀ proof, action ≠ .submitProofLane self proof) :
    AcceptedAt source log self lane before := by
  rcases accepted.append_singleton_cases run with accepted | ⟨_, proof, _, same, _⟩
  · exact accepted
  · exact absurd same (other proof)

end

theorem Evidence.frame (evidence : Evidence source log self game) (run : Run exec (fun _ _ => True) source log world)
    (unproven : ∀ proof, action ≠ .submitProofLane self proof)
    (unchallenged : ∀ sender, action ≠ .challenge sender self) :
    Evidence source (log ++ [action]) self game where
  accepted := fun lane set => (evidence.accepted lane set).imp fun _ accepted => accepted.extend
  timely := fun lane before accepted => evidence.timely lane before (accepted.of_other run unproven)
  challenged := by
    rw [evidence.challenged]
    constructor
    · rintro ⟨sender, member⟩
      exact ⟨sender, List.mem_append_left _ member⟩
    · rintro ⟨sender, member⟩
      rcases List.mem_append.mp member with member | last
      · exact ⟨sender, member⟩
      · exact absurd (List.mem_singleton.mp last).symm (unchallenged sender)
  resolved := fun resolved => (evidence.resolved resolved).imp fun _ found => ⟨found.1.extend, found.2⟩
  won := evidence.won

theorem Evidence.challenge {sender : Address} (evidence : Evidence source log self game)
    (run : Run exec (fun _ _ => True) source log world) (challengeable : game.Challengeable world.now)
    (named : sender ≠ 0#160) : Evidence source (log ++ [.challenge sender self]) self (game.challengedBy sender) where
  accepted := fun lane set => (evidence.accepted lane set).imp fun _ accepted => accepted.extend
  timely := by
    intro lane before accepted
    obtain ⟨set, early⟩ := evidence.timely lane before (accepted.of_other run (by simp))
    refine ⟨set, early.trans_le (Nat.add_le_add_left ?_ _)⟩
    exact game.activePeriod_le.trans (le_of_eq (if_neg named).symm)
  challenged := iff_of_true named ⟨sender, by simp⟩
  resolved := fun resolved => absurd challengeable.running resolved
  won := fun won => by cases challengeable.running.symm.trans won

section

variable {bond : GameBond} (evidence : Evidence source log self game) (sound : game.Sound bond)
  (run : Run exec (fun _ _ => True) source log world)

include evidence sound run

theorem Evidence.prove {proof : Bytes} (found : world.games self = some game)
    (accepts : game.Accepts world.now (world.parentResolution game.args) (world.startingProposal game.args)
      world.environment.verify proof lane) :
    Evidence source (log ++ [.submitProofLane self proof]) self
      (game.acceptLane lane (decodeCompact proof).recipient) where
  accepted := by
    intro other set
    change (game.claimData.proofBitmap.set lane).has other = true at set
    rw [Bitmap.has_set, Bool.or_eq_true, decide_eq_true_eq] at set
    rcases set with set | rfl
    · exact (evidence.accepted other set).imp fun _ accepted => accepted.extend
    · exact ⟨world, proof, game, Occurs.latest run, found, accepts⟩
  timely := by
    intro other before accepted
    change (game.claimData.proofBitmap.set lane).has other = true ∧ before.now < game.createdAt + game.activePeriod
    rw [Bitmap.has_set, Bool.or_eq_true, decide_eq_true_eq]
    rcases accepted.append_singleton_cases run with earlier | ⟨rfl, again, same, call, read, latest⟩
    · exact (evidence.timely other before earlier).imp_left .inl
    · obtain rfl := Option.some.inj (found.symm.trans read)
      obtain ⟨_, rfl⟩ := Action.submitProofLane.inj call
      have named : lane = other := Option.some.inj (accepts.named.symm.trans latest.named)
      have early := (MultiProofGame.gameOver_eq_false.mp accepts.undecided).1
      rw [sound.deadline] at early
      exact ⟨.inr named.symm, early⟩
  challenged := by
    change game.claimData.challenger ≠ 0#160 ↔ _
    rw [evidence.challenged]
    simp
  resolved := fun resolved => absurd accepts.running resolved
  won := fun won => by cases accepts.running.symm.trans won

theorem Evidence.resolve {parent : ParentResolution} {status : GameStatus} {reason : InvalidationReason}
    {credit : Address → ℕ} (running : game.status = .inProgress)
    (decided : game.decideOutcome world.now parent = .ok (status, reason, credit)) :
    Evidence source (log ++ [.resolve self]) self (game.resolvedWith world.now status reason credit) where
  accepted := (evidence.frame run (by simp) (by simp)).accepted
  timely := (evidence.frame run (by simp) (by simp)).timely
  challenged := (evidence.frame run (by simp) (by simp)).challenged
  resolved := fun _ => ⟨world, Occurs.latest run, rfl⟩
  won := by
    intro won
    change status = .defenderWins at won
    subst won
    rcases MultiProofGame.decideOutcome_cases decided with
      ⟨_, lost, _⟩ | ⟨_, _, finished, shown, _⟩ | ⟨_, _, _, _, lost, _⟩
    · cases lost
    · exact ⟨(sound.proven_iff running).mp shown, MultiProofGame.gameOver_eq_true.mp finished⟩
    · cases lost

theorem Evidence.step {recorded : GameBond} {next : MultiProofGame deployment}
    (found : world.games self = some game) (step : GameStep world self game bond action next recorded) :
    Evidence source (log ++ [action]) self next := by
  cases step with
  | challenge challengeable named _ _ => exact evidence.challenge run challengeable named
  | prove accepts => exact evidence.prove sound run found accepts
  | resolve running _ decided => exact evidence.resolve sound run running decided
  | close mode _ => exact { evidence.frame run (by simp) (by simp) with }

end

theorem evidence_of_run {environment : Environment deployment} {token : Address → ℕ}
    (run : Run exec (fun _ _ => True) (genesis environment token) log world) (address : Address) :
    (world.games address = none → ∀ action ∈ log, action.target ≠ some address) ∧
      ∀ game, world.games address = some game → Evidence (genesis environment token) log address game := by
  refine run.history (motive := fun log world =>
    (world.games address = none → ∀ action ∈ log, action.target ≠ some address) ∧
      ∀ game, world.games address = some game → Evidence (genesis environment token) log address game)
    ⟨by simp, fun _ missing => by cases missing⟩ ?_
  intro past before after action run ⟨silent, evidence⟩ _ success
  rcases exec_game success address with
    ⟨games, _, still⟩ | ⟨still, implementation, args, creation⟩ | ⟨game, next, bond, stepped⟩
  · rw [games]
    refine ⟨fun vacant call member => ?_, fun game found => ?_⟩
    · rcases List.mem_append.mp member with member | last
      · exact silent vacant call member
      · rwa [List.mem_singleton.mp last]
    · refine (evidence game found).frame run ?_ ?_
      · rintro proof rfl
        exact still rfl
      · rintro sender rfl
        exact still rfl
  · rw [creation.games, Function.update_self]
    refine ⟨fun vacant => (by cases vacant), ?_⟩
    intro game found
    obtain rfl := Option.some.inj found
    have unused : ∀ call ∈ past ++ [action], call.target ≠ some address := by
      intro call member
      rcases List.mem_append.mp member with member | last
      · exact silent creation.vacant call member
      · simp [List.mem_singleton.mp last, still]
    refine
      { accepted := fun lane set => ?_, timely := fun lane world accepted => ?_, challenged := ?_
        resolved := fun resolved => absurd rfl resolved, won := fun won => by cases won }
    · cases (Bitmap.has_zero lane).symm.trans set
    · obtain ⟨proof, game, occurs, _⟩ := accepted
      exact absurd rfl (unused _ occurs.mem)
    · apply iff_of_false (fun named => named rfl)
      rintro ⟨sender, member⟩
      exact unused _ member rfl
  · rw [stepped.games, Function.update_self]
    refine ⟨fun vacant => (by cases vacant), ?_⟩
    intro game found
    obtain rfl := Option.some.inj found
    exact (evidence _ stepped.found).step (sound_of_run run stepped.found) run stepped.found stepped.step

theorem Evidence.lanes (evidence : Evidence source log self game) {period : ℕ} (active : game.activePeriod = period)
    {count : ℕ} (enough : count ≤ game.claimData.proofBitmap.count) :
    ∃ lanes : List ProofLane, lanes.Nodup ∧ count ≤ lanes.length ∧ ∀ lane ∈ lanes, ∃ before,
      AcceptedAt source log self lane before ∧ before.now < game.createdAt + period := by
  refine ⟨game.claimData.proofBitmap.lanes, ProofLane.all_nodup.filter _, by simpa using enough, ?_⟩
  intro lane member
  obtain ⟨before, accepted⟩ := evidence.accepted lane (Bitmap.mem_lanes.mp member)
  exact ⟨before, accepted, active ▸ (evidence.timely lane before accepted).2⟩

/-- A defender wins a challenged game only on the threshold of lanes accepted within the proof period, and another one
only on a lane accepted within the challenge period. -/
theorem defender_wins_on_timely_proofs {environment : Environment deployment} {token : Address → ℕ}
    (run : Run exec (fun _ _ => True) (genesis environment token) log world)
    (found : world.games self = some game) :
    (game.status = .defenderWins →
      (∃ before, Occurs exec (fun _ _ => True) (genesis environment token) log (.resolve self) before ∧
        before.now = game.resolvedAt) ∧
      ((∃ sender, .challenge sender self ∈ log) →
        ∃ lanes : List ProofLane, lanes.Nodup ∧ game.config.proofThreshold ≤ lanes.length ∧
          ∀ lane ∈ lanes, ∃ before, AcceptedAt (genesis environment token) log self lane before ∧
            before.now < game.createdAt + game.config.proofPeriod) ∧
      ((¬ ∃ sender, .challenge sender self ∈ log) →
        (∃ lane before, AcceptedAt (genesis environment token) log self lane before) ∧
        (∀ lane before, AcceptedAt (genesis environment token) log self lane before →
          before.now < game.createdAt + game.config.challengePeriod) ∧
        (game.createdAt + game.config.challengePeriod ≤ game.resolvedAt ∨
          ∃ lanes : List ProofLane, lanes.Nodup ∧ game.config.proofThreshold ≤ lanes.length ∧
            ∀ lane ∈ lanes, ∃ before, AcceptedAt (genesis environment token) log self lane before))) ∧
    game.claimData.proofBitmap.count ≤ game.config.proofThreshold ∧
    game.claimData.status = MultiProofGame.documentedStatus (decide (game.status ≠ .inProgress))
      game.claimData.challenger game.claimData.proofBitmap.count game.config.proofThreshold ∧
    game.claimData.deadline ≤ game.createdAt + game.config.proofPeriod := by
  have sound := sound_of_run run found
  have evidence := (evidence_of_run run self).2 game found
  refine ⟨fun won => ?_, sound.lanes, sound.status, ?_⟩
  · obtain ⟨shown, ended⟩ := evidence.won won
    refine ⟨evidence.resolved (by simp [won]), fun challenged => ?_, fun unchallenged => ?_⟩
    · have named := evidence.challenged.mpr challenged
      rw [if_neg named] at shown
      exact evidence.lanes (if_neg named) shown
    · have unnamed := not_not.mp (mt evidence.challenged.mp unchallenged)
      have active : game.activePeriod = game.config.challengePeriod := if_pos unnamed
      rw [if_pos unnamed] at shown
      obtain ⟨lanes, _, nonempty, accepted⟩ := evidence.lanes active (Nat.one_le_iff_ne_zero.mpr shown)
      obtain ⟨lane, member⟩ := List.exists_mem_of_length_pos nonempty
      obtain ⟨before, accepted, _⟩ := accepted lane member
      refine ⟨⟨lane, before, accepted⟩, ?_, ?_⟩
      · intro lane before accepted
        exact active ▸ (evidence.timely lane before accepted).2
      · rw [sound.deadline, active] at ended
        apply ended.imp_right
        intro enough
        obtain ⟨lanes, distinct, enough, accepted⟩ := evidence.lanes active enough
        exact ⟨lanes, distinct, enough, fun lane member => (accepted lane member).imp fun _ => And.left⟩
  · rw [sound.deadline]
    exact Nat.add_le_add_left MultiProofGame.activePeriod_le _

theorem sample_defender_wins_on_timely_proofs : ∃ game, (sampleWorld sampleLog).games sampleGame = some game ∧
    game.status = .defenderWins ∧ ∃ lanes : List ProofLane, lanes.Nodup ∧ game.config.proofThreshold ≤ lanes.length ∧
      ∀ lane ∈ lanes, ∃ before, AcceptedAt sampleGenesis sampleLog sampleGame lane before ∧
        before.now < game.createdAt + game.config.proofPeriod := by
  have facts : ((sampleWorld sampleLog).games sampleGame).map (·.status) = some .defenderWins := by decide +kernel
  obtain ⟨game, found, won⟩ := Option.map_eq_some_iff.mp facts
  have timely := defender_wins_on_timely_proofs (sample_run sampleLog (by decide +kernel)) found
  exact ⟨game, found, won, (timely.1 won).2.1 ⟨2, by simp [sampleLog]⟩⟩

end WorldChain.Dispute.World
