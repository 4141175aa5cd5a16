import WorldChain.Dispute.Retries

/-! # The tree of proposals

Every clone extends its parent by one block interval, and its parent was there first, so its ancestors form a finite
chain down to the registry's starting root or a game of another type.
-/

namespace WorldChain.Dispute

open Machine

variable {deployment : Deployment}

/-- The promises of the surroundings about where proposals start from. -/
structure Environment.Remembers (earlier later : Environment deployment) : Prop where
  anchor : later.registry.startingAnchorRoot = earlier.registry.startingAnchorRoot
  others : ∀ address game, earlier.others address = some game → ∃ next, later.others address = some next ∧
    next.rootClaim = game.rootClaim ∧ next.l2SequenceNumber = game.l2SequenceNumber

theorem Environment.Remembers.refl (environment : Environment deployment) : environment.Remembers environment :=
  ⟨rfl, fun _ game found => ⟨game, found, rfl, rfl⟩⟩

namespace World

/-- Clones are opened over one implementation, and where proposals start from is remembered. -/
structure Rooted (implementation : Implementation deployment) (world : World deployment)
    (action : Action deployment) : Prop where
  current : ∀ other, world.environment.implementation.map Prod.snd = some other → other = implementation
  remembers : world.environment.Remembers (action.surroundings world.environment)

variable {implementation : Implementation deployment} {world after : World deployment} {action : Action deployment}
  {args : CloneArgs} {self : Address} {game : MultiProofGame deployment} {log : List (Action deployment)}

section

variable (rooted : Rooted implementation world action) (success : world.exec action = .ok after)

include rooted success

theorem exec_remembers : world.environment.Remembers after.environment := by
  rcases exec_surroundings success with same | changed
  · rw [same]
    exact .refl _
  · rw [changed]
    exact rooted.remembers

theorem exec_foreign {address : Address} {other : DisputeGame} (vacant : world.games address = none)
    (found : world.environment.others address = some other) :
    after.games address = none ∧ ∃ next, after.environment.others address = some next ∧
      next.rootClaim = other.rootClaim ∧ next.l2SequenceNumber = other.l2SequenceNumber := by
  refine ⟨?_, (exec_remembers rooted success).others address other found⟩
  rcases exec_game success address with
    ⟨games, _, _⟩ | ⟨_, implementation, args, creation⟩ | ⟨earlier, next, bond, stepped⟩
  · exact games.trans vacant
  · cases creation.unclaimed.symm.trans found
  · cases vacant.symm.trans stepped.found

theorem exec_startingProposal {starting : Proposal} (read : world.startingProposal args = .ok starting) :
    after.startingProposal args = .ok starting := by
  simp only [startingProposal, bind_eq_ok] at read ⊢
  obtain ⟨parentRef, parentRead, read⟩ := read
  refine ⟨parentRef, parentRead, ?_⟩
  split at read
  · next sentinel => rwa [if_pos sentinel, (exec_remembers rooted success).anchor]
  · next proposal =>
    rw [if_neg proposal]
    unfold proposalAt at read ⊢
    split at read
    · next game found =>
      obtain ⟨next, present, continues⟩ := exec_continues success found
      rw [present]
      simpa [continues.args] using read
    · next other vacant found =>
      obtain ⟨vacant, next, present, claim, number⟩ := exec_foreign rooted success vacant found
      rw [vacant, present]
      simpa [claim, number] using read
    · cases read

end

/-- The ancestors of a proposal, each clone among them with the property `holds`; the depth counts the clones, the
proposal itself included. -/
inductive Lineage (world : World deployment) (holds : MultiProofGame deployment → Prop) :
    CloneArgs → Proposal → ℕ → Prop
  | anchor {args : CloneArgs} (parentRead : args.parentRef = .ok deployment.anchorStateRegistry) :
      Lineage world holds args world.registry.startingAnchorRoot 1
  | foreign {args : CloneArgs} {parentRef : Address} {other : DisputeGame} (parentRead : args.parentRef = .ok parentRef)
      (proposal : parentRef ≠ deployment.anchorStateRegistry) (vacant : world.games parentRef = none)
      (found : world.environment.others parentRef = some other) :
      Lineage world holds args ⟨other.rootClaim, other.l2SequenceNumber⟩ 1
  | child {args : CloneArgs} {parentRef : Address} {parent : MultiProofGame deployment} {root : Proposal} {depth : ℕ}
      (parentRead : args.parentRef = .ok parentRef) (proposal : parentRef ≠ deployment.anchorStateRegistry)
      (found : world.games parentRef = some parent) (sound : holds parent)
      (ancestors : Lineage world holds parent.args root depth) : Lineage world holds args root (depth + 1)

variable {depth : ℕ} {holds : MultiProofGame deployment → Prop} {root : Proposal}

theorem Lineage.persists (lineage : Lineage world holds args root depth)
    (rooted : Rooted implementation world action) (success : world.exec action = .ok after)
    (lasting : ∀ game next : MultiProofGame deployment, Continues game next → holds game → holds next) :
    Lineage after holds args root depth := by
  induction lineage with
  | anchor parentRead =>
    rw [← (exec_remembers rooted success).anchor]
    exact .anchor parentRead
  | foreign parentRead proposal vacant found =>
    obtain ⟨vacant, next, present, claim, number⟩ := exec_foreign rooted success vacant found
    rw [← claim, ← number]
    exact .foreign parentRead proposal vacant present
  | child parentRead proposal found sound _ ih =>
    obtain ⟨next, present, continues⟩ := exec_continues success found
    exact .child parentRead proposal present (lasting _ _ continues sound) (continues.args ▸ ih)

/-- Each proposal is one interval past what it starts from. -/
structure Advances (implementation : Implementation deployment) (world : World deployment) (args : CloneArgs)
    (starting : Proposal) : Prop where
  read : world.startingProposal args = .ok starting
  number : args.l2SequenceNumber = starting.l2SequenceNumber + implementation.config.blockInterval
  narrow : args.l2SequenceNumber ≤ uint64Max

theorem Advances.persists {starting : Proposal} (advances : Advances implementation world args starting)
    (rooted : Rooted implementation world action) (success : world.exec action = .ok after) :
    Advances implementation after args starting :=
  { advances with read := exec_startingProposal rooted success advances.read }

theorem startingProposal_anchor (parentRead : args.parentRef = .ok deployment.anchorStateRegistry) :
    world.startingProposal args = .ok world.registry.startingAnchorRoot := by
  simp only [startingProposal, bind_eq_ok]
  exact ⟨_, parentRead, if_pos rfl⟩

theorem startingProposal_proposal {parentRef : Address} (parentRead : args.parentRef = .ok parentRef)
    (proposal : parentRef ≠ deployment.anchorStateRegistry) : world.startingProposal args = world.proposalAt parentRef := by
  rw [startingProposal, parentRead]
  exact if_neg proposal

theorem Lineage.extend {starting : Proposal} (read : world.startingProposal args = .ok starting)
    (parents : ∀ parentRef parent, args.parentRef = .ok parentRef → parentRef ≠ deployment.anchorStateRegistry →
      world.games parentRef = some parent → holds parent ∧ ∃ root depth, Lineage world holds parent.args root depth) :
    ∃ root depth, Lineage world holds args root depth := by
  cases parentRead : args.parentRef with
  | error _ =>
    rw [startingProposal, parentRead] at read
    cases read
  | ok parentRef =>
    by_cases sentinel : parentRef = deployment.anchorStateRegistry
    · subst sentinel
      exact ⟨_, _, .anchor parentRead⟩
    rw [startingProposal_proposal parentRead sentinel, proposalAt] at read
    split at read
    · next parent found =>
      obtain ⟨sound, root, depth, ancestors⟩ := parents parentRef parent parentRead sentinel found
      exact ⟨root, depth + 1, .child parentRead sentinel found sound ancestors⟩
    · next other vacant found => exact ⟨_, _, .foreign parentRead sentinel vacant found⟩
    · cases read

theorem Lineage.number (lineage : Lineage world holds args root depth)
    (every : ∀ address game, world.games address = some game →
      ∃ starting, Advances implementation world game.args starting)
    (advances : ∃ starting, Advances implementation world args starting) :
    args.l2SequenceNumber = root.l2SequenceNumber + depth * implementation.config.blockInterval := by
  induction lineage with
  | anchor parentRead =>
    obtain ⟨starting, advances⟩ := advances
    obtain rfl := Except.ok.inj ((startingProposal_anchor parentRead).symm.trans advances.read)
    rw [advances.number, Nat.one_mul]
  | foreign parentRead proposal vacant found =>
    obtain ⟨starting, advances⟩ := advances
    have read := (startingProposal_proposal parentRead proposal).symm.trans advances.read
    rw [proposalAt, vacant, found] at read
    obtain rfl := Except.ok.inj read
    rw [advances.number, Nat.one_mul]
  | child parentRead proposal found _ _ ih =>
    obtain ⟨starting, advances⟩ := advances
    have read := (startingProposal_proposal parentRead proposal).symm.trans advances.read
    rw [proposalAt, found] at read
    obtain rfl := Except.ok.inj read
    have parent := ih (every _ _ found)
    rw [advances.number, parent, Nat.add_mul, Nat.one_mul, Nat.add_assoc]

/-- Where a proposal with this status stands in the tree. -/
structure Placed (implementation : Implementation deployment) (world : World deployment) (args : CloneArgs)
    (status : GameStatus) : Prop where
  advances : ∃ starting, Advances implementation world args starting
  lineage : ∃ root depth, Lineage world (fun _ => True) args root depth
  winners : status = .defenderWins → ∃ root depth, Lineage world (·.status = .defenderWins) args root depth

theorem Placed.persists {status : GameStatus} (placed : Placed implementation world args status)
    (rooted : Rooted implementation world action) (success : world.exec action = .ok after) :
    Placed implementation after args status where
  advances := placed.advances.imp fun _ advances => advances.persists rooted success
  lineage := placed.lineage.imp fun _ => Exists.imp fun _ lineage =>
    lineage.persists rooted success fun _ _ _ => id
  winners := fun won => (placed.winners won).imp fun _ => Exists.imp fun _ lineage =>
    lineage.persists rooted success fun _ _ continues won => (continues.status (by simp [won])).trans won

theorem parent_won {parent : ParentResolution} {parentRef : Address} {above : MultiProofGame deployment}
    (read : world.parentResolution args = .ok parent) (clean : parent.blacklisted = false)
    (won : parent.status = .defenderWins) (parentRead : args.parentRef = .ok parentRef)
    (proposal : parentRef ≠ deployment.anchorStateRegistry) (found : world.games parentRef = some above) :
    above.status = .defenderWins := by
  simp only [parentResolution, parentRead, bind_eq_ok, Except.ok.injEq, exists_eq_left', if_neg proposal] at read
  split at read
  · obtain rfl := pure_eq_ok.mp read
    cases clean
  · simp only [statusAt, found, bind_eq_ok, Except.ok.injEq, exists_eq_left', pure_eq_ok] at read
    obtain rfl := read
    exact won

/-- Every clone of the world is placed. -/
def Tree (implementation : Implementation deployment) (world : World deployment) : Prop :=
  ∀ address game, world.games address = some game → Placed implementation world game.args game.status

theorem Tree.opened (tree : Tree implementation world)
    (creation : Creation world after self implementation args) : Placed implementation world args .inProgress := by
  obtain ⟨parentRef, starting, opens⟩ := creation.opens
  refine ⟨⟨starting, opens.startRead, opens.advanced, opens.narrow⟩, ?_, fun won => by cases won⟩
  exact Lineage.extend opens.startRead fun parentRef parent _ _ present =>
    ⟨trivial, (tree parentRef parent present).lineage⟩

theorem Tree.step {bond recorded : GameBond} {next : MultiProofGame deployment} (tree : Tree implementation world)
    (found : world.games self = some game) (step : GameStep world self game bond action next recorded) :
    Placed implementation world game.args next.status := by
  have placed := tree self game found
  cases step with
  | challenge => exact placed
  | prove => exact placed
  | close => exact placed
  | resolve running read decided =>
    refine { placed with winners := fun won => ?_ }
    rcases MultiProofGame.decideOutcome_cases decided with
      ⟨_, rfl, _⟩ | ⟨clean, parentWon, _⟩ | ⟨_, _, _, _, rfl, _⟩
    · cases won
    · obtain ⟨starting, advances⟩ := placed.advances
      apply Lineage.extend advances.read
      intro parentRef above parentRead proposal present
      have aboveWon := parent_won read clean parentWon parentRead proposal present
      exact ⟨aboveWon, (tree parentRef above present).winners aboveWon⟩
    · cases won

theorem tree_of_run {environment : Environment deployment} {token : Address → ℕ}
    (run : Run exec (Rooted implementation) (genesis environment token) log world) : Tree implementation world := by
  refine run.invariant (fun _ _ missing => by cases missing) ?_
  intro before after action tree rooted success address game found
  rcases exec_game success address with
    ⟨games, _, _⟩ | ⟨_, other, args, creation⟩ | ⟨earlier, next, bond, stepped⟩
  · exact (tree address game (games ▸ found)).persists rooted success
  · rw [creation.games, Function.update_self, Option.some.injEq] at found
    obtain rfl := rooted.current other creation.current
    subst found
    exact (tree.opened creation).persists rooted success
  · rw [stepped.games, Function.update_self, Option.some.injEq] at found
    subst found
    rw [stepped.step.continues.args]
    exact (tree.step stepped.found stepped.step).persists rooted success

theorem Tree.number (tree : Tree implementation world) (found : world.games self = some game)
    (lineage : Lineage world holds game.args root depth) :
    game.args.l2SequenceNumber = root.l2SequenceNumber + depth * implementation.config.blockInterval :=
  lineage.number (fun address game found => (tree address game found).advances) (tree self game found).advances

end World

namespace MultiProofGame

/-- The transition a proof for this game is about, with its block numbers in full. -/
def claimedTransition (game : MultiProofGame deployment) (starting : Proposal) :
    Bytes32 × Proposal × Proposal × Bytes32 :=
  (game.args.l1Head, starting, ⟨game.args.rootClaim, game.args.l2SequenceNumber⟩, game.config.rollupConfigHash)

variable {game other : MultiProofGame deployment} {starting otherStarting : Proposal}

theorem claimedTransition_eq (same : (game.transition starting).words = (other.transition otherStarting).words)
    (pre : (game.transition starting).l2PreBlockNumber.toNat = starting.l2SequenceNumber)
    (post : (game.transition starting).l2PostBlockNumber.toNat = game.args.l2SequenceNumber)
    (otherPre : (other.transition otherStarting).l2PreBlockNumber.toNat = otherStarting.l2SequenceNumber)
    (otherPost : (other.transition otherStarting).l2PostBlockNumber.toNat = other.args.l2SequenceNumber) :
    game.claimedTransition starting = other.claimedTransition otherStarting := by
  simp only [TransitionPublicValues.words, List.cons.injEq, pre, post, otherPre, otherPost, and_true] at same
  obtain ⟨l1Head, preRoot, preNumber, postRoot, postNumber, rollup⟩ := same
  have l1Head := BitVec.toNat_inj.mp l1Head
  have preRoot := BitVec.toNat_inj.mp preRoot
  have postRoot := BitVec.toNat_inj.mp postRoot
  have rollup := BitVec.toNat_inj.mp rollup
  simp only [transition] at l1Head preRoot postRoot rollup
  obtain ⟨root, number⟩ := starting
  obtain ⟨otherRoot, otherNumber⟩ := otherStarting
  simp_all [claimedTransition]

theorem words_lt (values : TransitionPublicValues) : ∀ word ∈ values.words, word < 256 ^ 32 := by
  have := values.l1Head.isLt
  have := values.l2PreRoot.isLt
  have := values.l2PreBlockNumber.isLt
  have := values.l2PostRoot.isLt
  have := values.l2PostBlockNumber.isLt
  have := values.rollupConfigHash.isLt
  simp only [TransitionPublicValues.words, List.mem_cons, List.not_mem_nil, or_false, forall_eq_or_imp, forall_eq]
  omega

theorem words_eq_of_publicValues {lane : ProofLane} (transitional : lane ≠ .securityCouncil)
    {rootId otherId : Bytes32} {values others : TransitionPublicValues}
    (same : (game.verificationCallFor rootId values lane).2.2 = (other.verificationCallFor otherId others lane).2.2) :
    values.words = others.words := by
  cases lane with
  | validityProof =>
    have fits (values : TransitionPublicValues) (key : Bytes32) :
        ∀ word ∈ values.words ++ [key.toNat], word < 256 ^ 32 := by
      intro word member
      rcases List.mem_append.mp member with member | last
      · exact words_lt values word member
      · rw [List.mem_singleton.mp last]
        exact key.isLt.trans_eq (by norm_num)
    simp only [verificationCallFor, abiEncode] at same
    have written : values.words ++ [game.config.rangeVKeyCommitment.toNat] =
        others.words ++ [other.config.rangeVKeyCommitment.toNat] :=
      BigEndian.encode_inj (fits values _) (fits others _) (by simp [TransitionPublicValues.words]) same
    exact (List.append_inj' written rfl).1
  | teeAttestation =>
    simp only [verificationCallFor, abiEncode] at same
    exact BigEndian.encode_inj (words_lt values) (words_lt others) (by simp [TransitionPublicValues.words]) same
  | securityCouncil => exact absurd rfl transitional

end MultiProofGame

namespace World

variable {implementation : Implementation deployment} {world : World deployment} {args : CloneArgs}
  {log : List (Action deployment)}

theorem Advances.lossless {game : MultiProofGame deployment} {starting : Proposal}
    (advances : Advances implementation world game.args starting) :
    (game.transition starting).l2PreBlockNumber.toNat = starting.l2SequenceNumber ∧
      (game.transition starting).l2PostBlockNumber.toNat = game.args.l2SequenceNumber := by
  have narrow := advances.narrow
  have number := advances.number
  simp only [uint64Max] at narrow
  simp only [MultiProofGame.transition, BitVec.toNat_ofNat]
  exact ⟨Nat.mod_eq_of_lt (by omega), Nat.mod_eq_of_lt (by omega)⟩

/-- Every game has a finite chain of ancestors, which fixes its block number; a winner's ancestors are winners; and
equal public values mean equal transitions. -/
theorem winners_descend_from_winners {environment : Environment deployment} {token : Address → ℕ}
    (run : Run exec (Rooted implementation) (genesis environment token) log world) :
    (∀ self game, world.games self = some game →
      (∃ root depth, Lineage world (fun _ => True) game.args root depth ∧
        game.args.l2SequenceNumber = root.l2SequenceNumber + depth * implementation.config.blockInterval) ∧
      (game.status = .defenderWins → ∀ more later, Run exec (Rooted implementation) world more later →
        ∃ next root depth, later.games self = some next ∧ next.status = .defenderWins ∧ next.args = game.args ∧
          Lineage later (·.status = .defenderWins) next.args root depth ∧
          next.args.l2SequenceNumber = root.l2SequenceNumber + depth * implementation.config.blockInterval) ∧
      (∃ starting, world.startingProposal game.args = .ok starting ∧
        (game.transition starting).l2PreBlockNumber.toNat = starting.l2SequenceNumber ∧
        (game.transition starting).l2PostBlockNumber.toNat = game.args.l2SequenceNumber)) ∧
    (∀ first second game other starting otherStarting rootId otherId lane, world.games first = some game →
      world.games second = some other → world.startingProposal game.args = .ok starting →
      world.startingProposal other.args = .ok otherStarting → lane ≠ .securityCouncil →
      (game.verificationCallFor rootId (game.transition starting) lane).2.2 =
        (other.verificationCallFor otherId (other.transition otherStarting) lane).2.2 →
      game.claimedTransition starting = other.claimedTransition otherStarting) := by
  have tree := tree_of_run run
  refine ⟨fun self game found => ⟨?_, fun won more later following => ?_, ?_⟩, ?_⟩
  · obtain ⟨root, depth, lineage⟩ := (tree self game found).lineage
    exact ⟨root, depth, lineage, tree.number found lineage⟩
  · have laterTree := tree_of_run (run.append following)
    obtain ⟨next, present, args, status⟩ : ∃ next, later.games self = some next ∧ next.args = game.args ∧
        next.status = .defenderWins := by
      refine following.invariant (motive := fun world => ∃ next, world.games self = some next ∧
        next.args = game.args ∧ next.status = .defenderWins) ⟨game, found, rfl, won⟩ ?_
      rintro before after action ⟨current, found, args, won⟩ _ success
      obtain ⟨next, present, continues⟩ := exec_continues success found
      exact ⟨next, present, continues.args.trans args, (continues.status (by simp [won])).trans won⟩
    obtain ⟨root, depth, lineage⟩ := (laterTree self next present).winners status
    exact ⟨next, root, depth, present, status, args, lineage, laterTree.number present lineage⟩
  · obtain ⟨starting, advances⟩ := (tree self game found).advances
    exact ⟨starting, advances.read, advances.lossless⟩
  · intro first second game other starting otherStarting rootId otherId lane found otherFound read otherRead
      transitional same
    obtain ⟨_, advances⟩ := (tree first game found).advances
    obtain ⟨_, otherAdvances⟩ := (tree second other otherFound).advances
    obtain rfl := Except.ok.inj (read.symm.trans advances.read)
    obtain rfl := Except.ok.inj (otherRead.symm.trans otherAdvances.read)
    obtain ⟨pre, post⟩ := advances.lossless
    obtain ⟨otherPre, otherPost⟩ := otherAdvances.lossless
    exact MultiProofGame.claimedTransition_eq (MultiProofGame.words_eq_of_publicValues transitional same)
      pre post otherPre otherPost

def sampleChild : Address :=
  (ERC20StakingVault.sampleDeployment.gameUUID multiProofGameType 43 (sampleExtraData 1020 sampleGame 0)).setWidth 160

def familyLog : List (Action ERC20StakingVault.sampleDeployment) :=
  sampleLog.take 7 ++ [.create 2 0 43 (sampleExtraData 1020 sampleGame 0),
    .submitProofLane sampleChild (sampleProof 0 15), .submitProofLane sampleChild (sampleProof 1 16), .resolve sampleChild]

theorem sample_winners_descend_from_winners : ∃ game, (sampleWorld familyLog).games sampleChild = some game ∧
    game.status = .defenderWins ∧ ∀ more later, Run exec (Rooted sampleImplementation) (sampleWorld familyLog) more later →
      ∃ next root depth, later.games sampleChild = some next ∧
        Lineage later (·.status = .defenderWins) next.args root depth := by
  obtain ⟨run, _⟩ := sample_quiet_run familyLog
    (by simp [familyLog, sampleLog, Action.surroundings]) (by decide +kernel)
  have rooted : Run exec (Rooted sampleImplementation) sampleGenesis familyLog (sampleWorld familyLog) := by
    refine run.weaken fun world call quiet => ⟨fun other current => ?_, by rw [quiet.2]; exact .refl _⟩
    rw [quiet.1] at current
    exact (Option.some.inj current).symm
  have facts : ((sampleWorld familyLog).games sampleChild).map (·.status) = some .defenderWins := by decide +kernel
  obtain ⟨game, found, won⟩ := Option.map_eq_some_iff.mp facts
  refine ⟨game, found, won, ?_⟩
  intro more later following
  have tree := (winners_descend_from_winners rooted).1 sampleChild game found
  obtain ⟨next, root, depth, present, _, _, lineage, _⟩ := tree.2.1 won more later following
  exact ⟨next, root, depth, present, lineage⟩

end World

end WorldChain.Dispute
