import WorldChain.Dispute.Doom

/-! # Retries are exclusive

The extra data of a proposal is its transition and its attempt, and the factory files one clone for each. Attempt
`n + 1` is opened only when attempt `n` is doomed or was never respected, and doom lasts.
-/

namespace WorldChain.Dispute

open Machine

namespace CloneArgs

variable {args : CloneArgs} {parentRef : Address}

theorem extraData_length (sized : args.calldataLength = 0xDA) : args.extraData.length = 128 := by
  simp only [calldataLength, packed, packedArgs, List.length_append, BigEndian.toBytes_length] at sized
  omega

theorem parentRef_toNat (parentRead : args.parentRef = .ok parentRef) :
    parentRef.toNat = BigEndian.wordAt 32 args.extraData 0x40 := by
  simp only [CloneArgs.parentRef, bind_eq_ok, revertIf_eq_ok, pure_eq_ok, gt_iff_lt, not_lt, uint160Max] at parentRead
  obtain ⟨_, bound, rfl⟩ := parentRead
  rw [BitVec.toNat_ofNat]
  exact Nat.mod_eq_of_lt (by omega)

theorem proposalDomainHash_toNat : args.proposalDomainHash.toNat = BigEndian.wordAt 32 args.extraData 0x00 := by
  rw [proposalDomainHash, BitVec.toNat_ofNat]
  exact Nat.mod_eq_of_lt ((BigEndian.wordAt_lt ..).trans_eq (by norm_num))

theorem l2SequenceNumber_lt (args : CloneArgs) : args.l2SequenceNumber < 256 ^ 32 := BigEndian.wordAt_lt ..

theorem attempt_lt (args : CloneArgs) : args.attempt < 256 ^ 32 := BigEndian.wordAt_lt ..

theorem extraData_eq (sized : args.calldataLength = 0xDA) (parentRead : args.parentRef = .ok parentRef) :
    args.extraData =
      World.encodeExtraData args.proposalDomainHash args.l2SequenceNumber parentRef args.attempt := by
  have words := BigEndian.decode_eq_wordAt 32 4 args.extraData
  rw [World.encodeExtraData, abiEncode, proposalDomainHash_toNat, parentRef_toNat parentRead]
  exact (words ▸ BigEndian.encode_decode 32 4 args.extraData (extraData_length sized)).symm

end CloneArgs

theorem World.encodeExtraData_inj {domainHash otherHash : Bytes32} {parentRef otherRef : Address}
    {number other attempt otherAttempt : ℕ} (numberFits : number < 256 ^ 32) (otherFits : other < 256 ^ 32)
    (attemptFits : attempt < 256 ^ 32) (otherAttemptFits : otherAttempt < 256 ^ 32)
    (same : encodeExtraData domainHash number parentRef attempt =
      encodeExtraData otherHash other otherRef otherAttempt) :
    domainHash = otherHash ∧ number = other ∧ parentRef = otherRef ∧ attempt = otherAttempt := by
  have fits (hash : Bytes32) (reference : Address) {number attempt : ℕ} (small : number < 256 ^ 32)
      (few : attempt < 256 ^ 32) : ∀ word ∈ [hash.toNat, number, reference.toNat, attempt], word < 256 ^ 32 := by
    have := hash.isLt
    have := reference.isLt
    simp only [List.mem_cons, List.not_mem_nil, or_false, forall_eq_or_imp, forall_eq]
    omega
  have words := BigEndian.encode_inj (fits domainHash parentRef numberFits attemptFits)
    (fits otherHash otherRef otherFits otherAttemptFits) rfl same
  simpa [BitVec.toNat_inj] using words

namespace World

variable {deployment : Deployment} {world after : World deployment} {self : Address}
  {game : MultiProofGame deployment} {log : List (Action deployment)}

/-- What initialization checked of a clone's arguments stays true of them. -/
structure WellFormed (game : MultiProofGame deployment) (parentRef : Address) : Prop where
  sized : game.args.calldataLength = 0xDA
  domain : game.args.proposalDomainHash = game.implementation.domainHash
  parentRead : game.args.parentRef = .ok parentRef
  narrow : game.args.l2SequenceNumber ≤ uint64Max

variable {allowed : World deployment → Action deployment → Prop} {environment : Environment deployment}
  {token : Address → ℕ} {args : CloneArgs} {parentRef : Address}

theorem wellFormed_of_run (run : Run exec allowed (genesis environment token) log world)
    (found : world.games self = some game) : ∃ parentRef, WellFormed game parentRef := by
  refine game_invariant (motive := fun game _ => ∃ parentRef, WellFormed game parentRef) run ?_ ?_ found
  · intro before after self implementation args creation
    obtain ⟨parentRef, starting, opens⟩ := creation.opens
    exact ⟨parentRef, opens.sized, opens.domain, opens.parentRead, opens.narrow⟩
  · rintro before self game next bond recorded action ⟨parentRef, wellFormed⟩ step
    have continues := step.continues
    refine ⟨parentRef, ?_, ?_, ?_, ?_⟩
    · exact continues.args ▸ wellFormed.sized
    · rw [continues.args, continues.implementation, wellFormed.domain]
    · exact continues.args ▸ wellFormed.parentRead
    · exact continues.args ▸ wellFormed.narrow

/-- The clones and the factory's file name each other. -/
structure Filed (world : World deployment) : Prop where
  entry : ∀ address game, world.games address = some game →
    world.registered game.args.rootClaim game.args.extraData = some address
  clone : ∀ rootClaim extraData address, world.registered rootClaim extraData = some address →
    ∃ game, world.games address = some game ∧ game.args.rootClaim = rootClaim ∧ game.args.extraData = extraData

theorem filed_of_run (run : Run exec allowed (genesis environment token) log world) : world.Filed := by
  refine run.invariant ⟨fun _ _ missing => (by cases missing), fun _ _ _ missing => (by cases missing)⟩ ?_
  intro before after action filed _ success
  constructor
  · intro address game found
    rcases exec_game success address with
      ⟨games, _, _⟩ | ⟨_, implementation, args, creation⟩ | ⟨earlier, next, bond, stepped⟩
    · exact exec_registered success (filed.entry address game (games ▸ found))
    · rw [creation.games, Function.update_self, Option.some.injEq] at found
      rw [creation.registered, ← found]
      exact (congrFun (Function.update_self ..) _).trans (Function.update_self ..)
    · rw [stepped.games, Function.update_self, Option.some.injEq] at found
      rw [← found, stepped.step.continues.args]
      exact exec_registered success (filed.entry address earlier stepped.found)
  · intro rootClaim extraData address entry
    have continued : before.registered rootClaim extraData = some address →
        ∃ game, after.games address = some game ∧ game.args.rootClaim = rootClaim ∧ game.args.extraData = extraData := by
      intro entry
      obtain ⟨game, found, rfl, rfl⟩ := filed.clone _ _ _ entry
      obtain ⟨next, found, continues⟩ := exec_continues success found
      exact ⟨next, found, by rw [continues.args], by rw [continues.args]⟩
    rcases exec_effect success with
      ⟨_, self, implementation, args, creation⟩ | ⟨self, game, next, bond, stepped⟩ | untouched
    · by_cases fresh : rootClaim = args.rootClaim ∧ extraData = args.extraData
      · obtain ⟨rfl, rfl⟩ := fresh
        rw [creation.registered, Function.update_self, Function.update_self, Option.some.injEq] at entry
        refine ⟨before.opened implementation args, ?_, rfl, rfl⟩
        rw [creation.games, ← entry, Function.update_self]
      · apply continued
        rw [creation.registered] at entry
        by_cases claim : rootClaim = args.rootClaim
        · subst claim
          rwa [Function.update_self, Function.update_of_ne fun data => fresh ⟨rfl, data⟩] at entry
        · rwa [Function.update_of_ne claim] at entry
    · exact continued (stepped.registered ▸ entry)
    · exact continued (untouched.registered ▸ entry)

def Retried (world : World deployment) (args : CloneArgs) (parentRef : Address) : Prop :=
  ∀ attempt < args.attempt, ∃ address earlier,
    world.registered args.rootClaim (encodeExtraData args.proposalDomainHash args.l2SequenceNumber
      parentRef attempt) = some address ∧
    world.games address = some earlier ∧
    (earlier.wasRespectedGameTypeWhenCreated = true → world.Cause earlier)

theorem Retried.persists {action : Action deployment} (retried : world.Retried args parentRef)
    (steady : world.Steady action) (success : world.exec action = .ok after) :
    after.Retried args parentRef := by
  intro attempt lower
  obtain ⟨address, earlier, entry, found, doomed⟩ := retried attempt lower
  obtain ⟨next, present, continues⟩ := exec_continues success found
  refine ⟨address, next, exec_registered success entry, present, ?_⟩
  intro respected
  obtain ⟨same, again, _, cause⟩ := exec_cause steady success found (doomed (continues.respected ▸ respected))
  obtain rfl := Option.some.inj (present.symm.trans again)
  exact cause

theorem retryable_spec {implementation : Implementation deployment}
    (success : world.retryable implementation args parentRef = .ok ()) (again : args.attempt ≠ 0) :
    ∃ address previous, world.registered args.rootClaim (encodeExtraData implementation.domainHash
        args.l2SequenceNumber parentRef (args.attempt - 1)) = some address ∧
      world.games address = some previous ∧
      (previous.wasRespectedGameTypeWhenCreated = true → world.Doomed previous) := by
  simp only [retryable, if_neg again] at success
  split at success
  · cases success
  · next address entry =>
    simp only [bind_eq_ok, gameAt_eq_ok, revertIf_eq_ok] at success
    obtain ⟨previous, found, report, reported, gate⟩ := success
    refine ⟨address, previous, entry, found, fun respected => ⟨report, reported, ?_⟩⟩
    by_contra outcome
    exact gate ⟨respected, .inl outcome⟩

theorem Creation.retried {implementation : Implementation deployment}
    (creation : Creation world after self implementation args) (parentRead : args.parentRef = .ok parentRef)
    (run : Run exec allowed (genesis environment token) log world)
    (earlier : ∀ address game reference, world.games address = some game → game.args.parentRef = .ok reference →
      world.Retried game.args reference) : world.Retried args parentRef := by
  intro attempt lower
  obtain ⟨reference, starting, opens⟩ := creation.opens
  obtain rfl := Except.ok.inj (parentRead.symm.trans opens.parentRead)
  obtain ⟨address, previous, entry, found, doomed⟩ := retryable_spec opens.retryable (by omega)
  rw [← opens.domain] at entry
  by_cases last : attempt = args.attempt - 1
  · subst last
    exact ⟨address, previous, entry, found, fun respected =>
      (doomed_iff (sound_of_run run found)).mp (doomed respected)⟩
  · obtain ⟨same, again, claim, data⟩ := (filed_of_run run).clone _ _ _ entry
    obtain rfl := Option.some.inj (found.symm.trans again)
    obtain ⟨reference, wellFormed⟩ := wellFormed_of_run run found
    rw [CloneArgs.extraData_eq wellFormed.sized wellFormed.parentRead] at data
    obtain ⟨domain, number, rfl, count⟩ := encodeExtraData_inj previous.args.l2SequenceNumber_lt
      args.l2SequenceNumber_lt previous.args.attempt_lt ((Nat.sub_le ..).trans_lt args.attempt_lt) data
    have chained := earlier address previous reference found wellFormed.parentRead attempt (by omega)
    rwa [claim, domain, number] at chained

section

variable {environment : Environment deployment} {token : Address → ℕ}
  (run : Run exec Steady (genesis environment token) log world)

include run

theorem retried_of_run (address : Address) (game : MultiProofGame deployment) (parentRef : Address)
    (found : world.games address = some game) (parentRead : game.args.parentRef = .ok parentRef) :
    world.Retried game.args parentRef := by
  refine run.history (motive := fun _ world => ∀ address game parentRef, world.games address = some game →
    game.args.parentRef = .ok parentRef → world.Retried game.args parentRef)
    (fun _ _ _ missing => by cases missing) ?_ address game parentRef found parentRead
  intro past before after action run retried steady success address game parentRef found parentRead
  rcases exec_game success address with
    ⟨games, _, _⟩ | ⟨_, implementation, args, creation⟩ | ⟨earlier, next, bond, stepped⟩
  · exact (retried address game parentRef (games ▸ found) parentRead).persists steady success
  · rw [creation.games, Function.update_self, Option.some.injEq] at found
    subst found
    exact (creation.retried parentRead run retried).persists steady success
  · rw [stepped.games, Function.update_self, Option.some.injEq] at found
    subst found
    have continues := stepped.step.continues
    rw [continues.args] at parentRead ⊢
    exact (retried address earlier parentRef stepped.found parentRead).persists steady success

theorem winner_latest {first second : Address} {game other : MultiProofGame deployment}
    (found : world.games first = some game) (otherFound : world.games second = some other)
    (domain : game.args.proposalDomainHash = other.args.proposalDomainHash)
    (claim : game.args.rootClaim = other.args.rootClaim)
    (number : game.args.l2SequenceNumber = other.args.l2SequenceNumber)
    (parent : game.args.parentRef = other.args.parentRef) (respected : game.wasRespectedGameTypeWhenCreated = true)
    (won : game.status = .defenderWins) : other.args.attempt ≤ game.args.attempt := by
  by_contra later
  obtain ⟨parentRef, wellFormed⟩ := wellFormed_of_run run found
  have retried := retried_of_run run second other parentRef otherFound (parent ▸ wellFormed.parentRead)
  obtain ⟨address, earlier, entry, present, doomed⟩ := retried game.args.attempt (by omega)
  rw [← domain, ← claim, ← number, ← CloneArgs.extraData_eq wellFormed.sized wellFormed.parentRead,
    (filed_of_run run).entry first game found, Option.some.injEq] at entry
  obtain rfl := entry
  obtain rfl := Option.some.inj (found.symm.trans present)
  exact (doomed respected).not_defenderWins won

end

theorem status_final (found : world.games self = some game) (resolved : game.status ≠ .inProgress)
    (run : Run exec allowed world log after) :
    ∃ next, after.games self = some next ∧ next.status = game.status := by
  refine run.invariant (motive := fun world => ∃ next, world.games self = some next ∧ next.status = game.status)
    ⟨game, found, rfl⟩ ?_
  rintro before after action ⟨current, found, same⟩ _ success
  obtain ⟨next, present, continues⟩ := exec_continues success found
  exact ⟨next, present, (continues.status (same ▸ resolved)).trans same⟩

/-- A game reported lost stays so, a resolved status is final, and of the respected games for one transition at most one
is resolved for its defender. -/
theorem doom_irrevocable_and_retries_exclusive {environment : Environment deployment} {token : Address → ℕ}
    (run : Run exec Steady (genesis environment token) log world) :
    (∀ self game report, world.games self = some game → world.resolutionStatus game = .ok report →
      report.outcome = .challengerWins → ∀ more later, Run exec Steady world more later →
        ∃ next, later.games self = some next ∧ next.status ≠ .defenderWins ∧
          ∃ laterReport, later.resolutionStatus next = .ok laterReport ∧ laterReport.outcome = .challengerWins) ∧
    (∀ self game, world.games self = some game → game.status ≠ .inProgress →
      ∀ more later, Run exec Steady world more later →
        ∃ next, later.games self = some next ∧ next.status = game.status) ∧
    (∀ first second game other, world.games first = some game → world.games second = some other →
      game.args.proposalDomainHash = other.args.proposalDomainHash → game.args.rootClaim = other.args.rootClaim →
      game.args.l2SequenceNumber = other.args.l2SequenceNumber → game.args.parentRef = other.args.parentRef →
      game.wasRespectedGameTypeWhenCreated = true → other.wasRespectedGameTypeWhenCreated = true →
      game.status = .defenderWins → other.status = .defenderWins → first = second) := by
  refine ⟨?_, fun self game found resolved more later following => status_final found resolved following, ?_⟩
  · intro self game report found reported outcome more later following
    have cause := (doomed_iff (sound_of_run run found)).mp ⟨report, reported, outcome⟩
    obtain ⟨next, present, cause⟩ := cause.forever found following
    exact ⟨next, present, cause.not_defenderWins,
      (doomed_iff (sound_of_run (run.append following) present)).mpr cause⟩
  · intro first second game other found otherFound domain claim number parent respected otherRespected won otherWon
    have attempt : game.args.attempt = other.args.attempt := le_antisymm
      (winner_latest run otherFound found domain.symm claim.symm number.symm parent.symm otherRespected otherWon)
      (winner_latest run found otherFound domain claim number parent respected won)
    obtain ⟨parentRef, wellFormed⟩ := wellFormed_of_run run found
    obtain ⟨otherRef, otherFormed⟩ := wellFormed_of_run run otherFound
    obtain rfl := Except.ok.inj (wellFormed.parentRead.symm.trans (parent.trans otherFormed.parentRead))
    have data : game.args.extraData = other.args.extraData := by
      rw [CloneArgs.extraData_eq wellFormed.sized wellFormed.parentRead,
        CloneArgs.extraData_eq otherFormed.sized otherFormed.parentRead, domain, number, attempt]
    have entry := (filed_of_run run).entry first game found
    rw [claim, data, (filed_of_run run).entry second other otherFound] at entry
    exact (Option.some.inj entry).symm

open ERC20StakingVault (sampleDeployment)

/-- A proposal that nobody proves or challenges. -/
def idleLog : List (Action sampleDeployment) := [.deposit 1 1 50, .create 1 0 42 (sampleExtraData 1010 8 0)]

/-- The idle proposal, 250 seconds later. -/
def expiredWorld : World sampleDeployment := { sampleWorld idleLog with environment := sampleEnvironment 300 false }

theorem expired_run : Run exec Steady sampleGenesis (idleLog ++ [.environment (sampleEnvironment 300 false)]) expiredWorld := by
  obtain ⟨run, surroundings⟩ := sample_quiet_run idleLog (by simp [idleLog, Action.surroundings]) (by decide +kernel)
  refine .effect (run.weaken fun world call quiet => ?_) ?_ rfl
  · rw [Steady, quiet.2]
    exact .refl _
  · rw [Steady, surroundings]
    exact ⟨by decide, fun _ listed => listed, fun _ _ missing => by cases missing⟩

theorem expired_doom_irrevocable : ∃ game, expiredWorld.games sampleGame = some game ∧
    ∀ more later, Run exec Steady expiredWorld more later →
      ∃ next, later.games sampleGame = some next ∧ next.status ≠ .defenderWins := by
  have facts : (expiredWorld.games sampleGame).map expiredWorld.resolutionStatus =
      some (.ok ⟨true, .challengerWins, .proofTimeout⟩) := by decide +kernel
  obtain ⟨game, found, reported⟩ := Option.map_eq_some_iff.mp facts
  refine ⟨game, found, ?_⟩
  intro more later following
  have doom := (doom_irrevocable_and_retries_exclusive expired_run).1
  obtain ⟨next, present, lost, _⟩ := doom sampleGame game _ found reported rfl more later following
  exact ⟨next, present, lost⟩

end World

end WorldChain.Dispute
