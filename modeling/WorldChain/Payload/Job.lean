import WorldChain.Builder.Flashblocks
import WorldChain.P2P.Publish

/-! # The job that builds a payload

A job keeps the best payload that has been built and the one that it has committed to, and has a build going on top of
the committed one.
-/

namespace WorldChain.Payload

open Machine Primitives Builder

variable {Tx Receipt AccountChanges : Type}

inductive PayloadState (Payload : Type)
  | missing
  | best (payload : Payload)
  | frozen (payload : Payload)

namespace PayloadState

variable {Payload : Type}

def isFrozen : PayloadState Payload → Bool
  | .missing | .best _ => false
  | .frozen _ => true

def best? : PayloadState Payload → Option Payload
  | .best payload => some payload
  | .missing | .frozen _ => none

end PayloadState

inductive CommittedPayloadState (Payload AccountChanges : Type)
  | frozen (payload : Payload) (accessList : Option (FlashblockAccessListData AccountChanges))
  | best (payload : Payload) (accessList : Option (FlashblockAccessListData AccountChanges))
  | empty

namespace CommittedPayloadState

variable {Payload : Type}

def payload : CommittedPayloadState Payload AccountChanges → Option Payload
  | .frozen payload _ | .best payload _ => some payload
  | .empty => none

def isEmpty : CommittedPayloadState Payload AccountChanges → Bool
  | .frozen .. | .best .. => false
  | .empty => true

end CommittedPayloadState

/-- What a job is set up with. -/
structure JobConfig (Tx AccountChanges : Type) where
  config : PayloadConfig
  authorization : Option P2P.Authorization
  encode : Tx → List UInt8
  accessListHash : FlashblockAccessList AccountChanges → B256

structure FlashblocksPayloadJob (Tx Receipt AccountChanges : Type) where
  bestPayload : PayloadState (OpBuiltPayload Tx Receipt) × Option (FlashblockAccessList AccountChanges)
  committedPayload : CommittedPayloadState (OpBuiltPayload Tx Receipt) AccountChanges
  pendingBlock : Option (Option (OpBuiltPayload Tx Receipt))
  blockIndex : U64
  published : List (Flashblock AccountChanges)

/-- What a poll finds: the deadline, whether a recommit or a flashblock is due, the time, whether publishing goes
through, and what the build comes to. -/
structure Poll (Tx Receipt AccountChanges : Type) where
  deadline : Bool
  recommit : Bool
  cleared : Bool
  now : ℤ
  publishes : Bool
  outcome : Option (Except PayloadBuilderError
    (BuildOutcomeKind (OpBuiltPayload Tx Receipt) × Option (FlashblockAccessList AccountChanges)))

/-- The payload of a build that is done. -/
def Poll.built? (poll : Poll Tx Receipt AccountChanges) : Option (OpBuiltPayload Tx Receipt) :=
  match poll.outcome with
  | some (.ok (.better payload, _)) | some (.ok (.freeze payload, _)) => some payload
  | _ => none

inductive Event (Tx Receipt AccountChanges : Type)
  | poll (poll : Poll Tx Receipt AccountChanges)
  | resolve (noTxPool awaitInProgress : Bool)

/-- The job is over. -/
inductive Finished
  | finished

namespace FlashblocksPayloadJob

variable (setting : JobConfig Tx AccountChanges) (job : FlashblocksPayloadJob Tx Receipt AccountChanges)
  (poll : Poll Tx Receipt AccountChanges) (payload : OpBuiltPayload Tx Receipt)
  (accessList : Option (FlashblockAccessList AccountChanges))

def spawnBuildJob : FlashblocksPayloadJob Tx Receipt AccountChanges :=
  { job with pendingBlock := some job.committedPayload.payload }

/-- A job that starts from scratch. -/
def new : FlashblocksPayloadJob Tx Receipt AccountChanges := spawnBuildJob ⟨(.missing, none), .empty, none, 0, []⟩

/-- The payload is not the committed one. -/
def isUncommitted : Bool := job.committedPayload.payload.all fun committed => committed.block.hash ≠ payload.block.hash

/-- What a payload adds to the committed one. -/
def nextFlashblock (now : ℤ) : Flashblock AccountChanges :=
  let prev := job.committedPayload.payload
  let txOffset := (prev.map (·.block.transactions.length)).getD 0
  let withdrawalsOffset := (prev.map fun prev => (prev.block.withdrawals.map (·.length)).getD 0).getD 0
  .new setting.encode setting.accessListHash now payload setting.config job.blockIndex txOffset withdrawalsOffset accessList

def publishPayload : FlashblocksPayloadJob Tx Receipt AccountChanges :=
  if poll.publishes then
    { job with published := job.published ++ [job.nextFlashblock setting payload accessList poll.now] }
  else job

def accessListData : Option (FlashblockAccessListData AccountChanges) :=
  accessList.map fun accessList => ⟨accessList, setting.accessListHash accessList⟩

def recommitBuild : FlashblocksPayloadJob Tx Receipt AccountChanges :=
  if poll.recommit && !job.bestPayload.1.isFrozen && job.pendingBlock.isNone then job.spawnBuildJob else job

def commitBest : FlashblocksPayloadJob Tx Receipt AccountChanges :=
  match poll.cleared, job.bestPayload with
  | true, (.best payload, accessList) =>
    let committed :=
      if job.isUncommitted payload then
        let published :=
          match setting.authorization with
          | some _ => job.publishPayload setting poll payload accessList
          | none => job
        { published with
          committedPayload := .best payload (accessListData setting accessList)
          blockIndex := published.blockIndex + 1 }
      else job
    committed.spawnBuildJob
  | _, _ => job

/-- Take over what a build has come to. -/
def pollPending : FlashblocksPayloadJob Tx Receipt AccountChanges :=
  match job.pendingBlock, poll.outcome with
  | none, _ | some _, none => job
  | some _, some (.error _) | some _, some (.ok (.aborted _, _)) => { job with pendingBlock := none }
  | some _, some (.ok (.better payload, accessList)) =>
    if job.isUncommitted payload then { job with pendingBlock := none, bestPayload := (.best payload, accessList) }
    else { job with pendingBlock := none }
  | some _, some (.ok (.freeze payload, accessList)) =>
    { job with
      pendingBlock := none
      committedPayload :=
        if job.isUncommitted payload then .frozen payload (accessListData setting accessList) else job.committedPayload
      bestPayload := (.frozen payload, accessList) }

def resolveKind (noTxPool awaitInProgress : Bool) : FlashblocksPayloadJob Tx Receipt AccountChanges :=
  let job := if job.committedPayload.isEmpty && job.pendingBlock.isNone then job.spawnBuildJob else job
  if noTxPool || job.committedPayload.isEmpty && awaitInProgress then { job with pendingBlock := none } else job

def exec : Event Tx Receipt AccountChanges → Except Finished (FlashblocksPayloadJob Tx Receipt AccountChanges)
  | .poll poll =>
    if poll.deadline then .error .finished
    else .ok (((job.recommitBuild poll).commitBest setting poll).pollPending setting poll)
  | .resolve noTxPool awaitInProgress => .ok (job.resolveKind noTxPool awaitInProgress)

end FlashblocksPayloadJob

/-! ## What has been published -/

/-- The withdrawals of a payload, if there is one. -/
def withdrawalsOf (payload : Option (OpBuiltPayload Tx Receipt)) : List Withdrawal :=
  (payload.bind (·.block.withdrawals)).getD []

def Extends (base : Option (OpBuiltPayload Tx Receipt)) (payload : OpBuiltPayload Tx Receipt) : Prop :=
  committedTransactions base <+: payload.block.transactions ∧ withdrawalsOf base <+: withdrawalsOf (some payload)

section Growth

variable {Nullifier Address Hash : Type} [DecidableEq Nullifier] [DecidableEq Hash] {build : BlockBuild Address}
  {committed after : Option (BlockPayload Nullifier Hash)} {attempt : Attempt Nullifier Address Hash}

theorem transactions_buildInner {outcome : BuildOutcomeKind (BlockPayload Nullifier Hash)}
    {payload : BlockPayload Nullifier Hash} (ended : build.buildInner committed attempt = .ok outcome)
    (builds : outcome = .better payload ∨ outcome = .freeze payload) :
    committedTransactions committed <+: payload.block.transactions := by
  rcases BlockBuild.buildInner_cases ended with ⟨frozen, rfl, rfl⟩ | ⟨fees, rfl⟩ | ⟨start, built, begun, extension, kind⟩
  · obtain rfl : frozen = payload := by simpa using builds
    exact List.prefix_refl _
  · simp at builds
  · obtain rfl : built = payload := by
      rcases kind with rfl | rfl <;> simpa using builds
    have before : committedTransactions committed <+: start.transactions := by
      rcases (BlockBuild.start_transactions begun).2 with same | ⟨none, _⟩
      · rw [same]
      · rw [none]
        exact List.nil_prefix
    refine before.trans ?_
    cases extension with
    | unchanged => exact List.prefix_refl _
    | filled executed =>
      rw [BlockBuild.finish, List.append_assoc]
      exact List.prefix_append _ _

theorem transactions_commitNext (ended : build.commitNext committed attempt = .ok after) :
    committedTransactions committed <+: committedTransactions after := by
  rw [BlockBuild.commitNext, bind_eq_ok] at ended
  obtain ⟨outcome, built, ended⟩ := ended
  cases outcome with
  | better payload =>
    cases ended
    exact transactions_buildInner built (.inl rfl)
  | freeze payload =>
    cases ended
    exact transactions_buildInner built (.inr rfl)
  | aborted fees =>
    cases ended
    exact List.prefix_refl _

/-- No flashblock takes back a transaction of an earlier one. -/
theorem transactions_only_grow {allowed : Option (BlockPayload Nullifier Hash) → Attempt Nullifier Address Hash → Prop}
    {attempts : List (Attempt Nullifier Address Hash)} (run : Run build.commitNext allowed committed attempts after) :
    committedTransactions committed <+: committedTransactions after :=
  run.invariant (motive := fun later => committedTransactions committed <+: committedTransactions later)
    (List.prefix_refl _) fun before _ ended => before.trans (transactions_commitNext ended)

theorem sample_transactions_grow : ∃ after, Run sampleBlockBuild.commitNext (fun _ _ => True) (some sampleCommitted)
    [sampleAttempt [⟨sampleTx 2 [6], false, .executed 21000 21000⟩]] after ∧
      committedTransactions (some sampleCommitted) <+: committedTransactions after ∧
      (committedTransactions after).map (·.hash) = [1, 2, 1000] :=
  have run := Run.run_final (by decide +kernel)
  ⟨_, run, transactions_only_grow run, by decide +kernel⟩

end Growth

namespace FlashblocksPayloadJob

variable {setting : JobConfig Tx AccountChanges} {job : FlashblocksPayloadJob Tx Receipt AccountChanges}
  {poll : Poll Tx Receipt AccountChanges} {payload : OpBuiltPayload Tx Receipt}
  {accessList : Option (FlashblockAccessList AccountChanges)}

/-- A build that is done has gone on from the payload that it was given. -/
def BuildsExtend (setting : JobConfig Tx AccountChanges) (job : FlashblocksPayloadJob Tx Receipt AccountChanges) :
    Event Tx Receipt AccountChanges → Prop
  | .poll poll => ∀ base ∈ ((job.recommitBuild poll).commitBest setting poll).pendingBlock, ∀ payload ∈ poll.built?,
    Extends base payload
  | .resolve .. => True

/-- A payload that is about to be committed can be published. -/
def PublishSucceeds (job : FlashblocksPayloadJob Tx Receipt AccountChanges) : Event Tx Receipt AccountChanges → Prop
  | .poll poll => poll.cleared = true → ∀ payload ∈ job.bestPayload.1.best?, job.isUncommitted payload = true →
    poll.publishes = true
  | .resolve .. => True

instance decidableBuildsExtend [DecidableEq Tx] (setting : JobConfig Tx AccountChanges)
    (job : FlashblocksPayloadJob Tx Receipt AccountChanges) :
    (event : Event Tx Receipt AccountChanges) → Decidable (job.BuildsExtend setting event)
  | .poll _ => by
    unfold BuildsExtend Extends
    infer_instance
  | .resolve .. => isTrue trivial

instance decidablePublishSucceeds (job : FlashblocksPayloadJob Tx Receipt AccountChanges) :
    (event : Event Tx Receipt AccountChanges) → Decidable (job.PublishSucceeds event)
  | .poll _ => by
    unfold PublishSucceeds
    infer_instance
  | .resolve .. => isTrue trivial

/-- The published flashblocks come to the committed payload, which the running build was given and the best payload goes
on from. A frozen payload is the last. -/
structure Inv (setting : JobConfig Tx AccountChanges) (job : FlashblocksPayloadJob Tx Receipt AccountChanges) : Prop where
  indices : job.published.map (·.index) = (List.range job.published.length).map (Fin.ofNat _)
  next : job.blockIndex = Fin.ofNat _ job.published.length
  pending : ∀ base ∈ job.pendingBlock, base = job.committedPayload.payload
  best : ∀ payload accessList, job.bestPayload = (.best payload, accessList) → Extends job.committedPayload.payload payload
  frozen : ∀ payload accessList, job.committedPayload = .frozen payload accessList → job.bestPayload.1.isFrozen = true
  done : job.bestPayload.1.isFrozen = true → job.pendingBlock = none ∧ job.committedPayload.isEmpty = false
  empty : job.committedPayload = .empty → job.published = []
  composed : ∀ payload accessList, job.committedPayload = .best payload accessList →
    ∃ composed, Flashblock.reduce job.published = some composed ∧
      composed.diff.transactions = payload.block.transactions.map setting.encode ∧
      composed.diff.withdrawals = withdrawalsOf (some payload)

theorem transactions_nextFlashblock (now : ℤ) : (job.nextFlashblock setting payload accessList now).diff.transactions =
    (payload.block.transactions.drop (committedTransactions job.committedPayload.payload).length).map setting.encode := by
  rw [nextFlashblock, committedTransactions]
  cases job.committedPayload.payload <;> rfl

theorem withdrawals_nextFlashblock (now : ℤ) : (job.nextFlashblock setting payload accessList now).diff.withdrawals =
    (withdrawalsOf (some payload)).drop (withdrawalsOf job.committedPayload.payload).length := by
  have offset : (job.committedPayload.payload.map fun prev => (prev.block.withdrawals.map (·.length)).getD 0).getD 0 =
      (withdrawalsOf job.committedPayload.payload).length := by
    rw [withdrawalsOf]
    cases job.committedPayload.payload with
    | none => rfl
    | some prev => cases held : prev.block.withdrawals <;> simp [held]
  rw [nextFlashblock, ← offset, withdrawalsOf]
  cases held : payload.block.withdrawals <;> simp [Flashblock.new, held]

theorem Inv.composed_next (inv : Inv setting job) (held : job.bestPayload = (.best payload, accessList)) (now : ℤ) :
    ∃ composed,
      Flashblock.reduce (job.published ++ [job.nextFlashblock setting payload accessList now]) = some composed ∧
      composed.diff.transactions = payload.block.transactions.map setting.encode ∧
      composed.diff.withdrawals = withdrawalsOf (some payload) := by
  obtain ⟨transactions, withdrawals⟩ := inv.best payload accessList held
  have transactions' := List.prefix_iff_eq_append.mp transactions
  have withdrawals' := List.prefix_iff_eq_append.mp withdrawals
  cases committed : job.committedPayload with
  | empty =>
    refine ⟨job.nextFlashblock setting payload accessList now, ?_, ?_, ?_⟩
    · rw [inv.empty committed]
      rfl
    · rw [transactions_nextFlashblock, committed]
      rfl
    · rw [withdrawals_nextFlashblock, committed]
      rfl
  | frozen frozen data =>
    have isFrozen := inv.frozen frozen data committed
    rw [held] at isFrozen
    cases isFrozen
  | best before data =>
    obtain ⟨composed, reduced, sameTransactions, sameWithdrawals⟩ := inv.composed before data committed
    refine ⟨_, Flashblock.reduce_concat reduced _, ?_, ?_⟩
    · change composed.diff.transactions ++ (job.nextFlashblock setting payload accessList now).diff.transactions = _
      rw [transactions_nextFlashblock, sameTransactions, committed, ← List.map_append]
      rw [committed] at transactions'
      exact congrArg (List.map setting.encode) transactions'
    · change composed.diff.withdrawals ++ (job.nextFlashblock setting payload accessList now).diff.withdrawals = _
      rw [withdrawals_nextFlashblock, sameWithdrawals, committed]
      rw [committed] at withdrawals'
      exact withdrawals'

theorem Inv.spawnBuildJob (inv : Inv setting job) (unfrozen : job.bestPayload.1.isFrozen = false) :
    Inv setting job.spawnBuildJob where
  __ := inv
  pending := by
    intro base member
    exact (Option.some.inj member).symm
  done := by
    intro isFrozen
    cases unfrozen.symm.trans isFrozen

theorem Inv.dropPending (inv : Inv setting job) : Inv setting { job with pendingBlock := none } where
  __ := inv
  pending := nofun
  done := fun isFrozen => ⟨rfl, (inv.done isFrozen).2⟩

theorem Inv.new : Inv setting (new : FlashblocksPayloadJob Tx Receipt AccountChanges) :=
  Inv.spawnBuildJob ⟨rfl, rfl, nofun, nofun, nofun, nofun, fun _ => rfl, nofun⟩ rfl

section

variable (inv : Inv setting job)

include inv

theorem Inv.recommitBuild (poll : Poll Tx Receipt AccountChanges) :
    Inv setting (job.recommitBuild poll) := by
  unfold FlashblocksPayloadJob.recommitBuild
  split
  · next due =>
    simp only [Bool.and_eq_true, Bool.not_eq_true'] at due
    exact inv.spawnBuildJob due.1.2
  · exact inv

theorem Inv.resolveKind (noTxPool awaitInProgress : Bool) :
    Inv setting (job.resolveKind noTxPool awaitInProgress) := by
  have spawned : Inv setting (if job.committedPayload.isEmpty && job.pendingBlock.isNone then job.spawnBuildJob else job) := by
    split
    · next idle =>
      simp only [Bool.and_eq_true] at idle
      refine inv.spawnBuildJob (Bool.eq_false_iff.mpr fun isFrozen => ?_)
      cases idle.1.symm.trans (inv.done isFrozen).2
    · exact inv
  unfold FlashblocksPayloadJob.resolveKind
  generalize (if job.committedPayload.isEmpty && job.pendingBlock.isNone then job.spawnBuildJob else job) = building
    at spawned ⊢
  dsimp only
  split
  · exact spawned.dropPending
  · exact spawned

theorem Inv.commit (held : job.bestPayload = (.best payload, accessList)) (now : ℤ)
    (data : Option (FlashblockAccessListData AccountChanges)) :
    Inv setting
      { job with
        published := job.published ++ [job.nextFlashblock setting payload accessList now]
        committedPayload := .best payload data
        blockIndex := job.blockIndex + 1
        pendingBlock := some (some payload) } where
  indices := by
    have index : (job.nextFlashblock setting payload accessList now).index = job.blockIndex := rfl
    simp [List.range_succ, inv.indices, index, inv.next]
  next := by
    rw [inv.next, List.length_append, List.length_singleton]
    apply Fin.ext
    simp [Fin.val_add]
  pending := by
    intro base member
    exact (Option.some.inj member).symm
  best := by
    intro best list same
    obtain rfl := PayloadState.best.inj (Prod.mk.inj (held.symm.trans same)).1
    exact ⟨List.prefix_refl _, List.prefix_refl _⟩
  frozen := nofun
  done := by
    intro isFrozen
    rw [held] at isFrozen
    cases isFrozen
  empty := nofun
  composed := by
    intro latest list same
    cases same
    exact inv.composed_next held now

theorem Inv.commitBest (authorized : setting.authorization.isSome = true)
    (publishes : job.PublishSucceeds (.poll poll)) : Inv setting (job.commitBest setting poll) := by
  unfold FlashblocksPayloadJob.commitBest
  split
  · next payload accessList cleared held =>
    by_cases uncommitted : job.isUncommitted payload = true
    · obtain ⟨authorization, given⟩ := Option.isSome_iff_exists.mp authorized
      have goes := publishes cleared payload (by rw [held]; rfl) uncommitted
      simp only [uncommitted, given, publishPayload, goes, ↓reduceIte]
      exact inv.commit held poll.now _
    · rw [if_neg uncommitted]
      exact inv.spawnBuildJob (by rw [held]; rfl)
  · exact inv

theorem Inv.better {base : Option (OpBuiltPayload Tx Receipt)} (pending : job.pendingBlock = some base)
    (goesOn : Extends base payload) :
    Inv setting { job with pendingBlock := none, bestPayload := (.best payload, accessList) } where
  __ := inv.dropPending
  best := by
    intro best list same
    cases same
    rw [inv.pending base pending] at goesOn
    exact goesOn
  frozen := by
    intro frozen data committed
    have none := (inv.done (inv.frozen frozen data committed)).1
    rw [pending] at none
    cases none
  done := nofun

theorem Inv.freeze (payload : OpBuiltPayload Tx Receipt) (accessList : Option (FlashblockAccessList AccountChanges)) :
    Inv setting
      { job with
        pendingBlock := none
        committedPayload :=
          if job.isUncommitted payload then .frozen payload (accessListData setting accessList) else job.committedPayload
        bestPayload := (.frozen payload, accessList) } where
  __ := inv.dropPending
  pending := nofun
  best := nofun
  frozen := fun _ _ _ => rfl
  done := by
    intro _
    refine ⟨rfl, ?_⟩
    dsimp only
    split
    · rfl
    · next committed =>
      cases held : job.committedPayload with
      | empty => simp [isUncommitted, held, CommittedPayloadState.payload] at committed
      | best => rfl
      | frozen => rfl
  empty := by
    intro same
    dsimp only at same
    split at same
    · cases same
    · exact inv.empty same
  composed := by
    intro latest list same
    dsimp only at same
    split at same
    · cases same
    · exact inv.composed latest list same

theorem Inv.pollPending (continues : ∀ base ∈ job.pendingBlock, ∀ payload ∈ poll.built?, Extends base payload) :
    Inv setting (job.pollPending setting poll) := by
  unfold FlashblocksPayloadJob.pollPending
  split
  · exact inv
  · exact inv
  · exact inv.dropPending
  · exact inv.dropPending
  · next base payload accessList pending outcome =>
    split
    · exact inv.better pending (continues base pending payload (by rw [Poll.built?, outcome]; rfl))
    · exact inv.dropPending
  · next base payload accessList pending outcome => exact inv.freeze payload accessList

theorem Inv.exec (authorized : setting.authorization.isSome = true) {event : Event Tx Receipt AccountChanges}
    {after : FlashblocksPayloadJob Tx Receipt AccountChanges} (continues : job.BuildsExtend setting event)
    (publishes : job.PublishSucceeds event) (done : job.exec setting event = .ok after) : Inv setting after := by
  cases event with
  | resolve noTxPool awaitInProgress =>
    cases done
    exact inv.resolveKind noTxPool awaitInProgress
  | poll poll =>
    rw [FlashblocksPayloadJob.exec] at done
    split at done
    · cases done
    · cases done
      have same : (job.recommitBuild poll).PublishSucceeds (.poll poll) := by
        unfold FlashblocksPayloadJob.recommitBuild
        split <;> exact publishes
      exact ((inv.recommitBuild poll).commitBest authorized same).pollPending continues

end

end FlashblocksPayloadJob

/-- The published flashblocks are numbered from 0 without a gap, and put together they are the payload that was
committed last, unless this one is frozen. -/
theorem committed_is_published (setting : JobConfig Tx AccountChanges) (authorized : setting.authorization.isSome = true)
    (events : List (Event Tx Receipt AccountChanges)) (job : FlashblocksPayloadJob Tx Receipt AccountChanges)
    (run : Run (FlashblocksPayloadJob.exec setting) (fun job event => job.BuildsExtend setting event ∧ job.PublishSucceeds event)
      .new events job) :
    job.published.map (·.index) = (List.range job.published.length).map (Fin.ofNat _) ∧
    ∀ payload accessList, job.committedPayload = .best payload accessList →
      ∃ composed, Flashblock.reduce job.published = some composed ∧
        composed.diff.transactions = payload.block.transactions.map setting.encode ∧
        composed.diff.withdrawals = withdrawalsOf (some payload) := by
  have inv : FlashblocksPayloadJob.Inv setting job :=
    run.invariant .new fun inv allowed done => inv.exec authorized allowed.1 allowed.2 done
  exact ⟨inv.indices, inv.composed⟩

section Sample

def sampleConfig : JobConfig ℕ Unit where
  config := ⟨sampleB64 1, .zero, none, Primitives.Address.zero, .zero, 1⟩
  authorization := some ⟨1, 1⟩
  encode tx := [UInt8.ofNat tx]
  accessListHash _ := .zero

def sampleBlock (hash : UInt8) (transactions : List ℕ) : OpBuiltPayload ℕ Unit :=
  ⟨sampleB64 1, 0, ⟨sampleB256 hash, sampleHeader 0 none, transactions, some []⟩, none⟩

def samplePoll (publishes : Bool) (hash : UInt8) (transactions : List ℕ) : Poll ℕ Unit Unit :=
  ⟨false, false, true, 0, publishes, some (.ok (.better (sampleBlock hash transactions), none))⟩

def sampleEvents (publishes : Bool) : List (Event ℕ Unit Unit) :=
  [.poll (samplePoll true 1 [1]), .poll (samplePoll publishes 2 [1, 2]), .poll (samplePoll true 3 [1, 2, 3]),
    .poll (samplePoll true 4 [1, 2, 3])]

theorem committed_is_published_in_order :
    ∃ job, Run (FlashblocksPayloadJob.exec sampleConfig)
        (fun job event => job.BuildsExtend sampleConfig event ∧ job.PublishSucceeds event) .new (sampleEvents true) job ∧
      job.published.map (·.diff.transactions) = [[[1]], [[2]], [[3]]] ∧
      (job.published.map (·.index) = (List.range job.published.length).map (Fin.ofNat _) ∧
        ∀ payload accessList, job.committedPayload = .best payload accessList →
          ∃ composed, Flashblock.reduce job.published = some composed ∧
            composed.diff.transactions = payload.block.transactions.map sampleConfig.encode ∧
            composed.diff.withdrawals = withdrawalsOf (some payload)) := by
  have run : Run (FlashblocksPayloadJob.exec sampleConfig)
      (fun job event => job.BuildsExtend sampleConfig event ∧ job.PublishSucceeds event) .new (sampleEvents true) _ :=
    Run.run_final_of_permitted (by decide +kernel)
  exact ⟨_, run, by decide +kernel, committed_is_published sampleConfig rfl _ _ run⟩

theorem committed_is_not_published :
    ∃ job, (sampleEvents false).foldlM (FlashblocksPayloadJob.exec sampleConfig) .new = .ok job ∧
      job.committedPayload.payload = some (sampleBlock 3 [1, 2, 3]) ∧
      job.published.map (fun flashblock => (flashblock.index, flashblock.base)) = [(1, none), (2, none)] ∧
      (Flashblock.reduce job.published).map (·.diff.transactions) = some [[2], [3]] :=
  ⟨_, Run.foldlM_eq_final (by decide +kernel), by decide +kernel, by decide +kernel, by decide +kernel⟩

end Sample

end WorldChain.Payload
