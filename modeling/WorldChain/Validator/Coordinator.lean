import WorldChain.Machine.Threads
import WorldChain.P2P.PublishingStatus
import WorldChain.Primitives.Flashblocks

/-! # The coordinator of flashblocks

The coordinator holds the flashblocks of the current payload, the latest payload with the index of its flashblock, and
the pending block.
-/

namespace WorldChain.Validator

open Machine Primitives
open P2P (PublisherNode BuilderAuthorization AuthorizedPayload FlashblocksP2PError)

variable {AccountChanges Tx Receipt Error Key : Type}

/-! ## The state -/

def executedBlock (payload : OpBuiltPayload Tx Receipt) : Option (Block Tx × List Receipt) :=
  payload.executedBlock.map (payload.block, ·)

structure Coordinator (AccountChanges Tx Receipt : Type) where
  flashblocks : Flashblocks AccountChanges
  latestPayload : Option (OpBuiltPayload Tx Receipt × U64)
  pendingBlock : Option (Block Tx × List Receipt)

/-- What a flashblock says of a payload is so. -/
def Describes (flashblock : Flashblock AccountChanges) (payload : OpBuiltPayload Tx Receipt) : Prop :=
  payload.id = flashblock.payloadId ∧ payload.block.hash = flashblock.diff.blockHash

structure BlockValidator (AccountChanges Tx Receipt Error : Type) where
  sealedHeaderByHash : B256 → Except Error (Option BlockHeader)
  validateFlashblockWithState : ExecutionPayloadBaseV1 → (hasBal : Bool) →
    ExecutionPayloadFlashblockDeltaV1 AccountChanges → BlockHeader → B64 → Option (OpBuiltPayload Tx Receipt) →
      Except Error (OpBuiltPayload Tx Receipt)

/-- A validation succeeds only with a payload of the given id and hash. -/
structure SoundValidator (AccountChanges Tx Receipt Error : Type) extends
    BlockValidator AccountChanges Tx Receipt Error where
  sound : ∀ base hasBal diff header payloadId latest payload,
    validateFlashblockWithState base hasBal diff header payloadId latest = .ok payload →
      payload.id = payloadId ∧ payload.block.hash = diff.blockHash

inductive ProcessError (Error : Type)
  | rejected (error : PushError)
  | sealedHeaderNotFound (parentHash : B256)
  | other (error : Error)
deriving DecidableEq

def BlockValidator.nextPayload (validator : BlockValidator AccountChanges Tx Receipt Error)
    (flashblock : Flashblock AccountChanges) (base : ExecutionPayloadBaseV1)
    (latest : Option (OpBuiltPayload Tx Receipt)) : Except (ProcessError Error) (OpBuiltPayload Tx Receipt) :=
  match validator.sealedHeaderByHash base.parentHash with
  | .error error => .error (.other error)
  | .ok none => .error (.sealedHeaderNotFound base.parentHash)
  | .ok (some header) =>
    match validator.validateFlashblockWithState base flashblock.diff.accessListData.isSome flashblock.diff header
        flashblock.payloadId latest with
    | .error error => .error (.other error)
    | .ok payload => .ok payload

theorem SoundValidator.describes_nextPayload {validator : SoundValidator AccountChanges Tx Receipt Error}
    {flashblock : Flashblock AccountChanges} {base : ExecutionPayloadBaseV1} {latest : Option (OpBuiltPayload Tx Receipt)}
    {payload : OpBuiltPayload Tx Receipt} (validated : validator.nextPayload flashblock base latest = .ok payload) :
    Describes flashblock payload := by
  unfold BlockValidator.nextPayload at validated
  split at validated
  · cases validated
  · cases validated
  · split at validated
    · cases validated
    · next valid =>
      cases validated
      exact validator.sound _ _ _ _ _ _ _ valid

namespace Coordinator

variable (coordinator : Coordinator AccountChanges Tx Receipt) (flashblock : Flashblock AccountChanges)

def new : Coordinator AccountChanges Tx Receipt := ⟨.default, none, none⟩

def processed? : Option (OpBuiltPayload Tx Receipt) :=
  (coordinator.latestPayload.filter fun latest => latest.1.id = flashblock.payloadId ∧ flashblock.index ≤ latest.2).map (·.1)

def epoch : Except PushError (ExecutionPayloadBaseV1 × Bool) :=
  match verdict : coordinator.flashblocks.isNewPayload flashblock with
  | .error error => .error error
  | .ok true => .ok (flashblock.base.get (coordinator.flashblocks.isNewPayload_true flashblock verdict).2, true)
  | .ok false => .ok (coordinator.flashblocks.base, false)

/-- Drop the latest payload when the epoch is new. -/
def clear (isNewEpoch : Bool) : Coordinator AccountChanges Tx Receipt :=
  if isNewEpoch then { coordinator with latestPayload := none } else coordinator

def write (payload : OpBuiltPayload Tx Receipt) : Coordinator AccountChanges Tx Receipt × Except PushError Unit :=
  let coordinator := { coordinator with latestPayload := some (payload, flashblock.index) }
  match coordinator.flashblocks.push flashblock with
  | .error error => (coordinator, .error error)
  | .ok flashblocks => ({ coordinator with flashblocks }, .ok ())

def setPending (payload : OpBuiltPayload Tx Receipt) : Coordinator AccountChanges Tx Receipt :=
  { coordinator with pendingBlock := executedBlock payload }

def processFlashblock (validator : BlockValidator AccountChanges Tx Receipt Error) :
    Coordinator AccountChanges Tx Receipt × Except (ProcessError Error) Unit :=
  match coordinator.processed? flashblock with
  | some latest => (coordinator.setPending latest, .ok ())
  | none =>
    match coordinator.epoch flashblock with
    | .error error => (coordinator, .error (.rejected error))
    | .ok (base, isNewEpoch) =>
      let coordinator := coordinator.clear isNewEpoch
      match validator.nextPayload flashblock base (coordinator.latestPayload.map (·.1)) with
      | .error error => (coordinator, .error error)
      | .ok payload =>
        match coordinator.write flashblock payload with
        | (coordinator, .error error) => (coordinator, .error (.rejected error))
        | (coordinator, .ok ()) => (coordinator.setPending payload, .ok ())

inductive PublishError
  | rejected (error : PushError)
  | p2p (error : FlashblocksP2PError)
deriving DecidableEq

def publishBuiltPayload [DecidableEq Key] (node : PublisherNode (Flashblock AccountChanges) Key)
    (authorization : BuilderAuthorization Key) (authorizedPayload : AuthorizedPayload (Flashblock AccountChanges))
    (builtPayload : OpBuiltPayload Tx Receipt) :
    Coordinator AccountChanges Tx Receipt × Except PublishError (PublisherNode (Flashblock AccountChanges) Key) :=
  let flashblock := authorizedPayload.msg.body
  match coordinator.flashblocks.push flashblock with
  | .error error => (coordinator, .error (.rejected error))
  | .ok flashblocks =>
    let coordinator := { coordinator with flashblocks, latestPayload := some (builtPayload, flashblock.index) }
    match node.publishNew authorization authorizedPayload with
    | .error error => (coordinator, .error (.p2p error))
    | .ok node => (coordinator, .ok node)

def eventHook (tipHash : B256) (tipNumber : U64) : Coordinator AccountChanges Tx Receipt :=
  { coordinator with
    pendingBlock := coordinator.pendingBlock.filter fun pending =>
      !(pending.1.hash = tipHash || pending.1.header.number ≤ tipNumber) }

end Coordinator

structure CoordinatorSnapshot (AccountChanges Tx Receipt : Type) where
  flashblocks : Flashblocks AccountChanges
  latestPayload : Option (OpBuiltPayload Tx Receipt × U64)

def Coordinator.snapshot (coordinator : Coordinator AccountChanges Tx Receipt) :
    CoordinatorSnapshot AccountChanges Tx Receipt :=
  ⟨coordinator.flashblocks, coordinator.latestPayload⟩

inductive PreStateError
  | noFlashblockMatching (payloadHash : B256)
  | failedToReduce
deriving DecidableEq

def CoordinatorSnapshot.checkForPreState (snapshot : CoordinatorSnapshot AccountChanges Tx Receipt) (id : B64) :
    Except PreStateError (Option (OpBuiltPayload Tx Receipt × U64 × Option (FlashblockAccessList AccountChanges))) :=
  match snapshot.latestPayload.filter fun latest => latest.1.id = id with
  | none => .ok none
  | some (latest, _) =>
    let flashblocks := snapshot.flashblocks.flashblocks
    match flashblocks.findIdx? fun flashblock => flashblock.diff.blockHash = latest.block.hash with
    | none => .error (.noFlashblockMatching latest.block.hash)
    | some executedPos =>
      match Flashblock.reduce (flashblocks.take (executedPos + 1)) with
      | none => .error .failedToReduce
      | some composed =>
        .ok (some (latest, composed.index + 1, composed.diff.accessListData.map (·.accessList)))

/-! ## Processes -/

/-- A process between two of its steps. -/
inductive Process (AccountChanges Tx Receipt Error : Type)
  | received (validator : SoundValidator AccountChanges Tx Receipt Error) (flashblock : Flashblock AccountChanges)
  | checked (validator : SoundValidator AccountChanges Tx Receipt Error) (flashblock : Flashblock AccountChanges)
      (base : ExecutionPayloadBaseV1) (isNewEpoch : Bool)
  | cleared (validator : SoundValidator AccountChanges Tx Receipt Error) (flashblock : Flashblock AccountChanges)
      (base : ExecutionPayloadBaseV1)
  | prepared (validator : SoundValidator AccountChanges Tx Receipt Error) (flashblock : Flashblock AccountChanges)
      (base : ExecutionPayloadBaseV1) (latest : Option (OpBuiltPayload Tx Receipt))
  | validated (flashblock : Flashblock AccountChanges) (payload : OpBuiltPayload Tx Receipt)
      (describes : Describes flashblock payload)
  | written (payload : OpBuiltPayload Tx Receipt)
  | returned (result : Except (ProcessError Error) Unit)

namespace Process

/-- The next step of a process. -/
def step (coordinator : Coordinator AccountChanges Tx Receipt) :
    Process AccountChanges Tx Receipt Error → Coordinator AccountChanges Tx Receipt × Process AccountChanges Tx Receipt Error
  | .received validator flashblock =>
    match coordinator.processed? flashblock with
    | some latest => (coordinator.setPending latest, .returned (.ok ()))
    | none =>
      match coordinator.epoch flashblock with
      | .error error => (coordinator, .returned (.error (.rejected error)))
      | .ok (base, isNewEpoch) => (coordinator, .checked validator flashblock base isNewEpoch)
  | .checked validator flashblock base isNewEpoch => (coordinator.clear isNewEpoch, .cleared validator flashblock base)
  | .cleared validator flashblock base =>
    (coordinator, .prepared validator flashblock base (coordinator.latestPayload.map (·.1)))
  | .prepared validator flashblock base latest =>
    match outcome : validator.nextPayload flashblock base latest with
    | .error error => (coordinator, .returned (.error error))
    | .ok payload => (coordinator, .validated flashblock payload (SoundValidator.describes_nextPayload outcome))
  | .validated flashblock payload _ =>
    match coordinator.write flashblock payload with
    | (coordinator, .error error) => (coordinator, .returned (.error (.rejected error)))
    | (coordinator, .ok ()) => (coordinator, .written payload)
  | .written payload => (coordinator.setPending payload, .returned (.ok ()))
  | .returned result => (coordinator, .returned result)

section

variable {coordinator : Coordinator AccountChanges Tx Receipt} {validator : SoundValidator AccountChanges Tx Receipt Error}
  {flashblock : Flashblock AccountChanges} {base : ExecutionPayloadBaseV1} {latest : Option (OpBuiltPayload Tx Receipt)}

theorem step_prepared_error {error : ProcessError Error} (failed : validator.nextPayload flashblock base latest = .error error) :
    step coordinator (.prepared validator flashblock base latest) = (coordinator, .returned (.error error)) := by
  rw [step]
  split
  · next same => rw [Except.error.inj (failed.symm.trans same)]
  · next same => cases failed.symm.trans same

theorem step_prepared_ok (coordinator : Coordinator AccountChanges Tx Receipt) {payload : OpBuiltPayload Tx Receipt}
    (valid : validator.nextPayload flashblock base latest = .ok payload) :
    ∃ describes, step coordinator (.prepared validator flashblock base latest) =
      (coordinator, .validated flashblock payload describes) := by
  refine ⟨SoundValidator.describes_nextPayload valid, ?_⟩
  rw [step]
  split
  · next same => cases valid.symm.trans same
  · next same =>
    cases valid.symm.trans same
    rfl

end

end Process

/-- A payload of our own with the flashblock that describes it, and the state of the network when it is published. -/
structure BuiltFlashblock (AccountChanges Tx Receipt Key : Type) where
  node : PublisherNode (Flashblock AccountChanges) Key
  authorization : BuilderAuthorization Key
  authorizedPayload : AuthorizedPayload (Flashblock AccountChanges)
  builtPayload : OpBuiltPayload Tx Receipt
  describes : Describes authorizedPayload.msg.body builtPayload

/-- What else happens to a coordinator. -/
inductive Operation (AccountChanges Tx Receipt Key : Type)
  | publish (built : BuiltFlashblock AccountChanges Tx Receipt Key)
  | canon (tipHash : B256) (tipNumber : U64)
  | snapshot

def Coordinator.operate [DecidableEq Key] (coordinator : Coordinator AccountChanges Tx Receipt) :
    Operation AccountChanges Tx Receipt Key → Coordinator AccountChanges Tx Receipt
  | .publish built =>
    (coordinator.publishBuiltPayload built.node built.authorization built.authorizedPayload built.builtPayload).1
  | .canon tipHash tipNumber => coordinator.eventHook tipHash tipNumber
  | .snapshot => coordinator

abbrev Request (AccountChanges Tx Receipt Error : Type) :=
  SoundValidator AccountChanges Tx Receipt Error × Flashblock AccountChanges

def Coordinator.exec [DecidableEq Key] :
    Threads (Coordinator AccountChanges Tx Receipt) (Process AccountChanges Tx Receipt Error) →
    Threads.Event (Request AccountChanges Tx Receipt Error) (Operation AccountChanges Tx Receipt Key) →
    Except Threads.NoThread (Threads (Coordinator AccountChanges Tx Receipt) (Process AccountChanges Tx Receipt Error)) :=
  Threads.exec (fun request => .received request.1 request.2) Process.step operate

theorem Process.iterate_step (coordinator : Coordinator AccountChanges Tx Receipt)
    (validator : SoundValidator AccountChanges Tx Receipt Error) (flashblock : Flashblock AccountChanges) :
    (fun state => step state.1 state.2)^[6] (coordinator, .received validator flashblock) =
      ((coordinator.processFlashblock flashblock validator.toBlockValidator).1,
        .returned (coordinator.processFlashblock flashblock validator.toBlockValidator).2) := by
  simp only [Function.iterate_succ_apply, Function.iterate_zero_apply, Coordinator.processFlashblock]
  cases seen : coordinator.processed? flashblock with
  | some latest => simp [step, seen]
  | none =>
    cases opened : coordinator.epoch flashblock with
    | error error => simp [step, seen, opened]
    | ok epoch =>
      obtain ⟨base, isNewEpoch⟩ := epoch
      have looked : step coordinator (.received validator flashblock) =
          (coordinator, .checked validator flashblock base isNewEpoch) := by
        simp [step, seen, opened]
      rw [looked, step, step]
      cases outcome : validator.nextPayload flashblock base ((coordinator.clear isNewEpoch).latestPayload.map (·.1)) with
      | error error =>
        simp only [outcome, step_prepared_error outcome]
        rfl
      | ok payload =>
        obtain ⟨describes, prepared⟩ := step_prepared_ok (coordinator.clear isNewEpoch) outcome
        simp only [outcome, prepared]
        cases writing : (coordinator.clear isNewEpoch).write flashblock payload with
        | mk after result => cases result <;> simp [step, writing]

theorem Coordinator.exec_processFlashblock [DecidableEq Key] (coordinator : Coordinator AccountChanges Tx Receipt)
    (processes : List (Process AccountChanges Tx Receipt Error)) (validator : SoundValidator AccountChanges Tx Receipt Error)
    (flashblock : Flashblock AccountChanges) :
    (.spawn (validator, flashblock) :: List.replicate 6 (.advance processes.length)).foldlM (@exec _ _ _ _ Key _)
        ⟨coordinator, processes⟩ =
      .ok ⟨(coordinator.processFlashblock flashblock validator.toBlockValidator).1,
        processes ++ [.returned (coordinator.processFlashblock flashblock validator.toBlockValidator).2]⟩ := by
  rw [List.foldlM_cons]
  refine (Threads.foldlM_advance 6 coordinator processes (.received validator flashblock)).trans ?_
  rw [Process.iterate_step]

/-! ## The latest payload and its flashblock -/

namespace Coordinator

variable {coordinator : Coordinator AccountChanges Tx Receipt} {flashblock : Flashblock AccountChanges}
  {payload : OpBuiltPayload Tx Receipt}

/-- The latest payload is that of the last flashblock. -/
def Consistent (coordinator : Coordinator AccountChanges Tx Receipt) : Prop :=
  ∀ payload index, coordinator.latestPayload = some (payload, index) →
    coordinator.flashblocks.payloadId = payload.id ∧ coordinator.flashblocks.last.index = index ∧
      coordinator.flashblocks.last.diff.blockHash = payload.block.hash

def StillFits (coordinator : Coordinator AccountChanges Tx Receipt) (flashblock : Flashblock AccountChanges) : Prop :=
  (coordinator.flashblocks.isNewPayload flashblock).isOk = true ∨
    coordinator.flashblocks.payloadId = flashblock.payloadId ∧ coordinator.flashblocks.last.index = flashblock.index ∧
      coordinator.flashblocks.last.diff.blockHash = flashblock.diff.blockHash

/-- The flashblock of a process that is about to write still fits. -/
def MayWrite (coordinator : Coordinator AccountChanges Tx Receipt) : Process AccountChanges Tx Receipt Error → Prop
  | .validated flashblock _ _ => coordinator.StillFits flashblock
  | _ => True

instance decidableMayWrite (coordinator : Coordinator AccountChanges Tx Receipt) :
    (process : Process AccountChanges Tx Receipt Error) → Decidable (coordinator.MayWrite process)
  | .validated _ _ _ => by
    unfold MayWrite StillFits
    infer_instance
  | .received .. | .checked .. | .cleared .. | .prepared .. | .written .. | .returned .. => isTrue trivial

theorem consistent_of_none (dropped : coordinator.latestPayload = none) : coordinator.Consistent := by
  intro payload index latest
  rw [dropped] at latest
  cases latest

theorem consistent_of_push {flashblocks : Flashblocks AccountChanges} (describes : Describes flashblock payload)
    (pushed : coordinator.flashblocks.push flashblock = .ok flashblocks) :
    Consistent { coordinator with flashblocks, latestPayload := some (payload, flashblock.index) } := by
  intro latest index entered
  cases entered
  refine ⟨?_, ?_, ?_⟩
  · exact (Flashblocks.payloadId_push pushed).trans describes.1.symm
  · exact congrArg (·.index) (Flashblocks.last_push pushed)
  · exact (congrArg (·.diff.blockHash) (Flashblocks.last_push pushed)).trans describes.2.symm

theorem consistent_write_iff (describes : Describes flashblock payload) :
    (coordinator.write flashblock payload).1.Consistent ↔ coordinator.StillFits flashblock := by
  rw [StillFits, ← Flashblocks.isOk_push, write]
  cases pushed : coordinator.flashblocks.push flashblock with
  | ok flashblocks =>
    simp only [Except.isOk, Except.toBool, true_or, iff_true]
    exact consistent_of_push describes pushed
  | error error =>
    simp only [Except.isOk, Except.toBool, Bool.false_eq_true, false_or]
    rw [← describes.1, ← describes.2]
    constructor
    · intro consistent
      exact consistent payload flashblock.index rfl
    · intro same latest index entered
      cases entered
      exact same

theorem consistent_setPending (consistent : coordinator.Consistent) : (coordinator.setPending payload).Consistent := consistent

theorem consistent_step {process : Process AccountChanges Tx Receipt Error} (consistent : coordinator.Consistent)
    (may : coordinator.MayWrite process) : (process.step coordinator).1.Consistent := by
  cases process with
  | received validator flashblock =>
    rw [Process.step]
    split
    · exact consistent_setPending consistent
    · split <;> exact consistent
  | checked validator flashblock base isNewEpoch =>
    cases isNewEpoch with
    | true => exact consistent_of_none rfl
    | false => exact consistent
  | cleared => exact consistent
  | prepared validator flashblock base latest =>
    rw [Process.step]
    split <;> exact consistent
  | validated flashblock payload describes =>
    have written := (consistent_write_iff describes).mpr may
    rw [Process.step]
    split
    · next writing => rwa [writing] at written
    · next writing => rwa [writing] at written
  | written payload => exact consistent_setPending consistent
  | returned result => exact consistent

theorem consistent_operate [DecidableEq Key] (consistent : coordinator.Consistent)
    (operation : Operation AccountChanges Tx Receipt Key) : (coordinator.operate operation).Consistent := by
  cases operation with
  | publish built =>
    rw [operate, publishBuiltPayload]
    split
    · exact consistent
    · next pushed => split <;> exact consistent_of_push built.describes pushed
  | canon tipHash tipNumber => exact consistent
  | snapshot => exact consistent

theorem checkForPreState_of_consistent (consistent : coordinator.Consistent) (id : B64) :
    ∃ preState, coordinator.snapshot.checkForPreState id = .ok preState := by
  unfold CoordinatorSnapshot.checkForPreState
  split
  · exact ⟨none, rfl⟩
  · next latest index held =>
    obtain ⟨_, _, hash⟩ := consistent latest index (Option.filter_eq_some_iff.mp held).1
    cases found : coordinator.snapshot.flashblocks.flashblocks.findIdx?
        fun flashblock => flashblock.diff.blockHash = latest.block.hash with
    | none =>
      have unlike := List.findIdx?_eq_none_iff.mp found _ (List.getLast_mem coordinator.flashblocks.nonempty)
      exact absurd hash (of_decide_eq_false unlike)
    | some executedPos =>
      simp only [found]
      cases reduced : Flashblock.reduce (coordinator.snapshot.flashblocks.flashblocks.take (executedPos + 1)) with
      | some composed => exact ⟨_, rfl⟩
      | none =>
        cases all : coordinator.flashblocks.flashblocks with
        | nil => exact absurd all coordinator.flashblocks.nonempty
        | cons first rest => simp [snapshot, all, Flashblock.reduce] at reduced

end Coordinator

/-- However processes, payloads of our own and snapshots interleave, the latest payload is that of the last flashblock,
as long as each write finds its flashblock still fitting. -/
theorem latest_payload_consistent [DecidableEq Key]
    (events : List (Threads.Event (Request AccountChanges Tx Receipt Error) (Operation AccountChanges Tx Receipt Key)))
    (system : Threads (Coordinator AccountChanges Tx Receipt) (Process AccountChanges Tx Receipt Error))
    (run : Run Coordinator.exec (Threads.MayAdvance Coordinator.MayWrite) ⟨.new, []⟩ events system) :
    system.shared.Consistent ∧ ∀ id, ∃ preState, system.shared.snapshot.checkForPreState id = .ok preState := by
  have consistent : system.shared.Consistent := Threads.invariant run (Coordinator.consistent_of_none rfl)
    Coordinator.consistent_step fun operation consistent => Coordinator.consistent_operate consistent operation
  exact ⟨consistent, Coordinator.checkForPreState_of_consistent consistent⟩

section Sample

def sampleFlashblock (id : UInt8) (index timestamp : U64) (hash : UInt8) : Flashblock Unit where
  payloadId := sampleB64 id
  index
  diff := ⟨.zero, .zero, Bloom.zero, 0, sampleB256 hash, [], [], .zero, none⟩
  metadata := ⟨0, none⟩
  base := some ⟨.zero, .zero, Address.zero, .zero, 0, 0, timestamp, [], 0⟩

def samplePayloadOf (id : B64) (hash : B256) : OpBuiltPayload Unit Unit :=
  ⟨id, 0, ⟨hash, sampleHeader 0 none, [], none⟩, some []⟩

def sampleValidator (hasHeader : Bool) : SoundValidator Unit Unit Unit Unit where
  sealedHeaderByHash _ := .ok (if hasHeader then some (sampleHeader 0 none) else none)
  validateFlashblockWithState _ _ diff _ payloadId _ := .ok (samplePayloadOf payloadId diff.blockHash)
  sound := by
    rintro _ _ _ _ _ _ _ ⟨⟩
    exact ⟨rfl, rfl⟩

def sampleNode (status : P2P.PublishingStatus ℕ) : PublisherNode (Flashblock Unit) ℕ := ⟨none, status, .initial⟩

def sampleBuiltFlashblock (flashblock : Flashblock Unit) : BuiltFlashblock Unit Unit Unit ℕ where
  node := sampleNode (.notPublishing [])
  authorization := ⟨⟨0, 0⟩, 0⟩
  authorizedPayload := ⟨⟨0, 0⟩, ⟨0, 0, none, flashblock⟩, 0⟩
  builtPayload := samplePayloadOf flashblock.payloadId flashblock.diff.blockHash
  describes := ⟨rfl, rfl⟩

theorem latest_payload_consistent_in_order :
    ∃ events system,
      Run Coordinator.exec (Threads.MayAdvance Coordinator.MayWrite)
        (⟨.new, []⟩ : Threads (Coordinator Unit Unit Unit) (Process Unit Unit Unit Unit)) events system ∧
      (events : List (Threads.Event (Request Unit Unit Unit Unit) (Operation Unit Unit Unit ℕ))).length = 14 ∧
      system.shared.latestPayload = some (samplePayloadOf (sampleB64 1) (sampleB256 12), 2) ∧
      (system.shared.Consistent ∧ ∀ id, ∃ preState, system.shared.snapshot.checkForPreState id = .ok preState) := by
  have run := Run.run_final_of_permitted (show Run.Permitted (@Coordinator.exec _ _ _ _ ℕ _) (Threads.MayAdvance Coordinator.MayWrite)
    (⟨.new, []⟩ : Threads (Coordinator Unit Unit Unit) (Process Unit Unit Unit Unit))
    (.spawn (sampleValidator true, sampleFlashblock 1 0 5 10) :: List.replicate 6 (.advance 0) ++
      [.operate (.publish (sampleBuiltFlashblock (sampleFlashblock 1 1 5 11))),
        .spawn (sampleValidator true, sampleFlashblock 1 2 5 12)] ++ List.replicate 4 (.advance 1) ++
      [.advance 1]) from by decide +kernel)
  exact ⟨_, _, run, by decide +kernel, by decide +kernel, latest_payload_consistent _ _ run⟩

theorem latest_payload_inconsistent :
    ∃ events system,
      (events : List (Threads.Event (Request Unit Unit Unit Unit) (Operation Unit Unit Unit ℕ))).foldlM Coordinator.exec
        (⟨.new, []⟩ : Threads (Coordinator Unit Unit Unit) (Process Unit Unit Unit Unit)) = .ok system ∧
      system.shared.latestPayload = some (samplePayloadOf (sampleB64 1) (sampleB256 10), 0) ∧
      system.shared.flashblocks.payloadId = sampleB64 2 ∧
      ¬ system.shared.Consistent ∧
      system.shared.snapshot.checkForPreState (sampleB64 1) = .error (.noFlashblockMatching (sampleB256 10)) := by
  refine ⟨.spawn (sampleValidator true, sampleFlashblock 1 0 5 10) :: List.replicate 4 (.advance 0) ++
    [.operate (.publish (sampleBuiltFlashblock (sampleFlashblock 2 0 6 20))), .advance 0], _,
    Run.foldlM_eq_final (by decide +kernel), by decide +kernel, by decide +kernel, ?_, by decide +kernel⟩
  intro consistent
  have same := (consistent (samplePayloadOf (sampleB64 1) (sampleB256 10)) 0 (by decide +kernel)).1
  revert same
  decide +kernel

end Sample

/-! ## Errors -/

namespace Coordinator

variable {coordinator : Coordinator AccountChanges Tx Receipt} {flashblock : Flashblock AccountChanges}

/-- A flashblock that opens another epoch ends the latest payload, and then it is found that it cannot be validated. -/
def LosesLatest (coordinator : Coordinator AccountChanges Tx Receipt) (flashblock : Flashblock AccountChanges)
    (validator : BlockValidator AccountChanges Tx Receipt Error) : Prop :=
  coordinator.processed? flashblock = none ∧ coordinator.flashblocks.isNewPayload flashblock = .ok true ∧
    coordinator.latestPayload.isSome = true ∧
    ∃ base ∈ flashblock.base, ∃ error, validator.nextPayload flashblock base none = .error error

theorem epoch_eq_ok {base : ExecutionPayloadBaseV1} {isNewEpoch : Bool}
    (opened : coordinator.epoch flashblock = .ok (base, isNewEpoch)) :
    coordinator.flashblocks.isNewPayload flashblock = .ok isNewEpoch ∧ (isNewEpoch = true → flashblock.base = some base) := by
  unfold epoch at opened
  split at opened
  · cases opened
  · next verdict =>
    cases opened
    exact ⟨verdict, fun _ => by simp⟩
  · next verdict =>
    cases opened
    exact ⟨verdict, nofun⟩

theorem epoch_eq_error {error : PushError} (failed : coordinator.epoch flashblock = .error error) :
    coordinator.flashblocks.isNewPayload flashblock = .error error := by
  unfold epoch at failed
  split at failed
  · next verdict => exact verdict.trans (congrArg _ (Except.error.inj failed))
  · cases failed
  · cases failed

theorem write_eq_ok (payload : OpBuiltPayload Tx Receipt)
    (fits : (coordinator.flashblocks.isNewPayload flashblock).isOk = true) :
    (coordinator.write flashblock payload).2 = .ok () := by
  rw [← Flashblocks.isOk_push] at fits
  rw [write]
  cases pushed : coordinator.flashblocks.push flashblock with
  | error error => simp [pushed, Except.isOk, Except.toBool] at fits
  | ok flashblocks => rfl

theorem processFlashblock_unchanged_iff (validator : BlockValidator AccountChanges Tx Receipt Error) :
    (∀ error, (coordinator.processFlashblock flashblock validator).2 = .error error →
        (coordinator.processFlashblock flashblock validator).1 = coordinator) ↔
      ¬ coordinator.LosesLatest flashblock validator := by
  unfold processFlashblock LosesLatest
  cases seen : coordinator.processed? flashblock with
  | some latest => simp
  | none =>
    cases opened : coordinator.epoch flashblock with
    | error error => simp [epoch_eq_error opened]
    | ok epoch =>
      obtain ⟨base, isNewEpoch⟩ := epoch
      obtain ⟨verdict, base_eq⟩ := epoch_eq_ok opened
      have fits : ((coordinator.clear isNewEpoch).flashblocks.isNewPayload flashblock).isOk = true := by
        cases isNewEpoch <;> simp [clear, verdict, Except.isOk, Except.toBool]
      cases outcome : validator.nextPayload flashblock base ((coordinator.clear isNewEpoch).latestPayload.map (·.1)) with
      | ok payload =>
        -- Nothing fails any more once the flashblock is valid.
        have writes := write_eq_ok payload fits
        cases writing : (coordinator.clear isNewEpoch).write flashblock payload with
        | mk after result =>
          rw [writing] at writes
          subst writes
          cases isNewEpoch with
          | false => simp [outcome, writing, verdict]
          | true =>
            have valid : validator.nextPayload flashblock base none = .ok payload := outcome
            simp [outcome, writing, base_eq rfl, valid]
      | error error =>
        cases isNewEpoch with
        | false =>
          have invalid : validator.nextPayload flashblock base (coordinator.latestPayload.map (·.1)) = .error error := outcome
          simp [clear, invalid, verdict]
        | true =>
          have invalid : validator.nextPayload flashblock base none = .error error := outcome
          have same : coordinator.clear true = coordinator ↔ coordinator.latestPayload.isSome = false := by
            obtain ⟨flashblocks, latestPayload, pendingBlock⟩ := coordinator
            cases latestPayload <;> simp [clear]
          simp [outcome, verdict, base_eq rfl, invalid, same]

theorem publishBuiltPayload_unchanged_iff [DecidableEq Key] (node : PublisherNode (Flashblock AccountChanges) Key)
    (authorization : BuilderAuthorization Key) (authorizedPayload : AuthorizedPayload (Flashblock AccountChanges))
    (builtPayload : OpBuiltPayload Tx Receipt) :
    (∀ error, (coordinator.publishBuiltPayload node authorization authorizedPayload builtPayload).2 = .error error →
        (coordinator.publishBuiltPayload node authorization authorizedPayload builtPayload).1 = coordinator) ↔
      ((coordinator.flashblocks.isNewPayload authorizedPayload.msg.body).isOk = true →
        (node.publishNew authorization authorizedPayload).isOk = true) := by
  rw [← Flashblocks.isOk_push, publishBuiltPayload]
  cases pushed : coordinator.flashblocks.push authorizedPayload.msg.body with
  | error error => simp [Except.isOk, Except.toBool]
  | ok flashblocks =>
    cases published : node.publishNew authorization authorizedPayload with
    | ok node => simp [Except.isOk, Except.toBool]
    | error error =>
      simp only [Except.isOk, Except.toBool, Bool.false_eq_true, imp_false, not_true_eq_false, iff_false]
      intro unchanged
      exact Flashblocks.push_ne_self pushed (congrArg (·.flashblocks) (unchanged _ rfl))

end Coordinator

/-- An error leaves the coordinator as it was, except that opening another epoch in vain costs the latest payload, and a
payload of our own stays when it cannot be published. -/
theorem error_leaves_coordinator_iff [DecidableEq Key] (coordinator : Coordinator AccountChanges Tx Receipt)
    (flashblock : Flashblock AccountChanges) (validator : BlockValidator AccountChanges Tx Receipt Error)
    (node : PublisherNode (Flashblock AccountChanges) Key) (authorization : BuilderAuthorization Key)
    (authorizedPayload : AuthorizedPayload (Flashblock AccountChanges)) (builtPayload : OpBuiltPayload Tx Receipt) :
    ((∀ error, (coordinator.processFlashblock flashblock validator).2 = .error error →
        (coordinator.processFlashblock flashblock validator).1 = coordinator) ↔
      ¬ coordinator.LosesLatest flashblock validator) ∧
    ((∀ error, (coordinator.publishBuiltPayload node authorization authorizedPayload builtPayload).2 = .error error →
        (coordinator.publishBuiltPayload node authorization authorizedPayload builtPayload).1 = coordinator) ↔
      ((coordinator.flashblocks.isNewPayload authorizedPayload.msg.body).isOk = true →
        (node.publishNew authorization authorizedPayload).isOk = true)) :=
  ⟨Coordinator.processFlashblock_unchanged_iff validator,
    Coordinator.publishBuiltPayload_unchanged_iff node authorization authorizedPayload builtPayload⟩

theorem error_changes_coordinator :
    let built := sampleBuiltFlashblock (sampleFlashblock 1 0 5 10)
    let published := Coordinator.new.publishBuiltPayload built.node built.authorization built.authorizedPayload built.builtPayload
    let processed := published.1.processFlashblock (sampleFlashblock 2 0 6 20) (sampleValidator false).toBlockValidator
    (fun _ => ()) <$> published.2 = .error (.p2p .notClearedToPublish) ∧ published.1.latestPayload = some (built.builtPayload, 0) ∧
      processed.2 = .error (.sealedHeaderNotFound .zero) ∧ processed.1.latestPayload = none := by
  decide +kernel

end WorldChain.Validator
