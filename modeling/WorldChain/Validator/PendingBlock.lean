import WorldChain.Validator.Coordinator

/-! # The pending block and the chain

While a job is in flight the stream is read, so the job can put a block in place that the chain has reached already. A
payload id stands for one block (`number`), so whether a job is in time is said of the flashblock that it was started with
and of the tips that have been delivered.
-/

namespace WorldChain.Validator

open Machine Primitives

variable {AccountChanges Tx Receipt Error Key : Type}

/-! ## What a job puts in place -/

/-- The payload has been executed, and its block has the number that the id stands for. -/
def Stands (number : B64 → U64) (id : B64) (payload : OpBuiltPayload Tx Receipt) : Prop :=
  payload.block.header.number = number id ∧ payload.executedBlock.isSome = true

/-- All that the validator can make of the flashblock stands for its payload id. -/
def Request.Numbered (number : B64 → U64) (request : Request AccountChanges Tx Receipt Error) : Prop :=
  ∀ base hasBal diff header latest payload,
    request.1.validateFlashblockWithState base hasBal diff header request.2.payloadId latest = .ok payload →
      Stands number request.2.payloadId payload

def Coordinator.Numbered (number : B64 → U64) (coordinator : Coordinator AccountChanges Tx Receipt) : Prop :=
  ∀ latest ∈ coordinator.latestPayload, Stands number latest.1.id latest.1

/-- A job for the flashblock that has not returned. -/
def Process.Handles (number : B64 → U64) (flashblock : Flashblock AccountChanges) :
    Process AccountChanges Tx Receipt Error → Prop
  | .received validator given | .checked validator given .. | .cleared validator given _ | .prepared validator given .. =>
    given = flashblock ∧ Request.Numbered number (validator, flashblock)
  | .validated given payload _ => given = flashblock ∧ Stands number flashblock.payloadId payload
  | .written payload => Stands number flashblock.payloadId payload
  | .returned _ => False

def Process.remaining : Process AccountChanges Tx Receipt Error → Option (Process AccountChanges Tx Receipt Error)
  | .returned _ => none
  | process => some process

def Process.succeeded : Process AccountChanges Tx Receipt Error → Bool
  | .returned (.ok ()) => true
  | _ => false

section

variable {number : B64 → U64} {flashblock : Flashblock AccountChanges} {coordinator : Coordinator AccountChanges Tx Receipt}
  {process : Process AccountChanges Tx Receipt Error}

theorem Request.Numbered.nextPayload {validator : SoundValidator AccountChanges Tx Receipt Error}
    (numbered : Request.Numbered number (validator, flashblock)) {base : ExecutionPayloadBaseV1}
    {latest : Option (OpBuiltPayload Tx Receipt)} {payload : OpBuiltPayload Tx Receipt}
    (validated : validator.nextPayload flashblock base latest = .ok payload) :
    Stands number flashblock.payloadId payload := by
  unfold BlockValidator.nextPayload at validated
  split at validated
  · cases validated
  · cases validated
  · split at validated
    · cases validated
    · next valid =>
      cases validated
      exact numbered _ _ _ _ _ _ valid

/-- A job goes on and leaves the pending block as it is, or it returns, and does so without an error exactly if it has
put a block of its number in place. -/
theorem Process.Handles.step (handles : process.Handles number flashblock) (latest : coordinator.Numbered number) :
    (process.step coordinator).1.Numbered number ∧
    (∀ onward ∈ (process.step coordinator).2.remaining, onward.Handles number flashblock) ∧
    ((process.step coordinator).2.succeeded = false ∧
        (process.step coordinator).1.pendingBlock = coordinator.pendingBlock ∨
      ∃ payload, Stands number flashblock.payloadId payload ∧
        process.step coordinator = (coordinator.setPending payload, .returned (.ok ()))) := by
  cases process with
  | received validator given =>
    obtain ⟨rfl, numbered⟩ := handles
    rw [Process.step]
    cases seen : coordinator.processed? given with
    | some payload =>
      refine ⟨latest, fun onward is => (by cases is), .inr ⟨payload, ?_, rfl⟩⟩
      obtain ⟨held, is, rfl⟩ := Option.map_eq_some_iff.mp seen
      obtain ⟨entered, same⟩ := Option.filter_eq_some_iff.mp is
      rw [← (of_decide_eq_true same).1]
      exact latest held entered
    | none =>
      cases coordinator.epoch given with
      | error error => exact ⟨latest, fun onward is => (by cases is), .inl ⟨rfl, rfl⟩⟩
      | ok epoch =>
        refine ⟨latest, fun onward is => ?_, .inl ⟨rfl, rfl⟩⟩
        cases is
        exact ⟨rfl, numbered⟩
  | checked validator given base isNewEpoch =>
    refine ⟨?_, fun onward is => ?_, .inl ⟨rfl, ?_⟩⟩
    · cases isNewEpoch with
      | true =>
        rintro _ ⟨⟩
      | false => exact latest
    · cases is
      exact handles
    · cases isNewEpoch <;> rfl
  | cleared validator given base =>
    refine ⟨latest, fun onward is => ?_, .inl ⟨rfl, rfl⟩⟩
    cases is
    exact handles
  | prepared validator given base before =>
    obtain ⟨rfl, numbered⟩ := handles
    cases outcome : validator.nextPayload given base before with
    | error error =>
      rw [step_prepared_error outcome]
      exact ⟨latest, fun onward is => (by cases is), .inl ⟨rfl, rfl⟩⟩
    | ok payload =>
      obtain ⟨_, goes⟩ := step_prepared_ok coordinator outcome
      rw [goes]
      refine ⟨latest, fun onward is => ?_, .inl ⟨rfl, rfl⟩⟩
      cases is
      exact ⟨rfl, numbered.nextPayload outcome⟩
  | validated given payload describes =>
    obtain ⟨rfl, stands⟩ := handles
    have own : Stands number payload.id payload := by rwa [describes.1]
    simp only [Process.step, Coordinator.write]
    cases coordinator.flashblocks.push given with
    | error error =>
      refine ⟨?_, fun onward is => (by cases is), .inl ⟨rfl, rfl⟩⟩
      rintro _ ⟨⟩
      exact own
    | ok flashblocks =>
      refine ⟨?_, fun onward is => ?_, .inl ⟨rfl, rfl⟩⟩
      · rintro _ ⟨⟩
        exact own
      · cases is
        exact stands
  | written payload => exact ⟨latest, fun onward is => (by cases is), .inr ⟨payload, handles, rfl⟩⟩
  | returned result => exact handles.elim

end

/-! ## The processor -/

structure Processor (AccountChanges Tx Receipt Error : Type) where
  coordinator : Coordinator AccountChanges Tx Receipt
  tip : Option (B256 × U64)
  waiting : Option (Request AccountChanges Tx Receipt Error)
  inFlight : Option (Flashblock AccountChanges × Process AccountChanges Tx Receipt Error)

inductive ProcessorEvent (AccountChanges Tx Receipt Error Key : Type)
  | canon (tipHash : B256) (tipNumber : U64)
  | pending (request : Request AccountChanges Tx Receipt Error)
  | acquire
  | advance
  | publish (built : BuiltFlashblock AccountChanges Tx Receipt Key)

inductive ProcessorError
  | waiting
  | noPermit
  | idle
deriving DecidableEq

namespace Processor

def new : Processor AccountChanges Tx Receipt Error := ⟨.new, none, none, none⟩

def exec [DecidableEq Key] (processor : Processor AccountChanges Tx Receipt Error) :
    ProcessorEvent AccountChanges Tx Receipt Error Key →
    Except ProcessorError (Processor AccountChanges Tx Receipt Error)
  | .canon tipHash tipNumber =>
    if processor.waiting.isSome then .error .waiting
    else .ok { processor with
      coordinator := processor.coordinator.eventHook tipHash tipNumber
      tip := some (tipHash, tipNumber) }
  | .pending request =>
    if processor.waiting.isSome then .error .waiting else .ok { processor with waiting := some request }
  | .acquire =>
    match processor.waiting, processor.inFlight with
    | some request, none => .ok { processor with waiting := none, inFlight := some (request.2, .received request.1 request.2) }
    | some _, some _ => .error .noPermit
    | none, _ => .error .idle
  | .advance =>
    match processor.inFlight with
    | none => .error .idle
    | some (flashblock, process) =>
      let (coordinator, process) := process.step processor.coordinator
      .ok { processor with coordinator, inFlight := process.remaining.map (flashblock, ·) }
  | .publish built => .ok { processor with coordinator := processor.coordinator.operate (.publish built) }

/-- A block, if there is one, is ahead of a tip. -/
def IsAhead (tip : Option (B256 × U64)) (block : Option (Block Tx × List Receipt)) : Prop :=
  ∀ executed ∈ block, ∀ canonical ∈ tip, canonical.2 < executed.1.header.number

instance (tip : Option (B256 × U64)) (block : Option (Block Tx × List Receipt)) : Decidable (IsAhead tip block) := by
  unfold IsAhead
  infer_instance

variable {processor after : Processor AccountChanges Tx Receipt Error}
  {events : List (ProcessorEvent AccountChanges Tx Receipt Error Key)}

/-- The pending block is ahead of the last tip. -/
def Ahead (processor : Processor AccountChanges Tx Receipt Error) : Prop :=
  IsAhead processor.tip processor.coordinator.pendingBlock

/-- What is trusted: payload ids stand for block numbers. -/
def Numbered (number : B64 → U64) : ProcessorEvent AccountChanges Tx Receipt Error Key → Prop
  | .pending request => Request.Numbered number request
  | .publish built => Stands number built.builtPayload.id built.builtPayload
  | .canon .. | .acquire | .advance => True

/-- A job that returns without an error finds that no tip has reached the block of its flashblock. -/
def InTime (number : B64 → U64) (processor : Processor AccountChanges Tx Receipt Error) :
    ProcessorEvent AccountChanges Tx Receipt Error Key → Prop
  | .advance => ∀ job ∈ processor.inFlight, (job.2.step processor.coordinator).2.succeeded = true →
    ∀ canonical ∈ processor.tip, canonical.2 < number job.1.payloadId
  | .canon .. | .pending .. | .acquire | .publish .. => True

instance decidableInTime (number : B64 → U64) (processor : Processor AccountChanges Tx Receipt Error) :
    (event : ProcessorEvent AccountChanges Tx Receipt Error Key) → Decidable (processor.InTime number event)
  | .advance => by
    unfold InTime
    infer_instance
  | .canon .. | .pending .. | .acquire | .publish .. => isTrue trivial

/-- The job in flight, the request that waits and the latest payload are those of their numbers. -/
structure Sound (number : B64 → U64) (processor : Processor AccountChanges Tx Receipt Error) : Prop where
  latest : processor.coordinator.Numbered number
  waiting : ∀ request ∈ processor.waiting, Request.Numbered number request
  inFlight : ∀ job ∈ processor.inFlight, job.2.Handles number job.1

theorem isAhead_eventHook (coordinator : Coordinator AccountChanges Tx Receipt) (tipHash : B256) (tipNumber : U64) :
    IsAhead (some (tipHash, tipNumber)) (coordinator.eventHook tipHash tipNumber).pendingBlock := by
  rintro executed kept canonical ⟨⟩
  have remains := (Option.filter_eq_some_iff.mp kept).2
  simp only [Bool.not_eq_true', Bool.or_eq_false_iff, decide_eq_false_iff_not, not_le] at remains
  exact remains.2

theorem pendingBlock_publish [DecidableEq Key] (coordinator : Coordinator AccountChanges Tx Receipt)
    (built : BuiltFlashblock AccountChanges Tx Receipt Key) :
    (coordinator.operate (.publish built)).pendingBlock = coordinator.pendingBlock := by
  rw [Coordinator.operate, Coordinator.publishBuiltPayload]
  split
  · rfl
  · split <;> rfl

section

variable [DecidableEq Key] {number : B64 → U64} {event : ProcessorEvent AccountChanges Tx Receipt Error Key}

theorem exec_advance_eq_ok
    (success : processor.exec (.advance : ProcessorEvent AccountChanges Tx Receipt Error Key) = .ok after) :
    ∃ flashblock process, processor.inFlight = some (flashblock, process) ∧ after = { processor with
      coordinator := (process.step processor.coordinator).1
      inFlight := (process.step processor.coordinator).2.remaining.map (flashblock, ·) } := by
  rw [exec] at success
  split at success
  · cases success
  · next flashblock process running => exact ⟨flashblock, process, running, (Except.ok.inj success).symm⟩

theorem Sound.step (sound : processor.Sound number) (numbered : Numbered number event)
    (success : processor.exec event = .ok after) : after.Sound number := by
  cases event with
  | canon tipHash tipNumber =>
    rw [exec] at success
    split at success
    · cases success
    · cases success
      exact ⟨sound.latest, sound.waiting, sound.inFlight⟩
  | pending request =>
    rw [exec] at success
    split at success
    · cases success
    · cases success
      refine ⟨sound.latest, fun other is => ?_, sound.inFlight⟩
      cases is
      exact numbered
  | acquire =>
    rw [exec] at success
    split at success
    · next request waiting free =>
      cases success
      refine ⟨sound.latest, fun other is => (by cases is), fun job is => ?_⟩
      cases is
      exact ⟨rfl, sound.waiting request waiting⟩
    · cases success
    · cases success
  | advance =>
    obtain ⟨flashblock, process, running, rfl⟩ := exec_advance_eq_ok success
    obtain ⟨latest, onward, _⟩ := (sound.inFlight _ running).step sound.latest
    refine ⟨latest, sound.waiting, fun job is => ?_⟩
    obtain ⟨rest, remains, rfl⟩ := Option.map_eq_some_iff.mp is
    exact onward rest remains
  | publish built =>
    cases success
    refine ⟨fun latest is => ?_, sound.waiting, sound.inFlight⟩
    rw [Coordinator.operate, Coordinator.publishBuiltPayload] at is
    split at is
    · exact sound.latest latest is
    · split at is <;>
      · cases is
        exact numbered

theorem ahead_step (ahead : processor.Ahead) (sound : processor.Sound number) (inTime : processor.InTime number event)
    (success : processor.exec event = .ok after) : after.Ahead := by
  cases event with
  | canon tipHash tipNumber =>
    rw [exec] at success
    split at success
    · cases success
    · cases success
      exact isAhead_eventHook _ tipHash tipNumber
  | pending request =>
    rw [exec] at success
    split at success
    · cases success
    · cases success
      exact ahead
  | acquire =>
    rw [exec] at success
    split at success
    · cases success
      exact ahead
    · cases success
    · cases success
  | advance =>
    obtain ⟨flashblock, process, running, rfl⟩ := exec_advance_eq_ok success
    obtain ⟨_, _, ⟨_, kept⟩ | ⟨payload, stands, step⟩⟩ := (sound.inFlight _ running).step sound.latest
    · rw [Ahead, kept]
      exact ahead
    · rw [Ahead, step]
      intro executed is canonical tip
      obtain ⟨receipts, _, rfl⟩ := Option.map_eq_some_iff.mp is
      rw [stands.1]
      exact inTime _ running (by rw [step]; rfl) canonical tip
  | publish built =>
    cases success
    rw [Ahead, pendingBlock_publish]
    exact ahead

theorem not_ahead_of_late (sound : processor.Sound number) (late : ¬ processor.InTime number event)
    (success : processor.exec event = .ok after) : after.inFlight = none ∧ ¬ after.Ahead := by
  cases event with
  | advance =>
    obtain ⟨flashblock, process, running, rfl⟩ := exec_advance_eq_ok success
    obtain ⟨_, _, ⟨goes, _⟩ | ⟨payload, stands, step⟩⟩ := (sound.inFlight _ running).step sound.latest
    · refine absurd (fun job is returns => ?_) late
      obtain rfl := Option.some.inj (running.symm.trans is)
      cases goes.symm.trans returns
    · rw [step]
      refine ⟨rfl, fun ahead => late fun job is _ canonical tip => ?_⟩
      obtain rfl := Option.some.inj (running.symm.trans is)
      obtain ⟨receipts, executed⟩ := Option.isSome_iff_exists.mp stands.2
      rw [← stands.1]
      exact ahead (payload.block, receipts) (Option.map_eq_some_iff.mpr ⟨receipts, executed, rfl⟩) canonical tip
  | _ => exact absurd trivial late

end

def overtaken : List (ProcessorEvent Unit Unit Unit Unit ℕ) :=
  [.canon (sampleB256 9) 0, .pending (sampleValidator true, sampleFlashblock 1 0 5 10), .acquire] ++
    List.replicate 5 .advance ++ [.canon (sampleB256 10) 1, .advance]

def inTime : List (ProcessorEvent Unit Unit Unit Unit ℕ) :=
  [.canon (sampleB256 9) 0, .pending (sampleValidator true, sampleFlashblock 1 0 5 10), .acquire] ++
    List.replicate 6 .advance ++ [.canon (sampleB256 10) 1]

end Processor

end WorldChain.Validator
