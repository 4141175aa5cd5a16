import WorldChain.Dispute.Types
import WorldChain.Lib.Outline

/-! # The simulation inspector

The inspector follows a simulated execution through the hooks of the EVM. Every call and creation opens a pending
frame; the effects noted in a frame go to its parent, or to the final lists, when the frame ends well, and are dropped
otherwise.
-/

namespace WorldChain.Rpc

open Dispute (Address Bytes)
open Outline

abbrev U256 := BitVec 256

abbrev Selector := Vector UInt8 4

/-! ## What the hooks are given -/

inductive CallScheme
  | call
  | callCode
  | delegateCall
  | staticCall
deriving DecidableEq, Repr

/-- A value that moves, or one that is only shown to the callee. -/
inductive CallValue
  | transfer (value : U256)
  | apparent (value : U256)
deriving DecidableEq, Repr

def CallValue.transferred : CallValue → Option U256
  | transfer value => some value
  | apparent _ => none

/-- The calldata, or a range of the shared memory buffer that holds it. -/
inductive CallInput
  | bytes (data : Bytes)
  | sharedBuffer (start stop : ℕ)
deriving DecidableEq, Repr

structure CallInputs where
  input : CallInput
  scheme : CallScheme
  caller : Address
  targetAddress : Address
  value : CallValue
deriving DecidableEq, Repr

inductive CreateScheme
  | create
  | create2 (salt : U256)
  | custom (address : Address)
deriving DecidableEq, Repr

structure CreateInputs where
  scheme : CreateScheme
  caller : Address
  value : U256
deriving DecidableEq, Repr

inductive InstructionResult
  | stop
  | returned
  | selfDestruct
  | revert
  | exceptional (code : UInt8)
deriving DecidableEq, Repr

def InstructionResult.isOk : InstructionResult → Bool
  | stop | returned | selfDestruct => true
  | revert | exceptional _ => false

structure CallOutcome where
  result : InstructionResult
  output : Bytes
deriving DecidableEq, Repr

structure CreateOutcome where
  result : InstructionResult
  output : Bytes
  address : Option Address
deriving DecidableEq, Repr

/-! ## The inspector -/

inductive TraceKind
  | call
  | callCode
  | delegateCall
  | staticCall
  | create
  | create2
deriving DecidableEq, Repr

inductive TraceOutcome
  | success
  | revert
  | halt
deriving DecidableEq, Repr

structure RawTrace where
  kind : TraceKind
  sender : Address
  recipient : Option Address
  selector : Option Selector
  value : U256
  depth : ℕ
  outcome : Option TraceOutcome
  revertOutput : Option Bytes
  haltReason : Option InstructionResult
deriving DecidableEq, Repr

structure NativeTransfer where
  sender : Address
  recipient : Address
  value : U256
deriving DecidableEq, Repr

abbrev ContractCreation := Address × Address

/-- The three lists that a pending frame and the inspector itself keep. -/
structure Effects where
  nativeTransfers : List NativeTransfer := []
  contractCreations : List ContractCreation := []
  selfDestructs : List Address := []
deriving DecidableEq, Repr

instance : Append Effects where
  append first second :=
    { nativeTransfers := first.nativeTransfers ++ second.nativeTransfers
      contractCreations := first.contractCreations ++ second.contractCreations
      selfDestructs := first.selfDestructs ++ second.selfDestructs }

/-- The tentative effects of one frame, and the index of its trace. -/
structure PendingFrame extends Effects where
  traceIndex : ℕ
deriving DecidableEq, Repr

/-- The pending frames stand with the innermost first. -/
structure SimulationInspector extends Effects where
  traces : List RawTrace := []
  pendingFrames : List PendingFrame := []
  traceError : Option String := none
deriving DecidableEq, Repr

/-- The first four bytes. -/
def firstFour (data : Bytes) : Selector := Vector.ofFn fun position : Fin 4 => data.getD position 0

def CallInput.selector (sharedMemory : Bytes) : CallInput → Selector
  | bytes data => if 4 ≤ data.length then firstFour data else Vector.replicate 4 0
  | sharedBuffer start stop =>
    if 4 ≤ stop - start ∧ start + 4 ≤ sharedMemory.length then firstFour (sharedMemory.drop start)
    else Vector.replicate 4 0

def CallScheme.traceKind : CallScheme → TraceKind
  | call => .call
  | callCode => .callCode
  | delegateCall => .delegateCall
  | staticCall => .staticCall

def CreateScheme.traceKind : CreateScheme → TraceKind
  | create | custom _ => .create
  | create2 _ => .create2

/-- The value a call moves, with its two ends. -/
def CallInputs.transfer (inputs : CallInputs) : Option NativeTransfer :=
  inputs.value.transferred.map fun value => ⟨inputs.caller, inputs.targetAddress, value⟩

namespace SimulationInspector

variable (inspector : SimulationInspector)

def commitOrBubble (frame : Effects) : SimulationInspector :=
  match inspector.pendingFrames with
  | parent :: rest =>
    { inspector with pendingFrames := { parent with toEffects := parent.toEffects ++ frame } :: rest }
  | [] => { inspector with toEffects := inspector.toEffects ++ frame }

def fail (error : String) : SimulationInspector :=
  { inspector with traceError := some (inspector.traceError.getD error) }

def outcomeOf (result : InstructionResult) : TraceOutcome :=
  if result.isOk then .success else if result = .revert then .revert else .halt

def recordTraceOutcome (traceIndex : ℕ) (result : InstructionResult) (output : Bytes) : SimulationInspector :=
  match inspector.traces[traceIndex]? with
  | none => inspector.fail "simulation inspector frame referenced a missing trace entry"
  | some trace =>
    let outcome := outcomeOf result
    let trace := { trace with outcome := some outcome }
    let trace :=
      if result = .revert ∧ output ≠ [] then { trace with revertOutput := some output }
      else if outcome = .halt then { trace with haltReason := some result }
      else trace
    { inspector with traces := inspector.traces.set traceIndex trace }

def call (sharedMemory : Bytes) (inputs : CallInputs) : SimulationInspector :=
  let trace : RawTrace :=
    { kind := inputs.scheme.traceKind
      sender := inputs.caller
      recipient := some inputs.targetAddress
      selector := some (inputs.input.selector sharedMemory)
      value := inputs.value.transferred.getD 0
      depth := inspector.pendingFrames.length
      outcome := none
      revertOutput := none
      haltReason := none }
  let frame : PendingFrame :=
    { nativeTransfers := inputs.transfer.toList.filter (0 < ·.value), traceIndex := inspector.traces.length }
  { inspector with traces := inspector.traces ++ [trace], pendingFrames := frame :: inspector.pendingFrames }

def callEnd (outcome : CallOutcome) : SimulationInspector :=
  match inspector.pendingFrames with
  | [] => inspector.fail "simulation inspector CALL ended without a pending frame"
  | frame :: rest =>
    let inspector := { inspector with pendingFrames := rest }
    let inspector := inspector.recordTraceOutcome frame.traceIndex outcome.result outcome.output
    if outcome.result.isOk then inspector.commitOrBubble frame.toEffects else inspector

def create (inputs : CreateInputs) : SimulationInspector :=
  let trace : RawTrace :=
    { kind := inputs.scheme.traceKind
      sender := inputs.caller
      recipient := none
      selector := none
      value := inputs.value
      depth := inspector.pendingFrames.length
      outcome := none
      revertOutput := none
      haltReason := none }
  let frame : PendingFrame := { traceIndex := inspector.traces.length }
  { inspector with traces := inspector.traces ++ [trace], pendingFrames := frame :: inspector.pendingFrames }

def createEnd (inputs : CreateInputs) (outcome : CreateOutcome) : SimulationInspector :=
  match inspector.pendingFrames with
  | [] => inspector.fail "simulation inspector CREATE ended without a pending frame"
  | frame :: rest =>
    let inspector := { inspector with pendingFrames := rest }
    let inspector := inspector.recordTraceOutcome frame.traceIndex outcome.result outcome.output
    if outcome.result.isOk then
      -- The deployed address is only known now; a trace that is missing stays missing.
      let inspector : SimulationInspector :=
        { inspector with
          traces := inspector.traces.modify frame.traceIndex fun trace => { trace with recipient := outcome.address } }
      let created := outcome.address.toList.map fun address => (inputs.caller, address)
      inspector.commitOrBubble
        { frame.toEffects with contractCreations := frame.contractCreations ++ created }
    else inspector

def selfdestruct (contract _target : Address) (_value : U256) : SimulationInspector :=
  match inspector.pendingFrames with
  | top :: rest =>
    { inspector with pendingFrames := { top with selfDestructs := top.selfDestructs ++ [contract] } :: rest }
  | [] => { inspector with selfDestructs := inspector.selfDestructs ++ [contract] }

end SimulationInspector

/-- The hooks of the EVM, with what the inspector reads of their context. -/
inductive Hook
  | call (sharedMemory : Bytes) (inputs : CallInputs)
  | callEnd (outcome : CallOutcome)
  | create (inputs : CreateInputs)
  | createEnd (inputs : CreateInputs) (outcome : CreateOutcome)
  | selfdestruct (contract target : Address) (value : U256)
deriving DecidableEq, Repr

def SimulationInspector.observe (inspector : SimulationInspector) : Hook → SimulationInspector
  | .call sharedMemory inputs => inspector.call sharedMemory inputs
  | .callEnd outcome => inspector.callEnd outcome
  | .create inputs => inspector.create inputs
  | .createEnd inputs outcome => inspector.createEnd inputs outcome
  | .selfdestruct contract target value => inspector.selfdestruct contract target value

/-! ## Executions -/

/-- What happens in an execution: frames, with what happens in them and how they end, and self-destructs. -/
inductive Activity
  | call (sharedMemory : Bytes) (inputs : CallInputs) (body : List Activity) (outcome : CallOutcome)
  | create (inputs : CreateInputs) (body : List Activity) (outcome : CreateOutcome)
  | selfdestruct (contract target : Address) (value : U256)

namespace Activity

mutual

/-- The hooks of an execution, well nested. -/
def hooks : Activity → List Hook
  | call sharedMemory inputs body outcome => .call sharedMemory inputs :: hooksAll body ++ [.callEnd outcome]
  | create inputs body outcome => .create inputs :: hooksAll body ++ [.createEnd inputs outcome]
  | selfdestruct contract target value => [.selfdestruct contract target value]

def hooksAll : List Activity → List Hook
  | [] => []
  | first :: rest => first.hooks ++ hooksAll rest

end

end Activity

/-- What the inspector holds after an execution. -/
def SimulationInspector.watch (inspector : SimulationInspector) (execution : List Activity) : SimulationInspector :=
  (Activity.hooksAll execution).foldl SimulationInspector.observe inspector

/-! ## The calls of an execution -/

/-- How a frame ended, as a caller sees it. -/
inductive Ending
  | success
  | revert (payload : Bytes)
  | halt (reason : InstructionResult)
deriving DecidableEq, Repr

/-- A frame that has ended. -/
structure CallFrame where
  kind : TraceKind
  sender : Address
  recipient : Option Address
  selector : Option Selector
  value : U256
  ending : Ending
deriving DecidableEq, Repr

def InstructionResult.ending (result : InstructionResult) (output : Bytes) : Ending :=
  if result.isOk then .success else if result = .revert then .revert output else .halt result

namespace Ending

def outcome : Ending → TraceOutcome
  | success => .success
  | revert _ => .revert
  | halt _ => .halt

def revertOutput : Ending → Option Bytes
  | revert payload => if payload = [] then none else some payload
  | success | halt _ => none

def haltReason : Ending → Option InstructionResult
  | halt reason => some reason
  | success | revert _ => none

end Ending

/-- The trace of a frame that has ended. -/
def CallFrame.trace (depth : ℕ) (frame : CallFrame) : RawTrace :=
  { kind := frame.kind
    sender := frame.sender
    recipient := frame.recipient
    selector := frame.selector
    value := frame.value
    depth
    outcome := some frame.ending.outcome
    revertOutput := frame.ending.revertOutput
    haltReason := frame.ending.haltReason }

/-- A trace, once its frame has ended. -/
def RawTrace.ended (trace : RawTrace) (ending : Ending) : RawTrace :=
  { trace with
    outcome := some ending.outcome
    revertOutput := ending.revertOutput
    haltReason := ending.haltReason }

@[simp] theorem CallFrame.depth_trace (depth : ℕ) (frame : CallFrame) : (frame.trace depth).depth = depth := rfl

def CallInputs.frame (inputs : CallInputs) (sharedMemory : Bytes) (outcome : CallOutcome) : CallFrame :=
  { kind := inputs.scheme.traceKind
    sender := inputs.caller
    recipient := some inputs.targetAddress
    selector := some (inputs.input.selector sharedMemory)
    value := inputs.value.transferred.getD 0
    ending := outcome.result.ending outcome.output }

def CreateInputs.frame (inputs : CreateInputs) (outcome : CreateOutcome) : CallFrame :=
  { kind := inputs.scheme.traceKind
    sender := inputs.caller
    recipient := if outcome.result.isOk then outcome.address else none
    selector := none
    value := inputs.value
    ending := outcome.result.ending outcome.output }

namespace Activity

mutual

def calls : Activity → List (Rose CallFrame)
  | call sharedMemory inputs body outcome => [.node (inputs.frame sharedMemory outcome) (callsAll body)]
  | create inputs body outcome => [.node (inputs.frame outcome) (callsAll body)]
  | selfdestruct _ _ _ => []

def callsAll : List Activity → List (Rose CallFrame)
  | [] => []
  | first :: rest => first.calls ++ callsAll rest

end

end Activity

/-! ## What lands -/

inductive Event
  | callValue (transfer : NativeTransfer)
  | endowment (transfer : NativeTransfer)
  | creation (creation : ContractCreation)
  | destruction (contract target : Address) (value : U256)
deriving DecidableEq, Repr

/-- An event, and the results of the frames it happened in, the innermost first. -/
structure Attempt where
  event : Event
  enclosing : List InstructionResult
deriving DecidableEq, Repr

/-- Every frame around the event ended well. -/
def Attempt.landed (attempt : Attempt) : Bool := attempt.enclosing.all InstructionResult.isOk

namespace Activity

mutual

def attempts (above : List InstructionResult) : Activity → List Attempt
  | call _ inputs body outcome =>
    let enclosing := outcome.result :: above
    (inputs.transfer.toList.map fun transfer => ⟨.callValue transfer, enclosing⟩) ++ attemptsAll enclosing body
  | create inputs body outcome =>
    let enclosing := outcome.result :: above
    (outcome.address.toList.map fun address => ⟨.endowment ⟨inputs.caller, address, inputs.value⟩, enclosing⟩) ++
      attemptsAll enclosing body ++
      (outcome.address.toList.map fun address => ⟨.creation (inputs.caller, address), enclosing⟩)
  | selfdestruct contract target value => [⟨.destruction contract target value, above⟩]

def attemptsAll (above : List InstructionResult) : List Activity → List Attempt
  | [] => []
  | first :: rest => first.attempts above ++ attemptsAll above rest

end

/-- The events of an execution that land. -/
def landed (execution : List Activity) : List Event :=
  ((attemptsAll [] execution).filter Attempt.landed).map Attempt.event

end Activity

/-- A call value that is not zero. -/
def Event.nativeTransfer : Event → Option NativeTransfer
  | callValue transfer => if 0 < transfer.value then some transfer else none
  | _ => none

def Event.contractCreation : Event → Option ContractCreation
  | creation created => some created
  | _ => none

def Event.destroyed : Event → Option Address
  | destruction contract _ _ => some contract
  | _ => none

/-- What is to be reported of events. -/
def Effects.of (events : List Event) : Effects :=
  { nativeTransfers := events.filterMap Event.nativeTransfer
    contractCreations := events.filterMap Event.contractCreation
    selfDestructs := events.filterMap Event.destroyed }

/-! ## Landing, frame by frame -/

/-- The same event, with more frames around it. -/
def Attempt.under (above : List InstructionResult) (attempt : Attempt) : Attempt :=
  { attempt with enclosing := attempt.enclosing ++ above }

theorem Attempt.event_under (above : List InstructionResult) (attempt : Attempt) :
    (attempt.under above).event = attempt.event := rfl

namespace Activity

mutual

theorem attempts_eq (above : List InstructionResult) :
    ∀ activity, attempts above activity = (attempts [] activity).map (Attempt.under above)
  | call _ _ body outcome => by
    simp [attempts, attemptsAll_eq (outcome.result :: above) body, attemptsAll_eq [outcome.result] body,
      Function.comp_def, Attempt.under]
  | create _ body outcome => by
    simp [attempts, attemptsAll_eq (outcome.result :: above) body, attemptsAll_eq [outcome.result] body,
      Function.comp_def, Attempt.under]
  | selfdestruct _ _ _ => by simp [attempts, Attempt.under]

theorem attemptsAll_eq (above : List InstructionResult) :
    ∀ execution, attemptsAll above execution = (attemptsAll [] execution).map (Attempt.under above)
  | [] => rfl
  | first :: rest => by simp [attemptsAll, attempts_eq above first, attemptsAll_eq above rest]

end

theorem landed_body (result : InstructionResult) (body : List Activity) :
    ((attemptsAll [result] body).filter Attempt.landed).map Attempt.event =
      if result.isOk then landed body else [] := by
  have around (attempt : Attempt) : (attempt.under [result]).landed = (attempt.landed && result.isOk) := by
    simp [Attempt.landed, Attempt.under]
  rw [attemptsAll_eq, List.filter_map, List.map_map, landed]
  cases ok : result.isOk <;> simp [Function.comp_def, around, ok, Attempt.event_under]

theorem landed_nil : landed [] = [] := rfl

theorem landed_cons (first : Activity) (rest : List Activity) :
    landed (first :: rest) = landed [first] ++ landed rest := by
  simp [landed, attemptsAll]

theorem landed_call (sharedMemory : Bytes) (inputs : CallInputs) (body : List Activity) (outcome : CallOutcome) :
    landed [call sharedMemory inputs body outcome] =
      if outcome.result.isOk then inputs.transfer.toList.map .callValue ++ landed body else [] := by
  have inner := landed_body outcome.result body
  cases ok : outcome.result.isOk <;>
    simp_all [landed, attemptsAll, attempts, Attempt.landed, List.filter_map, Function.comp_def]

theorem landed_create (inputs : CreateInputs) (body : List Activity) (outcome : CreateOutcome) :
    landed [create inputs body outcome] =
      if outcome.result.isOk then
        (outcome.address.toList.map fun address => .endowment ⟨inputs.caller, address, inputs.value⟩) ++ landed body ++
          outcome.address.toList.map fun address => .creation (inputs.caller, address)
      else [] := by
  have inner := landed_body outcome.result body
  cases ok : outcome.result.isOk <;>
    simp_all [landed, attemptsAll, attempts, Attempt.landed, List.filter_map, Function.comp_def]

theorem landed_selfdestruct (contract target : Address) (value : U256) :
    landed [selfdestruct contract target value] = [.destruction contract target value] := rfl

end Activity

/-! ## Following an execution -/

namespace Effects

theorem append_def (first second : Effects) :
    first ++ second =
      { nativeTransfers := first.nativeTransfers ++ second.nativeTransfers
        contractCreations := first.contractCreations ++ second.contractCreations
        selfDestructs := first.selfDestructs ++ second.selfDestructs } := rfl

@[simp] theorem append_of_nil (effects : Effects) : effects ++ of [] = effects := by
  simp [append_def, of]

@[simp] theorem append_append_of (effects : Effects) (first second : List Event) :
    effects ++ of first ++ of second = effects ++ of (first ++ second) := by
  simp [append_def, of]

end Effects

namespace SimulationInspector

variable (inspector : SimulationInspector)

@[simp] theorem commitOrBubble_nil : inspector.commitOrBubble (.of []) = inspector := by
  rw [commitOrBubble]
  split <;> simp [← ‹inspector.pendingFrames = _›]

@[simp] theorem length_pendingFrames_commitOrBubble (effects : Effects) :
    (inspector.commitOrBubble effects).pendingFrames.length = inspector.pendingFrames.length := by
  rw [commitOrBubble]
  split <;> simp [*]

theorem commitOrBubble_append (first second : List Event) (traces : List RawTrace) :
    { inspector.commitOrBubble (.of first) with traces }.commitOrBubble (.of second) =
      { inspector.commitOrBubble (.of (first ++ second)) with traces } := by
  cases pending : inspector.pendingFrames <;> simp [commitOrBubble, pending]

theorem commitOrBubble_traces (effects : Effects) (traces : List RawTrace) :
    { inspector with traces }.commitOrBubble effects = { inspector.commitOrBubble effects with traces } := by
  cases pending : inspector.pendingFrames <;> simp [commitOrBubble, pending]

variable {trace : RawTrace}

theorem recordTraceOutcome_eq {before after : List RawTrace}
    (fresh : trace.revertOutput = none ∧ trace.haltReason = none)
    (traces : inspector.traces = before ++ trace :: after) (result : InstructionResult) (output : Bytes) :
    inspector.recordTraceOutcome before.length result output =
      { inspector with traces := before ++ trace.ended (result.ending output) :: after } := by
  obtain ⟨noOutput, noReason⟩ := fresh
  have found : inspector.traces[before.length]? = some trace := by simp [traces]
  rw [recordTraceOutcome, found]
  cases result <;>
    by_cases empty : output = [] <;>
    simp [traces, outcomeOf, RawTrace.ended, InstructionResult.ending, InstructionResult.isOk, Ending.outcome,
      Ending.revertOutput, Ending.haltReason, noOutput, noReason, empty]

def inside (trace : RawTrace) (effects : Effects) (nested : List RawTrace) : SimulationInspector :=
  { inspector with
    traces := inspector.traces ++ trace :: nested
    pendingFrames := { effects with traceIndex := inspector.traces.length } :: inspector.pendingFrames }

theorem commitOrBubble_inside (trace : RawTrace) (effects more : Effects) (nested : List RawTrace) :
    (inspector.inside trace effects nested).commitOrBubble more =
      inspector.inside trace (effects ++ more) nested := rfl

variable {inspector} in
theorem callEnd_inside (fresh : trace.revertOutput = none ∧ trace.haltReason = none) (effects : Effects)
    (nested : List RawTrace) (outcome : CallOutcome) :
    (inspector.inside trace effects nested).callEnd outcome =
      { (if outcome.result.isOk then inspector.commitOrBubble effects else inspector) with
        traces := inspector.traces ++ trace.ended (outcome.result.ending outcome.output) :: nested } := by
  have recorded := recordTraceOutcome_eq { inspector with traces := inspector.traces ++ trace :: nested } fresh rfl
    outcome.result outcome.output
  simp only [callEnd, inside, recorded]
  split
  · exact commitOrBubble_traces ..
  · rfl

variable {inspector} in
theorem createEnd_inside (fresh : trace.revertOutput = none ∧ trace.haltReason = none) (effects : Effects)
    (nested : List RawTrace) (inputs : CreateInputs) (outcome : CreateOutcome) :
    (inspector.inside trace effects nested).createEnd inputs outcome =
      if outcome.result.isOk then
        { inspector.commitOrBubble
            (effects ++
              { contractCreations := outcome.address.toList.map fun address => (inputs.caller, address) }) with
          traces := inspector.traces ++
            { trace with recipient := outcome.address }.ended (outcome.result.ending outcome.output) :: nested }
      else
        { inspector with
          traces := inspector.traces ++ trace.ended (outcome.result.ending outcome.output) :: nested } := by
  have recorded := recordTraceOutcome_eq { inspector with traces := inspector.traces ++ trace :: nested } fresh rfl
    outcome.result outcome.output
  simp only [createEnd, inside, recorded]
  split
  · have targeted (trace : RawTrace) : (inspector.traces ++ trace :: nested).modify inspector.traces.length
        (fun trace => { trace with recipient := outcome.address }) =
        inspector.traces ++ { trace with recipient := outcome.address } :: nested := by
      simp [List.modify_eq_set_getElem?]
    rw [targeted, commitOrBubble_traces]
    simp [Effects.append_def, RawTrace.ended]
  · rfl

theorem transfers_append (inputs : CallInputs) (body : List Event) :
    ({ nativeTransfers := inputs.transfer.toList.filter (0 < ·.value) } : Effects) ++ .of body =
      .of (inputs.transfer.toList.map .callValue ++ body) := by
  cases inputs.transfer with
  | none => simp [Effects.append_def, Effects.of]
  | some transfer =>
    by_cases positive : 0 < transfer.value <;>
      simp_all [Effects.append_def, Effects.of, List.filterMap_cons, Event.nativeTransfer, Event.contractCreation,
        Event.destroyed]

theorem of_append_creation (inputs : CreateInputs) (address : Option Address) (body : List Event) :
    ({} ++ .of body ++ { contractCreations := address.toList.map fun address => (inputs.caller, address) } : Effects) =
      .of ((address.toList.map fun address => .endowment ⟨inputs.caller, address, inputs.value⟩) ++ body ++
        address.toList.map fun address => .creation (inputs.caller, address)) := by
  cases address <;>
    simp [Effects.append_def, Effects.of, List.filterMap_cons, Event.nativeTransfer, Event.contractCreation,
      Event.destroyed]

theorem selfdestruct_eq (contract target : Address) (value : U256) :
    inspector.selfdestruct contract target value =
      inspector.commitOrBubble (.of [.destruction contract target value]) := by
  cases pending : inspector.pendingFrames <;>
    simp [selfdestruct, commitOrBubble, pending, Effects.append_def, Effects.of, Event.nativeTransfer,
      Event.contractCreation, Event.destroyed]

def after (execution : List Activity) : SimulationInspector :=
  { inspector.commitOrBubble (.of (Activity.landed execution)) with
    traces := inspector.traces ++
      outlines CallFrame.trace inspector.pendingFrames.length (Activity.callsAll execution) }

theorem after_cons (first : Activity) (rest : List Activity) :
    (inspector.after [first]).after rest = inspector.after (first :: rest) := by
  have frames : (inspector.after [first]).pendingFrames.length = inspector.pendingFrames.length :=
    length_pendingFrames_commitOrBubble ..
  rw [after, frames, after, after, Activity.landed_cons first rest, commitOrBubble_append]
  simp [Activity.callsAll, outlines_append]

theorem after_inside (trace : RawTrace) (effects : Effects) (body : List Activity) :
    (inspector.inside trace effects []).after body =
      inspector.inside trace (effects ++ .of (Activity.landed body))
        (outlines CallFrame.trace (inspector.pendingFrames.length + 1) (Activity.callsAll body)) := by
  rw [after, commitOrBubble_inside]
  simp [inside]

theorem callEnd_after (sharedMemory : Bytes) (inputs : CallInputs) (body : List Activity) (outcome : CallOutcome) :
    ((inspector.call sharedMemory inputs).after body).callEnd outcome =
      inspector.after [.call sharedMemory inputs body outcome] := by
  change ((inspector.inside _ { nativeTransfers := _ } []).after body).callEnd outcome = _
  rw [after_inside, callEnd_inside ⟨rfl, rfl⟩, transfers_append, after, Activity.landed_call]
  split <;> simp [Activity.callsAll, Activity.calls, outlines, outline] <;> rfl

theorem createEnd_after (inputs : CreateInputs) (body : List Activity) (outcome : CreateOutcome) :
    ((inspector.create inputs).after body).createEnd inputs outcome =
      inspector.after [.create inputs body outcome] := by
  change ((inspector.inside _ {} []).after body).createEnd inputs outcome = _
  rw [after_inside, createEnd_inside ⟨rfl, rfl⟩, of_append_creation, after, Activity.landed_create]
  split <;> simp [Activity.callsAll, Activity.calls, outlines, outline, CreateInputs.frame, *] <;> rfl

theorem selfdestruct_after (contract target : Address) (value : U256) :
    inspector.selfdestruct contract target value = inspector.after [.selfdestruct contract target value] := by
  rw [selfdestruct_eq, after, Activity.landed_selfdestruct, ← commitOrBubble_traces]
  simp [Activity.callsAll, Activity.calls, outlines]

end SimulationInspector

namespace Activity

mutual

theorem observe_hooks :
    ∀ (activity : Activity) (inspector : SimulationInspector),
      activity.hooks.foldl SimulationInspector.observe inspector = inspector.after [activity]
  | call sharedMemory inputs body outcome => by
    intro inspector
    rw [← inspector.callEnd_after, ← watch_eq body]
    simp [hooks, SimulationInspector.watch, SimulationInspector.observe]
  | create inputs body outcome => by
    intro inspector
    rw [← inspector.createEnd_after, ← watch_eq body]
    simp [hooks, SimulationInspector.watch, SimulationInspector.observe]
  | selfdestruct contract target value => by
    intro inspector
    rw [← inspector.selfdestruct_after]
    rfl

theorem watch_eq :
    ∀ (execution : List Activity) (inspector : SimulationInspector),
      inspector.watch execution = inspector.after execution
  | [] => by
    intro inspector
    simp [SimulationInspector.watch, hooksAll, SimulationInspector.after, landed_nil, callsAll, outlines]
  | first :: rest => by
    intro inspector
    rw [← SimulationInspector.after_cons, ← observe_hooks first, ← watch_eq rest, SimulationInspector.watch,
      SimulationInspector.watch, hooksAll, List.foldl_append]

end

end Activity

theorem SimulationInspector.effects_watch (execution : List Activity) :
    (({} : SimulationInspector).watch execution).toEffects = .of (Activity.landed execution) := by
  simp [Activity.watch_eq, SimulationInspector.after, SimulationInspector.commitOrBubble, Effects.append_def]

/-- Nothing is pending after an execution. The traces list its calls in pre-order, and the lists hold what landed, in
order. -/
theorem SimulationInspector.reports_what_landed (execution : List Activity) :
    let inspector := ({} : SimulationInspector).watch execution
    inspector.pendingFrames = [] ∧
      inspector.traceError = none ∧
      inspector.traces = outlines CallFrame.trace 0 (Activity.callsAll execution) ∧
      inspector.nativeTransfers = (Activity.landed execution).filterMap Event.nativeTransfer ∧
      inspector.contractCreations = (Activity.landed execution).filterMap Event.contractCreation ∧
      inspector.selfDestructs = (Activity.landed execution).filterMap Event.destroyed := by
  intro inspector
  have final : inspector = SimulationInspector.after {} execution := Activity.watch_eq execution {}
  have effects : inspector.toEffects = .of (Activity.landed execution) := effects_watch execution
  refine ⟨?_, ?_, ?_, by rw [effects]; rfl, by rw [effects]; rfl, by rw [effects]; rfl⟩ <;>
    simp [final, SimulationInspector.after, SimulationInspector.commitOrBubble]

end WorldChain.Rpc
