import WorldChain.P2P.BlockEpoch

/-! # Flashblocks gated on the canonical tip

`BufferedFlashblocks` merges flashblocks with canonical tips. A base opens an epoch on its parent block, and the
epoch's flashblocks come out in the order of their indices while the canonical tip is that parent.
-/

namespace WorldChain.P2P

open Reorder

variable {Body : Type*}

/-- The reducer: the epoch in place, the latest canonical tip and the events to be yielded. -/
structure BufferedFlashblocks (Body : Type*) where
  epoch : Option (BlockEpochState Body)
  canonTip : Option BlockNumHash
  output : List (ChainEvent Body)
deriving DecidableEq

namespace BufferedFlashblocks

def new : BufferedFlashblocks Body := ⟨none, none, []⟩

def ParentStale (tip : BlockNumHash) (epoch : BlockEpochState Body) : Prop :=
  tip.number > epoch.parent.number ∨ (tip.number = epoch.parent.number ∧ tip.hash ≠ epoch.parent.hash)

instance (tip : BlockNumHash) (epoch : BlockEpochState Body) : Decidable (ParentStale tip epoch) :=
  inferInstanceAs (Decidable (_ ∨ _))

variable (state : BufferedFlashblocks Body)

def absorb : ChainEvent Body → BufferedFlashblocks Body
  | .canon tip =>
    { epoch := state.epoch.filter fun epoch => ¬ ParentStale tip epoch
      canonTip := some tip
      output := state.output ++ [.canon tip] }
  | .pending fb =>
    if fb.base.isSome then { state with epoch := BlockEpochState.tryNew fb state.canonTip }
    else { state with epoch := state.epoch.map fun epoch => (epoch.insert fb).1 }

def drain : BufferedFlashblocks Body :=
  match state.epoch with
  | none => state
  | some epoch =>
    if state.canonTip = some epoch.parent then
      { state with
        epoch := some (epoch.drain maxFlashblocks).1
        output := state.output ++ (epoch.drain maxFlashblocks).2.map .pending }
    else state

/-- Process a single input event. -/
def step (event : ChainEvent Body) : BufferedFlashblocks Body := (state.absorb event).drain

def run (inputs : List (ChainEvent Body)) : BufferedFlashblocks Body := inputs.foldl step new

theorem run_append_singleton (inputs : List (ChainEvent Body)) (event : ChainEvent Body) :
    run (inputs ++ [event]) = (run inputs).step event := by
  simp [run]

end BufferedFlashblocks

/-! ## Reading a sequence of events -/

/-- The canonical tips among some events. -/
def canons (events : List (ChainEvent Body)) : List BlockNumHash :=
  events.filterMap fun
    | .canon tip => some tip
    | .pending _ => none

/-- The flashblocks among some events. -/
def pendings (events : List (ChainEvent Body)) : List (FlashblocksPayloadV1 Body) :=
  events.filterMap fun
    | .canon _ => none
    | .pending fb => some fb

/-- The last canonical tip among some events. -/
def lastCanon (events : List (ChainEvent Body)) : Option BlockNumHash := (canons events).getLast?

section

variable (events others : List (ChainEvent Body)) (fb : FlashblocksPayloadV1 Body) (tip : BlockNumHash)

@[simp] theorem canons_append : canons (events ++ others) = canons events ++ canons others := List.filterMap_append

@[simp] theorem pendings_append : pendings (events ++ others) = pendings events ++ pendings others :=
  List.filterMap_append

@[simp] theorem canons_canon : canons (.canon tip :: events) = tip :: canons events := rfl

@[simp] theorem canons_pending : canons (.pending fb :: events) = canons events := rfl

@[simp] theorem pendings_canon : pendings (.canon tip :: events) = pendings events := rfl

@[simp] theorem pendings_pending : pendings (.pending fb :: events) = fb :: pendings events := rfl

@[simp] theorem canons_nil : canons ([] : List (ChainEvent Body)) = [] := rfl

@[simp] theorem pendings_nil : pendings ([] : List (ChainEvent Body)) = [] := rfl

end

@[simp] theorem canons_map_pending (fbs : List (FlashblocksPayloadV1 Body)) : canons (fbs.map .pending) = [] := by
  induction fbs with
  | nil => rfl
  | cons fb fbs ih => simpa using ih

@[simp] theorem pendings_map_pending (fbs : List (FlashblocksPayloadV1 Body)) : pendings (fbs.map .pending) = fbs := by
  induction fbs with
  | nil => rfl
  | cons fb fbs ih => simpa using ih

/-! ## Where an epoch comes from -/

/-- A base among the inputs: what came before it, the flashblock that carries it, and what came after. -/
structure Origin (Body : Type*) where
  past : List (ChainEvent Body)
  opener : FlashblocksPayloadV1 Body
  base : ExecutionPayloadBaseV1
  later : List (ChainEvent Body)

def Accepted (past : List (ChainEvent Body)) (fb : FlashblocksPayloadV1 Body) (base : ExecutionPayloadBaseV1) : Prop :=
  fb.base = some base ∧ ∀ tip, lastCanon past = some tip → tip.number ≤ base.blockNumber - 1

namespace Origin

variable (origin : Origin Body)

def received : List (FlashblocksPayloadV1 Body) :=
  (pendings (.pending origin.opener :: origin.later)).filter (·.payloadId = origin.opener.payloadId)

def emitted (output : List (ChainEvent Body)) : List (FlashblocksPayloadV1 Body) :=
  pendings (output.drop (BufferedFlashblocks.run origin.past).output.length)

/-- The base was accepted among these inputs. -/
structure Opens (inputs : List (ChainEvent Body)) : Prop where
  split : inputs = origin.past ++ .pending origin.opener :: origin.later
  accepted : Accepted origin.past origin.opener origin.base

/-- The most recent accepted base of a payload. -/
structure MostRecent (inputs : List (ChainEvent Body)) (payloadId : PayloadId) : Prop extends origin.Opens inputs where
  own : origin.opener.payloadId = payloadId
  latest : ∀ between other rest base, origin.later = between ++ .pending other :: rest →
    other.payloadId = payloadId → ¬ Accepted (origin.past ++ .pending origin.opener :: between) other base

structure Explains (inputs output : List (ChainEvent Body)) (epoch : BlockEpochState Body) : Prop
    extends origin.Opens inputs where
  alone : ∀ other, .pending other ∈ origin.later → other.base = none
  parent : epoch.parent = ⟨origin.base.blockNumber - 1, origin.base.parentHash⟩
  payloadId : epoch.payloadId = origin.opener.payloadId
  reached : (BufferedFlashblocks.run origin.past).output.length ≤ output.length
  serving : epoch.Serving origin.received (origin.emitted output)

variable {origin} {inputs output : List (ChainEvent Body)} {epoch : BlockEpochState Body}

theorem Explains.mostRecent (explains : origin.Explains inputs output epoch) :
    origin.MostRecent inputs epoch.payloadId where
  toOpens := explains.toOpens
  own := explains.payloadId.symm
  latest := fun between other rest base split _ accepted => by
    have plain := explains.alone other (by rw [split]; simp)
    cases plain.symm.trans accepted.1

theorem Explains.own (explains : origin.Explains inputs output epoch) {fb : FlashblocksPayloadV1 Body}
    (member : fb ∈ origin.emitted output) : fb.payloadId = epoch.payloadId := by
  have received := mem_of_firstAt (explains.serving.first.firstAt_position member)
  rw [explains.payloadId]
  exact of_decide_eq_true (List.mem_filter.mp received).2

end Origin

/-! ## The reducer follows its inputs -/

namespace BufferedFlashblocks

variable {inputs : List (ChainEvent Body)} {state : BufferedFlashblocks Body} {epoch : BlockEpochState Body}

/-- The tip is the last canonical one, every canonical tip came out, and the epoch in place has an origin. -/
structure Follows (inputs : List (ChainEvent Body)) (state : BufferedFlashblocks Body) : Prop where
  tip : state.canonTip = lastCanon inputs
  canons : canons state.output = canons inputs
  explained : ∀ epoch, state.epoch = some epoch → ∃ origin : Origin Body, origin.Explains inputs state.output epoch

section

variable (follows : Follows inputs (run inputs))

include follows

theorem Follows.canon (tip : BlockNumHash) :
    Follows (inputs ++ [.canon tip]) ((run inputs).absorb (.canon tip)) where
  tip := by simp [absorb, lastCanon]
  canons := by simp [absorb, follows.canons]
  explained := fun epoch kept => by
    obtain ⟨origin, explains⟩ := follows.explained epoch (Option.eq_some_of_filter_eq_some kept)
    refine ⟨{ origin with later := origin.later ++ [.canon tip] }, ⟨⟨?_, explains.accepted⟩, ?_, explains.parent,
      explains.payloadId, ?_, ?_⟩⟩
    · simp [explains.split]
    · simpa using explains.alone
    · exact explains.reached.trans (by simp [absorb])
    · have serving := explains.serving
      simpa [Origin.received, Origin.emitted, absorb, List.drop_append_of_le_length explains.reached] using serving

theorem Follows.opened {fb : FlashblocksPayloadV1 Body} (isBase : fb.base.isSome) :
    Follows (inputs ++ [.pending fb]) ((run inputs).absorb (.pending fb)) := by
  rw [absorb, if_pos isBase]
  refine ⟨?_, ?_, fun epoch made => ?_⟩
  · simp [lastCanon, follows.tip]
  · simp [follows.canons]
  · obtain ⟨base, opening, reaches, rfl⟩ := BlockEpochState.tryNew_eq_some.mp made
    rw [follows.tip] at reaches
    refine ⟨⟨inputs, fb, base, []⟩, ⟨⟨rfl, opening, reaches⟩, fun _ none => (by cases none), ?_, ?_, le_rfl, ?_⟩⟩
    · rw [BlockEpochState.insert_parent]
      rfl
    · rw [BlockEpochState.insert_payloadId]
      rfl
    · have serving := (BlockEpochState.serving_empty (BlockEpochState.parentOf base) fb.payloadId).insert fb
      simpa [Origin.received, Origin.emitted, BlockEpochState.empty] using serving

theorem Follows.inserted {fb : FlashblocksPayloadV1 Body} (plain : ¬ fb.base.isSome) :
    Follows (inputs ++ [.pending fb]) ((run inputs).absorb (.pending fb)) := by
  rw [absorb, if_neg plain]
  refine ⟨?_, ?_, fun epoch made => ?_⟩
  · simp [lastCanon, follows.tip]
  · simp [follows.canons]
  · obtain ⟨before, present, rfl⟩ := Option.map_eq_some_iff.mp made
    obtain ⟨origin, explains⟩ := follows.explained before present
    refine ⟨{ origin with later := origin.later ++ [.pending fb] }, ⟨⟨?_, explains.accepted⟩, ?_, ?_, ?_,
      explains.reached, ?_⟩⟩
    · simp [explains.split]
    · intro other member
      rcases List.mem_append.mp member with member | last
      · exact explains.alone other member
      · obtain rfl : other = fb := by simpa using last
        exact Option.not_isSome_iff_eq_none.mp plain
    · rw [BlockEpochState.insert_parent]
      exact explains.parent
    · rw [BlockEpochState.insert_payloadId]
      exact explains.payloadId
    · have serving := explains.serving.insert fb
      rw [explains.payloadId] at serving
      have received : Origin.received { origin with later := origin.later ++ [.pending fb] } =
          origin.received ++ if fb.payloadId = origin.opener.payloadId then [fb] else [] := by
        by_cases own : fb.payloadId = origin.opener.payloadId <;> simp [Origin.received, own]
      rw [received]
      exact serving

theorem Follows.absorb (event : ChainEvent Body) :
    Follows (inputs ++ [event]) ((run inputs).absorb event) := by
  cases event with
  | canon tip => exact follows.canon tip
  | pending fb =>
    by_cases isBase : fb.base.isSome
    · exact follows.opened isBase
    · exact follows.inserted isBase

end

def Drained (state : BufferedFlashblocks Body) : Prop :=
  ∀ epoch, state.epoch = some epoch → state.canonTip = some epoch.parent → slot epoch.buffer epoch.cursor = none

theorem drain_cases (state : BufferedFlashblocks Body) :
    (∃ epoch, state.epoch = some epoch ∧ state.canonTip = some epoch.parent ∧ state.drain = { state with
      epoch := some (epoch.drain maxFlashblocks).1
      output := state.output ++ (epoch.drain maxFlashblocks).2.map .pending }) ∨
    (state.drain = state ∧ ∀ epoch, state.epoch = some epoch → state.canonTip ≠ some epoch.parent) := by
  cases present : state.epoch with
  | none => exact .inr ⟨by rw [drain, present], fun _ none => by cases none⟩
  | some epoch =>
    by_cases anchored : state.canonTip = some epoch.parent
    · refine .inl ⟨epoch, rfl, anchored, ?_⟩
      rw [drain, present]
      exact if_pos anchored
    · refine .inr ⟨?_, fun other same => Option.some.inj same ▸ anchored⟩
      rw [drain, present]
      exact if_neg anchored

theorem Follows.drain (follows : Follows inputs state) : Follows inputs state.drain ∧ state.drain.Drained := by
  rcases drain_cases state with ⟨epoch, present, _, result⟩ | ⟨same, detached⟩
  · obtain ⟨origin, explains⟩ := follows.explained epoch present
    have drains := explains.serving.drain (Nat.le_add_left maxFlashblocks epoch.cursor)
    rw [result]
    refine ⟨⟨follows.tip, by simp [follows.canons], fun drained made => ?_⟩, fun drained made _ => ?_⟩
    · obtain rfl : _ = drained := Option.some.inj made
      refine ⟨origin, ⟨explains.toOpens, explains.alone, ?_, ?_, explains.reached.trans (by simp), ?_⟩⟩
      · rw [(BlockEpochState.drain_keeps ..).1, explains.parent]
      · rw [(BlockEpochState.drain_keeps ..).2, explains.payloadId]
      · simpa [Origin.emitted, List.drop_append_of_le_length explains.reached] using drains.1
    · obtain rfl : _ = drained := Option.some.inj made
      exact drains.2
  · rw [same]
    exact ⟨follows, fun epoch present anchored => absurd anchored (detached epoch present)⟩

theorem follows_run (inputs : List (ChainEvent Body)) : Follows inputs (run inputs) ∧ (run inputs).Drained := by
  induction inputs using List.reverseRecOn with
  | nil => exact ⟨⟨rfl, rfl, fun _ none => by cases none⟩, fun _ none => by cases none⟩
  | append_singleton inputs event ih =>
    rw [run_append_singleton]
    exact (ih.1.absorb event).drain

/-! ## What one step puts out -/

/-- What an event puts out by itself. -/
def announced : ChainEvent Body → List (ChainEvent Body)
  | .canon tip => [.canon tip]
  | .pending _ => []

theorem absorb_output (state : BufferedFlashblocks Body) (event : ChainEvent Body) :
    (state.absorb event).output = state.output ++ announced event := by
  cases event with
  | canon tip => rfl
  | pending fb =>
    rw [absorb, announced, List.append_nil]
    split <;> rfl

theorem step_output (state : BufferedFlashblocks Body) (event : ChainEvent Body) :
    ∃ fbs, (state.step event).output = state.output ++ (announced event ++ fbs.map .pending) ∧
      (fbs ≠ [] → ∃ epoch, (state.step event).epoch = some epoch ∧ (state.step event).canonTip = some epoch.parent) := by
  simp only [← List.append_assoc, ← absorb_output, step]
  rcases drain_cases (state.absorb event) with ⟨epoch, _, anchored, result⟩ | ⟨same, _⟩
  · rw [result]
    exact ⟨_, rfl, fun _ => ⟨_, rfl, by rw [(BlockEpochState.drain_keeps ..).1, anchored]⟩⟩
  · rw [same]
    exact ⟨[], by simp, fun some => absurd rfl some⟩

theorem step_emits {event : ChainEvent Body} {front rest : List (ChainEvent Body)} {fb : FlashblocksPayloadV1 Body}
    (emits : (state.step event).output = state.output ++ front ++ .pending fb :: rest) :
    canons rest = [] ∧
      ∃ epoch, (state.step event).epoch = some epoch ∧ (state.step event).canonTip = some epoch.parent := by
  obtain ⟨fbs, output, anchored⟩ := step_output state event
  have split : front ++ .pending fb :: rest = announced event ++ fbs.map .pending := by
    rw [emits, List.append_assoc] at output
    exact List.append_cancel_left output
  -- an announced tip is the head of what is put out, so the flashblock stands behind it
  have behind : .pending fb :: rest <:+ fbs.map ChainEvent.pending := by
    cases event with
    | pending _ => exact ⟨front, split⟩
    | canon tip =>
      cases front with
      | nil => cases (List.cons.inj split).1
      | cons _ front => exact ⟨front, (List.cons.inj split).2⟩
  refine ⟨?_, anchored fun none => ?_⟩
  · obtain ⟨front, split⟩ := behind
    have tips := congrArg canons split
    rw [canons_append, canons_pending, canons_map_pending] at tips
    exact (List.append_eq_nil_iff.mp tips).2
  · subst none
    simpa using behind.length_le

theorem output_prefix_step (state : BufferedFlashblocks Body) (event : ChainEvent Body) :
    state.output <+: (state.step event).output := by
  obtain ⟨fbs, output, _⟩ := step_output state event
  exact ⟨_, output.symm⟩

theorem output_prefix_run (past later : List (ChainEvent Body)) : (run past).output <+: (run (past ++ later)).output := by
  induction later using List.reverseRecOn with
  | nil => simp
  | append_singleton later event ih =>
    rw [← List.append_assoc, run_append_singleton]
    exact ih.trans (output_prefix_step _ event)

theorem emitted_of_step {event : ChainEvent Body} {front rest : List (ChainEvent Body)} {fb : FlashblocksPayloadV1 Body}
    (emits : (run (inputs ++ [event])).output = (run inputs).output ++ front ++ .pending fb :: rest) :
    ∃ (origin : Origin Body) (epoch : BlockEpochState Body),
      origin.Explains (inputs ++ [event]) (run (inputs ++ [event])).output epoch ∧
      lastCanon ((run inputs).output ++ front) = some epoch.parent ∧
      fb ∈ origin.emitted (run (inputs ++ [event])).output := by
  obtain ⟨follows, _⟩ := follows_run (inputs ++ [event])
  have stepped := emits
  rw [run_append_singleton] at stepped
  obtain ⟨tips, epoch, present, anchored⟩ := step_emits stepped
  rw [← run_append_singleton] at present anchored
  obtain ⟨origin, explains⟩ := follows.explained epoch present
  refine ⟨origin, epoch, explains, ?_, ?_⟩
  · have all := follows.canons
    rw [emits, canons_append, canons_pending, tips, List.append_nil] at all
    rw [lastCanon, all, ← anchored, follows.tip, lastCanon]
  · -- what came out before the base came out before this step, and so before the flashblock
    have earlier : origin.past <+: inputs := by
      apply List.prefix_of_prefix_length_le ⟨_, explains.split.symm⟩ (List.prefix_append inputs [event])
      have lengths := congrArg List.length explains.split
      simp only [List.length_append, List.length_cons, List.length_nil] at lengths
      omega
    obtain ⟨later, rfl⟩ := earlier
    have reached := (output_prefix_run origin.past later).length_le
    rw [Origin.emitted, emits, List.append_assoc, List.drop_append_of_le_length reached]
    simp

/-- The tips come out in order, and every flashblock comes out after the tip that is the parent of its base, counting up
from zero; nothing that is in order stays behind. -/
theorem emits_in_order_on_canonical_parent (inputs : List (ChainEvent Body)) :
    canons (run inputs).output = canons inputs ∧
    (∀ earlier event front fb rest, inputs = earlier ++ [event] →
      (run inputs).output = (run earlier).output ++ front ++ .pending fb :: rest →
      ∃ origin : Origin Body, origin.MostRecent inputs fb.payloadId ∧
        lastCanon ((run earlier).output ++ front) = some ⟨origin.base.blockNumber - 1, origin.base.parentHash⟩ ∧
        fb ∈ origin.emitted (run inputs).output ∧
        (origin.emitted (run inputs).output).map (·.index) = List.range (origin.emitted (run inputs).output).length ∧
        ∀ other ∈ origin.emitted (run inputs).output, other.payloadId = fb.payloadId ∧
          firstAt (·.index) origin.received other.index = some other) ∧
    (∀ epoch, (run inputs).epoch = some epoch → (run inputs).canonTip = some epoch.parent →
      contiguous (epoch.buffer.drop epoch.cursor) = [] ∧
      ∃ origin : Origin Body, origin.MostRecent inputs epoch.payloadId ∧
        ∀ index < maxFlashblocks, (∀ below ≤ index, firstAt (·.index) origin.received below ≠ none) →
          (origin.emitted (run inputs).output)[index]? = firstAt (·.index) origin.received index) := by
  obtain ⟨follows, drained⟩ := follows_run inputs
  refine ⟨follows.canons, ?_, fun epoch present anchored => ?_⟩
  · rintro earlier event front fb rest rfl emits
    obtain ⟨origin, epoch, explains, tip, member⟩ := emitted_of_step emits
    have own : fb.payloadId = epoch.payloadId := explains.own member
    refine ⟨origin, own ▸ explains.mostRecent, explains.parent ▸ tip, member, explains.serving.first.positions, ?_⟩
    intro other among
    exact ⟨(explains.own among).trans own.symm, explains.serving.first.firstAt_position among⟩
  · have empty := drained epoch present anchored
    obtain ⟨origin, explains⟩ := follows.explained epoch present
    refine ⟨contiguous_eq_nil (by rw [slot_drop]; exact empty), origin, explains.mostRecent, ?_⟩
    intro index within inOrder
    exact explains.serving.complete empty (epoch.size ▸ within) inOrder

/-- The tip reaches the first parent only after two flashblocks, goes back, and a base of the second payload restarts
the count. -/
def sampleInputs : List (ChainEvent ℕ) :=
  [.pending ⟨7, 0, some ⟨5, 11⟩, 20⟩, .pending ⟨7, 2, none, 22⟩, .canon ⟨10, 5⟩, .canon ⟨9, 4⟩,
    .pending ⟨7, 1, none, 21⟩, .pending ⟨7, 1, none, 31⟩, .canon ⟨10, 5⟩, .canon ⟨11, 6⟩,
    .pending ⟨8, 0, some ⟨6, 12⟩, 40⟩]

theorem sample_emits_in_order :
    (pendings (run sampleInputs).output).map (·.body) = [20, 21, 22, 40] ∧
    ∃ origin : Origin ℕ, origin.MostRecent sampleInputs 8 ∧
      lastCanon ((run sampleInputs.dropLast).output ++ []) = some ⟨origin.base.blockNumber - 1, origin.base.parentHash⟩ := by
  refine ⟨by decide +kernel, ?_⟩
  obtain ⟨origin, recent, tip, _⟩ := (emits_in_order_on_canonical_parent sampleInputs).2.1 sampleInputs.dropLast
    (.pending ⟨8, 0, some ⟨6, 12⟩, 40⟩) [] ⟨8, 0, some ⟨6, 12⟩, 40⟩ [] (by decide +kernel) (by decide +kernel)
  exact ⟨origin, recent, tip⟩

/-! ## Polling -/

/-- The reducer with some events before its output. -/
def prepend (front : List (ChainEvent Body)) (state : BufferedFlashblocks Body) : BufferedFlashblocks Body :=
  { state with output := front ++ state.output }

theorem prepend_step (front : List (ChainEvent Body)) (state : BufferedFlashblocks Body) (event : ChainEvent Body) :
    (state.prepend front).step event = (state.step event).prepend front := by
  have absorbs : (state.prepend front).absorb event = (state.absorb event).prepend front := by
    cases event with
    | canon tip => simp [absorb, prepend]
    | pending fb =>
      simp only [absorb, prepend]
      split <;> rfl
  have drains (state : BufferedFlashblocks Body) : (state.prepend front).drain = state.drain.prepend front := by
    rcases state with ⟨_ | epoch, canonTip, output⟩
    · rfl
    · by_cases anchored : canonTip = some epoch.parent
      · simp [drain, prepend, anchored]
      · simp [drain, prepend, anchored]
  rw [step, absorbs, drains, step]

end BufferedFlashblocks

/-- The answer to a poll. -/
inductive Poll (α : Type*)
  | ready (item : Option α)
  | pending
deriving DecidableEq, Repr

/-- What a poll hands out. -/
def Poll.items {α : Type*} : Poll α → List α
  | .ready (some item) => [item]
  | _ => []

structure BufferedStream (Body : Type*) where
  inner : List (Option (ChainEvent Body))
  state : BufferedFlashblocks Body

namespace BufferedStream

def pollInner : List (Option (ChainEvent Body)) → BufferedFlashblocks Body → Poll (ChainEvent Body) × BufferedStream Body
  | [], state =>
    match state.output with
    | event :: output => (.ready (some event), ⟨[], { state with output }⟩)
    | [] => (.ready none, ⟨[], state⟩)
  | none :: inner, state => (.pending, ⟨inner, state⟩)
  | some event :: inner, state =>
    match (state.step event).output with
    | first :: output => (.ready (some first), ⟨inner, { state.step event with output }⟩)
    | [] => pollInner inner (state.step event)

/-- Buffered output is drained first. -/
def pollNext (stream : BufferedStream Body) : Poll (ChainEvent Body) × BufferedStream Body :=
  match stream.state.output with
  | event :: output => (.ready (some event), { stream with state := { stream.state with output } })
  | [] => pollInner stream.inner stream.state

def polls (stream : BufferedStream Body) : ℕ → List (ChainEvent Body) × BufferedStream Body
  | 0 => ([], stream)
  | count + 1 =>
    let before := stream.polls count
    (before.1 ++ before.2.pollNext.1.items, before.2.pollNext.2)

def Yields (script : List (Option (ChainEvent Body))) (yielded : List (ChainEvent Body)) (stream : BufferedStream Body) :
    Prop :=
  ∃ seen, script = seen ++ stream.inner ∧
    BufferedFlashblocks.run (seen.filterMap id) = stream.state.prepend yielded

variable {script inner : List (Option (ChainEvent Body))} {yielded output : List (ChainEvent Body)}
  {state : BufferedFlashblocks Body} {event : ChainEvent Body}

theorem Yields.pop (yields : Yields script yielded ⟨inner, state⟩) (first : state.output = event :: output) :
    Yields script (yielded ++ [event]) ⟨inner, { state with output }⟩ := by
  obtain ⟨seen, split, result⟩ := yields
  refine ⟨seen, split, result.trans ?_⟩
  simp [BufferedFlashblocks.prepend, first]

theorem Yields.read (yields : Yields script yielded ⟨some event :: inner, state⟩) :
    Yields script yielded ⟨inner, state.step event⟩ := by
  obtain ⟨seen, split, result⟩ := yields
  refine ⟨seen ++ [some event], by simp [split], ?_⟩
  have events : (seen ++ [some event]).filterMap id = seen.filterMap id ++ [event] := by simp
  rw [events, BufferedFlashblocks.run_append_singleton, result, BufferedFlashblocks.prepend_step]

theorem Yields.pollInner (yields : Yields script yielded ⟨inner, state⟩) :
    Yields script (yielded ++ (pollInner inner state).1.items) (pollInner inner state).2 := by
  induction inner generalizing state with
  | nil =>
    rw [BufferedStream.pollInner]
    split
    · next first => exact yields.pop first
    · simpa [Poll.items] using yields
  | cons answer inner ih =>
    cases answer with
    | none =>
      obtain ⟨seen, split, result⟩ := yields
      refine ⟨seen ++ [none], by simp [split, BufferedStream.pollInner], ?_⟩
      simpa [BufferedStream.pollInner, Poll.items] using result
    | some event =>
      rw [BufferedStream.pollInner]
      split
      · next first => exact yields.read.pop first
      · exact ih yields.read

theorem Yields.pollNext {stream : BufferedStream Body} (yields : Yields script yielded stream) :
    Yields script (yielded ++ stream.pollNext.1.items) stream.pollNext.2 := by
  rw [BufferedStream.pollNext]
  split
  · next first => exact yields.pop first
  · exact yields.pollInner

theorem polls_yield_output (script : List (Option (ChainEvent Body))) (count : ℕ) :
    Yields script (polls ⟨script, .new⟩ count).1 (polls ⟨script, .new⟩ count).2 := by
  induction count with
  | zero => exact ⟨[], rfl, rfl⟩
  | succ count ih => exact ih.pollNext

theorem pollInner_closed {inner : List (Option (ChainEvent Body))} {state : BufferedFlashblocks Body}
    (closed : (pollInner inner state).1 = .ready none) :
    (pollInner inner state).2.inner = [] ∧ (pollInner inner state).2.state.output = [] := by
  induction inner generalizing state with
  | nil =>
    rw [pollInner] at closed ⊢
    split
    · next first => simp [first] at closed
    · next empty => exact ⟨rfl, empty⟩
  | cons answer inner ih =>
    cases answer with
    | none => cases closed
    | some event =>
      rw [pollInner] at closed ⊢
      split
      · next first => simp [first] at closed
      · next empty =>
        simp only [empty] at closed
        exact ih closed

theorem polls_closed {script : List (Option (ChainEvent Body))} {count : ℕ}
    (closed : (polls ⟨script, .new⟩ count).2.pollNext.1 = .ready none) :
    (polls ⟨script, .new⟩ count).1 = (BufferedFlashblocks.run (script.filterMap id)).output := by
  have yields := (polls_yield_output script count).pollNext
  generalize (polls ⟨script, .new⟩ count).2 = stream at closed yields
  have handed : stream.pollNext.1.items = [] := by
    rw [closed]
    rfl
  rw [handed, List.append_nil] at yields
  have finished : stream.pollNext.2.inner = [] ∧ stream.pollNext.2.state.output = [] := by
    rw [pollNext] at closed ⊢
    split
    · next first => simp [first] at closed
    · next empty =>
      simp only [empty] at closed
      exact pollInner_closed closed
  obtain ⟨seen, split, result⟩ := yields
  obtain rfl : script = seen := by rw [split, finished.1, List.append_nil]
  rw [result, BufferedFlashblocks.prepend, finished.2, List.append_nil]

theorem sample_polls_closed : (polls ⟨BufferedFlashblocks.sampleInputs.map some, .new⟩ 9).1 =
    (BufferedFlashblocks.run ((BufferedFlashblocks.sampleInputs.map some).filterMap id)).output :=
  polls_closed (by decide +kernel)

end BufferedStream

end WorldChain.P2P
