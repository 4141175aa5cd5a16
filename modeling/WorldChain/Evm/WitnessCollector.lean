import WorldChain.Lib.OrderedMap

/-! # The live witness collector

Every executed block leaves a record, which the collector keeps until a notification says that the chain has reached
its height. The record is then handed to a task that assembles the witness and puts it into the cache.
-/

namespace WorldChain.Evm

open Std (ExtTreeMap)

variable {β ρ ω : Type*}

structure BlockExecutionWitness (β ρ : Type*) where
  blockNumber : ℕ
  record : ρ
  block : β
deriving DecidableEq, Repr

/-- A witness in the cache, and the record it was assembled from. -/
structure Assembled (β ρ ω : Type*) where
  source : BlockExecutionWitness β ρ
  witness : ω
deriving DecidableEq, Repr

structure ErrorObject where
  code : ℤ
  message : String
deriving DecidableEq, Repr

/-! ## The cache -/

structure WitnessCache (α : Type*) where
  inner : ExtTreeMap ℕ α
  depth : ℕ
  positive : 0 < depth

namespace WitnessCache

variable {α : Type*} (cache : WitnessCache α)

theorem positive_of_clamped (depth : ℕ) : 0 < max depth 1 := by omega

def withDepth (depth : ℕ) : WitnessCache α := ⟨∅, max depth 1, positive_of_clamped depth⟩

def insert (blockNumber : ℕ) (witness : α) : WitnessCache α :=
  { cache with inner := OrderedMap.truncate cache.depth (cache.inner.insert blockNumber witness) }

def range (startBlock endBlock : ℕ) : Option (List α) :=
  if endBlock < startBlock then none
  else
    let witnesses := OrderedMap.range startBlock endBlock cache.inner
    if witnesses.length = (endBlock - startBlock + 1) % 2 ^ 64 then some witnesses else none

variable {cache}

theorem range_insert_of_empty (empty : cache.inner = ∅) {blockNumber : ℕ} {witness : α} :
    (cache.insert blockNumber witness).range blockNumber blockNumber = some [witness] := by
  have single : (cache.insert blockNumber witness).inner.toList = [(blockNumber, witness)] := by
    rw [insert, empty, OrderedMap.truncate_of_size_le cache.positive]
    rfl
  simp [range, OrderedMap.range, single]

end WitnessCache

/-! ## The collector -/

/-- New blocks on top of the chain, or in place of the last blocks of it. There is always one. -/
inductive CanonStateNotification (β : Type*)
  | commit (first : β) (rest : List β)
  | reorg (reverted : ℕ) (first : β) (rest : List β)
deriving DecidableEq, Repr

def CanonStateNotification.apply (canonical : List β) : CanonStateNotification β → List β
  | .commit first rest => canonical ++ first :: rest
  | .reorg reverted first rest => canonical.take (canonical.length - reverted) ++ first :: rest

/-- What reaches the collector. -/
inductive Input (β ρ : Type*)
  | finish (captured : BlockExecutionWitness β ρ)
  | disconnect
  | notify (notification : CanonStateNotification β)
deriving DecidableEq, Repr

/-- The collector's own thread, and the channel to it. -/
structure Intake (β ρ : Type*) where
  depth : ℕ
  channel : List (BlockExecutionWitness β ρ)
  connected : Bool
  running : Bool
  queued : ExtTreeMap ℕ (BlockExecutionWitness β ρ)
  canonical : List β

namespace Intake

variable (intake : Intake β ρ)

def drain : ExtTreeMap ℕ (BlockExecutionWitness β ρ) :=
  intake.channel.foldl (fun queued captured => queued.insert captured.blockNumber captured) intake.queued

/-- The number of the last block of the chain. -/
def tip : ℕ := intake.canonical.length - 1

def step : Input β ρ → Intake β ρ × Option (List (BlockExecutionWitness β ρ))
  | .finish captured =>
    if intake.connected ∧ intake.running ∧ intake.channel.length < intake.depth then
      ({ intake with channel := intake.channel ++ [captured] }, none)
    else (intake, none)
  | .disconnect => ({ intake with connected := false }, none)
  | .notify notification =>
    let intake := { intake with canonical := notification.apply intake.canonical }
    if ¬ intake.running then (intake, none)
    else
      let queued := intake.drain
      if ¬ intake.connected then ({ intake with channel := [], queued := ∅, running := false }, none)
      else
        let ready := queued.filter fun blockNumber _ => blockNumber ≤ intake.tip
        let future := queued.filter fun blockNumber _ => ¬ blockNumber ≤ intake.tip
        let intake := { intake with channel := [], queued := future }
        if ready.isEmpty then (intake, none) else (intake, some (ready.toList.map Prod.snd))

variable {intake}

theorem step_notify_of_disconnected (off : intake.connected = false) (notification : CanonStateNotification β) :
    ∃ later, intake.step (.notify notification) = (later, none) ∧ later.depth = intake.depth ∧
      later.connected = false ∧ later.canonical = notification.apply intake.canonical := by
  unfold step
  dsimp only
  split
  · exact ⟨_, rfl, rfl, off, rfl⟩
  · rw [off]
    exact ⟨_, rfl, rfl, rfl, rfl⟩

/-- The records at the numbers up to the tip go to a task, the others stay. -/
theorem step_notify_of_connected (on : intake.connected = true) (running : intake.running = true)
    (notification : CanonStateNotification β) :
    (intake.step (.notify notification)).1 = { intake with
      canonical := notification.apply intake.canonical
      channel := []
      queued := intake.drain.filter fun blockNumber _ => ¬ blockNumber ≤ (notification.apply intake.canonical).length - 1 } ∧
    ∀ record, (∃ task ∈ (intake.step (.notify notification)).2, record ∈ task) ↔
      ∃ height ≤ (notification.apply intake.canonical).length - 1, intake.drain[height]? = some record := by
  have member (record : BlockExecutionWitness β ρ) :
      (∃ height ≤ (notification.apply intake.canonical).length - 1, intake.drain[height]? = some record) ↔
        record ∈ (intake.drain.filter fun blockNumber _ =>
          blockNumber ≤ (notification.apply intake.canonical).length - 1).toList.map Prod.snd := by
    simp only [List.mem_map, Prod.exists, ExtTreeMap.mem_toList_iff_getElem?_eq_some, ExtTreeMap.getElem?_filter',
      Option.filter_eq_some_iff, decide_eq_true_eq, exists_eq_right]
    exact exists_congr fun _ => And.comm
  simp only [member]
  unfold step
  simp only [running, on, not_true_eq_false, if_false]
  split
  · next none =>
    refine ⟨rfl, fun record => iff_of_false (fun ⟨_, is, _⟩ => (by cases is)) fun inside => ?_⟩
    have empty := ExtTreeMap.toList_eq_nil_iff.mpr (ExtTreeMap.isEmpty_iff.mp none)
    obtain ⟨entry, listed, _⟩ := List.mem_map.mp inside
    have absent : entry ∈ [] := by
      rw [← empty]
      exact listed
    cases absent
  · exact ⟨rfl, fun record => ⟨fun ⟨_, is, inside⟩ => (by cases is; exact inside), fun inside => ⟨_, rfl, inside⟩⟩⟩

end Intake

/-- The collector, the records that its tasks have yet to assemble, and the cache. -/
structure WitnessCollector (β ρ ω : Type*) where
  intake : Intake β ρ
  tasks : List (List (BlockExecutionWitness β ρ))
  cache : WitnessCache (Assembled β ρ ω)

/-- An input, or a step of a task: it takes its next record and assembles a witness from it, or fails to. -/
inductive CollectorEvent (β ρ ω : Type*)
  | input (received : Input β ρ)
  | assemble (task : ℕ) (witness : Option ω)
deriving DecidableEq, Repr

def CollectorEvent.input? : CollectorEvent β ρ ω → Option (Input β ρ)
  | .input received => some received
  | .assemble _ _ => none

namespace WitnessCollector

/-- The collector of a new node on a chain. -/
def spawn (depth : ℕ) (canonical : List β) : WitnessCollector β ρ ω :=
  { intake := { depth, channel := [], connected := true, running := true, queued := ∅, canonical }
    tasks := []
    cache := .withDepth depth }

variable (collector : WitnessCollector β ρ ω)

def takeInput (input : Input β ρ) : WitnessCollector β ρ ω :=
  let (intake, task) := collector.intake.step input
  { collector with intake, tasks := collector.tasks ++ task.toList }

def assemble (task : ℕ) (witness : Option ω) : WitnessCollector β ρ ω :=
  match collector.tasks[task]? with
  | some (captured :: rest) =>
    { collector with
      tasks := collector.tasks.set task rest
      cache := match witness with
        | some witness => collector.cache.insert captured.blockNumber ⟨captured, witness⟩
        | none => collector.cache }
  | _ => collector

def step (collector : WitnessCollector β ρ ω) : CollectorEvent β ρ ω → WitnessCollector β ρ ω
  | .input received => collector.takeInput received
  | .assemble task witness => collector.assemble task witness

def run (log : List (CollectorEvent β ρ ω)) : WitnessCollector β ρ ω := log.foldl step collector

/-- `debug_collectRangeWitness`. -/
def collectRangeWitness (startBlock endBlock : ℕ) : Except ErrorObject (List (Assembled β ρ ω)) :=
  match collector.cache.range startBlock endBlock with
  | some witnesses => .ok witnesses
  | none => .error ⟨-32602, "range (" ++ toString startBlock ++ ", " ++ toString endBlock ++
      "] not available in witness cache"⟩

/-- A list that is served has one witness per height, from the record of the block that is canonical there. -/
def ServesCanonical : Prop :=
  ∀ startBlock endBlock witnesses, collector.collectRangeWitness startBlock endBlock = .ok witnesses →
    endBlock < collector.intake.canonical.length →
      List.Forall₂ (fun height assembled => assembled.source.blockNumber = height ∧
        collector.intake.canonical[height]? = some assembled.source.block)
        (List.range' startBlock (endBlock + 1 - startBlock)) witnesses

/-! ## Where a witness comes from -/

section Tracks

variable {collector} {base : WitnessCollector β ρ ω}

/-- Against the inputs alone: every task has some of its records left, and a cached witness is one of a record that was
handed to a task. -/
structure Tracks (base collector : WitnessCollector β ρ ω) : Prop where
  intake : collector.intake = base.intake
  tasks : List.Forall₂ (fun left handed => left <:+ handed) collector.tasks base.tasks
  cached : ∀ {height : ℕ} {assembled : Assembled β ρ ω}, collector.cache.inner[height]? = some assembled →
    assembled.source.blockNumber = height ∧ ∃ task ∈ base.tasks, assembled.source ∈ task

theorem Tracks.takeInput (tracks : Tracks base collector) (input : Input β ρ) :
    Tracks (base.takeInput input) (collector.takeInput input) where
  intake := by rw [WitnessCollector.takeInput, WitnessCollector.takeInput, tracks.intake]
  tasks := by
    rw [WitnessCollector.takeInput, WitnessCollector.takeInput, tracks.intake]
    exact List.rel_append tracks.tasks (List.forall₂_same.mpr fun _ _ => List.suffix_rfl)
  cached := by
    intro height assembled present
    obtain ⟨number, task, handed, member⟩ := tracks.cached present
    exact ⟨number, task, List.mem_append_left _ handed, member⟩

theorem Tracks.assemble (tracks : Tracks base collector) (task : ℕ) (witness : Option ω) :
    Tracks base (collector.assemble task witness) := by
  rw [WitnessCollector.assemble]
  split
  case h_2 => exact tracks
  case h_1 captured rest pending =>
    obtain ⟨bound, isTask⟩ := List.getElem?_eq_some_iff.mp pending
    have sameBound : task < base.tasks.length := tracks.tasks.length_eq ▸ bound
    have suffix : collector.tasks[task] <:+ base.tasks[task] := tracks.tasks.get bound sameBound
    rw [isTask] at suffix
    refine ⟨tracks.intake, ?_, ?_⟩
    · refine List.forall₂_iff_get.mpr ⟨List.length_set.trans tracks.tasks.length_eq, fun index left handed => ?_⟩
      simp only [List.get_eq_getElem, List.getElem_set]
      split
      case isTrue same =>
        subst same
        exact (List.suffix_cons captured rest).trans suffix
      case isFalse => exact tracks.tasks.get _ _
    · intro height assembled present
      cases witness with
      | none => exact tracks.cached present
      | some witness =>
        have inserted := OrderedMap.getElem?_of_truncate present
        rw [ExtTreeMap.getElem?_insert] at inserted
        split at inserted
        case isTrue same =>
          obtain rfl := Option.some.inj inserted
          refine ⟨Nat.compare_eq_eq.mp same, base.tasks[task], List.getElem_mem _, ?_⟩
          exact suffix.subset List.mem_cons_self
        case isFalse => exact tracks.cached inserted

theorem tracks_run (tracks : Tracks base collector) (log : List (CollectorEvent β ρ ω)) :
    Tracks ((log.filterMap CollectorEvent.input?).foldl takeInput base) (collector.run log) := by
  induction log generalizing base collector with
  | nil => exact tracks
  | cons event rest ih =>
    cases event with
    | input received => exact ih (tracks.takeInput received)
    | assemble task witness => exact ih (tracks.assemble task witness)

theorem tracks_spawn (depth : ℕ) (canonical : List β) :
    Tracks (spawn depth canonical) (spawn depth canonical : WitnessCollector β ρ ω) where
  intake := rfl
  tasks := .nil
  cached := by
    intro height assembled present
    rw [spawn, WitnessCache.withDepth, ExtTreeMap.getElem?_empty] at present
    cases present

theorem cached_of_collectRangeWitness {startBlock endBlock : ℕ} {witnesses : List (Assembled β ρ ω)}
    (served : collector.collectRangeWitness startBlock endBlock = .ok witnesses) (fits : endBlock + 1 < 2 ^ 64) :
    List.Forall₂ (fun height assembled => collector.cache.inner[height]? = some assembled)
      (List.range' startBlock (endBlock + 1 - startBlock)) witnesses := by
  rw [collectRangeWitness] at served
  split at served
  case h_2 => cases served
  case h_1 found =>
    cases served
    simp only [WitnessCache.range] at found
    split at found
    · cases found
    · split at found
      case isFalse => cases found
      case isTrue counted =>
        cases found
        apply OrderedMap.range_complete
        rw [counted, Nat.mod_eq_of_lt (by omega)]
        omega

theorem Tracks.servesCanonical (tracks : Tracks base collector) (short : base.intake.canonical.length < 2 ^ 64)
    (handed : ∀ task ∈ base.tasks, ∀ captured ∈ task, captured.blockNumber < base.intake.canonical.length →
      base.intake.canonical[captured.blockNumber]? = some captured.block) : collector.ServesCanonical := by
  intro startBlock endBlock witnesses served below
  rw [tracks.intake] at below ⊢
  have cached := cached_of_collectRangeWitness served (by omega)
  have each := (List.forall₂_and_left _ _).mpr ⟨fun height => List.mem_range'_1.mp, cached⟩
  refine each.imp fun height assembled both => ?_
  obtain ⟨⟨_, within⟩, present⟩ := both
  obtain ⟨rfl, task, isTask, member⟩ := tracks.cached present
  exact ⟨rfl, handed task isTask assembled.source member (by omega)⟩

end Tracks

/-! ## Any record that was handed over can be served -/

section Served

variable {collector} {task : ℕ} {captured : BlockExecutionWitness β ρ} {rest : List (BlockExecutionWitness β ρ)}

theorem run_append (first second : List (CollectorEvent β ρ ω)) :
    collector.run (first ++ second) = (collector.run first).run second := List.foldl_append

theorem cache_foldl_takeInput (inputs : List (Input β ρ)) :
    (inputs.foldl takeInput collector).cache = collector.cache := by
  induction inputs generalizing collector with
  | nil => rfl
  | cons input rest ih => exact ih

theorem run_inputs (inputs : List (Input β ρ)) :
    collector.run (inputs.map .input) = inputs.foldl takeInput collector := List.foldl_map

theorem run_failures {skipped : List (BlockExecutionWitness β ρ)}
    (pending : collector.tasks[task]? = some (skipped ++ captured :: rest)) :
    collector.run (List.replicate skipped.length (.assemble task none)) =
      { collector with tasks := collector.tasks.set task (captured :: rest) } := by
  induction skipped generalizing collector with
  | nil =>
    obtain ⟨bound, is⟩ := List.getElem?_eq_some_iff.mp pending
    rw [List.nil_append] at is
    rw [← is, List.set_getElem_self]
    rfl
  | cons first skipped ih =>
    have failed : collector.assemble task none =
        { collector with tasks := collector.tasks.set task (skipped ++ captured :: rest) } := by
      rw [assemble, pending]
      rfl
    rw [List.length_cons, List.replicate_succ]
    change (collector.assemble task none).run _ = _
    rw [failed, ih (List.getElem?_set_self (List.getElem?_eq_some_iff.mp pending).1)]
    simp only [List.set_set]

theorem exists_run_served (empty : collector.cache.inner = ∅) (witness : ω)
    {handed : List (BlockExecutionWitness β ρ)} (isTask : handed ∈ collector.tasks) (member : captured ∈ handed) :
    ∃ log, log.filterMap CollectorEvent.input? = [] ∧ (collector.run log).intake = collector.intake ∧
      (collector.run log).collectRangeWitness captured.blockNumber captured.blockNumber =
        .ok [⟨captured, witness⟩] := by
  obtain ⟨task, pending⟩ := List.mem_iff_getElem?.mp isTask
  obtain ⟨skipped, rest, rfl⟩ := List.append_of_mem member
  refine ⟨List.replicate skipped.length (.assemble task none) ++ [.assemble task (some witness)], ?_, ?_⟩
  · simp [CollectorEvent.input?]
  · have next : (collector.tasks.set task (captured :: rest))[task]? = some (captured :: rest) :=
      List.getElem?_set_self (List.getElem?_eq_some_iff.mp pending).1
    have ran : collector.run
        (List.replicate skipped.length (.assemble task none) ++ [.assemble task (some witness)]) =
        { collector with
          tasks := (collector.tasks.set task (captured :: rest)).set task rest
          cache := collector.cache.insert captured.blockNumber ⟨captured, witness⟩ } := by
      rw [run_append, run_failures pending]
      change WitnessCollector.assemble _ task (some witness) = _
      rw [assemble, next]
    rw [ran]
    refine ⟨rfl, ?_⟩
    rw [collectRangeWitness, WitnessCache.range_insert_of_empty empty]

end Served

def handOver (depth : ℕ) (chain : List β) (inputs : List (Input β ρ)) : WitnessCollector β ρ ω :=
  inputs.foldl takeInput (spawn depth chain)

/-- Only canonical witnesses are served exactly where every record that was handed to a task is that of the block now
canonical at its number. -/
theorem serves_canonical_iff_handed [Inhabited ω] {depth : ℕ} {chain : List β} {inputs : List (Input β ρ)}
    (short : (handOver depth chain inputs : WitnessCollector β ρ ω).intake.canonical.length < 2 ^ 64) :
    (∀ log, log.filterMap CollectorEvent.input? = inputs →
        ((spawn depth chain : WitnessCollector β ρ ω).run log).ServesCanonical) ↔
      ∀ task ∈ (handOver depth chain inputs : WitnessCollector β ρ ω).tasks, ∀ captured ∈ task,
        captured.blockNumber < (handOver depth chain inputs : WitnessCollector β ρ ω).intake.canonical.length →
          (handOver depth chain inputs : WitnessCollector β ρ ω).intake.canonical[captured.blockNumber]? =
            some captured.block := by
  constructor
  · intro always task isTask captured member below
    have empty : (handOver depth chain inputs : WitnessCollector β ρ ω).cache.inner = ∅ := by
      rw [handOver, cache_foldl_takeInput]
      rfl
    obtain ⟨log, noInput, same, served⟩ := exists_run_served empty default isTask member
    have inputsOnly : (inputs.map CollectorEvent.input ++ log).filterMap CollectorEvent.input? = inputs := by
      rw [List.filterMap_append, noInput, List.append_nil, List.filterMap_map]
      exact List.filterMap_some
    have serves := always (inputs.map .input ++ log) inputsOnly
    rw [run_append, run_inputs, ← handOver] at serves
    have paired := serves _ _ _ served (by rw [same]; exact below)
    rw [Nat.add_sub_cancel_left, same] at paired
    exact (List.forall₂_cons.mp paired).1.2
  · intro handed log projected
    have tracks := tracks_run (tracks_spawn depth chain) log
    rw [projected] at tracks
    exact tracks.servesCanonical short handed

/-! ## What is handed over -/

def chainAfter (chain : List β) (inputs : List (Input β ρ)) : List β :=
  inputs.foldl (fun canonical input => match input with
    | .notify notification => notification.apply canonical
    | _ => canonical) chain

/-- A capture is lost if there have been `depth` others since the last notification. -/
def accept (depth : ℕ) (state : ℕ × List (BlockExecutionWitness β ρ)) :
    Input β ρ → ℕ × List (BlockExecutionWitness β ρ)
  | .finish captured => if state.1 < depth then (state.1 + 1, state.2 ++ [captured]) else state
  | .disconnect => state
  | .notify _ => (0, state.2)

/-- The captures that are not lost, as long as the executor is connected. -/
def accepted (depth : ℕ) (inputs : List (Input β ρ)) : List (BlockExecutionWitness β ρ) :=
  (inputs.foldl (accept depth) (0, [])).2

/-- The last capture at its number. -/
def IsLast (captures : List (BlockExecutionWitness β ρ)) (captured : BlockExecutionWitness β ρ) : Prop :=
  captures.reverse.find? (fun other => other.blockNumber = captured.blockNumber) = some captured

/-- A notification while the executor is connected finds the record as the last one captured at its number, and the number
within the chain. -/
def Taken (depth : ℕ) (chain : List β) (inputs : List (Input β ρ)) (captured : BlockExecutionWitness β ρ) : Prop :=
  ∃ past notification rest, inputs = past ++ .notify notification :: rest ∧ .disconnect ∉ past ∧
    IsLast (accepted depth past) captured ∧
    captured.blockNumber ≤ (chainAfter chain (past ++ [.notify notification])).length - 1

section Handed

variable {collector} {depth : ℕ} {chain : List β} {inputs : List (Input β ρ)} {captured : BlockExecutionWitness β ρ}

theorem isLast_append_singleton {captures : List (BlockExecutionWitness β ρ)} {last : BlockExecutionWitness β ρ} :
    IsLast (captures ++ [last]) captured ↔
      last = captured ∨ last.blockNumber ≠ captured.blockNumber ∧ IsLast captures captured := by
  rw [IsLast, List.reverse_append, List.reverse_singleton, List.singleton_append, List.find?_cons]
  by_cases same : last.blockNumber = captured.blockNumber
  · simp [same]
  · have other : last ≠ captured := fun is => same (congrArg _ is)
    simp [same, other, IsLast]

theorem taken_append_singleton {input : Input β ρ} : Taken depth chain (inputs ++ [input]) captured ↔
    Taken depth chain inputs captured ∨ (∃ notification, input = .notify notification) ∧ .disconnect ∉ inputs ∧
      IsLast (accepted depth inputs) captured ∧
      captured.blockNumber ≤ (chainAfter chain (inputs ++ [input])).length - 1 := by
  constructor
  · rintro ⟨past, notification, rest, whole, connected, last, within⟩
    rcases List.eq_nil_or_concat rest with rfl | ⟨front, final, rfl⟩
    · obtain ⟨rfl, same⟩ := List.append_inj' whole rfl
      obtain rfl := List.singleton_inj.mp same
      exact .inr ⟨⟨notification, rfl⟩, connected, last, within⟩
    · have shifted : inputs ++ [input] = (past ++ .notify notification :: front) ++ [final] := by simpa using whole
      exact .inl ⟨past, notification, front, (List.append_inj' shifted rfl).1, connected, last, within⟩
  · rintro (⟨past, notification, rest, rfl, connected, last, within⟩ | ⟨⟨notification, rfl⟩, connected, last, within⟩)
    · exact ⟨past, notification, rest ++ [input], by simp, connected, last, within⟩
    · exact ⟨inputs, notification, [], rfl, connected, last, within⟩

/-- While the executor is connected, the last capture at each number waits or has been handed to a task. -/
structure Waiting (depth : ℕ) (chain : List β) (inputs : List (Input β ρ)) (intake : Intake β ρ) : Prop where
  running : intake.running = true
  channel : intake.channel.length = (inputs.foldl (accept depth) (0, [])).1
  drained : ∀ height record, intake.drain[height]? = some record →
    record.blockNumber = height ∧ IsLast (accepted depth inputs) record
  kept : ∀ record, IsLast (accepted depth inputs) record →
    intake.drain[record.blockNumber]? = some record ∨ Taken depth chain inputs record

variable {intake : Intake β ρ} {notification : CanonStateNotification β} {record : BlockExecutionWitness β ρ}

theorem taken_finish : Taken depth chain (inputs ++ [.finish captured]) record ↔ Taken depth chain inputs record := by
  simp [taken_append_singleton]

theorem taken_notify (connected : .disconnect ∉ inputs) : Taken depth chain (inputs ++ [.notify notification]) record ↔
    Taken depth chain inputs record ∨ IsLast (accepted depth inputs) record ∧
      record.blockNumber ≤ (chainAfter chain (inputs ++ [.notify notification])).length - 1 := by
  rw [taken_append_singleton]
  simp [connected]

namespace Waiting

theorem received (waiting : Waiting depth chain inputs intake) (room : intake.channel.length < depth) :
    Waiting depth chain (inputs ++ [.finish captured]) { intake with channel := intake.channel ++ [captured] } := by
  obtain ⟨running, channel, drained, kept⟩ := waiting
  rw [channel] at room
  have counted : (inputs ++ [Input.finish captured]).foldl (accept depth) (0, []) =
      ((inputs.foldl (accept depth) (0, [])).1 + 1, accepted depth inputs ++ [captured]) :=
    List.foldl_append.trans (if_pos room)
  have more : accepted depth (inputs ++ [.finish captured]) = accepted depth inputs ++ [captured] := by
    rw [accepted, counted]
  have drains : Intake.drain { intake with channel := intake.channel ++ [captured] } =
      intake.drain.insert captured.blockNumber captured := by
    simp [Intake.drain, List.foldl_append]
  refine ⟨running, ?_, fun height record found => ?_, fun record last => ?_⟩
  · rw [counted, List.length_append, channel]
    rfl
  · rw [drains, ExtTreeMap.getElem?_insert] at found
    rw [more, isLast_append_singleton]
    split at found
    · next at' =>
      obtain rfl := Option.some.inj found
      exact ⟨Nat.compare_eq_eq.mp at', .inl rfl⟩
    · next away =>
      obtain ⟨rfl, last⟩ := drained height record found
      exact ⟨rfl, .inr ⟨fun is => away (Nat.compare_eq_eq.mpr is), last⟩⟩
  · rw [drains, ExtTreeMap.getElem?_insert, taken_finish]
    rw [more, isLast_append_singleton] at last
    rcases last with rfl | ⟨away, last⟩
    · exact .inl (if_pos (Nat.compare_eq_eq.mpr rfl))
    · rw [if_neg fun is => away (Nat.compare_eq_eq.mp is)]
      exact kept record last

theorem lost (waiting : Waiting depth chain inputs intake) (full : ¬ intake.channel.length < depth) :
    Waiting depth chain (inputs ++ [.finish captured]) intake := by
  obtain ⟨running, channel, drained, kept⟩ := waiting
  rw [channel] at full
  have counted : (inputs ++ [Input.finish captured]).foldl (accept depth) (0, []) =
      inputs.foldl (accept depth) (0, []) := List.foldl_append.trans (if_neg full)
  have none : accepted depth (inputs ++ [.finish captured]) = accepted depth inputs := by
    rw [accepted, counted, accepted]
  refine ⟨running, ?_, fun height record found => ?_, fun record last => ?_⟩
  · rw [counted, channel]
  · rw [none]
    exact drained height record found
  · rw [taken_finish]
    exact kept record (none ▸ last)

theorem notified (waiting : Waiting depth chain inputs intake) (connected : .disconnect ∉ inputs) :
    Waiting depth chain (inputs ++ [.notify notification]) { intake with
      canonical := chainAfter chain (inputs ++ [.notify notification])
      channel := []
      queued := intake.drain.filter fun blockNumber _ =>
        ¬ blockNumber ≤ (chainAfter chain (inputs ++ [.notify notification])).length - 1 } := by
  obtain ⟨running, channel, drained, kept⟩ := waiting
  have counted : (inputs ++ [Input.notify notification]).foldl (accept depth) (0, []) = (0, accepted depth inputs) :=
    List.foldl_append
  have more : accepted depth (inputs ++ [.notify notification]) = accepted depth inputs := by rw [accepted, counted]
  have filtered (height : ℕ) (record : BlockExecutionWitness β ρ) : (intake.drain.filter fun blockNumber _ =>
        ¬ blockNumber ≤ (chainAfter chain (inputs ++ [.notify notification])).length - 1)[height]? = some record ↔
      intake.drain[height]? = some record ∧
        ¬ height ≤ (chainAfter chain (inputs ++ [.notify notification])).length - 1 := by
    rw [ExtTreeMap.getElem?_filter', Option.filter_eq_some_iff, decide_eq_true_eq]
  refine ⟨running, by rw [counted]; rfl, fun height record found => ?_, fun record last => ?_⟩
  · rw [more]
    exact drained height record ((filtered height record).mp found).1
  · rw [more] at last
    refine (or_congr (filtered _ _) (taken_notify connected)).mpr ?_
    rcases kept record last with held | taken
    · by_cases within : record.blockNumber ≤ (chainAfter chain (inputs ++ [.notify notification])).length - 1
      · exact .inr (.inr ⟨last, within⟩)
      · exact .inl ⟨held, within⟩
    · exact .inr (.inl taken)

end Waiting

structure Handed (depth : ℕ) (chain : List β) (inputs : List (Input β ρ)) (collector : WitnessCollector β ρ ω) :
    Prop where
  depth_eq : collector.intake.depth = depth
  canonical : collector.intake.canonical = chainAfter chain inputs
  connected : collector.intake.connected = true ↔ .disconnect ∉ inputs
  waiting : collector.intake.connected = true → Waiting depth chain inputs collector.intake
  tasks : ∀ record, (∃ task ∈ collector.tasks, record ∈ task) ↔ Taken depth chain inputs record

theorem Handed.finish (handed : Handed depth chain inputs (collector : WitnessCollector β ρ ω)) :
    Handed depth chain (inputs ++ [.finish captured]) (collector.takeInput (.finish captured)) := by
  obtain ⟨depth_eq, canonical, connected, waiting, tasks⟩ := handed
  have chain_eq : chainAfter chain (inputs ++ [.finish captured]) = chainAfter chain inputs := by
    simp [chainAfter, List.foldl_append]
  have stays : .disconnect ∉ inputs ++ [.finish captured] ↔ .disconnect ∉ inputs := by simp
  by_cases room : collector.intake.connected ∧ collector.intake.running ∧
      collector.intake.channel.length < collector.intake.depth
  · have step : collector.intake.step (.finish captured) =
        ({ collector.intake with channel := collector.intake.channel ++ [captured] }, none) := if_pos room
    rw [WitnessCollector.takeInput, step]
    refine ⟨depth_eq, canonical.trans chain_eq.symm, connected.trans stays.symm, fun on => ?_, ?_⟩
    · exact (waiting on).received (depth_eq ▸ room.2.2)
    · simpa [taken_finish] using tasks
  · have step : collector.intake.step (.finish captured) = (collector.intake, none) := if_neg room
    rw [WitnessCollector.takeInput, step]
    refine ⟨depth_eq, canonical.trans chain_eq.symm, connected.trans stays.symm, fun on => ?_, ?_⟩
    · exact (waiting on).lost fun fits => room ⟨on, (waiting on).running, depth_eq ▸ fits⟩
    · simpa [taken_finish] using tasks

theorem Handed.disconnect (handed : Handed depth chain inputs (collector : WitnessCollector β ρ ω)) :
    Handed depth chain (inputs ++ [.disconnect]) (collector.takeInput .disconnect) := by
  obtain ⟨depth_eq, canonical, _, _, tasks⟩ := handed
  refine ⟨depth_eq, ?_, ?_, fun on => (by cases on), ?_⟩
  · rw [chainAfter, List.foldl_append]
    exact canonical
  · simp [WitnessCollector.takeInput, Intake.step]
  · simpa [WitnessCollector.takeInput, Intake.step, taken_append_singleton] using tasks

theorem Handed.notify (handed : Handed depth chain inputs (collector : WitnessCollector β ρ ω))
    (notification : CanonStateNotification β) :
    Handed depth chain (inputs ++ [.notify notification]) (collector.takeInput (.notify notification)) := by
  obtain ⟨depth_eq, canonical, connected, waiting, tasks⟩ := handed
  have chain_eq : notification.apply collector.intake.canonical = chainAfter chain (inputs ++ [.notify notification]) := by
    rw [canonical, chainAfter, chainAfter, List.foldl_append]
    rfl
  have stays : .disconnect ∉ inputs ++ [.notify notification] ↔ .disconnect ∉ inputs := by simp
  cases on : collector.intake.connected with
  | false =>
    have off : ¬ .disconnect ∉ inputs := fun still => by cases on.symm.trans (connected.mpr still)
    have same (record : BlockExecutionWitness β ρ) :
        Taken depth chain (inputs ++ [.notify notification]) record ↔ Taken depth chain inputs record := by
      simp only [taken_append_singleton, off, false_and, and_false, or_false]
    obtain ⟨later, step, keeps, still, reached⟩ := Intake.step_notify_of_disconnected on notification
    rw [WitnessCollector.takeInput, step]
    refine ⟨keeps.trans depth_eq, reached.trans chain_eq, ?_, fun is => (by cases still.symm.trans is), ?_⟩
    · rw [still, stays]
      exact iff_of_false (by decide) off
    · simpa [same] using tasks
  | true =>
    have attached := connected.mp on
    have waits := waiting on
    obtain ⟨step, handed⟩ := Intake.step_notify_of_connected on waits.running notification
    rw [chain_eq] at step handed
    rw [WitnessCollector.takeInput]
    generalize collector.intake.step (.notify notification) = result at step handed ⊢
    obtain ⟨later, task⟩ := result
    obtain rfl := step
    refine ⟨depth_eq, rfl, iff_of_true on (stays.mpr attached), fun _ => waits.notified attached, fun record => ?_⟩
    have split : (∃ given ∈ collector.tasks ++ task.toList, record ∈ given) ↔
        (∃ given ∈ collector.tasks, record ∈ given) ∨ ∃ given ∈ task, record ∈ given := by
      simp only [List.mem_append, Option.mem_toList, Option.mem_def, or_and_right, exists_or]
    refine split.trans ?_
    rw [tasks, handed, taken_notify attached]
    constructor
    · rintro (taken | ⟨height, within, found⟩)
      · exact .inl taken
      · obtain ⟨rfl, last⟩ := waits.drained height record found
        exact .inr ⟨last, within⟩
    · rintro (taken | ⟨last, within⟩)
      · exact .inl taken
      · exact (waits.kept record last).symm.imp id fun held => ⟨_, within, held⟩

theorem handed_handOver (depth : ℕ) (chain : List β) (inputs : List (Input β ρ)) :
    Handed depth chain inputs (handOver depth chain inputs : WitnessCollector β ρ ω) := by
  induction inputs using List.reverseRecOn with
  | nil =>
    refine ⟨rfl, rfl, by simp [handOver, spawn], fun _ => ⟨rfl, rfl, ?_, ?_⟩, ?_⟩
    · intro height record found
      rw [handOver, spawn, Intake.drain] at found
      cases ExtTreeMap.getElem?_empty.symm.trans found
    · rintro record ⟨⟩
    · simp [handOver, spawn, Taken]
  | append_singleton inputs input ih =>
    have step : (handOver depth chain (inputs ++ [input]) : WitnessCollector β ρ ω) =
        (handOver depth chain inputs).takeInput input := List.foldl_append
    rw [step]
    cases input with
    | finish captured => exact ih.finish
    | disconnect => exact ih.disconnect
    | notify notification => exact ih.notify notification

end Handed

/-- Only canonical witnesses are served exactly where every record that a notification finds as the last one captured at
its number, with the number within the chain, is that of the block canonical there in the end. -/
theorem serves_canonical_iff [Inhabited ω] (depth : ℕ) (chain : List β) (inputs : List (Input β ρ))
    (short : (chainAfter chain inputs).length < 2 ^ 64) :
    (∀ log, log.filterMap CollectorEvent.input? = inputs →
        ((spawn depth chain : WitnessCollector β ρ ω).run log).ServesCanonical) ↔
      ∀ captured, Taken depth chain inputs captured → captured.blockNumber < (chainAfter chain inputs).length →
        (chainAfter chain inputs)[captured.blockNumber]? = some captured.block := by
  have handed := handed_handOver (ω := ω) depth chain inputs
  rw [← handed.canonical] at short ⊢
  rw [serves_canonical_iff_handed short]
  constructor
  · intro all captured taken
    obtain ⟨task, isTask, member⟩ := (handed.tasks captured).mpr taken
    exact all task isTask captured member
  · intro all task isTask captured member
    exact all captured ((handed.tasks captured).mp ⟨task, isTask, member⟩)

def sampleBlock : BlockExecutionWitness ℕ Unit := ⟨1, (), 10⟩

def sampleSibling : BlockExecutionWitness ℕ Unit := ⟨1, (), 11⟩

theorem sibling_is_served :
    ((spawn 4 [0] : WitnessCollector ℕ Unit Unit).run
      [.input (.finish sampleBlock), .input (.finish sampleSibling), .input (.notify (.commit sampleBlock.block [])),
        .assemble 0 (some ())]).collectRangeWitness 1 1 = .ok [⟨sampleSibling, ()⟩] ∧
    ((spawn 4 [0] : WitnessCollector ℕ Unit Unit).run
      [.input (.finish sampleBlock), .input (.finish sampleSibling), .input (.notify (.commit sampleBlock.block [])),
        .assemble 0 (some ())]).intake.canonical[1]? = some sampleBlock.block ∧
    sampleSibling.block ≠ sampleBlock.block := by
  decide +kernel

theorem last_capture_is_served : ((spawn 4 [0] : WitnessCollector ℕ Unit Unit).run
    [.input (.finish sampleSibling), .input (.finish sampleBlock), .input (.notify (.commit sampleBlock.block [])),
      .assemble 0 (some ())]).ServesCanonical := by
  refine (serves_canonical_iff 4 [0] [.finish sampleSibling, .finish sampleBlock,
    .notify (.commit sampleBlock.block [])] (by decide)).mpr (fun captured taken _ => ?_) _ rfl
  obtain ⟨past, notification, rest, whole, _, last, _⟩ := taken
  -- the only notification is the last input
  rcases past with _ | ⟨_, _ | ⟨_, _ | ⟨_, past⟩⟩⟩
  · cases whole
  · cases whole
  · cases whole
    have listed := List.mem_of_find?_eq_some last
    have found := last
    simp only [accepted, accept, List.foldl_cons, List.foldl_nil] at listed
    rcases List.mem_cons.mp listed with rfl | listed
    · rfl
    · obtain rfl := List.mem_singleton.mp listed
      cases (show _ = some sampleSibling from found)
  · simp at whole

end WitnessCollector

end WorldChain.Evm
