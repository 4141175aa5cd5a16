import WorldChain.Lib.Saturating
import WorldChain.Lib.Tiling

/-! # Planning the ranges of a proof

The blocks of an interval are packed into ranges in one pass, and no plan within the same limits has fewer ranges.
-/

namespace WorldChain.Sp1

structure RangePlanConfig where
  targetGasPerRange : UInt64
  maxBlocksPerRange : ℕ

/-- One range proof of the blocks after the first number, up to and with the second. -/
structure PlannedRange where
  startBlock : ℕ
  endBlock : ℕ
  sessionId : Option String
  splits : ℕ
deriving DecidableEq

def PlannedRange.new (startBlock endBlock : ℕ) : PlannedRange := ⟨startBlock, endBlock, none, 0⟩

def PlannedRange.bounds (range : PlannedRange) : ℕ × ℕ := (range.startBlock, range.endBlock)

structure RangePlan where
  v : ℕ
  ranges : List PlannedRange
deriving DecidableEq

/-- The state of the pass: the closed ranges, and the start and the gas of the one that is open. -/
structure Packing where
  ranges : List PlannedRange
  rangeStart : ℕ
  rangeGas : UInt64
deriving DecidableEq

def packBlock (startBlock : ℕ) (targetGas : UInt64) (maxBlocks : ℕ) (packing : Packing) (entry : UInt64 × ℕ) : Packing :=
  let (gas, offset) := entry
  let block := startBlock + 1 + offset
  let wouldExceedGas := Saturating.add packing.rangeGas gas > targetGas
  let rangeIsEmpty := block = packing.rangeStart + 1
  let packing :=
    if wouldExceedGas ∧ ¬ rangeIsEmpty ∨ block - packing.rangeStart > maxBlocks then
      ⟨packing.ranges ++ [.new packing.rangeStart (block - 1)], block - 1, 0⟩
    else packing
  { packing with rangeGas := Saturating.add packing.rangeGas gas }

def RangePlanConfig.targetGas (config : RangePlanConfig) : UInt64 := max config.targetGasPerRange 1

def RangePlanConfig.maxBlocks (config : RangePlanConfig) : ℕ := max config.maxBlocksPerRange 1

namespace RangePlan

def byGas (startBlock endBlock : ℕ) (gasByBlock : List UInt64) (config : RangePlanConfig) : Except String RangePlan :=
  if endBlock ≤ startBlock then
    .error s!"end block {endBlock} must be greater than start block {startBlock}"
  else
    let blockCount := endBlock - startBlock
    if gasByBlock.length ≠ blockCount then
      .error s!"gas data covers {gasByBlock.length} blocks but range ({startBlock}, {endBlock}] has {blockCount}"
    else
      let packing := gasByBlock.zipIdx.foldl (packBlock startBlock config.targetGas config.maxBlocks) ⟨[], startBlock, 0⟩
      .ok ⟨1, packing.ranges ++ [.new packing.rangeStart endBlock]⟩

def coversFrom (endBlock : ℕ) : (cursor : ℕ) → List PlannedRange → Bool
  | cursor, [] => cursor == endBlock
  | cursor, range :: ranges =>
    if range.startBlock ≠ cursor ∨ range.endBlock ≤ range.startBlock then false
    else coversFrom endBlock range.endBlock ranges

def covers (plan : RangePlan) (startBlock endBlock : ℕ) : Bool := coversFrom endBlock startBlock plan.ranges

theorem coversFrom_eq_true {endBlock cursor : ℕ} {ranges : List PlannedRange} :
    coversFrom endBlock cursor ranges = true ↔ Tiling cursor (ranges.map PlannedRange.bounds) endBlock := by
  induction ranges generalizing cursor with
  | nil =>
    rw [coversFrom, beq_iff_eq]
    constructor
    · rintro rfl
      exact .nil cursor
    · intro tiling
      cases tiling
      rfl
  | cons range ranges ih =>
    rw [coversFrom]
    constructor
    · intro covered
      split at covered
      · cases covered
      · next next =>
        obtain ⟨rfl, nonempty⟩ : range.startBlock = cursor ∧ range.startBlock < range.endBlock := by
          simpa [not_or] using next
        exact .cons nonempty (ih.mp covered)
    · intro tiling
      cases tiling with
      | cons nonempty rest =>
        rw [if_neg (by simpa [not_or] using nonempty)]
        exact ih.mpr rest

theorem covers_eq_true {plan : RangePlan} {startBlock endBlock : ℕ} :
    plan.covers startBlock endBlock = true ↔ Tiling startBlock (plan.ranges.map PlannedRange.bounds) endBlock :=
  coversFrom_eq_true

end RangePlan

/-! ## Plan documents -/

def PlannedRange.bisect (range : PlannedRange) : Option (PlannedRange × PlannedRange) :=
  let blockCount := range.endBlock - range.startBlock
  if blockCount < 2 then none
  else
    let mid := range.startBlock + blockCount / 2
    some (⟨range.startBlock, mid, none, range.splits + 1⟩, ⟨mid, range.endBlock, none, range.splits + 1⟩)

/-- The JSON documents of plans. Reading back what was written gives the same plan. -/
structure PlanCodec where
  toJson : RangePlan → String
  fromJson : String → Option RangePlan
  lossless : ∀ plan, fromJson (toJson plan) = some plan

namespace RangePlan

variable (codec : PlanCodec)

def single (startBlock endBlock : ℕ) (sessionId : Option String) : RangePlan := ⟨1, [⟨startBlock, endBlock, sessionId, 0⟩]⟩

def encode (plan : RangePlan) : String :=
  match plan.ranges with
  | [⟨_, _, some sessionId, 0⟩] => sessionId
  | _ => codec.toJson plan

/-- The plan is stored as the bare id of its only session. -/
def isBareId (plan : RangePlan) : Bool :=
  match plan.ranges with
  | [⟨_, _, some _, 0⟩] => true
  | _ => false

def sessions (plan : RangePlan) : List String := plan.ranges.filterMap PlannedRange.sessionId

def decode (value : String) (startBlock endBlock : ℕ) : RangePlan :=
  match codec.fromJson value with
  | some plan => if plan.ranges.isEmpty then single startBlock endBlock (some value) else plan
  | none => single startBlock endBlock (some value)

/-- A plan is read back from its document. A bare id keeps neither the version nor the bounds of the range, so there the
plan has to be of the version that is read, and to cover the interval. -/
theorem decode_encode {codec} {plan : RangePlan} {startBlock endBlock : ℕ} (nonempty : plan.ranges ≠ [])
    (version : plan.isBareId = true → plan.v = 1)
    (tiling : Tiling startBlock (plan.ranges.map PlannedRange.bounds) endBlock)
    (plain : ∀ sessionId ∈ plan.sessions, codec.fromJson sessionId = none) :
    decode codec (plan.encode codec) startBlock endBlock = plan := by
  obtain ⟨v, ranges⟩ := plan
  unfold encode
  split
  · next first last sessionId alone =>
    obtain rfl : ranges = [⟨first, last, some sessionId, 0⟩] := alone
    obtain rfl : v = 1 := version rfl
    have bare := plain sessionId List.mem_cons_self
    rw [decode, bare, single]
    -- One range that covers the interval is the interval.
    cases tiling with
    | cons _ rest =>
      cases rest
      rfl
  · rw [decode, codec.lossless]
    exact if_neg (by simpa using nonempty)

end RangePlan

/-! ## The limits -/

variable (startBlock : ℕ) (gasByBlock : List UInt64) (config : RangePlanConfig)

def gasOf (first last : ℕ) : UInt64 :=
  ((gasByBlock.drop (first - startBlock)).take (last - first)).foldl Saturating.add 0

/-- A range has no more blocks than is allowed, and is a single block or has no more gas than is allowed. -/
def WithinLimits (first last : ℕ) : Prop :=
  last - first ≤ config.maxBlocks ∧ (last - first = 1 ∨ gasOf startBlock gasByBlock first last ≤ config.targetGas)

variable {startBlock gasByBlock config} {first last : ℕ}

theorem gasOf_self : gasOf startBlock gasByBlock first first = 0 := by
  simp [gasOf]

theorem gasOf_succ (inside : startBlock ≤ first) (ordered : first ≤ last) {gas : UInt64}
    (found : gasByBlock[last - startBlock]? = some gas) :
    gasOf startBlock gasByBlock first (last + 1) = Saturating.add (gasOf startBlock gasByBlock first last) gas := by
  have next : (gasByBlock.drop (first - startBlock))[last - first]? = some gas := by
    rw [List.getElem?_drop, ← found]
    congr 1
    omega
  rw [gasOf, Nat.sub_add_comm ordered, List.take_add_one, next, List.foldl_append]
  rfl

theorem gasOf_le {first' last' : ℕ} (after : first ≤ first') (ordered : first' ≤ last') (before : last' ≤ last) :
    gasOf startBlock gasByBlock first' last' ≤ gasOf startBlock gasByBlock first last := by
  apply Saturating.foldl_add_le_of_sublist
  have part : gasByBlock.drop (first' - startBlock) =
      (gasByBlock.drop (first - startBlock)).drop (first' - startBlock - (first - startBlock)) := by
    rw [List.drop_drop]
    congr 1
    omega
  rw [part, List.take_drop]
  apply (List.drop_sublist _ _).trans
  exact List.take_sublist_take_left (by omega)

theorem WithinLimits.part {first' last' : ℕ} (after : first ≤ first') (nonempty : first' < last') (before : last' ≤ last)
    (within : WithinLimits startBlock gasByBlock config first last) :
    WithinLimits startBlock gasByBlock config first' last' := by
  obtain ⟨blocks, single | gas⟩ := within
  · exact ⟨by omega, .inl (by omega)⟩
  · exact ⟨by omega, .inr (UInt64.le_trans (gasOf_le after nonempty.le before) gas)⟩

/-! ## The pass -/

/-- The closed ranges lie end to end up to the open one, within the limits and maximal, and the open range is within the
limits once it has a block. -/
structure Packed (startBlock : ℕ) (gasByBlock : List UInt64) (config : RangePlanConfig) (count : ℕ) (packing : Packing) :
    Prop where
  tiling : Tiling startBlock (packing.ranges.map PlannedRange.bounds) packing.rangeStart
  within : ∀ range ∈ packing.ranges, WithinLimits startBlock gasByBlock config range.startBlock range.endBlock
  full : ∀ range ∈ packing.ranges, ¬ WithinLimits startBlock gasByBlock config range.startBlock (range.endBlock + 1)
  reached : packing.rangeStart ≤ startBlock + count
  begun : count ≠ 0 → packing.rangeStart < startBlock + count ∧
    WithinLimits startBlock gasByBlock config packing.rangeStart (startBlock + count)
  gas : packing.rangeGas = gasOf startBlock gasByBlock packing.rangeStart (startBlock + count)

variable {count : ℕ} {packing : Packing} {gas : UInt64}

theorem Packed.initial : Packed startBlock gasByBlock config 0 ⟨[], startBlock, 0⟩ where
  tiling := .nil startBlock
  within := nofun
  full := nofun
  reached := le_rfl
  begun := fun some => absurd rfl some
  gas := gasOf_self.symm

section

variable (packed : Packed startBlock gasByBlock config count packing) (found : gasByBlock[count]? = some gas)

include packed found

theorem Packed.gas_next :
    Saturating.add packing.rangeGas gas = gasOf startBlock gasByBlock packing.rangeStart (startBlock + count + 1) := by
  rw [packed.gas, gasOf_succ packed.tiling.first_le_last packed.reached]
  rwa [Nat.add_sub_cancel_left]

theorem Packed.close
    (exceeds : ¬ WithinLimits startBlock gasByBlock config packing.rangeStart (startBlock + count + 1)) :
    Packed startBlock gasByBlock config (count + 1)
      ⟨packing.ranges ++ [.new packing.rangeStart (startBlock + count)], startBlock + count, Saturating.add 0 gas⟩ := by
  have some : count ≠ 0 := by
    rintro rfl
    have start : packing.rangeStart = startBlock := le_antisymm packed.reached packed.tiling.first_le_last
    apply exceeds
    refine ⟨?_, .inl (by omega)⟩
    rw [RangePlanConfig.maxBlocks]
    omega
  obtain ⟨nonempty, within⟩ := packed.begun some
  have single : WithinLimits startBlock gasByBlock config (startBlock + count) (startBlock + (count + 1)) := by
    refine ⟨?_, .inl (by omega)⟩
    rw [RangePlanConfig.maxBlocks]
    omega
  constructor
  · rw [List.map_append]
    exact packed.tiling.concat nonempty
  · intro range member
    rcases List.mem_append.mp member with before | last
    · exact packed.within range before
    · rw [List.mem_singleton.mp last]
      exact within
  · intro range member
    rcases List.mem_append.mp member with before | last
    · exact packed.full range before
    · rw [List.mem_singleton.mp last]
      exact exceeds
  · exact Nat.le_succ _
  · exact fun _ => ⟨Nat.lt_succ_self _, single⟩
  · have alone := @gasOf_succ startBlock gasByBlock (startBlock + count) (startBlock + count) (Nat.le_add_right _ _) le_rfl gas
      (by rwa [Nat.add_sub_cancel_left])
    rw [gasOf_self] at alone
    exact alone.symm

theorem Packed.take (within : WithinLimits startBlock gasByBlock config packing.rangeStart (startBlock + count + 1)) :
    Packed startBlock gasByBlock config (count + 1)
      ⟨packing.ranges, packing.rangeStart, Saturating.add packing.rangeGas gas⟩ where
  tiling := packed.tiling
  within := packed.within
  full := packed.full
  reached := packed.reached.trans (Nat.le_succ _)
  begun := fun _ => ⟨Nat.lt_succ_of_le packed.reached, within⟩
  gas := packed.gas_next found

theorem Packed.closes_iff :
    (Saturating.add packing.rangeGas gas > config.targetGas ∧ ¬ startBlock + 1 + count = packing.rangeStart + 1 ∨
        startBlock + 1 + count - packing.rangeStart > config.maxBlocks) ↔
      ¬ WithinLimits startBlock gasByBlock config packing.rangeStart (startBlock + count + 1) := by
  have reached := packed.reached
  rw [packed.gas_next found, WithinLimits, gt_iff_lt, ← UInt64.not_le]
  have blocks : startBlock + 1 + count - packing.rangeStart = startBlock + count + 1 - packing.rangeStart := by omega
  have first : startBlock + 1 + count = packing.rangeStart + 1 ↔ startBlock + count + 1 - packing.rangeStart = 1 := by omega
  rw [blocks, first]
  generalize startBlock + count + 1 - packing.rangeStart = size
  constructor
  · rintro (⟨gas, more⟩ | many) ⟨few, single | fits⟩
    · exact more single
    · exact gas fits
    · omega
    · omega
  · intro exceeds
    by_cases many : size > config.maxBlocks
    · exact .inr many
    · refine .inl ⟨fun fits => exceeds ⟨by omega, .inr fits⟩, fun single => exceeds ⟨by omega, .inl single⟩⟩

theorem Packed.packBlock :
    Packed startBlock gasByBlock config (count + 1)
      (packBlock startBlock config.targetGas config.maxBlocks packing (gas, count)) := by
  rw [Sp1.packBlock]
  split
  · next closes =>
    have previous : startBlock + 1 + count - 1 = startBlock + count := by omega
    rw [previous]
    exact packed.close found ((packed.closes_iff found).mp closes)
  · next stays => exact packed.take found (not_not.mp (stays ∘ (packed.closes_iff found).mpr))

end

theorem Packed.foldl (packed : Packed startBlock gasByBlock config count packing) {rest : List UInt64}
    (remaining : gasByBlock.drop count = rest) :
    Packed startBlock gasByBlock config (count + rest.length)
      ((rest.zipIdx count).foldl (Sp1.packBlock startBlock config.targetGas config.maxBlocks) packing) := by
  induction rest generalizing count packing with
  | nil => exact packed
  | cons gas rest ih =>
    have found : gasByBlock[count]? = some gas := by
      rw [← List.head?_drop, remaining]
      rfl
    have later : gasByBlock.drop (count + 1) = rest := by
      rw [← List.tail_drop, remaining]
      rfl
    rw [List.zipIdx_cons, List.foldl_cons, List.length_cons, Nat.add_comm rest.length, ← Nat.add_assoc]
    exact ih (packed.packBlock found) later

/-- The plan lies end to end over the interval, each range within the limits, and no such plan has fewer ranges. -/
theorem byGas_is_minimal (startBlock endBlock : ℕ) (gasByBlock : List UInt64) (config : RangePlanConfig)
    (interval : startBlock < endBlock) (perBlock : gasByBlock.length = endBlock - startBlock) :
    ∃ plan, RangePlan.byGas startBlock endBlock gasByBlock config = .ok plan ∧
      plan.covers startBlock endBlock = true ∧
      (∀ range ∈ plan.ranges, WithinLimits startBlock gasByBlock config range.startBlock range.endBlock) ∧
      ∀ other : RangePlan, other.covers startBlock endBlock = true →
        (∀ range ∈ other.ranges, WithinLimits startBlock gasByBlock config range.startBlock range.endBlock) →
        plan.ranges.length ≤ other.ranges.length := by
  have packed := @Packed.foldl startBlock gasByBlock config 0 _ Packed.initial gasByBlock rfl
  generalize packing_eq : gasByBlock.zipIdx.foldl (packBlock startBlock config.targetGas config.maxBlocks)
    ⟨[], startBlock, 0⟩ = packing at packed
  rw [Nat.zero_add, perBlock] at packed
  obtain ⟨nonempty, last⟩ := packed.begun (by omega)
  have reaches : startBlock + (endBlock - startBlock) = endBlock := by omega
  rw [reaches] at nonempty last
  have tiling : Tiling startBlock ((packing.ranges ++ [PlannedRange.new packing.rangeStart endBlock]).map
      PlannedRange.bounds) endBlock := by
    rw [List.map_append]
    exact packed.tiling.concat nonempty
  refine ⟨⟨1, packing.ranges ++ [.new packing.rangeStart endBlock]⟩, ?_, RangePlan.covers_eq_true.mpr tiling, ?_, ?_⟩
  · rw [RangePlan.byGas, if_neg (by omega)]
    dsimp only
    rw [if_neg (not_not.mpr perBlock), packing_eq]
  · intro range member
    rcases List.mem_append.mp member with before | final
    · exact packed.within range before
    · rw [List.mem_singleton.mp final]
      exact last
  · intro other covers within
    have maximal : ∀ piece ∈ (packing.ranges ++ [PlannedRange.new packing.rangeStart endBlock]).map PlannedRange.bounds,
        Tiling.Maximal (WithinLimits startBlock gasByBlock config) endBlock piece := by
      intro piece member further longer inside fits
      obtain ⟨range, held, rfl⟩ := List.mem_map.mp member
      rcases List.mem_append.mp held with before | final
      · -- A closed range is over the limits with one more block, so it is with any number of them.
        have nonempty := packed.tiling.lt_of_mem (List.mem_map_of_mem before)
        apply packed.full range before
        exact fits.part le_rfl (Nat.lt_succ_of_lt nonempty) longer
      · rw [List.mem_singleton.mp final] at longer
        exact absurd longer (not_lt.mpr inside)
    have fit : ∀ piece ∈ other.ranges.map PlannedRange.bounds, WithinLimits startBlock gasByBlock config piece.1 piece.2 := by
      intro piece member
      obtain ⟨range, held, rfl⟩ := List.mem_map.mp member
      exact within range held
    have fewest := tiling.length_le_of_maximal WithinLimits.part maximal (RangePlan.covers_eq_true.mp covers) fit le_rfl
    simpa only [List.length_map] using fewest

section Sample

def sampleRangeConfig : RangePlanConfig := ⟨100, 4⟩

theorem byGas_is_minimal_for_six_blocks :
    ∃ plan, RangePlan.byGas 10 16 [40, 40, 40, 40, 500, 40] sampleRangeConfig = .ok plan ∧
      plan.covers 10 16 = true ∧
      (∀ range ∈ plan.ranges,
        WithinLimits 10 [40, 40, 40, 40, 500, 40] sampleRangeConfig range.startBlock range.endBlock) ∧
      ∀ other : RangePlan, other.covers 10 16 = true →
        (∀ range ∈ other.ranges,
          WithinLimits 10 [40, 40, 40, 40, 500, 40] sampleRangeConfig range.startBlock range.endBlock) →
        plan.ranges.length ≤ other.ranges.length :=
  byGas_is_minimal 10 16 [40, 40, 40, 40, 500, 40] sampleRangeConfig (by decide) rfl

example : RangePlan.byGas 10 16 [40, 40, 40, 40, 500, 40] sampleRangeConfig =
    .ok ⟨1, [.new 10 12, .new 12 14, .new 14 15, .new 15 16]⟩ := by
  decide +kernel

end Sample

end WorldChain.Sp1
