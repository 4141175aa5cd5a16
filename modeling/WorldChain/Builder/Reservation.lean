import WorldChain.Builder.BestTransactions

/-! # Gas set aside for spending nullifiers

The builder lowers its gas limit after each PBH transaction that it has executed, by the gas which spending that
transaction's nullifiers will take. The subtraction is unchecked, and the nullifiers of a transaction that fails stay in
the set that is spent. `reservation_sound_iff` is about builds in which no nullifier is lost that way: there the
reservation is sound exactly if the check that is missing, of the gas used with the charge against what is left of the
limit, would have passed each time.
-/

namespace WorldChain.Builder

open Machine

variable {Nullifier Address Hash : Type*}

def Execution.evmGasUsed? : Execution → Option UInt64
  | .executed _ evmGasUsed => some evmGasUsed
  | _ => none

/-- A transaction is found to be over the limits when its gas limit does not fit under the effective gas limit. -/
def BuilderCtx.HoldsGasLimit (ctx : BuilderCtx Address) : Prop :=
  ∀ info txDaSize effectiveGasLimit gasLimit length,
    ctx.isTxOverLimits info txDaSize effectiveGasLimit gasLimit length = false →
      info.cumulativeEvmGasUsed.toNat + gasLimit.toNat ≤ effectiveGasLimit.toNat

/-- An execution uses no more gas than the transaction allows. -/
def Offer.WithinGasLimit (offer : Offer Nullifier Address Hash) : Prop :=
  ∀ evmGasUsed ∈ offer.execution.evmGasUsed?, evmGasUsed ≤ offer.tx.gasLimit

def spendingGas (count : ℕ) : ℕ := if count = 0 then 0 else 100000 + 20000 * count

theorem spendingGas_mono {fewer more : ℕ} (le : fewer ≤ more) : spendingGas fewer ≤ spendingGas more := by
  unfold spendingGas
  split <;> split <;> omega

theorem toNat_dynGasLimit {count : ℕ} (some : count ≠ 0) (fits : spendingGas count < 2 ^ 64) :
    (dynGasLimit (UInt64.ofNat count)).toNat = spendingGas count := by
  rw [spendingGas, if_neg some] at fits ⊢
  have small : (UInt64.ofNat count).toNat = count := UInt64.toNat_ofNat_of_lt' (show count < 2 ^ 64 by omega)
  rw [dynGasLimit, UInt64.toNat_add, UInt64.toNat_mul, small]
  change (100000 + count * 20000 % 2 ^ 64) % 2 ^ 64 = 100000 + 20000 * count
  omega

namespace BuildState

variable [DecidableEq Nullifier]

def charge (state : BuildState Nullifier Address Hash) (tx : PooledTx Nullifier Address Hash) : ℕ :=
  (if (insertNullifiers tx.nullifiers state.spentNullifierHashes).1.card = tx.nullifiers.length then 100000 else 0) +
    20000 * tx.nullifiers.length

def IsCharged (ctx : BuilderCtx Address) (verifiedGasLimit : UInt64) (state : BuildState Nullifier Address Hash)
    (offer : Offer Nullifier Address Hash) : Prop :=
  state.IsTested ctx verifiedGasLimit offer ∧
    (insertNullifiers offer.tx.nullifiers state.spentNullifierHashes).2 = false ∧ offer.execution.Succeeds

omit [DecidableEq Nullifier] in
instance decidableIsTested (ctx : BuilderCtx Address) (verifiedGasLimit : UInt64)
    (state : BuildState Nullifier Address Hash) (offer : Offer Nullifier Address Hash) :
    Decidable (state.IsTested ctx verifiedGasLimit offer) := by
  unfold IsTested
  infer_instance

instance decidableIsCharged (ctx : BuilderCtx Address) (verifiedGasLimit : UInt64)
    (state : BuildState Nullifier Address Hash) (offer : Offer Nullifier Address Hash) :
    Decidable (state.IsCharged ctx verifiedGasLimit offer) := by
  unfold IsCharged
  infer_instance

/-- The limit, when it is lowered for an offered transaction, stays above zero. -/
def NoUnderflow (ctx : BuilderCtx Address) (verifiedGasLimit : UInt64) (state : BuildState Nullifier Address Hash)
    (offer : Offer Nullifier Address Hash) : Prop :=
  state.IsCharged ctx verifiedGasLimit offer → state.charge offer.tx ≤ state.effectiveGasLimit.toNat

/-- The gas used so far and the gas for spending what has been collected fit under a limit, if something has been. -/
def SpendingFits (limit : UInt64) (state : BuildState Nullifier Address Hash) : Prop :=
  state.spentNullifierHashes ≠ ∅ →
    (dynGasLimit (UInt64.ofNat state.spentNullifierHashes.card)).toNat = spendingGas state.spentNullifierHashes.card ∧
      state.info.cumulativeEvmGasUsed.toNat +
        (dynGasLimit (UInt64.ofNat state.spentNullifierHashes.card)).toNat ≤ limit.toNat

instance decidableNoUnderflow (ctx : BuilderCtx Address) (verifiedGasLimit : UInt64)
    (state : BuildState Nullifier Address Hash) (offer : Offer Nullifier Address Hash) :
    Decidable (state.NoUnderflow ctx verifiedGasLimit offer) := by
  unfold NoUnderflow
  infer_instance

instance decidableSpendingFits (limit : UInt64) (state : BuildState Nullifier Address Hash) :
    Decidable (state.SpendingFits limit) := by
  unfold SpendingFits
  infer_instance

/-- A transaction that reaches the duplicate test has nullifiers; the first of them is taken, so that nothing is
inserted, or all are new and it is executed. -/
def LosesNone (ctx : BuilderCtx Address) (verifiedGasLimit : UInt64) (state : BuildState Nullifier Address Hash)
    (offer : Offer Nullifier Address Hash) : Prop :=
  state.KeepsExact ctx verifiedGasLimit offer ∧
    (state.IsTested ctx verifiedGasLimit offer → offer.tx.nullifiers ≠ [])

/-- The gas used with that of an executed PBH transaction, and the charge for its nullifiers, fit what is left of the
limit. -/
def ChargeFits (ctx : BuilderCtx Address) (verifiedGasLimit : UInt64) (state : BuildState Nullifier Address Hash)
    (offer : Offer Nullifier Address Hash) : Prop :=
  state.IsCharged ctx verifiedGasLimit offer →
    state.info.cumulativeEvmGasUsed.toNat + (offer.execution.evmGasUsed?.getD 0).toNat + state.charge offer.tx ≤
      state.effectiveGasLimit.toNat

instance decidableLosesNone (ctx : BuilderCtx Address) (verifiedGasLimit : UInt64)
    (state : BuildState Nullifier Address Hash) (offer : Offer Nullifier Address Hash) :
    Decidable (state.LosesNone ctx verifiedGasLimit offer) := by
  unfold LosesNone
  infer_instance

instance decidableChargeFits (ctx : BuilderCtx Address) (verifiedGasLimit : UInt64)
    (state : BuildState Nullifier Address Hash) (offer : Offer Nullifier Address Hash) :
    Decidable (state.ChargeFits ctx verifiedGasLimit offer) := by
  unfold ChargeFits
  infer_instance

variable {ctx : BuilderCtx Address} {verifiedGasLimit limit : UInt64}
  {state after final : BuildState Nullifier Address Hash} {offer : Offer Nullifier Address Hash}
  {offers : List (Offer Nullifier Address Hash)}

/-! ## One transaction -/

omit [DecidableEq Nullifier] in
theorem gas_le_limit (holds : ctx.HoldsGasLimit) (within : offer.WithinGasLimit)
    (fit : state.isUnfit offer.tx ctx = false) {gasUsed evmGasUsed : UInt64}
    (executed : offer.execution = .executed gasUsed evmGasUsed) :
    state.info.cumulativeEvmGasUsed.toNat + evmGasUsed.toNat ≤ state.effectiveGasLimit.toNat := by
  have used := UInt64.le_iff_toNat_le.mp (within evmGasUsed (by simp [executed, Execution.evmGasUsed?]))
  have admitted := holds state.info offer.tx.estimatedDaSize state.effectiveGasLimit offer.tx.gasLimit
    offer.tx.encodedLength (by simp only [isUnfit, Bool.or_eq_false_iff] at fit; exact fit.1.2)
  omega

omit [DecidableEq Nullifier] in
theorem evmGas_commit (holds : ctx.HoldsGasLimit) (within : offer.WithinGasLimit)
    (fit : state.isUnfit offer.tx ctx = false) {gasUsed evmGasUsed : UInt64}
    (executed : offer.execution = .executed gasUsed evmGasUsed) :
    (state.info.commitChanges gasUsed evmGasUsed offer.tx.estimatedDaSize offer.tx.effectiveTip).cumulativeEvmGasUsed.toNat =
      state.info.cumulativeEvmGasUsed.toNat + evmGasUsed.toNat := by
  have bounded := gas_le_limit holds within fit executed
  have word := state.effectiveGasLimit.toNat_lt
  rw [ExecutionInfo.commitChanges, UInt64.toNat_add]
  exact Nat.mod_eq_of_lt (by omega)

theorem toNat_reserveGas (tested : state.IsTested ctx verifiedGasLimit offer)
    (fits : state.charge offer.tx ≤ state.effectiveGasLimit.toNat) :
    ({ state with
      spentNullifierHashes := (insertNullifiers offer.tx.nullifiers state.spentNullifierHashes).1 }.reserveGas
        offer.tx).toNat = state.effectiveGasLimit.toNat - state.charge offer.tx := by
  obtain ⟨payloads, held⟩ := Option.isSome_iff_exists.mp tested.2.2.1
  have payload : offer.tx.nullifiers = payloads := by rw [PooledTx.nullifiers, held]; rfl
  have word := state.effectiveGasLimit.toNat_lt
  rw [charge, payload] at fits
  have small : (UInt64.ofNat payloads.length).toNat = payloads.length :=
    UInt64.toNat_ofNat_of_lt' (show payloads.length < 2 ^ 64 by omega)
  have product : (coldSstoreGas * UInt64.ofNat payloads.length).toNat = 20000 * payloads.length := by
    rw [UInt64.toNat_mul, small]
    exact Nat.mod_eq_of_lt (by change 20000 * payloads.length < 2 ^ 64; omega)
  have fixed : fixedGas.toNat = 100000 := rfl
  rw [reserveGas, held, charge, payload]
  dsimp only
  split at fits
  · next first =>
    have lowered : (state.effectiveGasLimit - fixedGas).toNat = state.effectiveGasLimit.toNat - 100000 :=
      UInt64.toNat_sub_of_le _ _ (UInt64.le_iff_toNat_le.mpr (by omega))
    rw [if_pos first, UInt64.toNat_sub_of_le _ _ (UInt64.le_iff_toNat_le.mpr (by omega)), lowered, product, if_pos first]
    omega
  · next later =>
    rw [if_neg later, UInt64.toNat_sub_of_le _ _ (UInt64.le_iff_toNat_le.mpr (by omega)), product, if_neg later]
    omega

theorem card_insertNullifiers {nullifiers : List Nullifier} {spent : Finset Nullifier}
    (fresh : (insertNullifiers nullifiers spent).2 = false) :
    (insertNullifiers nullifiers spent).1.card = spent.card + nullifiers.length := by
  obtain ⟨distinct, new⟩ := (insertNullifiers_snd ..).mp fresh
  have disjoint : Disjoint spent nullifiers.toFinset :=
    Finset.disjoint_right.mpr fun nullifier member => new nullifier (List.mem_toFinset.mp member)
  rw [insertNullifiers_fst fresh, Finset.card_union_of_disjoint disjoint, List.toFinset_card_of_nodup distinct]

theorem spendingGas_eq_charge (tx : PooledTx Nullifier Address Hash) (some : tx.nullifiers ≠ [])
    (fresh : (insertNullifiers tx.nullifiers state.spentNullifierHashes).2 = false) :
    spendingGas (insertNullifiers tx.nullifiers state.spentNullifierHashes).1.card =
      spendingGas state.spentNullifierHashes.card + state.charge tx := by
  have length := List.length_pos_iff.mpr some
  rw [charge, card_insertNullifiers fresh, spendingGas, spendingGas]
  split_ifs <;> omega

/-! ## The whole build -/

/-- The gas for spending the nullifiers of the set is taken off the limit, and the gas used fits what is left. -/
structure Reserved (limit : UInt64) (state : BuildState Nullifier Address Hash) : Prop where
  limit_left : state.effectiveGasLimit.toNat + spendingGas state.spentNullifierHashes.card = limit.toNat
  room : state.spentNullifierHashes ≠ ∅ → state.info.cumulativeEvmGasUsed.toNat ≤ state.effectiveGasLimit.toNat

omit [DecidableEq Nullifier] in
theorem Reserved.spendingFits (reserved : Reserved limit state) : SpendingFits limit state := by
  intro some
  have word := limit.toNat_lt
  have left := reserved.limit_left
  have room := reserved.room some
  have exact := toNat_dynGasLimit (Finset.card_ne_zero.mpr (Finset.nonempty_iff_ne_empty.mpr some))
    (show spendingGas state.spentNullifierHashes.card < 2 ^ 64 by omega)
  exact ⟨exact, by rw [exact]; omega⟩

theorem reserved_consider (holds : ctx.HoldsGasLimit) (within : offer.WithinGasLimit) (reserved : Reserved limit state)
    (losesNone : state.LosesNone ctx verifiedGasLimit offer) (fits : state.ChargeFits ctx verifiedGasLimit offer)
    (considered : state.consider ctx verifiedGasLimit offer = .ok after) : Reserved limit after := by
  cases consider_cases considered with
  | skipped _ _ => exact ⟨reserved.limit_left, reserved.room⟩
  | rejected tested notIncluded =>
    -- The first nullifier was in the set, so that the test has inserted nothing.
    have same : (insertNullifiers offer.tx.nullifiers state.spentNullifierHashes).1 = state.spentNullifierHashes := by
      rw [insertNullifiers_fst_eq_iff]
      rw [insertNullifiers_snd] at notIncluded
      rcases losesNone.1 tested with taken | ⟨distinct, new, executed⟩
      · exact taken
      · exact absurd ⟨⟨distinct, new⟩, executed⟩ notIncluded
    rw [same]
    exact ⟨reserved.limit_left, reserved.room⟩
  | @plain gasUsed evmGasUsed fit unverified executed =>
    have unchanged : state.reserveGas offer.tx = state.effectiveGasLimit := by rw [reserveGas, unverified]
    refine ⟨by rw [commit, unchanged]; exact reserved.limit_left, fun _ => ?_⟩
    simp only [commit, unchanged, evmGas_commit holds within fit executed]
    exact gas_le_limit holds within fit executed
  | @verified gasUsed evmGasUsed tested fresh executed =>
    have room := fits ⟨tested, fresh, gasUsed, evmGasUsed, executed⟩
    rw [executed, Execution.evmGasUsed?, Option.getD_some] at room
    have lowered := toNat_reserveGas tested (show state.charge offer.tx ≤ state.effectiveGasLimit.toNat by omega)
    have spending := spendingGas_eq_charge offer.tx (losesNone.2 tested) fresh
    have left := reserved.limit_left
    refine ⟨?_, fun _ => ?_⟩
    · simp only [commit, lowered, spending]
      omega
    · simp only [commit, lowered, evmGas_commit holds within tested.1 executed]
      omega

theorem consider_mono (holds : ctx.HoldsGasLimit) (within : offer.WithinGasLimit)
    (considered : state.consider ctx verifiedGasLimit offer = .ok after) :
    state.info.cumulativeEvmGasUsed.toNat ≤ after.info.cumulativeEvmGasUsed.toNat ∧
      state.spentNullifierHashes ⊆ after.spentNullifierHashes := by
  cases consider_cases considered with
  | skipped _ _ => exact ⟨le_rfl, Finset.Subset.refl _⟩
  | rejected _ _ => exact ⟨le_rfl, subset_insertNullifiers ..⟩
  | plain fit _ executed =>
    refine ⟨?_, Finset.Subset.refl _⟩
    rw [commit, evmGas_commit holds within fit executed]
    exact Nat.le_add_right ..
  | verified tested fresh executed =>
    refine ⟨?_, subset_insertNullifiers ..⟩
    rw [commit, evmGas_commit holds within tested.1 executed]
    exact Nat.le_add_right ..

theorem loop_mono (holds : ctx.HoldsGasLimit) (within : ∀ offer ∈ offers, offer.WithinGasLimit)
    (ended : offers.foldlM (consider · ctx verifiedGasLimit) state = .ok final) :
    state.info.cumulativeEvmGasUsed.toNat ≤ final.info.cumulativeEvmGasUsed.toNat ∧
      state.spentNullifierHashes ⊆ final.spentNullifierHashes := by
  induction offers generalizing state with
  | nil =>
    cases ended
    exact ⟨le_rfl, Finset.Subset.refl _⟩
  | cons offer offers ih =>
    obtain ⟨middle, considered, rest⟩ := bind_eq_ok.mp (List.foldlM_cons.symm.trans ended)
    obtain ⟨gas, spent⟩ := consider_mono holds (within offer List.mem_cons_self) considered
    obtain ⟨laterGas, laterSpent⟩ := ih (fun other member => within other (List.mem_cons_of_mem _ member)) rest
    exact ⟨gas.trans laterGas, spent.trans laterSpent⟩

omit [DecidableEq Nullifier] in
theorem SpendingFits.earlier (fits : SpendingFits limit final) (some : after.spentNullifierHashes ≠ ∅)
    (gas : after.info.cumulativeEvmGasUsed.toNat ≤ final.info.cumulativeEvmGasUsed.toNat)
    (spent : after.spentNullifierHashes ⊆ final.spentNullifierHashes) :
    after.info.cumulativeEvmGasUsed.toNat + spendingGas after.spentNullifierHashes.card ≤ limit.toNat := by
  have nonempty : final.spentNullifierHashes ≠ ∅ := by
    rintro none
    exact some (Finset.subset_empty.mp (none ▸ spent))
  obtain ⟨exact, room⟩ := fits nonempty
  have most := spendingGas_mono (Finset.card_le_card spent)
  omega

theorem ChargeFits.noUnderflow (fits : state.ChargeFits ctx verifiedGasLimit offer) :
    state.NoUnderflow ctx verifiedGasLimit offer := by
  intro charged
  have room := fits charged
  omega

theorem chargeFits_of_room (holds : ctx.HoldsGasLimit) (within : offer.WithinGasLimit) (reserved : Reserved limit state)
    (losesNone : state.LosesNone ctx verifiedGasLimit offer)
    (considered : state.consider ctx verifiedGasLimit offer = .ok after)
    (room : after.spentNullifierHashes ≠ ∅ →
      after.info.cumulativeEvmGasUsed.toNat + spendingGas after.spentNullifierHashes.card ≤ limit.toNat) :
    state.ChargeFits ctx verifiedGasLimit offer := by
  rintro ⟨tested, fresh, succeeds⟩
  cases consider_cases considered with
  | skipped untested _ => exact absurd tested untested
  | rejected _ notIncluded => exact absurd ⟨fresh, succeeds⟩ notIncluded
  | plain _ unverified _ => simpa [unverified] using tested.2.2.1
  | @verified gasUsed evmGasUsed _ _ executed =>
    rw [executed, Execution.evmGasUsed?, Option.getD_some]
    have inserted : (insertNullifiers offer.tx.nullifiers state.spentNullifierHashes).1 ≠ ∅ := by
      rw [insertNullifiers_fst fresh]
      simp [losesNone.2 tested]
    have fits := room inserted
    have left := reserved.limit_left
    simp only [commit, evmGas_commit holds within tested.1 executed,
      spendingGas_eq_charge offer.tx (losesNone.2 tested) fresh] at fits
    omega

theorem loop_reserved_iff (holds : ctx.HoldsGasLimit) (within : ∀ offer ∈ offers, offer.WithinGasLimit)
    (ended : offers.foldlM (consider · ctx verifiedGasLimit) state = .ok final) (reserved : Reserved limit state)
    (losesNone : Run.Permitted (consider · ctx verifiedGasLimit) (LosesNone ctx verifiedGasLimit) state offers) :
    Run.Permitted (consider · ctx verifiedGasLimit) (NoUnderflow ctx verifiedGasLimit) state offers ∧
        SpendingFits limit final ↔
      Run.Permitted (consider · ctx verifiedGasLimit) (ChargeFits ctx verifiedGasLimit) state offers := by
  induction offers generalizing state with
  | nil =>
    cases ended
    exact iff_of_true ⟨trivial, reserved.spendingFits⟩ trivial
  | cons offer offers ih =>
    obtain ⟨middle, considered, rest⟩ := bind_eq_ok.mp (List.foldlM_cons.symm.trans ended)
    have here := within offer List.mem_cons_self
    have later : ∀ other ∈ offers, other.WithinGasLimit :=
      fun other member => within other (List.mem_cons_of_mem _ member)
    simp only [Run.Permitted, considered] at losesNone ⊢
    constructor
    · rintro ⟨⟨_, safe⟩, fits⟩
      obtain ⟨gas, spent⟩ := loop_mono holds later rest
      have charge := chargeFits_of_room holds here reserved losesNone.1 considered
        fun some => fits.earlier some gas spent
      have kept := reserved_consider holds here reserved losesNone.1 charge considered
      exact ⟨charge, (ih later rest kept losesNone.2).mp ⟨safe, fits⟩⟩
    · rintro ⟨charge, chargeLater⟩
      have kept := reserved_consider holds here reserved losesNone.1 charge considered
      obtain ⟨safe, fits⟩ := (ih later rest kept losesNone.2).mpr chargeLater
      exact ⟨⟨charge.noUnderflow, safe⟩, fits⟩

end BuildState

/-- In a build that loses no nullifier the limit never underflows and spending fits under the limit at the start,
exactly if the gas used and the charge for each executed PBH transaction fit what is left of the limit. -/
theorem reservation_sound_iff (ctx : BuilderCtx Address) (info : ExecutionInfo)
    (effectiveGasLimit cumulativeUncompressedBytes : UInt64) (offers : List (Offer Nullifier Address Hash))
    (state : BuildState Nullifier Address Hash) [DecidableEq Nullifier]
    (ended : considerBestTransactions ctx info effectiveGasLimit cumulativeUncompressedBytes offers = .ok state)
    (holds : ctx.HoldsGasLimit) (within : ∀ offer ∈ offers, offer.WithinGasLimit)
    (losesNone : Run.Permitted (BuildState.consider · ctx (ctx.verifiedGasLimit effectiveGasLimit))
      (BuildState.LosesNone ctx (ctx.verifiedGasLimit effectiveGasLimit))
      (.initial info effectiveGasLimit cumulativeUncompressedBytes) offers) :
    Run.Permitted (BuildState.consider · ctx (ctx.verifiedGasLimit effectiveGasLimit))
        (BuildState.NoUnderflow ctx (ctx.verifiedGasLimit effectiveGasLimit))
        (.initial info effectiveGasLimit cumulativeUncompressedBytes) offers ∧
      state.SpendingFits effectiveGasLimit ↔
    Run.Permitted (BuildState.consider · ctx (ctx.verifiedGasLimit effectiveGasLimit))
        (BuildState.ChargeFits ctx (ctx.verifiedGasLimit effectiveGasLimit))
        (.initial info effectiveGasLimit cumulativeUncompressedBytes) offers := by
  apply BuildState.loop_reserved_iff holds within ended _ losesNone
  exact ⟨rfl, fun some => absurd rfl some⟩

section Sample

def sampleHeldCtx (capacity : UInt8) : BuilderCtx ℕ :=
  ⟨capacity, none, fun info _ effectiveGasLimit gasLimit _ =>
    decide (effectiveGasLimit.toNat < info.cumulativeEvmGasUsed.toNat + gasLimit.toNat), 77, 480, 1⟩

theorem sampleHeldCtx_holdsGasLimit (capacity : UInt8) : (sampleHeldCtx capacity).HoldsGasLimit := by
  intro info txDaSize effectiveGasLimit gasLimit length under
  simpa [sampleHeldCtx] using under

def samplePlainTx (gasLimit : UInt64) : PooledTx ℕ ℕ ℕ := ⟨9, 9, 0, gasLimit, 100, 110, false, false, 1, none⟩

def sampleReserved : BuildState ℕ ℕ ℕ :=
  ⟨⟨29880000, 29880000, 200, 29880000⟩, 29880000, 220, {5}, [], [], [sampleTx 1 [5], samplePlainTx 29859000]⟩

theorem reservation_sound_when_filled :
    considerBestTransactions (sampleHeldCtx 50) ⟨0, 0, 0, 0⟩ 30000000 0
      [⟨sampleTx 1 [5], false, .executed 21000 21000⟩, ⟨samplePlainTx 29859000, false, .executed 29859000 29859000⟩] =
        .ok sampleReserved ∧
      sampleReserved.spentNullifierHashes = {5} ∧ sampleReserved.SpendingFits 30000000 := by
  have ended : considerBestTransactions (sampleHeldCtx 50) ⟨0, 0, 0, 0⟩ 30000000 0
      [⟨sampleTx 1 [5], false, .executed 21000 21000⟩, ⟨samplePlainTx 29859000, false, .executed 29859000 29859000⟩] =
        .ok sampleReserved := by decide +kernel
  refine ⟨ended, rfl, ((reservation_sound_iff (sampleHeldCtx 50) ⟨0, 0, 0, 0⟩ 30000000 0 _ sampleReserved ended
    (sampleHeldCtx_holdsGasLimit 50) ?_ ?_).mpr ?_).2⟩
  · intro offer member
    simp only [List.mem_cons, List.not_mem_nil, or_false] at member
    rcases member with rfl | rfl <;> simp [Offer.WithinGasLimit, Execution.evmGasUsed?, sampleTx, samplePlainTx]
  · decide +kernel
  · decide +kernel

def sampleWrapped : BuildState ℕ ℕ ℕ :=
  ⟨⟨21000, 21000, 100, 21000⟩, 18446744073709531616, 110, {5}, [], [], [sampleTx 1 [5]]⟩

def sampleUnreserved : BuildState ℕ ℕ ℕ :=
  ⟨⟨30000000, 30000000, 100, 30000000⟩, 30000000, 110, {5}, [(1, 0)], [], [samplePlainTx 30000000]⟩

theorem reservation_fails :
    (considerBestTransactions (sampleHeldCtx 100) ⟨0, 0, 0, 0⟩ 100000 0
      [⟨sampleTx 1 [5], false, .executed 21000 21000⟩] = .ok sampleWrapped ∧
      ¬ (BuildState.initial ⟨0, 0, 0, 0⟩ 100000 0).NoUnderflow (sampleHeldCtx 100) 100000
        ⟨sampleTx 1 [5], false, .executed 21000 21000⟩ ∧
      ¬ sampleWrapped.SpendingFits 100000) ∧
    considerBestTransactions (sampleHeldCtx 50) ⟨0, 0, 0, 0⟩ 30000000 0
      [⟨sampleTx 1 [5], false, .invalid⟩, ⟨samplePlainTx 30000000, false, .executed 30000000 30000000⟩] =
        .ok sampleUnreserved ∧
      ¬ sampleUnreserved.SpendingFits 30000000 := by
  decide +kernel

end Sample

end WorldChain.Builder
