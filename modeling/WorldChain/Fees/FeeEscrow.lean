import WorldChain.Dispute.Types
import WorldChain.Lib.Checks

/-! # The price a fee burn is held to

`price()` is documented to return a 64.64 fixed-point number, and shifts all of the fraction out again. So what a burn
is held to is off by the fraction of the price times the balance, and `executeBurn_burns_promised_iff` says when that
stays within the promised precision. Words are those of the contract: assembly wraps around, checked arithmetic panics.
-/

namespace WorldChain.Fees

open Machine
open Dispute (Address)

abbrev Word := BitVec 256

/-- A signed price of 192 bits, and when it was made and expires. -/
structure PriceFeedData where
  price : BitVec 192
  timestamp : BitVec 32
  expiresAt : BitVec 32
deriving DecidableEq, Repr

/-- What a price feed answers. -/
structure Oracle where
  decimals : BitVec 8
  priceFeed : PriceFeedData
deriving DecidableEq, Repr

inductive FeeError
  | invalidAddress
  | burnTooSoon
  | nothingToBurn
  | insufficientBurn (actualBurn expectedBurn : ℕ)
  | stalePrice
  | ownableInvalidOwner (owner : Address)
  | ownableUnauthorizedAccount (account : Address)
  | panic
deriving DecidableEq, Repr

def checkedSub (value less : ℕ) : Except FeeError ℕ := if less ≤ value then .ok (value - less) else .error .panic

@[simp] theorem checkedSub_eq_ok {value less result : ℕ} :
    checkedSub value less = .ok result ↔ less ≤ value ∧ value - less = result := by
  by_cases enough : less ≤ value <;> simp [checkedSub, enough]

def slippageTolerance : ℕ := 30

def scale : ℕ := 100000

/-- The escrow, with the immutable scales. -/
structure FeeEscrow where
  owner : Address
  wldUsdcScale : Word
  ethUsdcScale : Word
  wldUsdOracle : Address
  ethUsdOracle : Address
  lastBuybackTimestamp : ℕ
  minimumInterval : ℕ
deriving DecidableEq, Repr

structure Context where
  sender : Address
  timestamp : ℕ
  oracles : Address → Oracle
  balance : ℕ := 0
  deadBefore : ℕ := 0
  deadAfter : ℕ := 0

namespace FeeEscrow

/-- The oracles a new escrow reads. -/
def initialWldUsdOracle : Address := 0x8Bb2943AB030E3eE05a58d9832525B4f60A97FA0

def initialEthUsdOracle : Address := 0xe1d72a719171DceAB9499757EB9d5AEb9e8D64A6

def construct (context : Context) (owner : Address) (minimumInterval : ℕ) : Except FeeError FeeEscrow := do
  -- The base constructor runs first and makes the same check.
  revertIf (owner = 0) (.ownableInvalidOwner owner)
  revertIf (owner = 0) .invalidAddress
  let wldUsdcScale ← checked .panic (10 ^ (context.oracles initialWldUsdOracle).decimals.toNat)
  let ethUsdcScale ← checked .panic (10 ^ (context.oracles initialEthUsdOracle).decimals.toNat)
  return {
    owner
    wldUsdcScale := BitVec.ofNat 256 wldUsdcScale
    ethUsdcScale := BitVec.ofNat 256 ethUsdcScale
    wldUsdOracle := initialWldUsdOracle
    ethUsdOracle := initialEthUsdOracle
    lastBuybackTimestamp := context.timestamp
    minimumInterval }

variable (escrow : FeeEscrow) (context : Context)

/-- The readings of the two configured oracles. -/
def wldUsdData : PriceFeedData := (context.oracles escrow.wldUsdOracle).priceFeed

def ethUsdData : PriceFeedData := (context.oracles escrow.ethUsdOracle).priceFeed

/-- Products and the shift wrap around, and a quotient by zero is zero. The caller widens the result, which clears what
is above 128 bits. -/
def price : Except FeeError (BitVec 128) := do
  let wldUsdData := escrow.wldUsdData context
  let ethUsdData := escrow.ethUsdData context
  revertIf (wldUsdData.expiresAt.toNat < context.timestamp ∨ ethUsdData.expiresAt.toNat < context.timestamp ∨
    wldUsdData.price.toInt ≤ 0 ∨ ethUsdData.price.toInt ≤ 0) .stalePrice
  let wldUsdPrice : BitVec 128 := wldUsdData.price.setWidth 128
  let ethUsdPrice : BitVec 128 := ethUsdData.price.setWidth 128
  let numerator : Word := (ethUsdPrice.setWidth 256 * escrow.wldUsdcScale) <<< 64
  let denominator : Word := wldUsdPrice.setWidth 256 * escrow.ethUsdcScale
  return ((numerator / denominator) >>> 64).setWidth 128

def executeBurn : Except FeeError FeeEscrow := do
  let earliest ← checked .panic (escrow.lastBuybackTimestamp + escrow.minimumInterval)
  revertIf (context.timestamp ≤ earliest) .burnTooSoon
  let currentPrice ← escrow.price context
  let product ← checked .panic (currentPrice.toNat * context.balance)
  let scaled ← checked .panic (product * (scale - slippageTolerance))
  let expectedBurn := scaled / scale
  revertIf (context.balance = 0) .nothingToBurn
  -- The callback runs here, between the two readings of the dead address's balance. A setter it calls acts on fields
  -- that are not read again, as if called right after.
  let totalBurned ← checkedSub context.deadAfter context.deadBefore
  revertIf (totalBurned < expectedBurn) (.insufficientBurn totalBurned expectedBurn)
  return { escrow with lastBuybackTimestamp := context.timestamp }

def onlyOwner : Except FeeError Unit :=
  revertIf (context.sender ≠ escrow.owner) (.ownableUnauthorizedAccount context.sender)

def setInterval (newInterval : ℕ) : Except FeeError FeeEscrow := do
  escrow.onlyOwner context
  return { escrow with minimumInterval := newInterval }

def setWldUsdOracle (oracle : Address) : Except FeeError FeeEscrow := do
  escrow.onlyOwner context
  return { escrow with wldUsdOracle := oracle }

def setEthUsdOracle (oracle : Address) : Except FeeError FeeEscrow := do
  escrow.onlyOwner context
  return { escrow with ethUsdOracle := oracle }

/-- The calls that change the escrow. -/
inductive Action
  | executeBurn
  | setInterval (newInterval : ℕ)
  | setWldUsdOracle (oracle : Address)
  | setEthUsdOracle (oracle : Address)
deriving DecidableEq, Repr

def exec (escrow : FeeEscrow) (call : Context × Action) : Except FeeError FeeEscrow :=
  match call.2 with
  | .executeBurn => escrow.executeBurn call.1
  | .setInterval newInterval => escrow.setInterval call.1 newInterval
  | .setWldUsdOracle oracle => escrow.setWldUsdOracle call.1 oracle
  | .setEthUsdOracle oracle => escrow.setEthUsdOracle call.1 oracle

abbrev Runs : FeeEscrow → List (Context × Action) → FeeEscrow → Prop := Run exec fun _ _ => True

/-! ## What the price is meant to be -/

def exactPrice : ℚ :=
  ((escrow.ethUsdData context).price.toNat * 10 ^ (context.oracles escrow.wldUsdOracle).decimals.toNat) /
    ((escrow.wldUsdData context).price.toNat * 10 ^ (context.oracles escrow.ethUsdOracle).decimals.toNat)

def kept : ℚ := 1 - slippageTolerance / scale

def promisedBurn : ℚ := kept * context.balance * escrow.exactPrice context - (context.balance / 2 ^ 64 + 1)

/-- The readings and the price fit 128 bits, and no product or shift wraps around. -/
structure Undistorted : Prop where
  wldNarrow : (escrow.wldUsdData context).price.toNat < 2 ^ 128
  ethNarrow : (escrow.ethUsdData context).price.toNat < 2 ^ 128
  numerator : (escrow.ethUsdData context).price.toNat *
    10 ^ (context.oracles escrow.wldUsdOracle).decimals.toNat * 2 ^ 64 < 2 ^ 256
  denominator : (escrow.wldUsdData context).price.toNat *
    10 ^ (context.oracles escrow.ethUsdOracle).decimals.toNat < 2 ^ 256
  fits : escrow.exactPrice context < 2 ^ 128

section Scales

variable {escrow context} {deployed after : FeeEscrow} {call : Context × Action} {log : List (Context × Action)}

theorem scales_of_exec (success : escrow.exec call = .ok after) :
    after.wldUsdcScale = escrow.wldUsdcScale ∧ after.ethUsdcScale = escrow.ethUsdcScale := by
  obtain ⟨context, action⟩ := call
  cases action with
  | executeBurn =>
    simp only [exec, executeBurn, bind_eq_ok, pure_eq_ok] at success
    obtain ⟨_, _, _, _, _, _, _, _, _, _, _, _, _, _, _, _, rfl⟩ := success
    exact ⟨rfl, rfl⟩
  | setInterval _ | setWldUsdOracle _ | setEthUsdOracle _ =>
    simp only [exec, setInterval, setWldUsdOracle, setEthUsdOracle, bind_eq_ok, pure_eq_ok] at success
    obtain ⟨_, _, rfl⟩ := success
    exact ⟨rfl, rfl⟩

theorem scales_of_run (run : Runs deployed log escrow) :
    escrow.wldUsdcScale = deployed.wldUsdcScale ∧ escrow.ethUsdcScale = deployed.ethUsdcScale := by
  apply run.invariant (motive := fun escrow => escrow.wldUsdcScale = deployed.wldUsdcScale ∧
    escrow.ethUsdcScale = deployed.ethUsdcScale) ⟨rfl, rfl⟩
  intro before after call kept _ success
  obtain ⟨wld, eth⟩ := scales_of_exec success
  exact ⟨wld.trans kept.1, eth.trans kept.2⟩

theorem scales_of_construct {owner : Address} {minimumInterval : ℕ}
    (constructed : construct context owner minimumInterval = .ok deployed) :
    deployed.wldUsdcScale.toNat = 10 ^ (context.oracles initialWldUsdOracle).decimals.toNat ∧
      deployed.ethUsdcScale.toNat = 10 ^ (context.oracles initialEthUsdOracle).decimals.toNat := by
  simp only [construct, bind_eq_ok, checked_eq_ok, pure_eq_ok] at constructed
  obtain ⟨_, -, _, -, _, ⟨wldFits, rfl⟩, _, ⟨ethFits, rfl⟩, rfl⟩ := constructed
  exact ⟨Nat.mod_eq_of_lt wldFits, Nat.mod_eq_of_lt ethFits⟩

end Scales

/-! ## The required burn -/

section Required

variable {escrow context} {after : FeeEscrow}

/-- The call with the dead address receiving an amount. -/
def burning (context : Context) (before burned : ℕ) : Context :=
  { context with deadBefore := before, deadAfter := before + burned }

def requiredBurn (currentPrice balance : ℕ) : ℕ := currentPrice * balance * (scale - slippageTolerance) / scale

/-- A burn that can succeed at all succeeds exactly from the required amount on. -/
theorem executeBurn_eq_ok {before burned : ℕ}
    (success : escrow.executeBurn (burning context before burned) = .ok after) :
    ∃ currentPrice, escrow.price context = .ok currentPrice ∧ requiredBurn currentPrice.toNat context.balance ≤ burned ∧
      ∃ later, escrow.executeBurn (burning context 0 (requiredBurn currentPrice.toNat context.balance)) = .ok later := by
  simp only [executeBurn, bind_eq_ok, pure_eq_ok, checked_eq_ok, checkedSub_eq_ok, revertIf_eq_ok] at success
  obtain ⟨_, ⟨soon, rfl⟩, _, late, currentPrice, priced, _, ⟨small, rfl⟩, _, ⟨fits, rfl⟩, _, some, _, ⟨-, rfl⟩, _,
    enough, -⟩ := success
  refine ⟨currentPrice, priced, ?_, ?_⟩
  · rw [requiredBurn]
    simpa [burning] using enough
  · refine ⟨{ escrow with lastBuybackTimestamp := context.timestamp }, ?_⟩
    simp only [executeBurn, bind_eq_ok, pure_eq_ok, checked_eq_ok, checkedSub_eq_ok, revertIf_eq_ok]
    refine ⟨_, ⟨soon, rfl⟩, (), late, currentPrice, priced, _, ⟨small, rfl⟩, _, ⟨fits, rfl⟩, (), some, _,
      ⟨Nat.zero_le _, rfl⟩, (), ?_, rfl⟩
    simp [burning, requiredBurn]

theorem shifted_quotient {left right leftScale rightScale : Word}
    (numerator : left.toNat * leftScale.toNat * 2 ^ 64 < 2 ^ 256)
    (denominator : right.toNat * rightScale.toNat < 2 ^ 256) :
    ((((left * leftScale) <<< 64) / (right * rightScale)) >>> 64).toNat =
      left.toNat * leftScale.toNat / (right.toNat * rightScale.toNat) := by
  have product : left.toNat * leftScale.toNat < 2 ^ 256 := by omega
  rw [BitVec.toNat_ushiftRight, BitVec.toNat_udiv, BitVec.toNat_shiftLeft, BitVec.toNat_mul, BitVec.toNat_mul,
    Nat.mod_eq_of_lt product, Nat.mod_eq_of_lt denominator, Nat.shiftLeft_eq, Nat.mod_eq_of_lt numerator,
    Nat.shiftRight_eq_div_pow, Nat.div_div_eq_div_mul, Nat.mul_div_mul_right _ _ (by decide)]

theorem price_eq_floor {currentPrice : BitVec 128} (priced : escrow.price context = .ok currentPrice)
    (undistorted : escrow.Undistorted context)
    (wldScale : escrow.wldUsdcScale.toNat = 10 ^ (context.oracles escrow.wldUsdOracle).decimals.toNat)
    (ethScale : escrow.ethUsdcScale.toNat = 10 ^ (context.oracles escrow.ethUsdOracle).decimals.toNat) :
    (currentPrice.toNat : ℚ) = ⌊escrow.exactPrice context⌋ := by
  obtain ⟨wldNarrow, ethNarrow, numerator, denominator, fits⟩ := undistorted
  simp only [price, bind_eq_ok, pure_eq_ok] at priced
  obtain ⟨_, -, rfl⟩ := priced
  have widened {reading : BitVec 192} (narrow : reading.toNat < 2 ^ 128) :
      ((reading.setWidth 128).setWidth 256).toNat = reading.toNat := by
    rw [BitVec.toNat_setWidth, BitVec.toNat_setWidth, Nat.mod_eq_of_lt narrow]
    omega
  rw [← wldScale, ← widened ethNarrow] at numerator
  rw [← ethScale, ← widened wldNarrow] at denominator
  have floor : ⌊escrow.exactPrice context⌋ = (((escrow.ethUsdData context).price.toNat * escrow.wldUsdcScale.toNat /
      ((escrow.wldUsdData context).price.toNat * escrow.ethUsdcScale.toNat) : ℕ) : ℤ) := by
    rw [exactPrice, Int.natCast_ediv, ← Rat.floor_intCast_div_natCast, wldScale, ethScale]
    push_cast
    rfl
  rw [floor, BitVec.toNat_setWidth, shifted_quotient numerator denominator, widened ethNarrow, widened wldNarrow,
    Nat.mod_eq_of_lt, Int.cast_natCast]
  have lower := (Int.floor_le (escrow.exactPrice context)).trans_lt fits
  rw [floor] at lower
  exact_mod_cast lower

theorem requiredBurn_eq (currentPrice balance : ℕ) :
    (requiredBurn currentPrice balance : ℚ) =
      kept * balance * currentPrice - Int.fract (kept * balance * currentPrice) := by
  have share : kept * balance * currentPrice =
      (currentPrice * balance * (scale - slippageTolerance) : ℕ) / (scale : ℚ) := by
    simp only [kept, scale, slippageTolerance]
    push_cast
    ring
  rw [share, Int.self_sub_fract, requiredBurn, ← Nat.floor_div_eq_div (K := ℚ), ← natCast_floor_eq_intCast_floor]
  positivity

/-- An escrow whose oracles still have the decimals it was deployed with, and where nothing wraps around, burns what is
promised in every call exactly if what the fractions of the price and of the required amount lose is within the
precision. -/
theorem executeBurn_burns_promised_iff {deployment : Context} {owner : Address} {minimumInterval : ℕ}
    {deployed : FeeEscrow} {log : List (Context × Action)}
    (constructed : construct deployment owner minimumInterval = .ok deployed) (run : Runs deployed log escrow)
    (wldDecimals : (context.oracles escrow.wldUsdOracle).decimals =
      (deployment.oracles initialWldUsdOracle).decimals)
    (ethDecimals : (context.oracles escrow.ethUsdOracle).decimals =
      (deployment.oracles initialEthUsdOracle).decimals)
    (undistorted : escrow.Undistorted context)
    (possible : ∃ before burned, (escrow.executeBurn (burning context before burned)).isOk = true) :
    (∀ before burned after, escrow.executeBurn (burning context before burned) = .ok after →
      escrow.promisedBurn context ≤ burned) ↔
    kept * context.balance * Int.fract (escrow.exactPrice context) +
      Int.fract (kept * context.balance * ⌊escrow.exactPrice context⌋) ≤ context.balance / 2 ^ 64 + 1 := by
  obtain ⟨wldScale, ethScale⟩ := scales_of_construct constructed
  obtain ⟨wldKept, ethKept⟩ := scales_of_run run
  obtain ⟨before, burned, succeeds⟩ := possible
  obtain ⟨after, success⟩ : ∃ after, escrow.executeBurn (burning context before burned) = .ok after := by
    cases outcome : escrow.executeBurn (burning context before burned) with
    | ok after => exact ⟨after, rfl⟩
    | error error =>
      rw [outcome] at succeeds
      cases succeeds
  obtain ⟨currentPrice, priced, _, later, least⟩ := executeBurn_eq_ok success
  have floor := price_eq_floor priced undistorted (by rw [wldKept, wldScale, wldDecimals])
    (by rw [ethKept, ethScale, ethDecimals])
  -- what is promised is what is required, up to the two fractions
  have gap : escrow.promisedBurn context ≤ requiredBurn currentPrice.toNat context.balance ↔
      kept * context.balance * Int.fract (escrow.exactPrice context) +
        Int.fract (kept * context.balance * ⌊escrow.exactPrice context⌋) ≤ context.balance / 2 ^ 64 + 1 := by
    have fraction := Int.self_sub_floor (escrow.exactPrice context)
    rw [requiredBurn_eq, floor, promisedBurn, ← fraction, mul_sub]
    constructor <;> intro bound <;> linarith
  rw [← gap]
  constructor
  · intro always
    exact always 0 _ later least
  · intro enough before burned after success
    obtain ⟨other, priced', required, _⟩ := executeBurn_eq_ok success
    obtain rfl := Except.ok.inj (priced.symm.trans priced')
    exact enough.trans (Nat.cast_le.mpr required)

def sampleContext (timestamp : ℕ) (ethUsdPrice : BitVec 192) (burned : ℕ) : Context :=
  { sender := 2
    timestamp
    oracles := fun oracle =>
      { decimals := 1
        priceFeed :=
          { price := if oracle = initialWldUsdOracle then 10 else ethUsdPrice, timestamp := 0, expiresAt := 100 } }
    balance := 10 ^ 18
    deadBefore := 0
    deadAfter := burned }

def sampleEscrow (lastBuybackTimestamp : ℕ) : FeeEscrow :=
  { owner := 1
    wldUsdcScale := 10
    ethUsdcScale := 10
    wldUsdOracle := initialWldUsdOracle
    ethUsdOracle := initialEthUsdOracle
    lastBuybackTimestamp
    minimumInterval := 5 }

theorem exactPrice_sample (lastBuybackTimestamp timestamp : ℕ) (ethUsdPrice : BitVec 192) (burned : ℕ) :
    (sampleEscrow lastBuybackTimestamp).exactPrice (sampleContext timestamp ethUsdPrice burned) =
      ethUsdPrice.toNat / 10 := by
  have eth : ((sampleEscrow lastBuybackTimestamp).ethUsdData (sampleContext timestamp ethUsdPrice burned)).price =
      ethUsdPrice := rfl
  have wld : ((sampleEscrow lastBuybackTimestamp).wldUsdData
      (sampleContext timestamp ethUsdPrice burned)).price.toNat = 10 := rfl
  have decimals (oracle : Address) :
      ((sampleContext timestamp ethUsdPrice burned).oracles oracle).decimals.toNat = 1 := rfl
  rw [exactPrice, eth, wld, decimals, decimals, Nat.cast_ofNat, pow_one, mul_div_mul_right _ _ (by norm_num)]

theorem fraction_is_lost :
    construct (sampleContext 0 29 0) 1 5 = .ok (sampleEscrow 0) ∧
      (sampleEscrow 0).executeBurn (sampleContext 10 29 1999400000000000000) = .ok (sampleEscrow 10) ∧
      ¬ (sampleEscrow 0).promisedBurn (sampleContext 10 29 1999400000000000000) ≤
        ((sampleContext 10 29 1999400000000000000).deadAfter : ℚ) -
          (sampleContext 10 29 1999400000000000000).deadBefore := by
  refine ⟨by decide, by decide, ?_⟩
  have price : (29 : BitVec 192).toNat = 29 := rfl
  rw [promisedBurn, exactPrice_sample, price]
  norm_num [kept, sampleContext, slippageTolerance, scale]

theorem whole_price_is_kept :
    (sampleEscrow 0).executeBurn (burning (sampleContext 10 30 0) 0 2999100000000000000) = .ok (sampleEscrow 10) ∧
      ∀ before burned after, (sampleEscrow 0).executeBurn (burning (sampleContext 10 30 0) before burned) = .ok after →
        (sampleEscrow 0).promisedBurn (sampleContext 10 30 0) ≤ burned := by
  have constructed : construct (sampleContext 0 30 0) 1 5 = .ok (sampleEscrow 0) := by decide
  have success : (sampleEscrow 0).executeBurn (burning (sampleContext 10 30 0) 0 2999100000000000000) =
      .ok (sampleEscrow 10) := by decide
  have price : (sampleEscrow 0).exactPrice (sampleContext 10 30 0) = (3 : ℕ) := by
    have thirty : (30 : BitVec 192).toNat = 30 := rfl
    rw [exactPrice_sample, thirty]
    norm_num
  have undistorted : (sampleEscrow 0).Undistorted (sampleContext 10 30 0) :=
    { wldNarrow := by decide
      ethNarrow := by decide
      numerator := by decide
      denominator := by decide
      fits := by rw [price]; norm_num }
  refine ⟨success, (executeBurn_burns_promised_iff constructed (.start _) (by rfl) (by rfl) undistorted
    ⟨0, 2999100000000000000, by rw [success]; rfl⟩).mpr ?_⟩
  have amount : kept * ((sampleContext 10 30 0).balance : ℚ) * (3 : ℕ) = (2999100000000000000 : ℕ) := by
    norm_num [kept, sampleContext, slippageTolerance, scale]
  rw [price, Int.fract_natCast, Int.floor_natCast, Int.cast_natCast, amount, Int.fract_natCast,
    mul_zero, zero_add]
  positivity

end Required

end FeeEscrow

end WorldChain.Fees
