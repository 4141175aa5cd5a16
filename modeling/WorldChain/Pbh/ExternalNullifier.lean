import WorldChain.Lib.BitField
import WorldChain.Machine.Run

/-! # External nullifiers

An external nullifier names a month and a nonce within it. The pool and the contract pack it into one word, each in its
own code.
-/

namespace WorldChain.Pbh

open Machine BitField

abbrev U256 := BitVec 256

/-! ## The pool -/

inductive Prefix
  | v1
deriving DecidableEq, Repr

def Prefix.toByte : Prefix → BitVec 8
  | v1 => 1

theorem Prefix.toNat_toByte : ∀ version : Prefix, version.toByte.toNat = 1
  | v1 => rfl

structure ExternalNullifier where
  version : Prefix
  year : BitVec 16
  month : BitVec 8
  nonce : BitVec 16
deriving DecidableEq, Repr

/-- A month of the calendar. -/
structure DateMarker where
  year : ℤ
  month : ℕ
deriving DecidableEq, Repr

namespace ExternalNullifier

def dateMarker (nullifier : ExternalNullifier) : DateMarker := ⟨nullifier.year.toNat, nullifier.month.toNat⟩

/-- The word of an external nullifier. -/
def encoded (nullifier : ExternalNullifier) : U256 :=
  (nullifier.year.setWidth 64 <<< 32 ||| nullifier.month.setWidth 64 <<< 24 ||| nullifier.nonce.setWidth 64 <<< 8 |||
    nullifier.version.toByte.setWidth 64).setWidth 256

def tryFrom (value : U256) : Except String ExternalNullifier :=
  if value > (1 : U256) <<< 48 then .error "invalid external nullifier"
  else
    let word := value.setWidth 64
    let year := (word >>> 32).setWidth 16
    let month := ((word >>> 24) &&& 0xFF).setWidth 8
    let nonce := ((word >>> 8) &&& 0xFFFF).setWidth 16
    let version := (word &&& 0xFF).setWidth 8
    if version ≠ Prefix.v1.toByte then .error "invalid external nullifier version"
    else .ok ⟨.v1, year, month, nonce⟩

end ExternalNullifier

/-! ## The contract -/

/-- The year and the month of a timestamp. -/
structure Calendar where
  getYear : ℕ → ℕ
  getMonth : ℕ → ℕ

def Calendar.dateMarker (calendar : Calendar) (timestamp : ℕ) : DateMarker :=
  ⟨calendar.getYear timestamp, calendar.getMonth timestamp⟩

inductive PBHError
  | invalidExternalNullifier (externalNullifier signalHash : U256) (reason : String)
  | invalidNullifier (nullifierHash signalHash : U256)
  | invalidAggregatedSignature (payloads userOps : ℕ)
  | storageCollision
  | decoding
  | worldId
deriving DecidableEq, Repr

namespace PBHExternalNullifier

def v1 : BitVec 8 := 1

/-- The version, nonce, month and year of a word. -/
def decode (externalNullifier : U256) : BitVec 8 × BitVec 16 × BitVec 8 × BitVec 16 :=
  let year := ((externalNullifier >>> 32) &&& 0xFFFF).setWidth 16
  let month := ((externalNullifier >>> 24) &&& 0xFF).setWidth 8
  let pbhNonce := ((externalNullifier >>> 8) &&& 0xFFFF).setWidth 16
  let version := (externalNullifier &&& 0xFF).setWidth 8
  (version, pbhNonce, month, year)

def verify (calendar : Calendar) (timestamp : ℕ) (externalNullifier : U256) (numPbhPerMonth : BitVec 16) (signalHash : U256) :
    Except PBHError Unit := do
  revertIf (¬ externalNullifier.toNat ≤ 2 ^ 48 - 1) (.invalidExternalNullifier externalNullifier signalHash "Leading zeros")
  let (version, pbhNonce, month, year) := decode externalNullifier
  revertIf (version ≠ v1) (.invalidExternalNullifier externalNullifier signalHash "Invalid Version")
  revertIf (year.toNat ≠ calendar.getYear timestamp) (.invalidExternalNullifier externalNullifier signalHash "Invalid Year")
  revertIf (month.toNat ≠ calendar.getMonth timestamp) (.invalidExternalNullifier externalNullifier signalHash "Invalid Month")
  revertIf (¬ pbhNonce < numPbhPerMonth) (.invalidExternalNullifier externalNullifier signalHash "Invalid PBH Nonce")

end PBHExternalNullifier

/-! ## The two agree -/

theorem PBHExternalNullifier.toNat_packed {w : ℕ} (wide : 64 ≤ w) (version : BitVec 8) (pbhNonce : BitVec 16) (month : BitVec 8)
    (year : BitVec 16) :
    (year.setWidth w <<< 32 ||| month.setWidth w <<< 24 ||| pbhNonce.setWidth w <<< 8 ||| version.setWidth w).toNat =
      year.toNat * 2 ^ 32 + month.toNat * 2 ^ 24 + pbhNonce.toNat * 2 ^ 8 + version.toNat := by
  have hasYear := toNat_placed year 32 (show 16 + 32 ≤ w by omega)
  have hasMonth := toNat_placed month 24 (show 8 + 24 ≤ w by omega)
  have hasNonce := toNat_placed pbhNonce 8 (show 16 + 8 ≤ w by omega)
  have hasVersion : (version.setWidth w).toNat = version.toNat := by
    simpa using toNat_placed version 0 (show 8 + 0 ≤ w by omega)
  have := month.isLt
  have := pbhNonce.isLt
  have := version.isLt
  have two := toNat_or (year.setWidth w <<< 32) (month.setWidth w <<< 24) 32 (by omega) (by omega)
  have three := toNat_or _ (pbhNonce.setWidth w <<< 8) 24 (by rw [two]; omega) (by omega)
  rw [toNat_or _ (version.setWidth w) 8 (by rw [three, two]; omega) (by omega), three, two, hasYear, hasMonth, hasNonce, hasVersion]

namespace ExternalNullifier

variable {value : U256} {nullifier : ExternalNullifier}

theorem toNat_fields (small : value.toNat < 2 ^ 64) :
    ((value.setWidth 64 >>> 32).setWidth 16).toNat = value.toNat / 2 ^ 32 % 2 ^ 16 ∧
    (((value.setWidth 64 >>> 24) &&& 0xFF).setWidth 8).toNat = value.toNat / 2 ^ 24 % 2 ^ 8 ∧
    (((value.setWidth 64 >>> 8) &&& 0xFFFF).setWidth 16).toNat = value.toNat / 2 ^ 8 % 2 ^ 16 ∧
    ((value.setWidth 64 &&& 0xFF).setWidth 8).toNat = value.toNat % 2 ^ 8 := by
  have word : (value.setWidth 64).toNat = value.toNat := by
    rw [BitVec.toNat_setWidth, Nat.mod_eq_of_lt small]
  refine ⟨?_, ?_, ?_, ?_⟩
  · rw [BitVec.toNat_setWidth, toNat_shiftRight, word]
  · rw [BitVec.toNat_setWidth, toNat_and_mask _ 8 _ rfl, toNat_shiftRight, word, Nat.mod_mod]
  · rw [BitVec.toNat_setWidth, toNat_and_mask _ 16 _ rfl, toNat_shiftRight, word, Nat.mod_mod]
  · rw [BitVec.toNat_setWidth, toNat_and_mask _ 8 _ rfl, word, Nat.mod_mod]

theorem tryFrom_eq_ok : tryFrom value = .ok nullifier ↔ value.toNat < 2 ^ 48 ∧ value.toNat % 2 ^ 8 = 1 ∧
    nullifier.year.toNat = value.toNat / 2 ^ 32 % 2 ^ 16 ∧ nullifier.month.toNat = value.toNat / 2 ^ 24 % 2 ^ 8 ∧
    nullifier.nonce.toNat = value.toNat / 2 ^ 8 % 2 ^ 16 := by
  have bound : value > (1 : U256) <<< 48 ↔ 2 ^ 48 < value.toNat := by
    rw [gt_iff_lt, BitVec.lt_def]
    rfl
  rw [tryFrom]
  split
  · next large =>
    rw [bound] at large
    simp only [reduceCtorEq, false_iff]
    omega
  · next within =>
    rw [bound] at within
    obtain ⟨year, month, nonce, version⟩ := toNat_fields (show value.toNat < 2 ^ 64 by omega)
    have isV1 : (value.setWidth 64 &&& 0xFF).setWidth 8 ≠ Prefix.v1.toByte ↔ value.toNat % 2 ^ 8 ≠ 1 := by
      rw [ne_eq, ← BitVec.toNat_inj, version]
      rfl
    simp only [isV1]
    split
    · next other =>
      simp only [reduceCtorEq, false_iff]
      omega
    · next is =>
      obtain ⟨⟨⟩, _, _, _⟩ := nullifier
      simp only [Except.ok.injEq, ExternalNullifier.mk.injEq, ← BitVec.toNat_inj, year, month, nonce, true_and]
      constructor
      · rintro ⟨isYear, isMonth, isNonce⟩
        exact ⟨by omega, by omega, isYear.symm, isMonth.symm, isNonce.symm⟩
      · rintro ⟨_, _, isYear, isMonth, isNonce⟩
        exact ⟨isYear.symm, isMonth.symm, isNonce.symm⟩

theorem toNat_encoded (nullifier : ExternalNullifier) : nullifier.encoded.toNat =
    nullifier.year.toNat * 2 ^ 32 + nullifier.month.toNat * 2 ^ 24 + nullifier.nonce.toNat * 2 ^ 8 + 1 := by
  have packed := PBHExternalNullifier.toNat_packed (show 64 ≤ 64 by decide) nullifier.version.toByte nullifier.nonce
    nullifier.month nullifier.year
  rw [Prefix.toNat_toByte] at packed
  rw [encoded, BitVec.toNat_setWidth, packed, Nat.mod_eq_of_lt]
  have := nullifier.year.isLt
  have := nullifier.month.isLt
  have := nullifier.nonce.isLt
  omega

theorem encoded_of_tryFrom (read : tryFrom value = .ok nullifier) : nullifier.encoded = value := by
  obtain ⟨small, version, year, month, nonce⟩ := tryFrom_eq_ok.mp read
  apply BitVec.eq_of_toNat_eq
  rw [toNat_encoded, year, month, nonce]
  omega

end ExternalNullifier

namespace PBHExternalNullifier

variable {calendar : Calendar} {timestamp : ℕ} {value signalHash : U256} {limit : BitVec 16}

theorem toNat_decode (value : U256) : (decode value).1.toNat = value.toNat % 2 ^ 8 ∧
    (decode value).2.1.toNat = value.toNat / 2 ^ 8 % 2 ^ 16 ∧ (decode value).2.2.1.toNat = value.toNat / 2 ^ 24 % 2 ^ 8 ∧
    (decode value).2.2.2.toNat = value.toNat / 2 ^ 32 % 2 ^ 16 := by
  refine ⟨?_, ?_, ?_, ?_⟩
  · rw [decode, BitVec.toNat_setWidth, toNat_and_mask _ 8 _ rfl, Nat.mod_mod]
  · rw [decode, BitVec.toNat_setWidth, toNat_and_mask _ 16 _ rfl, toNat_shiftRight, Nat.mod_mod]
  · rw [decode, BitVec.toNat_setWidth, toNat_and_mask _ 8 _ rfl, toNat_shiftRight, Nat.mod_mod]
  · rw [decode, BitVec.toNat_setWidth, toNat_and_mask _ 16 _ rfl, toNat_shiftRight, Nat.mod_mod]

theorem tryFrom_iff_decode {nullifier : ExternalNullifier} : ExternalNullifier.tryFrom value = .ok nullifier ↔
    value.toNat ≤ 2 ^ 48 - 1 ∧ decode value = (v1, nullifier.nonce, nullifier.month, nullifier.year) := by
  obtain ⟨version, nonce, month, year⟩ := toNat_decode value
  rw [ExternalNullifier.tryFrom_eq_ok, Prod.ext_iff, Prod.ext_iff, Prod.ext_iff]
  simp only [← BitVec.toNat_inj, version, nonce, month, year]
  change _ ↔ _ ∧ _ = 1 ∧ _
  omega

theorem verify_eq_ok : verify calendar timestamp value limit signalHash = .ok () ↔ ∃ nullifier,
    ExternalNullifier.tryFrom value = .ok nullifier ∧ nullifier.dateMarker = calendar.dateMarker timestamp ∧
      nullifier.nonce < limit := by
  simp only [tryFrom_iff_decode, ExternalNullifier.dateMarker, Calendar.dateMarker, DateMarker.mk.injEq, Nat.cast_inj]
  simp only [verify, bind_eq_ok, revertIf_eq_ok, Unique.exists_iff, not_not]
  generalize decode value = fields
  obtain ⟨version, nonce, month, year⟩ := fields
  constructor
  · rintro ⟨small, rfl, isYear, isMonth, below⟩
    exact ⟨⟨.v1, year, month, nonce⟩, ⟨small, rfl⟩, ⟨isYear, isMonth⟩, below⟩
  · rintro ⟨nullifier, ⟨small, same⟩, ⟨isYear, isMonth⟩, below⟩
    obtain ⟨rfl, rfl, rfl, rfl⟩ := same
    exact ⟨small, rfl, isYear, isMonth, below⟩

end PBHExternalNullifier

end WorldChain.Pbh
