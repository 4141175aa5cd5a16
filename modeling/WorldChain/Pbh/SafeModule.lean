import WorldChain.Pbh.EntryPoint

/-! # Signatures of priority operations

A bundler simulates a priority operation with its proof behind the signatures, and the operation is executed without
it.
-/

namespace WorldChain.Pbh

open Machine

inductive SignatureError
  | invalidSignatureLength (expected actual : ℕ)
  | invalidProofSize
  | panic
deriving DecidableEq, Repr

namespace SafeModuleSignatures

def ecdsaSignatureLength : ℕ := 65

def timestampBytes : ℕ := 12

def proofDataLength : ℕ := 352

def word (bytes : Bytes) (offset : ℕ) : ℕ := BigEndian.ofBytes (((bytes.drop offset).take 32).rightpad 32 0)

def wordFrom (bytes : Bytes) (offset : ℕ) : Except SignatureError ℕ := do
  revertIf (bytes.length < offset) .panic
  return word bytes offset

def byteAt (bytes : Bytes) (position : ℕ) : Except SignatureError UInt8 :=
  match bytes[position]? with
  | some byte => .ok byte
  | none => .error .panic

def signatureOffset (signatures : Bytes) (i : ℕ) : ℕ := word signatures (i * ecdsaSignatureLength + 0x20)

def addSignature (signatures : Bytes) (expectedLength i : ℕ) : Except SignatureError ℕ := do
  let signaturePos := i * ecdsaSignatureLength
  let signatureType ← byteAt signatures (signaturePos + 0x40)
  if signatureType = 0 then
    let signatureOffset ← wordFrom signatures (signaturePos + 0x20)
    let length ← wordFrom signatures signatureOffset
    let dynamicLength ← checked .panic (0x20 + length)
    checked .panic (expectedLength + dynamicLength)
  else
    return expectedLength

def signatureLength (signatures : Bytes) (threshold : ℕ) : Except SignatureError ℕ := do
  let expectedLength ← checked .panic (ecdsaSignatureLength * threshold)
  revertIf (signatures.length < expectedLength) (.invalidSignatureLength expectedLength signatures.length)
  (List.range threshold).foldlM (addSignature signatures) expectedLength

def extractProof (signatures : Bytes) (threshold : ℕ) : Except SignatureError (Bytes × Bytes) := do
  let least := timestampBytes + ecdsaSignatureLength + proofDataLength
  revertIf (signatures.length < least) (.invalidSignatureLength least signatures.length)
  let signaturesLength ← signatureLength (signatures.drop timestampBytes) threshold
  let length ← checked .panic (timestampBytes + signaturesLength)
  let total ← checked .panic (length + proofDataLength)
  revertIf (signatures.length ≠ total) (.invalidSignatureLength total signatures.length)
  return (signatures.take length, (signatures.drop length).take proofDataLength)

/-! ## Dynamic parts -/

def Contained (signatures : Bytes) (threshold : ℕ) : Prop :=
  ∀ i < threshold, signatures[i * ecdsaSignatureLength + 0x40]? = some 0 →
    signatureOffset signatures i + 0x20 + word signatures (signatureOffset signatures i) ≤ signatures.length

section Dynamic

variable {signatures : Bytes} {threshold offset : ℕ} (rest : Bytes)

theorem word_append (within : offset + 0x20 ≤ signatures.length) :
    word (signatures ++ rest) offset = word signatures offset := by
  rw [word, word, List.drop_append_of_le_length (by omega),
    List.take_append_of_le_length (by rw [List.length_drop]; omega)]

variable {i : ℕ}

theorem signatureOffset_append (fixed : ecdsaSignatureLength * threshold ≤ signatures.length)
    (signer : i < threshold) : signatureOffset (signatures ++ rest) i = signatureOffset signatures i := by
  apply word_append
  simp only [ecdsaSignatureLength] at fixed ⊢
  omega

theorem signatureType_append (fixed : ecdsaSignatureLength * threshold ≤ signatures.length) (signer : i < threshold) :
    (signatures ++ rest)[i * ecdsaSignatureLength + 0x40]? =
      signatures[i * ecdsaSignatureLength + 0x40]? := by
  apply List.getElem?_append_left
  simp only [ecdsaSignatureLength] at fixed ⊢
  omega

theorem wordFrom_eq (start : offset ≤ signatures.length) :
    wordFrom signatures offset = .ok (word signatures offset) := by
  rw [wordFrom, revertIf, if_neg (not_lt.mpr start)]
  rfl

theorem addSignature_of_contract {expectedLength : ℕ}
    (isContract : signatures[i * ecdsaSignatureLength + 0x40]? = some 0)
    (fixed : i * ecdsaSignatureLength + 0x20 ≤ signatures.length) :
    addSignature signatures expectedLength i = (do
      let length ← wordFrom signatures (signatureOffset signatures i)
      let dynamicLength ← checked .panic (0x20 + length)
      checked .panic (expectedLength + dynamicLength)) := by
  rw [addSignature, byteAt, isContract, wordFrom_eq fixed]
  rfl

theorem addSignature_of_owner {expectedLength : ℕ} {byte : UInt8}
    (read : signatures[i * ecdsaSignatureLength + 0x40]? = some byte) (other : byte ≠ 0) :
    addSignature signatures expectedLength i = .ok expectedLength := by
  rw [addSignature, byteAt, read]
  exact if_neg other

section

variable (fixed : ecdsaSignatureLength * threshold ≤ signatures.length)

include fixed

theorem Contained.append (contained : Contained signatures threshold) : Contained (signatures ++ rest) threshold := by
  intro i signer isContract
  rw [signatureType_append rest fixed signer] at isContract
  have within := contained i signer isContract
  rw [signatureOffset_append rest fixed signer, word_append rest (by omega), List.length_append]
  omega

theorem addSignature_append {expectedLength i : ℕ} (contained : Contained signatures threshold)
    (signer : i < threshold) :
    addSignature (signatures ++ rest) expectedLength i = addSignature signatures expectedLength i := by
  have typed := signatureType_append rest fixed signer
  have position : i * ecdsaSignatureLength + 0x40 < signatures.length := by
    simp only [ecdsaSignatureLength] at fixed ⊢
    omega
  by_cases isContract : signatures[i * ecdsaSignatureLength + 0x40]? = some 0
  · have within := contained i signer isContract
    rw [addSignature_of_contract (typed.trans isContract) (by rw [List.length_append]; omega),
      addSignature_of_contract isContract (by omega), signatureOffset_append rest fixed signer,
      wordFrom_eq (by rw [List.length_append]; omega), wordFrom_eq (by omega), word_append rest (by omega)]
  · have read := List.getElem?_eq_getElem position
    have other : signatures[i * ecdsaSignatureLength + 0x40] ≠ 0 := fun zero => isContract (by rw [read, zero])
    rw [addSignature_of_owner (typed.trans read) other, addSignature_of_owner read other]

theorem signatureLength_of_fixed :
    signatureLength signatures threshold = (do
      let expectedLength ← checked .panic (ecdsaSignatureLength * threshold)
      (List.range threshold).foldlM (addSignature signatures) expectedLength) := by
  rw [signatureLength, checked]
  split
  · change (do revertIf (signatures.length < ecdsaSignatureLength * threshold) _; _) = _
    rw [revertIf, if_neg (not_lt.mpr fixed)]
    rfl
  · rfl

theorem signatureLength_append (contained : Contained signatures threshold) :
    signatureLength (signatures ++ rest) threshold = signatureLength signatures threshold := by
  rw [signatureLength_of_fixed fixed, signatureLength_of_fixed (by rw [List.length_append]; omega)]
  refine bind_congr fun expectedLength => foldlM_congr ?_ expectedLength
  intro length i signer
  exact addSignature_append rest fixed contained (List.mem_range.mp signer)

end

theorem fixed_of_signatureLength {length : ℕ} (measured : signatureLength signatures threshold = .ok length) :
    ecdsaSignatureLength * threshold ≤ signatures.length ∧ ecdsaSignatureLength * threshold ≤ length := by
  simp only [signatureLength, bind_eq_ok, checked_eq_ok, revertIf_eq_ok] at measured
  obtain ⟨_, ⟨-, rfl⟩, _, fixed, rounds⟩ := measured
  refine ⟨not_lt.mp fixed, foldlM_invariant rounds le_rfl ?_⟩
  intro before after i _ least added
  simp only [addSignature, bind_eq_ok] at added
  obtain ⟨byte, -, added⟩ := added
  split at added
  · simp only [bind_eq_ok, checked_eq_ok] at added
    obtain ⟨_, -, _, -, _, -, -, rfl⟩ := added
    omega
  · rw [pure_eq_ok] at added
    omega

theorem extractProof_eq_ok {stripped proof : Bytes}
    (extracted : extractProof signatures threshold = .ok (stripped, proof)) :
    signatures = stripped ++ proof ∧ proof.length = proofDataLength ∧ timestampBytes ≤ stripped.length ∧
      signatureLength (signatures.drop timestampBytes) threshold = .ok (stripped.length - timestampBytes) := by
  simp only [extractProof, bind_eq_ok, pure_eq_ok, checked_eq_ok, revertIf_eq_ok, not_ne_iff,
    Prod.mk.injEq] at extracted
  obtain ⟨_, -, length, measured, _, ⟨-, rfl⟩, _, ⟨-, rfl⟩, _, exact, rfl, rfl⟩ := extracted
  have kept : (signatures.take (timestampBytes + length)).length = timestampBytes + length := by
    rw [List.length_take]
    omega
  have tail : (signatures.drop (timestampBytes + length)).length = proofDataLength := by
    rw [List.length_drop]
    omega
  rw [kept, List.take_of_length_le tail.le, List.take_append_drop]
  exact ⟨rfl, tail, by omega, by rw [Nat.add_sub_cancel_left, measured]⟩

end Dynamic

end SafeModuleSignatures

open SafeModuleSignatures

/-! ## The module -/

/-- Who vouches for an operation, and when it is valid. -/
structure ValidationData where
  authorizer : Address
  validAfter : BitVec 48
  validUntil : BitVec 48
deriving DecidableEq, Repr

/-- `validAfter || validUntil || authorizer`. -/
def ValidationData.pack (data : ValidationData) : U256 := data.validAfter ++ data.validUntil ++ data.authorizer

theorem ValidationData.toNat_pack (data : ValidationData) : data.pack.toNat =
    (data.validAfter.toNat * 2 ^ 48 + data.validUntil.toNat) * 2 ^ 160 + data.authorizer.toNat := by
  rw [pack, BitVec.toNat_append, BitVec.toNat_append, ← Nat.shiftLeft_add_eq_or_of_lt data.authorizer.isLt,
    ← Nat.shiftLeft_add_eq_or_of_lt data.validUntil.isLt, Nat.shiftLeft_eq, Nat.shiftLeft_eq]

theorem ValidationData.pack_injective : Function.Injective ValidationData.pack := by
  rintro ⟨authorizer, validAfter, validUntil⟩ ⟨authorizer', validAfter', validUntil'⟩ same
  have packed := congrArg BitVec.toNat same
  simp only [toNat_pack] at packed
  have := authorizer.isLt
  have := authorizer'.isLt
  have := validUntil.isLt
  have := validUntil'.isLt
  rw [ValidationData.mk.injEq]
  refine ⟨?_, ?_, ?_⟩ <;> apply BitVec.eq_of_toNat_eq <;> omega

/-- What the account of an operation answers. A call of `checkSignatures` that reverts is caught. -/
structure Safe where
  getThreshold : ℕ
  checkSignatures : (operationData signatures : Bytes) → Bool

structure PBHSafe4337Module where
  pbhSignatureAggregator : Address
  pbhNonceKey : BitVec 40
  operationData : (userOp : PackedUserOperation) → (validAfter validUntil : BitVec 48) → Bytes
  checkSignaturesLength : (signatures : Bytes) → (threshold : ℕ) → Except SignatureError Bool
  aggregator_ne_zero : pbhSignatureAggregator ≠ 0
  aggregator_ne_one : pbhSignatureAggregator ≠ 1
  nonceKey_ne_zero : pbhNonceKey ≠ 0

namespace PBHSafe4337Module

variable (deployed : PBHSafe4337Module) (safe : Safe) (userOp : PackedUserOperation)

def validAfterOf (signature : Bytes) : BitVec 48 := BitVec.ofNat 48 (BigEndian.ofBytes (signature.take 6))

def validUntilOf (signature : Bytes) : BitVec 48 := BitVec.ofNat 48 (BigEndian.ofBytes ((signature.drop 6).take 6))

def getSafeOp : Except SignatureError (Bytes × BitVec 48 × BitVec 48 × Bytes) := do
  revertIf (userOp.signature.length < timestampBytes) .panic
  let validAfter := validAfterOf userOp.signature
  let validUntil := validUntilOf userOp.signature
  return (deployed.operationData userOp validAfter validUntil, validAfter, validUntil,
    userOp.signature.drop timestampBytes)

def isPBH : Bool :=
  let key : BitVec 192 := (userOp.nonce >>> 64).setWidth 192
  key >>> 152 = deployed.pbhNonceKey.setWidth 192

/-- What is decided once the signatures are found. -/
def judge (isPBH : Bool) (operationData : Bytes) (validAfter validUntil : BitVec 48) (signatures : Bytes) :
    Except SignatureError U256 := do
  let lengthIsValid ← deployed.checkSignaturesLength signatures safe.getThreshold
  let validSignature := lengthIsValid && safe.checkSignatures operationData signatures
  let authorizer := if isPBH && validSignature then deployed.pbhSignatureAggregator else if validSignature then 0 else 1
  return ValidationData.pack { authorizer, validAfter, validUntil }

def validateSignatures : Except SignatureError U256 := do
  let (operationData, validAfter, validUntil, signatures) ← deployed.getSafeOp userOp
  let isPBH := deployed.isPBH userOp
  let threshold := safe.getThreshold
  let signaturesLength ← signatureLength (userOp.signature.drop timestampBytes) threshold
  let expectedLength ← checked .panic (timestampBytes + signaturesLength)
  if isPBH ∧ expectedLength < userOp.signature.length then do
    revertIf (userOp.signature.length - expectedLength ≠ proofDataLength) .invalidProofSize
    deployed.judge safe isPBH operationData validAfter validUntil
      ((userOp.signature.take expectedLength).drop timestampBytes)
  else
    deployed.judge safe isPBH operationData validAfter validUntil signatures

/-- The answer that names the aggregator. -/
def aggregated (validAfter validUntil : BitVec 48) : U256 :=
  ValidationData.pack { authorizer := deployed.pbhSignatureAggregator, validAfter, validUntil }

/-- The data of an operation does not depend on its signatures, and the two checks do not both pass when a contract
signature has its dynamic part outside the bytes. -/
structure Assumed : Prop where
  operationData_eq : ∀ userOp signature validAfter validUntil,
    deployed.operationData { userOp with signature } validAfter validUntil =
      deployed.operationData userOp validAfter validUntil
  contained : ∀ operationData signatures, deployed.checkSignaturesLength signatures safe.getThreshold = .ok true →
    safe.checkSignatures operationData signatures = true → Contained signatures safe.getThreshold

section Agreement

variable {deployed} {safe} {userOp} {operationData signatures stripped proof : Bytes}
variable {validAfter validUntil since expiry : BitVec 48}

theorem judge_eq_ok : deployed.judge safe true operationData validAfter validUntil signatures =
    .ok (deployed.aggregated since expiry) ↔
      deployed.checkSignaturesLength signatures safe.getThreshold = .ok true ∧
        safe.checkSignatures operationData signatures = true ∧ validAfter = since ∧ validUntil = expiry := by
  have packed (authorizer : Address) : ValidationData.pack ⟨authorizer, validAfter, validUntil⟩ =
      deployed.aggregated since expiry ↔
        authorizer = deployed.pbhSignatureAggregator ∧ validAfter = since ∧ validUntil = expiry := by
    rw [aggregated, ValidationData.pack_injective.eq_iff, ValidationData.mk.injEq]
  have marked : 1#160 ≠ deployed.pbhSignatureAggregator := deployed.aggregator_ne_one.symm
  simp only [judge, bind_eq_ok, pure_eq_ok, packed]
  cases deployed.checkSignaturesLength signatures safe.getThreshold with
  | error raised => simp
  | ok lengthIsValid =>
    cases lengthIsValid <;> cases safe.checkSignatures operationData signatures <;> simp [marked]

theorem contained_of_judge (assumed : deployed.Assumed safe)
    (judged : deployed.judge safe true operationData validAfter validUntil signatures =
      .ok (deployed.aggregated since expiry)) : Contained signatures safe.getThreshold := by
  obtain ⟨lengthIsValid, checked, -, -⟩ := judge_eq_ok.mp judged
  exact assumed.contained operationData signatures lengthIsValid checked

theorem validateSignatures_eq_ok {answer : U256} (pbh : deployed.isPBH userOp = true) :
    deployed.validateSignatures safe userOp = .ok answer ↔
      ∃ length, timestampBytes ≤ userOp.signature.length ∧
        signatureLength (userOp.signature.drop timestampBytes) safe.getThreshold = .ok length ∧
        timestampBytes + length < 2 ^ 256 ∧
        (timestampBytes + length < userOp.signature.length →
          userOp.signature.length = timestampBytes + length + proofDataLength) ∧
        deployed.judge safe true
          (deployed.operationData userOp (validAfterOf userOp.signature) (validUntilOf userOp.signature))
          (validAfterOf userOp.signature) (validUntilOf userOp.signature)
          ((userOp.signature.drop timestampBytes).take length) = .ok answer := by
  simp only [validateSignatures, getSafeOp, bind_eq_ok, revertIf_eq_ok, pure_eq_ok, checked_eq_ok, pbh, true_and]
  constructor
  · rintro ⟨_, ⟨_, enough, rfl⟩, length, measured, _, ⟨fits, rfl⟩, judged⟩
    refine ⟨length, not_lt.mp enough, measured, fits, ?_⟩
    split at judged
    case isTrue longer =>
      simp only [bind_eq_ok, revertIf_eq_ok, not_ne_iff] at judged
      obtain ⟨_, exact, judged⟩ := judged
      rw [List.drop_take, Nat.add_sub_cancel_left] at judged
      exact ⟨fun _ => by omega, judged⟩
    case isFalse whole =>
      rw [List.take_of_length_le (by rw [List.length_drop]; omega)]
      exact ⟨fun longer => absurd longer whole, judged⟩
  · rintro ⟨length, enough, measured, fits, exact, judged⟩
    refine ⟨_, ⟨(), not_lt.mpr enough, rfl⟩, length, measured, _, ⟨fits, rfl⟩, ?_⟩
    split
    case isTrue longer =>
      simp only [bind_eq_ok, revertIf_eq_ok, not_ne_iff]
      refine ⟨(), ?_, ?_⟩
      · have := exact longer
        omega
      · rw [List.drop_take, Nat.add_sub_cancel_left]
        exact judged
    case isFalse whole =>
      rw [List.take_of_length_le (by rw [List.length_drop]; omega)] at judged
      exact judged

theorem timestamps_append (proof : Bytes) (enough : timestampBytes ≤ stripped.length) :
    validAfterOf (stripped ++ proof) = validAfterOf stripped ∧
      validUntilOf (stripped ++ proof) = validUntilOf stripped := by
  rw [timestampBytes] at enough
  rw [validAfterOf, validUntilOf, List.take_append_of_le_length (by omega), List.drop_append_of_le_length (by omega),
    List.take_append_of_le_length (by rw [List.length_drop]; omega)]
  exact ⟨rfl, rfl⟩

/-- The proof is the end of the signature, and the aggregator is named for the operation with it exactly where it is
named for the operation without it. -/
theorem validateSignatures_agree (assumed : deployed.Assumed safe) (pbh : deployed.isPBH userOp = true)
    (extracted : extractProof userOp.signature safe.getThreshold = .ok (stripped, proof)) :
    userOp.signature = stripped ++ proof ∧ proof.length = proofDataLength ∧ ∀ validAfter validUntil,
      deployed.validateSignatures safe userOp = .ok (deployed.aggregated validAfter validUntil) ↔
        deployed.validateSignatures safe { userOp with signature := stripped } =
          .ok (deployed.aggregated validAfter validUntil) := by
  obtain ⟨whole, proofLength, enough, measured⟩ := extractProof_eq_ok extracted
  refine ⟨whole, proofLength, fun validAfter validUntil => ?_⟩
  obtain ⟨sameAfter, sameUntil⟩ := timestamps_append proof enough
  have isStripped : (stripped.drop timestampBytes).length = stripped.length - timestampBytes := List.length_drop
  have dropped : userOp.signature.drop timestampBytes = stripped.drop timestampBytes ++ proof := by
    rw [whole, List.drop_append_of_le_length enough]
  rw [dropped] at measured
  obtain ⟨-, fixed⟩ := fixed_of_signatureLength measured
  have pbhStripped : deployed.isPBH { userOp with signature := stripped } = true := pbh
  rw [validateSignatures_eq_ok pbh, validateSignatures_eq_ok pbhStripped]
  simp only [assumed.operationData_eq, dropped, measured, Except.ok.injEq]
  rw [whole, sameAfter, sameUntil]
  constructor
  · rintro ⟨_, -, rfl, fits, -, judged⟩
    rw [List.take_left' isStripped] at judged
    have contained := contained_of_judge assumed judged
    refine ⟨stripped.length - timestampBytes, enough, ?_, fits, fun longer => by omega, ?_⟩
    · rw [← signatureLength_append proof (by omega) contained, measured]
    · rw [List.take_of_length_le isStripped.le]
      exact judged
  · rintro ⟨length, -, again, fits, -, judged⟩
    -- The dynamic parts are within the bytes that were judged, so the proof has no part in the length.
    obtain ⟨_, least⟩ := fixed_of_signatureLength again
    have contained := (contained_of_judge assumed judged).append ((stripped.drop timestampBytes).drop length)
      (by rw [List.length_take]; omega)
    rw [List.take_append_drop] at contained
    rw [← signatureLength_append proof (by omega) contained, measured, Except.ok.injEq] at again
    subst again
    refine ⟨_, by rw [List.length_append]; omega, rfl, fits, fun _ => by rw [List.length_append]; omega, ?_⟩
    rw [List.take_left' isStripped]
    rw [List.take_of_length_le isStripped.le] at judged
    exact judged

def sampleSafe : Safe :=
  { getThreshold := 2
    checkSignatures := fun _ signatures => (List.range 2).all fun i =>
      signatures[i * ecdsaSignatureLength + 0x40]? ≠ some 0 ∨
        signatureOffset signatures i + 0x20 + word signatures (signatureOffset signatures i) ≤ signatures.length }

def sampleModule : PBHSafe4337Module :=
  { pbhSignatureAggregator := 0xa99
    pbhNonceKey := 0x7062687478
    operationData := fun userOp _ _ => userOp.callData
    checkSignaturesLength := fun signatures threshold => .ok (ecdsaSignatureLength * threshold ≤ signatures.length)
    aggregator_ne_zero := by decide
    aggregator_ne_one := by decide
    nonceKey_ne_zero := by decide }

/-- An owner's signature, and one of a contract whose dynamic part comes after both. -/
def sampleSignature : Bytes := List.replicate 6 1 ++ List.replicate 6 2 ++ List.replicate 65 27 ++
  (List.replicate 32 3 ++ BigEndian.toBytes 32 130 ++ [0]) ++ (BigEndian.toBytes 32 3 ++ [4, 5, 6])

def sampleUserOp : PackedUserOperation :=
  { sender := 3
    nonce := 0x7062687478 <<< 216
    initCode := []
    callData := []
    accountGasLimits := 0
    preVerificationGas := 0
    gasFees := 0
    paymasterAndData := []
    signature := sampleSignature ++ List.replicate proofDataLength 9 }

theorem sampleModule_assumed : sampleModule.Assumed sampleSafe where
  operationData_eq _ _ _ _ := rfl
  contained operationData signatures _ accepted i signer isContract := by
    have each := of_decide_eq_true (List.all_eq_true.mp accepted i (List.mem_range.mpr signer))
    exact each.resolve_left (not_not.mpr isContract)

theorem sampleUserOp_executes : sampleModule.validateSignatures sampleSafe
    { sampleUserOp with signature := sampleSignature } =
      .ok (sampleModule.aggregated 0x010101010101 0x020202020202) := by
  have extracted : extractProof sampleUserOp.signature sampleSafe.getThreshold =
      .ok (sampleSignature, List.replicate proofDataLength 9) := by decide +kernel
  refine ((validateSignatures_agree sampleModule_assumed (by decide) extracted).2.2 _ _).mp ?_
  decide +kernel

end Agreement

end PBHSafe4337Module

end WorldChain.Pbh
