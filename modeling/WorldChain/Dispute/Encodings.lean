import WorldChain.Dispute.Opening
import WorldChain.Lib.ByteMemory

/-! # What the services encode is what the contracts read

The services write a lane's proof as the lane, the recipient and the proof bytes packed together, and a proposal as
four words.
-/

namespace WorldChain.Dispute

open Machine ByteMemory

abbrev Word := BitVec 256

/-! ## The assembly of `decodeCompact` -/

namespace Yul

def mload (memory : Memory) (address : Word) : Word := BitVec.ofNat 256 (load memory 32 address.toNat)

def mstore (memory : Memory) (address value : Word) : Memory := store memory 32 address.toNat value.toNat

def calldataSlice (calldata : Bytes) (offset length : ℕ) : Bytes :=
  ((calldata.drop offset).take length).rightpad length 0

def calldataload (calldata : Bytes) (offset : Word) : Word :=
  BitVec.ofNat 256 (BigEndian.ofBytes (calldataSlice calldata offset.toNat 32))

def calldatacopy (memory : Memory) (calldata : Bytes) (destination offset length : Word) : Memory :=
  write memory destination.toNat (calldataSlice calldata offset.toNat length.toNat)

/-- `byte(0, word)`. -/
def byteZero (word : Word) : Word := word >>> 248

def decodeCompact (memory : Memory) (calldata : Bytes) (offset length decoded : Word) : Memory :=
  let header := calldataload calldata offset
  let memory := mstore memory decoded (byteZero header)
  let memory := mstore memory (decoded + 0x20) ((header <<< 8) >>> 96)
  let length := length - BitVec.ofNat 256 proofHeaderLength
  let payload := mload memory 0x40
  let memory := mstore memory payload length
  let memory := calldatacopy memory calldata (payload + 0x20) (offset + BitVec.ofNat 256 proofHeaderLength) length
  let memory := mstore memory 0x40 (payload + ((length + 0x3f) &&& ~~~0x1f#256))
  mstore memory (decoded + 0x40) payload

end Yul

/-- `encode_compact_proof`. -/
def encodeCompactProof (lane : ProofLane) (recipient : Address) (proof : Bytes) : Bytes :=
  UInt8.ofNat lane.toNat :: BigEndian.toBytes 20 recipient.toNat ++ proof

/-- The struct was allocated between the reserved words and the free memory pointer, and what is allocated next stays
within the address space. -/
structure Allocated (memory : Memory) (decoded payload : Word) (length : ℕ) : Prop where
  pointer : Yul.mload memory 0x40 = payload
  reserved : 0x60 ≤ decoded.toNat
  struct : decoded.toNat + 0x60 ≤ payload.toNat
  addressable : payload.toNat + 0x40 + length < 2 ^ 256

/-- The struct at `decoded` and the string it points to hold the compact proof, the free memory pointer is the next word
boundary, and no other byte has changed. -/
structure DecodedInto (before after : Memory) (decoded payload : Word) (compact : CompactProof) : Prop where
  laneId : (Yul.mload after decoded).toNat = compact.laneId
  recipient : Yul.mload after (decoded + 0x20) = compact.recipient.setWidth 256
  pointer : Yul.mload after (decoded + 0x40) = payload
  length : (Yul.mload after payload).toNat = compact.proof.length
  proof : read after (payload.toNat + 0x20) compact.proof.length = compact.proof
  free : ∃ words, (Yul.mload after 0x40).toNat = payload.toNat + 0x20 * (words + 1) ∧
    compact.proof.length ≤ 0x20 * words ∧ 0x20 * words < compact.proof.length + 0x20
  frame : ∀ address,
    ¬(0x40 ≤ address ∧ address < 0x60) →
    ¬(decoded.toNat ≤ address ∧ address < decoded.toNat + 0x60) →
    ¬(payload.toNat ≤ address ∧ address < payload.toNat + 0x20 + compact.proof.length) →
    after address = before address

/-! ## The header and the copied bytes -/

namespace Yul

section Memory

variable {memory : Memory} {address other value : Word}

theorem mload_mstore : mload (mstore memory address value) address = value := by
  rw [mload, mstore, load_store (value.isLt.trans_eq (by norm_num)), BitVec.ofNat_toNat, BitVec.setWidth_eq]

theorem mload_mstore_of_disjoint
    (apart : other.toNat + 0x20 ≤ address.toNat ∨ address.toNat + 0x20 ≤ other.toNat) :
    mload (mstore memory address value) other = mload memory other := by
  rw [mload, mstore, load_store_of_disjoint apart, mload]

end Memory

section Calldata

variable {calldata : Bytes}

@[simp] theorem length_calldataSlice (offset length : ℕ) : (calldataSlice calldata offset length).length = length := by
  simp [calldataSlice]

theorem take_calldataSlice (calldata : Bytes) {offset length count : ℕ} (within : count ≤ length)
    (present : offset + count ≤ calldata.length) :
    (calldataSlice calldata offset length).take count = (calldata.drop offset).take count := by
  have enough : count ≤ ((calldata.drop offset).take length).length := by
    rw [List.length_take, List.length_drop]
    omega
  rw [calldataSlice, List.rightpad, List.take_append_of_le_length enough, List.take_take, Nat.min_eq_left within]

theorem toNat_calldataload (offset : Word) :
    (calldataload calldata offset).toNat = BigEndian.ofBytes (calldataSlice calldata offset.toNat 32) := by
  have bound := BigEndian.ofBytes_lt (calldataSlice calldata offset.toNat 32)
  rw [length_calldataSlice] at bound
  rw [calldataload, BitVec.toNat_ofNat, Nat.mod_eq_of_lt (bound.trans_eq (by norm_num))]

theorem toNat_byteZero {offset : Word} (present : offset.toNat + 21 ≤ calldata.length) :
    (byteZero (calldataload calldata offset)).toNat = BigEndian.wordAt 1 calldata offset.toNat := by
  have quotient := (BigEndian.ofBytes_div_mod (calldataSlice calldata offset.toNat 32) 31 (by simp)).1
  rw [length_calldataSlice, take_calldataSlice _ (by decide) (by omega)] at quotient
  rw [byteZero, BitVec.toNat_ushiftRight, toNat_calldataload, Nat.shiftRight_eq_div_pow, BigEndian.wordAt, ← quotient]
  norm_num

theorem toNat_recipient {offset : Word} (present : offset.toNat + 21 ≤ calldata.length) :
    ((calldataload calldata offset <<< 8) >>> 96).toNat = BigEndian.wordAt 20 calldata (offset.toNat + 1) := by
  have rest := (BigEndian.ofBytes_div_mod (calldataSlice calldata offset.toNat 32) 31 (by simp)).2
  rw [length_calldataSlice] at rest
  have middle := (BigEndian.ofBytes_div_mod ((calldataSlice calldata offset.toNat 32).drop 1) 11 (by simp)).1
  rw [List.length_drop, length_calldataSlice, ← rest, List.take_drop, take_calldataSlice _ (by decide) (by omega),
    List.drop_take, List.drop_drop] at middle
  rw [BitVec.toNat_ushiftRight, BitVec.toNat_shiftLeft, toNat_calldataload, Nat.shiftRight_eq_div_pow,
    Nat.shiftLeft_eq, BigEndian.wordAt, ← middle]
  generalize BigEndian.ofBytes (calldataSlice calldata offset.toNat 32) = header
  -- A byte is lost at the top, and twelve at the bottom, one of them the zero shifted in.
  have shifted : header * 2 ^ 8 % 2 ^ 256 = header % 256 ^ 31 * 2 ^ 8 := by
    rw [show (2 : ℕ) ^ 256 = 256 ^ 31 * 2 ^ 8 by norm_num, Nat.mul_mod_mul_right]
  rw [shifted, show (2 : ℕ) ^ 96 = 256 ^ 11 * 2 ^ 8 by norm_num, Nat.mul_div_mul_right _ _ (by norm_num)]

theorem calldataSlice_eq {front compact back : Bytes} {count : ℕ} (within : count ≤ compact.length) :
    calldataSlice (front ++ compact ++ back) (front.length + count) (compact.length - count) = compact.drop count := by
  have present : front.length + count + (compact.length - count) ≤ (front ++ compact ++ back).length := by
    simp only [List.length_append]
    omega
  have whole := take_calldataSlice (front ++ compact ++ back) le_rfl present
  rw [List.take_of_length_le (by simp)] at whole
  rw [whole, List.append_assoc, ← List.drop_drop, List.drop_left, List.drop_append_of_le_length within,
    List.take_left' (by simp)]

end Calldata

theorem toNat_and_not_low (word : Word) : (word &&& ~~~0x1f#256).toNat = word.toNat / 0x20 * 0x20 := by
  have cleared : word &&& ~~~0x1f#256 = (word >>> 5) <<< 5 := by
    apply BitVec.eq_of_getLsbD_eq
    intro index inside
    have low : Nat.testBit 0x1f index = decide (index < 5) := Nat.testBit_two_pow_sub_one 5 index
    rw [BitVec.getLsbD_and, BitVec.getLsbD_not, BitVec.getLsbD_ofNat, low, BitVec.getLsbD_shiftLeft,
      BitVec.getLsbD_ushiftRight]
    by_cases small : index < 5
    · simp [small]
    · simp [small, inside, Nat.add_sub_cancel' (not_lt.mp small)]
  have bound : word.toNat / 0x20 * 0x20 < 2 ^ 256 := (Nat.div_mul_le_self ..).trans_lt word.isLt
  rw [cleared, BitVec.toNat_shiftLeft, BitVec.toNat_ushiftRight, Nat.shiftRight_eq_div_pow, Nat.shiftLeft_eq,
    Nat.mod_eq_of_lt bound]

theorem toNat_add_of_lt {word other : Word} (fits : word.toNat + other.toNat < 2 ^ 256) :
    (word + other).toNat = word.toNat + other.toNat := by
  rw [BitVec.toNat_add, Nat.mod_eq_of_lt fits]

end Yul

/-! ## Decoding into memory -/

section Decoding

open Yul

variable {memory : Memory} {front compact back : Bytes} {offset length decoded payload : Word}

theorem wordAt_calldata (width position : ℕ) (within : position + width ≤ compact.length) :
    BigEndian.wordAt width (front ++ compact ++ back) (front.length + position) =
      BigEndian.wordAt width compact position := by
  rw [BigEndian.wordAt, BigEndian.wordAt, List.append_assoc, ← List.drop_drop, List.drop_left,
    List.drop_append_of_le_length (by omega), List.take_append_of_le_length (by rw [List.length_drop]; omega)]

variable (back) in
theorem decodeCompact_eq (allocated : Allocated memory decoded payload (compact.length - proofHeaderLength))
    (header : proofHeaderLength ≤ compact.length) (starts : offset.toNat = front.length)
    (spans : length.toNat = compact.length) (bounded : front.length + compact.length < 2 ^ 256) :
    ∃ lane recipient size free : Word,
      lane.toNat = (decodeCompact compact).laneId ∧
      recipient = (decodeCompact compact).recipient.setWidth 256 ∧
      size.toNat = (decodeCompact compact).proof.length ∧
      free.toNat = payload.toNat + (size.toNat + 0x3f) / 0x20 * 0x20 ∧
      Yul.decodeCompact memory (front ++ compact ++ back) offset length decoded =
        store (store (write (store (store (store memory 32 decoded.toNat lane.toNat) 32 (decoded.toNat + 0x20)
          recipient.toNat) 32 payload.toNat size.toNat) (payload.toNat + 0x20) (decodeCompact compact).proof)
          32 0x40 free.toNat) 32 (decoded.toNat + 0x40) payload.toNat := by
  have reserved := allocated.reserved
  have struct := allocated.struct
  have addressable := allocated.addressable
  simp only [proofHeaderLength] at header addressable
  have present : offset.toNat + 21 ≤ (front ++ compact ++ back).length := by
    simp only [List.length_append]
    omega
  have shift (distance : Word) (small : distance.toNat ≤ 0x40) :
      (decoded + distance).toNat = decoded.toNat + distance.toNat := toNat_add_of_lt (by omega)
  have size : (length - BitVec.ofNat 256 proofHeaderLength).toNat = compact.length - 21 := by
    rw [BitVec.toNat_sub_of_le (BitVec.le_def.mpr (by rw [spans]; exact header)), spans]
    rfl
  refine ⟨byteZero (calldataload (front ++ compact ++ back) offset),
    (calldataload (front ++ compact ++ back) offset <<< 8) >>> 96, length - BitVec.ofNat 256 proofHeaderLength,
    payload + ((length - BitVec.ofNat 256 proofHeaderLength + 0x3f) &&& ~~~0x1f#256), ?_, ?_, ?_, ?_, ?_⟩
  · rw [toNat_byteZero present, starts]
    exact wordAt_calldata 1 0 (by omega)
  · apply BitVec.eq_of_toNat_eq
    have small := BigEndian.wordAt_lt 20 compact 1
    rw [toNat_recipient present, starts, wordAt_calldata 20 1 (by omega), BitVec.toNat_setWidth, decodeCompact,
      BitVec.toNat_ofNat, Nat.mod_eq_of_lt (a := BigEndian.wordAt 20 compact 1) (by omega), Nat.mod_eq_of_lt (by omega)]
  · rw [size, decodeCompact, List.length_drop, proofHeaderLength]
  · have more : (length - BitVec.ofNat 256 proofHeaderLength + 0x3f).toNat = compact.length - 21 + 0x3f := by
      rw [toNat_add_of_lt (by rw [size]; change _ + 0x3f < _; omega), size]
      rfl
    have rounded := toNat_and_not_low (length - BitVec.ofNat 256 proofHeaderLength + 0x3f)
    rw [more] at rounded
    rw [toNat_add_of_lt (by rw [rounded]; omega), rounded, size]
  · have copied : calldataSlice (front ++ compact ++ back) (offset + BitVec.ofNat 256 proofHeaderLength).toNat
        (length - BitVec.ofNat 256 proofHeaderLength).toNat = (decodeCompact compact).proof := by
      rw [size, toNat_add_of_lt (by rw [starts]; change _ + 21 < _; omega), starts]
      exact calldataSlice_eq header
    have pointer (lane recipient : Word) :
        mload (mstore (mstore memory decoded lane) (decoded + 0x20) recipient) 0x40 = payload := by
      rw [mload_mstore_of_disjoint, mload_mstore_of_disjoint, allocated.pointer]
      · exact .inl reserved
      · rw [shift 0x20 (by decide)]
        exact .inl (reserved.trans (Nat.le_add_right ..))
    simp only [Yul.decodeCompact, pointer]
    rw [calldatacopy, copied, toNat_add_of_lt (by change _ + 0x20 < _; omega)]
    simp only [mstore, shift 0x20 (by decide), shift 0x40 (by decide)]
    rfl

variable (compact back) in
theorem decodedInto (allocated : Allocated memory decoded payload (compact.length - proofHeaderLength))
    (header : proofHeaderLength ≤ compact.length) (starts : offset.toNat = front.length)
    (spans : length.toNat = compact.length) (bounded : front.length + compact.length < 2 ^ 256) :
    DecodedInto memory (Yul.decodeCompact memory (front ++ compact ++ back) offset length decoded) decoded payload
      (decodeCompact compact) := by
  obtain ⟨lane, recipient, size, free, laneEq, recipientEq, sizeEq, freeEq, written⟩ :=
    decodeCompact_eq back allocated header starts spans bounded
  have reserved := allocated.reserved
  have struct := allocated.struct
  have addressable := allocated.addressable
  have sized : (decodeCompact compact).proof.length = compact.length - proofHeaderLength := List.length_drop
  have second : (decoded + 0x20).toNat = decoded.toNat + 0x20 := toNat_add_of_lt (by change _ + 0x20 < _; omega)
  have third : (decoded + 0x40).toNat = decoded.toNat + 0x40 := toNat_add_of_lt (by change _ + 0x40 < _; omega)
  have reservedWord : (0x40 : Word).toNat = 0x40 := rfl
  have whole (value : Word) (place : ℕ) (memory : Memory) :
      BitVec.ofNat 256 (load (store memory 32 place value.toNat) 32 place) = value := by
    rw [load_store (value.isLt.trans_eq (by norm_num)), BitVec.ofNat_toNat, BitVec.setWidth_eq]
  rw [written]
  -- Every field is found under the writes that came after it, all of them elsewhere.
  constructor
  · simp (disch := omega) only [mload, load_store_of_disjoint, load_write_of_disjoint]
    rw [whole, laneEq]
  · simp (disch := omega) only [mload, second, load_store_of_disjoint, load_write_of_disjoint]
    rw [whole, recipientEq]
  · rw [mload, third, whole]
  · simp (disch := omega) only [mload, load_store_of_disjoint, load_write_of_disjoint]
    rw [whole, sizeEq]
  · simp (disch := omega) only [read_store_of_disjoint]
    exact read_write ..
  · refine ⟨(size.toNat + 0x1f) / 0x20, ?_, by omega, by omega⟩
    simp (disch := omega) only [mload, reservedWord, load_store_of_disjoint]
    rw [whole, freeEq]
    omega
  · intro address pointer outside beyond
    simp (disch := omega) only [store_of_outside, write_of_outside]

end Decoding

theorem length_encodeCompactProof (lane : ProofLane) (recipient : Address) (proof : Bytes) :
    (encodeCompactProof lane recipient proof).length = proofHeaderLength + proof.length := by
  simp only [encodeCompactProof, List.length_cons, List.length_append, BigEndian.toBytes_length, proofHeaderLength]

theorem decodeCompact_encodeCompactProof (lane : ProofLane) (recipient : Address) (proof : Bytes) :
    decodeCompact (encodeCompactProof lane recipient proof) = ⟨lane.toNat, recipient, proof⟩ := by
  have written := BigEndian.ofBytes_toBytes 20 recipient.toNat (recipient.isLt.trans_eq (by norm_num))
  have first : BigEndian.wordAt 1 (encodeCompactProof lane recipient proof) 0 = lane.toNat := by
    cases lane <;> rfl
  rw [decodeCompact, first]
  simp only [encodeCompactProof, proofHeaderLength, BigEndian.wordAt, List.drop_succ_cons, List.drop_zero,
    List.cons_append]
  rw [List.take_left' (BigEndian.toBytes_length ..), List.drop_left' (BigEndian.toBytes_length ..), written,
    BitVec.ofNat_toNat, BitVec.setWidth_eq]

/-! ## Proposals -/

/-- Per-proposal commitment fields. -/
structure ProposalCommitment where
  parentRef : Address
  rootClaim : Bytes32
  l2BlockNumber : BitVec 64
  attempt : BitVec 64
deriving DecidableEq, Repr

namespace ProposalCommitment

/-- `(domain_hash, U256::from(l2_block_number), parent_ref, U256::from(attempt)).abi_encode_params()`. -/
def extraData (commitment : ProposalCommitment) (domainHash : Bytes32) : Bytes :=
  abiEncode [domainHash.toNat, commitment.l2BlockNumber.toNat, commitment.parentRef.toNat, commitment.attempt.toNat]

/-- `(MULTI_PROOF_GAME_TYPE, root_claim, extra_data).abi_encode_params()`: the bytes stand behind the words, padded. -/
def uuidPreimage (commitment : ProposalCommitment) (domainHash : Bytes32) : Bytes :=
  let data := commitment.extraData domainHash
  abiEncode [multiProofGameType, commitment.rootClaim.toNat, 0x60, data.length] ++ data ++ Deployment.padding data

def gameUuid (keccak256 : Bytes → Bytes32) (commitment : ProposalCommitment) (domainHash : Bytes32) : Bytes32 :=
  keccak256 (commitment.uuidPreimage domainHash)

variable {commitment other : ProposalCommitment} {domainHash otherHash : Bytes32}

theorem extraData_eq : commitment.extraData domainHash =
    World.encodeExtraData domainHash commitment.l2BlockNumber.toNat commitment.parentRef commitment.attempt.toNat := rfl

variable (commitment domainHash) in
theorem length_extraData : (commitment.extraData domainHash).length = 128 := by
  simp [extraData, abiEncode, BigEndian.encode]

theorem word_lt {width : ℕ} (narrow : width ≤ 256) (field : BitVec width) : field.toNat < 256 ^ 32 :=
  field.isLt.trans_le ((Nat.pow_le_pow_right (by decide) narrow).trans_eq (by norm_num))

theorem extraData_inj (same : commitment.extraData domainHash = other.extraData otherHash) :
    domainHash = otherHash ∧ commitment.l2BlockNumber = other.l2BlockNumber ∧
      commitment.parentRef = other.parentRef ∧ commitment.attempt = other.attempt := by
  obtain ⟨domain, number, parent, attempt⟩ := World.encodeExtraData_inj (word_lt (by decide) _)
    (word_lt (by decide) _) (word_lt (by decide) _) (word_lt (by decide) _) same
  exact ⟨domain, BitVec.eq_of_toNat_eq number, parent, BitVec.eq_of_toNat_eq attempt⟩

theorem uuidPreimage_inj (same : commitment.uuidPreimage domainHash = other.uuidPreimage otherHash) :
    domainHash = otherHash ∧ commitment = other := by
  have aligned (commitment : ProposalCommitment) (domainHash : Bytes32) :
      Deployment.padding (commitment.extraData domainHash) = [] := by
    rw [Deployment.padding, length_extraData]
    rfl
  simp only [uuidPreimage, aligned, List.append_nil, length_extraData] at same
  obtain ⟨words, data⟩ := List.append_inj same (by simp [abiEncode, BigEndian.encode])
  have fits (claim : Bytes32) : ∀ word ∈ [multiProofGameType, claim.toNat, 0x60, 128], word < 256 ^ 32 := by
    have := claim.isLt
    simp only [List.mem_cons, List.not_mem_nil, or_false, forall_eq_or_imp, forall_eq, multiProofGameType]
    omega
  have claim := BigEndian.encode_inj (fits commitment.rootClaim) (fits other.rootClaim) rfl words
  simp only [List.cons.injEq, and_true, true_and] at claim
  obtain ⟨domain, number, parent, attempt⟩ := extraData_inj data
  cases commitment
  cases other
  simp_all [BitVec.toNat_inj]

end ProposalCommitment

def CloneArgs.getArgUint256 (args : CloneArgs) (offset : ℕ) : ℕ := BigEndian.wordAt 32 args.packed offset

theorem CloneArgs.getArgUint256_eq (args : CloneArgs) (offset : ℕ) :
    args.getArgUint256 (0x54 + offset) = BigEndian.wordAt 32 args.extraData offset := by
  have leading : (BigEndian.toBytes 20 args.gameCreator.toNat ++ BigEndian.toBytes 32 args.rootClaim.toNat ++
      BigEndian.toBytes 32 args.l1Head.toNat).length = 0x54 := by
    simp
  rw [getArgUint256, BigEndian.wordAt, packed, packedArgs, ← List.drop_drop, List.drop_left' leading, BigEndian.wordAt]

namespace ProposalCommitment

variable (commitment : ProposalCommitment) (domainHash : Bytes32)

theorem getters (args : CloneArgs) (written : args.extraData = commitment.extraData domainHash) :
    (args.getArgUint256 0x54 = domainHash.toNat ∧ args.proposalDomainHash = domainHash) ∧
      (args.getArgUint256 0x74 = commitment.l2BlockNumber.toNat ∧
        args.l2SequenceNumber = commitment.l2BlockNumber.toNat) ∧
      (args.getArgUint256 0x94 = commitment.parentRef.toNat ∧ args.parentRef = .ok commitment.parentRef) ∧
      (args.getArgUint256 0xB4 = commitment.attempt.toNat ∧ args.attempt = commitment.attempt.toNat) ∧
      (commitment.attempt ≠ 0 →
        World.encodeExtraData args.proposalDomainHash args.l2SequenceNumber commitment.parentRef (args.attempt - 1) =
          { commitment with attempt := commitment.attempt - 1 }.extraData domainHash) := by
  have number : commitment.l2BlockNumber.toNat ≤ uint64Max := Nat.le_sub_one_of_lt commitment.l2BlockNumber.isLt
  have count : commitment.attempt.toNat ≤ uint64Max := Nat.le_sub_one_of_lt commitment.attempt.isLt
  obtain ⟨-, domain, parent, sequence, attempt⟩ := CloneArgs.fields_of_encode written number count
  refine ⟨⟨?_, domain⟩, ⟨?_, sequence⟩, ⟨?_, parent⟩, ⟨?_, attempt⟩, fun retried => ?_⟩
  · rw [← domain, CloneArgs.proposalDomainHash_toNat]
    exact args.getArgUint256_eq 0x00
  · rw [← sequence]
    exact args.getArgUint256_eq 0x20
  · rw [CloneArgs.parentRef_toNat parent]
    exact args.getArgUint256_eq 0x40
  · rw [← attempt]
    exact args.getArgUint256_eq 0x60
  · have positive : 1#64 ≤ commitment.attempt := by
      rw [BitVec.le_def]
      exact Nat.one_le_iff_ne_zero.mpr fun zero => retried (BitVec.eq_of_toNat_eq zero)
    rw [domain, sequence, attempt, extraData_eq]
    exact congrArg (World.encodeExtraData _ _ _) (BitVec.toNat_sub_of_le positive).symm

end ProposalCommitment

/-- A compact proof is decoded as what it was made of, and a clone reads a commitment back from its extra data. Services
and factory file it under the same UUID. -/
theorem encodings_agree :
    (∀ (lane : ProofLane) (recipient : Address) (proof : Bytes) (memory : Memory) (front back : Bytes)
        (offset length decoded payload : Word),
      Allocated memory decoded payload proof.length →
      offset.toNat = front.length →
      length.toNat = (encodeCompactProof lane recipient proof).length →
      front.length + (encodeCompactProof lane recipient proof).length < 2 ^ 256 →
      DecodedInto memory
        (Yul.decodeCompact memory (front ++ encodeCompactProof lane recipient proof ++ back) offset length decoded)
        decoded payload ⟨lane.toNat, recipient, proof⟩) ∧
    (∀ (domainHash : Bytes32) (commitment : ProposalCommitment) (args : CloneArgs),
      args.extraData = commitment.extraData domainHash →
      (args.getArgUint256 0x54 = domainHash.toNat ∧ args.proposalDomainHash = domainHash) ∧
      (args.getArgUint256 0x74 = commitment.l2BlockNumber.toNat ∧
        args.l2SequenceNumber = commitment.l2BlockNumber.toNat) ∧
      (args.getArgUint256 0x94 = commitment.parentRef.toNat ∧ args.parentRef = .ok commitment.parentRef) ∧
      (args.getArgUint256 0xB4 = commitment.attempt.toNat ∧ args.attempt = commitment.attempt.toNat) ∧
      (commitment.attempt ≠ 0 →
        World.encodeExtraData args.proposalDomainHash args.l2SequenceNumber commitment.parentRef (args.attempt - 1) =
          { commitment with attempt := commitment.attempt - 1 }.extraData domainHash)) ∧
    ∀ (deployment : Deployment) (domainHash otherHash : Bytes32) (commitment other : ProposalCommitment),
      commitment.gameUuid deployment.keccak256 domainHash =
        deployment.gameUUID multiProofGameType commitment.rootClaim (commitment.extraData domainHash) ∧
      ((deployment.keccak256 (commitment.uuidPreimage domainHash) =
          deployment.keccak256 (other.uuidPreimage otherHash) →
        commitment.uuidPreimage domainHash = other.uuidPreimage otherHash) →
      commitment ≠ other →
        commitment.gameUuid deployment.keccak256 domainHash ≠ other.gameUuid deployment.keccak256 otherHash) := by
  refine ⟨?_, ?_, ?_⟩
  · intro lane recipient proof memory front back offset length decoded payload allocated starts spans bounded
    have sized := length_encodeCompactProof lane recipient proof
    have whole := decodedInto (encodeCompactProof lane recipient proof) back
      (by rwa [sized, Nat.add_sub_cancel_left]) (by rw [sized]; omega) starts spans bounded
    rwa [decodeCompact_encodeCompactProof] at whole
  · intro domainHash commitment args written
    exact commitment.getters domainHash args written
  · intro deployment domainHash otherHash commitment other
    refine ⟨rfl, fun free different same => different ?_⟩
    exact (ProposalCommitment.uuidPreimage_inj (free same)).2

theorem sample_proof_is_decoded :
    Allocated (Yul.mstore (fun _ => 0) 0x40 0xe0) 0x80 0xe0 3 ∧
      DecodedInto (Yul.mstore (fun _ => 0) 0x40 0xe0)
        (Yul.decodeCompact (Yul.mstore (fun _ => 0) 0x40 0xe0)
          ([9] ++ encodeCompactProof .securityCouncil 15 [1, 2, 3] ++ [7]) 1 24 0x80)
        0x80 0xe0 ⟨2, 15, [1, 2, 3]⟩ := by
  have allocated : Allocated (Yul.mstore (fun _ => 0) 0x40 0xe0) 0x80 0xe0 3 :=
    ⟨Yul.mload_mstore, by decide, by decide, by decide⟩
  exact ⟨allocated, encodings_agree.1 .securityCouncil 15 [1, 2, 3] _ [9] [7] 1 24 0x80 0xe0 allocated rfl (by decide)
    (by decide)⟩

end WorldChain.Dispute
