import WorldChain.Dispute.Types

/-! # Proof lanes, compact payloads and public values

`LibProof`: the bitmap of accepted lanes with one bit per lane, the header of a submitted payload, and the commitments
the lanes are verified against. The hash is a parameter of every definition that uses it; nothing here depends on which
hash it is.
-/

namespace WorldChain.Dispute

/-- `LibProof.PROOF_SYSTEM_VERSION`. -/
def proofSystemVersion : ℕ := 1

def proofHeaderLength : ℕ := 21

namespace ProofLane

/-- The lanes in the order of their ids. -/
def all : List ProofLane := [.validityProof, .teeAttestation, .securityCouncil]

def toNat : ProofLane → ℕ
  | .validityProof => 0
  | .teeAttestation => 1
  | .securityCouncil => 2

/-- The lane of an id below `PROOF_LANE_COUNT`. -/
def ofNat? : ℕ → Option ProofLane
  | 0 => some .validityProof
  | 1 => some .teeAttestation
  | 2 => some .securityCouncil
  | _ => none

/-- The single-bit bitmap of a lane. -/
def mask (lane : ProofLane) : BitVec 8 := 1#8 <<< lane.toNat

theorem mem_all (lane : ProofLane) : lane ∈ all := by
  cases lane <;> decide

theorem all_nodup : all.Nodup := by decide

end ProofLane

/-- `LibProof.PROOF_LANE_COUNT`. -/
def proofLaneCount : ℕ := 3

abbrev Bitmap := BitVec 8

namespace Bitmap

/-- Whether `lane` has already been accepted. -/
def has (bitmap : Bitmap) (lane : ProofLane) : Bool := bitmap &&& lane.mask != 0#8

/-- `bitmap` with `lane` accepted. -/
def set (bitmap : Bitmap) (lane : ProofLane) : Bitmap := bitmap ||| lane.mask

def count (bitmap : Bitmap) : ℕ := ProofLane.all.countP bitmap.has

def hasThreshold (bitmap : Bitmap) (threshold : ℕ) : Bool := decide (threshold ≤ bitmap.count)

@[simp] theorem has_zero (lane : ProofLane) : has 0#8 lane = false := by
  cases lane <;> rfl

@[simp] theorem count_zero : count 0#8 = 0 := by decide

theorem has_eq_getLsbD (bitmap : Bitmap) (lane : ProofLane) : bitmap.has lane = bitmap.getLsbD lane.toNat := by
  revert bitmap
  cases lane <;> decide

@[simp] theorem has_set (bitmap : Bitmap) (lane other : ProofLane) :
    (bitmap.set lane).has other = (bitmap.has other || decide (other = lane)) := by
  simp only [has_eq_getLsbD, set, ProofLane.mask, BitVec.getLsbD_or]
  cases lane <;> cases other <;> simp [ProofLane.toNat]

theorem count_set {bitmap : Bitmap} {lane : ProofLane} (fresh : bitmap.has lane = false) :
    (bitmap.set lane).count = bitmap.count + 1 := by
  simp only [count, ProofLane.all, List.countP_cons, List.countP_nil, has_set]
  cases lane <;> simp [fresh] <;> omega

/-- The accepted lanes, in the order of their ids. -/
def lanes (bitmap : Bitmap) : List ProofLane := ProofLane.all.filter bitmap.has

@[simp] theorem mem_lanes {bitmap : Bitmap} {lane : ProofLane} : lane ∈ bitmap.lanes ↔ bitmap.has lane = true := by
  simp [lanes, ProofLane.mem_all]

@[simp] theorem lanes_length (bitmap : Bitmap) : bitmap.lanes.length = bitmap.count :=
  (List.countP_eq_length_filter ..).symm

end Bitmap

/-- A decoded `submitProofLane` payload. -/
structure CompactProof where
  laneId : ℕ
  recipient : Address
  proof : Bytes
deriving DecidableEq, Repr

def decodeCompact (compact : Bytes) : CompactProof where
  laneId := BigEndian.wordAt 1 compact 0
  recipient := BitVec.ofNat 160 (BigEndian.wordAt 20 compact 1)
  proof := compact.drop proofHeaderLength

/-- The public values shared by the transition proof lanes. -/
structure TransitionPublicValues where
  l1Head : Bytes32
  l2PreRoot : Bytes32
  l2PreBlockNumber : BitVec 64
  l2PostRoot : Bytes32
  l2PostBlockNumber : BitVec 64
  rollupConfigHash : Bytes32
deriving DecidableEq, Repr

namespace TransitionPublicValues

/-- The words `abi.encode` writes for the struct. -/
def words (values : TransitionPublicValues) : List ℕ :=
  [values.l1Head.toNat, values.l2PreRoot.toNat, values.l2PreBlockNumber.toNat, values.l2PostRoot.toNat,
    values.l2PostBlockNumber.toNat, values.rollupConfigHash.toNat]

end TransitionPublicValues

section Commitments

variable (keccak256 : Bytes → Bytes32)

def domainHash (chainId proofSystemVersion : ℕ) (rollupConfigHash : Bytes32) (blockInterval : ℕ) : Bytes32 :=
  keccak256 (abiEncode [chainId, proofSystemVersion, rollupConfigHash.toNat, blockInterval])

def rootId (domainHash : Bytes32) (parentRef : Address) (rootClaim : Bytes32) (l2BlockNumber : ℕ)
    (l1OriginHash : Bytes32) (l1OriginNumber : ℕ) : Bytes32 :=
  keccak256 (abiEncode [domainHash.toNat, parentRef.toNat, rootClaim.toNat, l2BlockNumber,
    l1OriginHash.toNat, l1OriginNumber])

end Commitments

structure Deployment where
  keccak256 : Bytes → Bytes32
  predictDeterministicAddress : (implementation : Address) → (args : Bytes) → (salt : Bytes32) →
    (deployer : Address) → Address
  disputeGameFactory : Address
  anchorStateRegistry : Address
  systemConfig : Address
  bondVault : Address
  l2ChainId : ℕ
  delaySeconds : ℕ

namespace Deployment

def padding (data : Bytes) : Bytes :=
  List.replicate ((32 - data.length % 32) % 32) 0

def gameUUID (deployment : Deployment) (gameType : ℕ) (rootClaim : Bytes32) (extraData : Bytes) : Bytes32 :=
  deployment.keccak256 (abiEncode [gameType, rootClaim.toNat, 0x60, extraData.length] ++
    extraData ++ padding extraData)

end Deployment

end WorldChain.Dispute
