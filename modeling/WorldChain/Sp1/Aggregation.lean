import WorldChain.Dispute.LibProof
import WorldChain.Lib.Checks
import WorldChain.ProverService.Store

/-! # Aggregating range proofs

The guest program takes the public values of range proofs, checks that neighbours fit together, verifies each proof,
and walks back through the supplied L1 headers until it has seen the L1 head of every range.
-/

namespace WorldChain.Sp1

open Machine Table Dispute
open ProverService (ProofRequest)

/-- The verifying key of the range program. -/
abbrev Vkey := Vector (BitVec 32) 8

/-- The words of the key, each in four bytes. -/
def Vkey.bytes (vkey : Vkey) : List UInt8 := BigEndian.encode 4 (vkey.toList.map BitVec.toNat)

/-- The key as the guest commits it. -/
def Vkey.toB256 (vkey : Vkey) : Bytes32 := BitVec.ofNat 256 (BigEndian.ofBytes vkey.bytes)

/-- Code outside the repository: hashes and encodings, and the verifier of the zkVM, which accepts proven values alone.
-/
structure Zkvm (Header Proof Digest : Type) where
  hashSlow : Header → Bytes32
  parentHash : Header → Bytes32
  toVec : List Header → List UInt8
  fromSlice : List UInt8 → Option (List Header)
  fromSlice_toVec : ∀ headers, fromSlice (toVec headers) = some headers
  digest : TransitionPublicValues → Digest
  verifySp1Proof : Vkey → Digest → Proof → Bool
  Proven : Vkey → TransitionPublicValues → Prop
  proven_of_verify : ∀ vkey values proof, verifySp1Proof vkey (digest values) proof = true → Proven vkey values

structure AggregationInputs where
  transitionPublicValues : List TransitionPublicValues
  latestL1CheckpointHead : Bytes32
  multiBlockVkey : Vkey

structure AggregationPublicValues where
  transitionPublicValues : TransitionPublicValues
  multiBlockVKey : Bytes32
deriving DecidableEq, Repr

/-- The assertions of the guest program. -/
inductive GuestPanic
  | headersEncoding
  | noTransitions
  | postRoot (previous current : Bytes32)
  | postBlockNumber (previous current : BitVec 64)
  | rollupConfigHash (previous current : Bytes32)
  | proof
  | headerHash (expected actual : Bytes32)
  | l1HeadNotFound
deriving DecidableEq, Repr

/-! ## The guest program -/

namespace Guest

def checkPair (previous current : TransitionPublicValues) : Except GuestPanic Unit := do
  revertIf (previous.l2PostRoot ≠ current.l2PreRoot) (.postRoot previous.l2PostRoot current.l2PreRoot)
  revertIf (previous.l2PostBlockNumber ≠ current.l2PreBlockNumber)
    (.postBlockNumber previous.l2PostBlockNumber current.l2PreBlockNumber)
  revertIf (previous.rollupConfigHash ≠ current.rollupConfigHash)
    (.rollupConfigHash previous.rollupConfigHash current.rollupConfigHash)

abbrev L1HeadsMap := Finmap fun _ : Bytes32 => Bool

def l1HeadsMap (values : List TransitionPublicValues) : L1HeadsMap :=
  values.foldl (fun heads entry => heads.insert entry.l1Head false) ∅

variable {Header Proof Digest : Type} (zkvm : Zkvm Header Proof Digest)

def verifyTransitions (vkey : Vkey) : List TransitionPublicValues → List Proof → Except GuestPanic Unit
  | [], _ => .ok ()
  | _ :: _, [] => .error .proof
  | values :: rest, proof :: proofs => do
    revertIf (zkvm.verifySp1Proof vkey (zkvm.digest values) proof = false) .proof
    verifyTransitions vkey rest proofs

def visit (state : L1HeadsMap × Bytes32) (header : Header) : Except GuestPanic (L1HeadsMap × Bytes32) := do
  revertIf (state.2 ≠ zkvm.hashSlow header) (.headerHash state.2 (zkvm.hashSlow header))
  pure (adjust state.2 (fun _ => true) state.1, zkvm.parentHash header)

/-- What the program commits. -/
def main (inputs : AggregationInputs) (headersBytes : List UInt8) (proofs : List Proof) :
    Except GuestPanic AggregationPublicValues :=
  match zkvm.fromSlice headersBytes with
  | none => .error .headersEncoding
  | some headers =>
    match inputs.transitionPublicValues.head?, inputs.transitionPublicValues.getLast? with
    | some first, some last => do
      forPairs checkPair inputs.transitionPublicValues
      verifyTransitions zkvm inputs.multiBlockVkey inputs.transitionPublicValues proofs
      let walked ← headers.reverse.foldlM (visit zkvm) (l1HeadsMap inputs.transitionPublicValues, inputs.latestL1CheckpointHead)
      revertIf ((select (fun _ found => !found) walked.1).Nonempty) .l1HeadNotFound
      pure ⟨⟨inputs.latestL1CheckpointHead, first.l2PreRoot, first.l2PreBlockNumber, last.l2PostRoot, last.l2PostBlockNumber,
        last.rollupConfigHash⟩, inputs.multiBlockVkey.toB256⟩
    | _, _ => .error .noTransitions

end Guest

/-! ## The worker -/

structure RangeProofArtifact (Proof : Type) where
  transitionPublicValues : TransitionPublicValues
  proof : Proof

inductive RangeArtifactsError
  | noRangeProofs
  | preBlockMismatch (expected actual : BitVec 64)
  | notChained (previousBlock : BitVec 64) (previousRoot : Bytes32) (currentBlock : BitVec 64) (currentRoot : Bytes32)
  | l1HeadMismatch (expected actual : Bytes32)
  | rollupConfigHashMismatch (expected actual : Bytes32)
  | postRootMismatch (expected actual : Bytes32)
  | blockMismatch (expected : ℕ) (actual : BitVec 64)
deriving DecidableEq, Repr

inductive ArtifactMismatch
  | postRoot (expected actual : Bytes32)
  | blockNumber (expected : ℕ) (actual : BitVec 64)
  | l1Head (expected actual : Bytes32)
deriving DecidableEq, Repr

/-- What the provers turn into the input of the guest, with their own verifying key. -/
structure AggregationSessionRequest (Proof : Type) where
  transitionPublicValues : List TransitionPublicValues
  latestL1CheckpointHead : Bytes32
  l1HeadersCbor : List UInt8
  rangeProofs : List Proof

/-- An L1 node, which gives the header that has the hash. -/
structure L1Rpc {Header Proof Digest : Type} (zkvm : Zkvm Header Proof Digest) where
  fetchL1HeaderByHash : Bytes32 → Option Header
  hash_of_fetch : ∀ hash header, fetchL1HeaderByHash hash = some header → zkvm.hashSlow header = hash

namespace Worker

variable {Header Proof Digest : Type}

def checkChained (previous current : RangeProofArtifact Proof) : Except RangeArtifactsError Unit :=
  let before := previous.transitionPublicValues
  let after := current.transitionPublicValues
  revertIf (before.l2PostRoot ≠ after.l2PreRoot ∨ before.l2PostBlockNumber ≠ after.l2PreBlockNumber)
    (.notChained before.l2PostBlockNumber before.l2PostRoot after.l2PreBlockNumber after.l2PreRoot)

def checkPinned (rollupConfigHash : Bytes32) (request : ProofRequest) (artifact : RangeProofArtifact Proof) :
    Except RangeArtifactsError Unit := do
  let values := artifact.transitionPublicValues
  revertIf (values.l1Head ≠ request.l1Head) (.l1HeadMismatch request.l1Head values.l1Head)
  revertIf (values.rollupConfigHash ≠ rollupConfigHash) (.rollupConfigHashMismatch rollupConfigHash values.rollupConfigHash)

def validateRangeArtifacts (rollupConfigHash : Bytes32) (startBlock : BitVec 64) (request : ProofRequest)
    (ranges : List (RangeProofArtifact Proof)) : Except RangeArtifactsError Unit :=
  match ranges.head?, ranges.getLast? with
  | some first, some last => do
    let pre := first.transitionPublicValues
    let post := last.transitionPublicValues
    revertIf (pre.l2PreBlockNumber ≠ startBlock) (.preBlockMismatch startBlock pre.l2PreBlockNumber)
    forPairs checkChained ranges
    forEach (checkPinned rollupConfigHash request) ranges
    revertIf (post.l2PostRoot ≠ request.rootClaim) (.postRootMismatch request.rootClaim post.l2PostRoot)
    revertIf (post.l2PostBlockNumber.toNat ≠ request.l2BlockNumber) (.blockMismatch request.l2BlockNumber post.l2PostBlockNumber)
  | _, _ => .error .noRangeProofs

def buildAggregationRequest {zkvm : Zkvm Header Proof Digest} (rpc : L1Rpc zkvm) (request : ProofRequest)
    (ranges : List (RangeProofArtifact Proof)) : Option (AggregationSessionRequest Proof) :=
  match rpc.fetchL1HeaderByHash request.l1Head with
  | none => none
  | some l1Header => some
    { transitionPublicValues := ranges.map (·.transitionPublicValues)
      latestL1CheckpointHead := request.l1Head
      l1HeadersCbor := zkvm.toVec [l1Header]
      rangeProofs := ranges.map (·.proof) }

def aggregate (zkvm : Zkvm Header Proof Digest) (vkey : Vkey) (request : AggregationSessionRequest Proof) :
    Except GuestPanic AggregationPublicValues :=
  Guest.main zkvm ⟨request.transitionPublicValues, request.latestL1CheckpointHead, vkey⟩ request.l1HeadersCbor request.rangeProofs

def checkArtifact (request : ProofRequest) (publicValues : AggregationPublicValues) : Except ArtifactMismatch Unit := do
  let transition := publicValues.transitionPublicValues
  revertIf (transition.l2PostRoot ≠ request.rootClaim) (.postRoot request.rootClaim transition.l2PostRoot)
  revertIf (transition.l2PostBlockNumber.toNat ≠ request.l2BlockNumber)
    (.blockNumber request.l2BlockNumber transition.l2PostBlockNumber)
  revertIf (transition.l1Head ≠ request.l1Head) (.l1Head request.l1Head transition.l1Head)

end Worker

/-! ## The committed key -/

namespace Vkey

theorem bytes_length (vkey : Vkey) : vkey.bytes.length = 32 := by
  simp [bytes, BigEndian.encode, List.length_flatMap, Function.comp_def]

theorem toBytes_toB256 (vkey : Vkey) : BigEndian.toBytes 32 vkey.toB256.toNat = vkey.bytes := by
  have small : BigEndian.ofBytes vkey.bytes < 2 ^ 256 := by
    have bound := BigEndian.ofBytes_lt vkey.bytes
    rw [bytes_length] at bound
    exact bound
  have whole := BigEndian.toBytes_ofBytes vkey.bytes
  rw [bytes_length] at whole
  rw [toB256, BitVec.toNat_ofNat, Nat.mod_eq_of_lt small, whole]

theorem words_lt (vkey : Vkey) : ∀ word ∈ vkey.toList.map BitVec.toNat, word < 256 ^ 4 := by
  intro word member
  obtain ⟨entry, _, rfl⟩ := List.mem_map.mp member
  exact entry.isLt

theorem toB256_injective : Function.Injective toB256 := by
  intro vkey other same
  have written : vkey.bytes = other.bytes := by rw [← toBytes_toB256, ← toBytes_toB256, same]
  have words := BigEndian.encode_inj vkey.words_lt other.words_lt (by simp) written
  exact Vector.toList_inj.mp (List.map_injective_iff.mpr (fun _ _ => BitVec.eq_of_toNat_eq) words)

end Vkey

/-! ## What the guest has checked -/

namespace Guest

variable {Header Proof Digest : Type} {zkvm : Zkvm Header Proof Digest} {inputs : AggregationInputs}
  {headersBytes : List UInt8} {headers : List Header} {proofs : List Proof} {values : AggregationPublicValues}
  {transitions : List TransitionPublicValues} {vkey : Vkey} {latest : Bytes32} {state after : L1HeadsMap × Bytes32}

def Follows (previous current : TransitionPublicValues) : Prop :=
  previous.l2PostRoot = current.l2PreRoot ∧ previous.l2PostBlockNumber = current.l2PreBlockNumber

theorem checkPair_eq_ok {previous current : TransitionPublicValues} :
    checkPair previous current = .ok () ↔ Follows previous current ∧ previous.rollupConfigHash = current.rollupConfigHash := by
  simp [checkPair, Follows, and_assoc]

theorem main_eq_ok : main zkvm inputs headersBytes proofs = .ok values ↔
    ∃ headers first last walked, zkvm.fromSlice headersBytes = some headers ∧
      inputs.transitionPublicValues.head? = some first ∧ inputs.transitionPublicValues.getLast? = some last ∧
      inputs.transitionPublicValues.IsChain (fun previous current =>
        Follows previous current ∧ previous.rollupConfigHash = current.rollupConfigHash) ∧
      verifyTransitions zkvm inputs.multiBlockVkey inputs.transitionPublicValues proofs = .ok () ∧
      headers.reverse.foldlM (visit zkvm) (l1HeadsMap inputs.transitionPublicValues, inputs.latestL1CheckpointHead) =
        .ok walked ∧
      (∀ head, walked.1.lookup head ≠ some false) ∧
      ⟨⟨inputs.latestL1CheckpointHead, first.l2PreRoot, first.l2PreBlockNumber, last.l2PostRoot, last.l2PostBlockNumber,
        last.rollupConfigHash⟩, inputs.multiBlockVkey.toB256⟩ = values := by
  have all (heads : L1HeadsMap) : ¬ (select (fun _ found => !found) heads).Nonempty ↔ ∀ head, heads.lookup head ≠ some false := by
    simp [Finset.not_nonempty_iff_eq_empty, Finset.eq_empty_iff_forall_notMem]
  rw [main]
  cases zkvm.fromSlice headersBytes with
  | none => simp
  | some headers =>
    cases inputs.transitionPublicValues.head? with
    | none => simp
    | some first =>
      cases inputs.transitionPublicValues.getLast? with
      | none => simp
      | some last =>
        simp only [bind_eq_ok, revertIf_eq_ok, pure_eq_ok, Unique.exists_iff, PUnit.default_eq_unit, forPairs_eq_ok,
          checkPair_eq_ok, all, Option.some.injEq, exists_and_left, exists_eq_left', ↓existsAndEq, true_and]

theorem proven_of_verifyTransitions (verified : verifyTransitions zkvm vkey transitions proofs = .ok ()) :
    ∀ transition ∈ transitions, zkvm.Proven vkey transition := by
  induction transitions generalizing proofs with
  | nil => simp
  | cons first rest ih =>
    cases proofs with
    | nil => cases verified
    | cons proof proofs =>
      simp only [verifyTransitions, bind_eq_ok, revertIf_eq_ok, Bool.not_eq_false] at verified
      obtain ⟨_, accepted, others⟩ := verified
      intro transition member
      rcases List.mem_cons.mp member with rfl | later
      · exact zkvm.proven_of_verify vkey transition proof accepted
      · exact ih others transition later

/-! ### The walk -/

def Links (zkvm : Zkvm Header Proof Digest) (headers : List Header) (child parent : Bytes32) : Prop :=
  ∃ header ∈ headers, zkvm.hashSlow header = child ∧ zkvm.parentHash header = parent

theorem visit_eq_ok {header : Header} : visit zkvm state header = .ok after ↔
    state.2 = zkvm.hashSlow header ∧ (adjust state.2 (fun _ => true) state.1, zkvm.parentHash header) = after := by
  simp [visit]

/-- The walk is at an ancestor of the latest head, and has found ancestors of it alone. -/
structure Walking (zkvm : Zkvm Header Proof Digest) (headers : List Header) (latest : Bytes32) (heads : L1HeadsMap)
    (state : L1HeadsMap × Bytes32) : Prop where
  current : Relation.ReflTransGen (Links zkvm headers) latest state.2
  found : ∀ head, state.1.lookup head = some true → Relation.ReflTransGen (Links zkvm headers) latest head
  keys : SameKeys heads state.1

theorem Walking.visit {heads : L1HeadsMap} (walking : Walking zkvm headers latest heads state) {header : Header}
    (supplied : header ∈ headers) (success : visit zkvm state header = .ok after) :
    Walking zkvm headers latest heads after := by
  obtain ⟨hash, rfl⟩ := visit_eq_ok.mp success
  refine ⟨walking.current.tail ⟨header, supplied, hash.symm, rfl⟩, fun head isFound => ?_,
    walking.keys.trans (sameKeys_adjust _ _ _)⟩
  by_cases same : head = state.2
  · rw [same]
    exact walking.current
  · rw [lookup_adjust_of_ne same] at isFound
    exact walking.found head isFound

theorem walking_of_foldlM {heads : L1HeadsMap} (none : ∀ head, heads.lookup head ≠ some true)
    (walked : headers.reverse.foldlM (Guest.visit zkvm) (heads, latest) = .ok after) :
    Walking zkvm headers latest heads after := by
  refine foldlM_invariant walked ⟨.refl, fun head isFound => absurd isFound (none head), .refl _⟩ ?_
  intro before after header member walking success
  exact walking.visit (List.mem_reverse.mp member) success

theorem lookup_l1HeadsMap (transitions : List TransitionPublicValues) (head : Bytes32) :
    (l1HeadsMap transitions).lookup head = if head ∈ transitions.map (·.l1Head) then some false else none := by
  suffices general : ∀ heads : L1HeadsMap, (transitions.foldl (fun heads entry => heads.insert entry.l1Head false) heads).lookup
      head = if head ∈ transitions.map (·.l1Head) then some false else heads.lookup head by
    exact general ∅
  induction transitions with
  | nil => simp
  | cons entry rest ih =>
    intro heads
    rw [List.foldl_cons, ih, List.map_cons]
    by_cases same : head = entry.l1Head
    · subst same
      simp
    · simp [same]

theorem found_of_pinned {transitions : List TransitionPublicValues} {l1Head : Bytes32}
    (pinned : ∀ values ∈ transitions, values.l1Head = l1Head) (head : Bytes32) :
    (adjust l1Head (fun _ => true) (l1HeadsMap transitions)).lookup head ≠ some false := by
  intro missing
  by_cases same : head = l1Head
  · rw [same, lookup_adjust_self] at missing
    simp at missing
  · rw [lookup_adjust_of_ne same, lookup_l1HeadsMap, if_neg] at missing
    · cases missing
    · intro member
      obtain ⟨values, isValues, rfl⟩ := List.mem_map.mp member
      exact same (pinned values isValues)

/-- What stands behind public values that the program commits. -/
structure Justifies (zkvm : Zkvm Header Proof Digest) (transitions : List TransitionPublicValues) (headers : List Header)
    (values : AggregationPublicValues) : Prop where
  proven : ∃ vkey, vkey.toB256 = values.multiBlockVKey ∧ (∀ other : Vkey, other.toB256 = values.multiBlockVKey → other = vkey) ∧
    ∀ transition ∈ transitions, zkvm.Proven vkey transition
  chained : transitions.IsChain Follows
  first : ∃ first, transitions.head? = some first ∧ first.l2PreRoot = values.transitionPublicValues.l2PreRoot ∧
    first.l2PreBlockNumber = values.transitionPublicValues.l2PreBlockNumber
  last : ∃ last, transitions.getLast? = some last ∧ last.l2PostRoot = values.transitionPublicValues.l2PostRoot ∧
    last.l2PostBlockNumber = values.transitionPublicValues.l2PostBlockNumber
  config : ∀ transition ∈ transitions, transition.rollupConfigHash = values.transitionPublicValues.rollupConfigHash
  heads : ∀ transition ∈ transitions,
    Relation.ReflTransGen (Links zkvm headers) values.transitionPublicValues.l1Head transition.l1Head

theorem justifies_of_main (committed : main zkvm inputs headersBytes proofs = .ok values) :
    ∃ headers, zkvm.fromSlice headersBytes = some headers ∧ Justifies zkvm inputs.transitionPublicValues headers values := by
  obtain ⟨headers, first, last, walked, decoded, isFirst, isLast, chained, verified, went, found, rfl⟩ := main_eq_ok.mp committed
  have initial := lookup_l1HeadsMap inputs.transitionPublicValues
  have walking := walking_of_foldlM (fun head => by rw [initial]; split <;> simp) went
  refine ⟨headers, decoded, ⟨_, rfl, fun _ same => Vkey.toB256_injective same, proven_of_verifyTransitions verified⟩,
    chained.imp fun _ _ fits => fits.1, ⟨first, isFirst, rfl, rfl⟩, ⟨last, isLast, rfl, rfl⟩, ?_, ?_⟩
  · intro transition member
    have agree : inputs.transitionPublicValues.IsChain fun previous current =>
        previous.rollupConfigHash = current.rollupConfigHash := chained.imp fun _ _ fits => fits.2
    have same := agree_of_isChain agree member (List.mem_of_getLast? isLast)
    exact same
  · intro transition member
    have key : (l1HeadsMap inputs.transitionPublicValues).lookup transition.l1Head = some false := by
      rw [initial, if_pos (List.mem_map_of_mem member)]
    have isSome : (walked.1.lookup transition.l1Head).isSome := by
      rw [walking.keys, key]
      rfl
    obtain ⟨mark, present⟩ := Option.isSome_iff_exists.mp isSome
    cases mark with
    | false => exact absurd present (found transition.l1Head)
    | true => exact walking.found transition.l1Head present

end Guest

/-! ## What the worker has checked -/

namespace Worker

variable {Header Proof Digest : Type} {zkvm : Zkvm Header Proof Digest} {rpc : L1Rpc zkvm} {vkey : Vkey}
  {rollupConfigHash startingRoot : Bytes32} {startBlock : BitVec 64} {request : ProofRequest}
  {ranges : List (RangeProofArtifact Proof)} {session : AggregationSessionRequest Proof}

theorem validateRangeArtifacts_eq_ok : validateRangeArtifacts rollupConfigHash startBlock request ranges = .ok () ↔
    ∃ first last, ranges.head? = some first ∧ ranges.getLast? = some last ∧
      first.transitionPublicValues.l2PreBlockNumber = startBlock ∧
      (ranges.map (·.transitionPublicValues)).IsChain Guest.Follows ∧
      (∀ artifact ∈ ranges, artifact.transitionPublicValues.l1Head = request.l1Head ∧
        artifact.transitionPublicValues.rollupConfigHash = rollupConfigHash) ∧
      last.transitionPublicValues.l2PostRoot = request.rootClaim ∧
      last.transitionPublicValues.l2PostBlockNumber.toNat = request.l2BlockNumber := by
  have chained {previous current : RangeProofArtifact Proof} : checkChained previous current = .ok () ↔
      Guest.Follows previous.transitionPublicValues current.transitionPublicValues := by
    simp [checkChained, Guest.Follows]
  have pinned {artifact : RangeProofArtifact Proof} : checkPinned rollupConfigHash request artifact = .ok () ↔
      artifact.transitionPublicValues.l1Head = request.l1Head ∧
        artifact.transitionPublicValues.rollupConfigHash = rollupConfigHash := by
    simp [checkPinned]
  rw [validateRangeArtifacts]
  cases ranges.head? with
  | none => simp
  | some first =>
    cases ranges.getLast? with
    | none => simp
    | some last =>
      simp only [bind_eq_ok, revertIf_eq_ok, Unique.exists_iff, PUnit.default_eq_unit, forPairs_eq_ok, forEach_eq_ok, chained,
        pinned, List.isChain_map, not_not, Option.some.injEq, exists_and_left, exists_eq_left', ↓existsAndEq, true_and]

def requested (rollupConfigHash startingRoot : Bytes32) (startBlock : BitVec 64) (request : ProofRequest) : TransitionPublicValues where
  l1Head := request.l1Head
  l2PreRoot := startingRoot
  l2PreBlockNumber := startBlock
  l2PostRoot := request.rootClaim
  l2PostBlockNumber := BitVec.ofNat 64 request.l2BlockNumber
  rollupConfigHash := rollupConfigHash

theorem verifyTransitions_of_proved (proved : ∀ artifact ∈ ranges,
    zkvm.verifySp1Proof vkey (zkvm.digest artifact.transitionPublicValues) artifact.proof = true) :
    Guest.verifyTransitions zkvm vkey (ranges.map (·.transitionPublicValues)) (ranges.map (·.proof)) = .ok () := by
  induction ranges with
  | nil => rfl
  | cons artifact rest ih =>
    simp only [List.map_cons, Guest.verifyTransitions, bind_eq_ok, revertIf_eq_ok, Unique.exists_iff, Bool.not_eq_false]
    exact ⟨proved artifact List.mem_cons_self, ih fun other member => proved other (List.mem_cons_of_mem _ member)⟩

theorem aggregate_eq_ok (valid : validateRangeArtifacts rollupConfigHash startBlock request ranges = .ok ())
    (built : buildAggregationRequest rpc request ranges = some session)
    (proved : ∀ artifact ∈ ranges, zkvm.verifySp1Proof vkey (zkvm.digest artifact.transitionPublicValues) artifact.proof = true) :
    ∃ first, ranges.head? = some first ∧ aggregate zkvm vkey session =
      .ok ⟨requested rollupConfigHash first.transitionPublicValues.l2PreRoot startBlock request, vkey.toB256⟩ := by
  obtain ⟨first, last, isFirst, isLast, preBlock, chained, pinned, postRoot, postBlock⟩ := validateRangeArtifacts_eq_ok.mp valid
  rw [buildAggregationRequest] at built
  split at built
  · cases built
  · next header fetched =>
    obtain rfl := Option.some.inj built
    have hash := rpc.hash_of_fetch _ _ fetched
    have config := (pinned last (List.mem_of_getLast? isLast)).2
    have block : last.transitionPublicValues.l2PostBlockNumber = BitVec.ofNat 64 request.l2BlockNumber := by
      rw [← postBlock, BitVec.ofNat_toNat, BitVec.setWidth_eq]
    have all : ∀ values ∈ ranges.map (·.transitionPublicValues), values.l1Head = request.l1Head ∧
        values.rollupConfigHash = rollupConfigHash := by
      intro values member
      obtain ⟨artifact, isArtifact, rfl⟩ := List.mem_map.mp member
      exact pinned artifact isArtifact
    refine ⟨first, isFirst, Guest.main_eq_ok.mpr ⟨[header], first.transitionPublicValues, last.transitionPublicValues,
      (adjust request.l1Head (fun _ => true) (Guest.l1HeadsMap (ranges.map (·.transitionPublicValues))), zkvm.parentHash header),
      zkvm.fromSlice_toVec _, by simp [isFirst], by simp [isLast], ?_, verifyTransitions_of_proved proved, ?_, ?_, ?_⟩⟩
    · refine chained.imp_of_mem_imp fun previous current isPrevious isCurrent follows => ⟨follows, ?_⟩
      rw [(all previous isPrevious).2, (all current isCurrent).2]
    · -- the walk visits the one header
      simp only [List.reverse_singleton, List.foldlM_cons, List.foldlM_nil, bind_pure]
      exact Guest.visit_eq_ok.mpr ⟨hash.symm, rfl⟩
    · exact Guest.found_of_pinned fun values member => (all values member).1
    · rw [preBlock, postRoot, config, block]
      rfl

theorem checkArtifact_requested {values : AggregationPublicValues}
    (valid : validateRangeArtifacts rollupConfigHash startBlock request ranges = .ok ())
    (is : values.transitionPublicValues = requested rollupConfigHash startingRoot startBlock request) :
    checkArtifact request values = .ok () := by
  obtain ⟨_, last, _, _, _, _, _, _, postBlock⟩ := validateRangeArtifacts_eq_ok.mp valid
  have fits : request.l2BlockNumber < 2 ^ 64 := postBlock ▸ last.transitionPublicValues.l2PostBlockNumber.isLt
  simpa [checkArtifact, is, requested] using fits

/-- The guest commits only what a chain of proven transitions stands behind, and what the worker builds is the requested
transition exactly if it starts from the game's root. -/
theorem aggregation_exact_iff_starts_at_root (zkvm : Zkvm Header Proof Digest) :
    (∀ inputs headersBytes proofs values, Guest.main zkvm inputs headersBytes proofs = .ok values →
      ∃ headers, zkvm.fromSlice headersBytes = some headers ∧
        Guest.Justifies zkvm inputs.transitionPublicValues headers values) ∧
    ∀ (rpc : L1Rpc zkvm) vkey rollupConfigHash startBlock request ranges session startingRoot,
      validateRangeArtifacts rollupConfigHash startBlock request ranges = .ok () →
      buildAggregationRequest rpc request ranges = some session →
      (∀ artifact ∈ ranges, zkvm.verifySp1Proof vkey (zkvm.digest artifact.transitionPublicValues) artifact.proof = true) →
      (∃ values, aggregate zkvm vkey session = .ok values ∧ checkArtifact request values = .ok ()) ∧
      (aggregate zkvm vkey session = .ok ⟨requested rollupConfigHash startingRoot startBlock request, vkey.toB256⟩ ↔
        ∀ first ∈ ranges.head?, first.transitionPublicValues.l2PreRoot = startingRoot) := by
  refine ⟨fun inputs headersBytes proofs values committed => Guest.justifies_of_main committed, ?_⟩
  intro rpc vkey rollupConfigHash startBlock request ranges session startingRoot valid built proved
  obtain ⟨first, isFirst, accepted⟩ := aggregate_eq_ok valid built proved
  refine ⟨⟨_, accepted, checkArtifact_requested valid rfl⟩, ?_⟩
  rw [accepted, isFirst]
  simp [requested]

def sampleZkvm : Zkvm UInt8 Unit TransitionPublicValues where
  hashSlow := fun header => BitVec.ofNat 256 header.toNat
  parentHash := fun header => BitVec.ofNat 256 (header.toNat - 1)
  toVec := id
  fromSlice := some
  fromSlice_toVec := fun _ => rfl
  digest := id
  verifySp1Proof := fun _ _ _ => true
  Proven := fun _ _ => True
  proven_of_verify := fun _ _ _ _ => trivial

theorem sampleHash (hash : Bytes32) (header : UInt8)
    (fetched : (if hash = 7 then some (7 : UInt8) else none) = some header) : sampleZkvm.hashSlow header = hash := by
  split at fetched
  · next is =>
    obtain rfl := Option.some.inj fetched
    exact is.symm
  · cases fetched

def sampleRpc : L1Rpc sampleZkvm := ⟨fun hash => if hash = 7 then some 7 else none, sampleHash⟩

def sampleVkey : Vkey := Vector.replicate 8 1

def sampleRequest : ProofRequest := ⟨.sp1, 0, 90, 10, 7, 0, none⟩

def sampleRanges (l2PreRoot : Bytes32) : List (RangeProofArtifact Unit) :=
  [⟨⟨7, l2PreRoot, 5, 70, 8, 3⟩, ()⟩, ⟨⟨7, 70, 8, 90, 10, 3⟩, ()⟩]

def sampleSession (l2PreRoot : Bytes32) : AggregationSessionRequest Unit :=
  ⟨[⟨7, l2PreRoot, 5, 70, 8, 3⟩, ⟨7, 70, 8, 90, 10, 3⟩], 7, [7], [(), ()]⟩

theorem aggregation_of_sample : aggregate sampleZkvm sampleVkey (sampleSession 50) =
    .ok ⟨requested 3 50 5 sampleRequest, sampleVkey.toB256⟩ := by
  obtain ⟨_, exact⟩ := aggregation_exact_iff_starts_at_root sampleZkvm
  have valid : validateRangeArtifacts 3 5 sampleRequest (sampleRanges 50) = .ok () := by decide +kernel
  refine (exact sampleRpc sampleVkey 3 5 sampleRequest (sampleRanges 50) (sampleSession 50) 50 valid rfl fun _ _ => rfl).2.mpr ?_
  intro first isFirst
  obtain rfl := Option.some.inj isFirst
  rfl

theorem aggregation_from_other_root : validateRangeArtifacts 3 5 sampleRequest (sampleRanges 51) = .ok () ∧
    buildAggregationRequest sampleRpc sampleRequest (sampleRanges 51) = some (sampleSession 51) ∧
    aggregate sampleZkvm sampleVkey (sampleSession 51) = .ok ⟨requested 3 51 5 sampleRequest, sampleVkey.toB256⟩ ∧
    checkArtifact sampleRequest ⟨requested 3 51 5 sampleRequest, sampleVkey.toB256⟩ = .ok () ∧
    requested 3 51 5 sampleRequest ≠ requested 3 50 5 sampleRequest :=
  ⟨by decide +kernel, rfl, rfl, by decide +kernel, by decide +kernel⟩

end Worker

end WorldChain.Sp1
