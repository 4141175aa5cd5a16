import WorldChain.Dispute.Game
import WorldChain.Proposer.Lineage
import WorldChain.ProverService.Store

/-! # Advancing a defense

Lanes are advanced while more support is needed than the lanes before them will give. The record holds what was observed
and asked, the latest first.
-/

namespace WorldChain.Defender

open Dispute (Address Bytes32 Bitmap ProofLane ProposalStatus GameStatus InvalidationReason ClaimData)
open ProverService (ProofBackend ProofRequest ProofRequestError ProofStatus ProofData)
open ProverService.Database (ProofResponse)
open Proposer (ResolutionStatus)

def defendedLanes : Fin 2 → ProofLane × ProofBackend := ![(.teeAttestation, .nitro), (.validityProof, .sp1)]

abbrev lane (slot : Fin 2) : ProofLane := (defendedLanes slot).1

abbrev backend (slot : Fin 2) : ProofBackend := (defendedLanes slot).2

def slots : List (Fin 2) := [0, 1]

/-- Progress of a lane within a defense. -/
inductive LaneState (ProofId : Type)
  | pending
  | requested (id : ProofId)
  | proven
  | abandoned
deriving DecidableEq, Repr

/-- Whether the lane needs no further work. -/
def LaneState.isTerminal {ProofId : Type} : LaneState ProofId → Bool
  | proven | abandoned => true
  | pending | requested _ => false

/-- What the defender reads of a game once. -/
structure GameMetadata where
  address : Address
  aggregationVkey : Bytes32
  rangeVkeyCommitment : Bytes32
  teeImageId : Bytes32
  rootClaim : Bytes32
  l2BlockNumber : ℕ
  l1OriginHash : Bytes32
  challengeDeadline : ℕ
  proofDeadline : ℕ
  proofThreshold : ℕ
deriving DecidableEq, Repr

structure DefenderSubmission where
  txHash : Bytes32
deriving DecidableEq, Repr

inductive DefenderError
  | invalidConfig (message : String)
  | laneAlreadyProven (game : Address) (lane : ProofLane)
  | other (message : String)
deriving DecidableEq, Repr

/-- Why a request fails: the service refuses it, or cannot be reached. -/
inductive RequestFailure (ProofId : Type)
  | service (error : ProofRequestError ProofId)
  | transport (message : String)
deriving DecidableEq, Repr

/-- What was observed of a game that still needs support. -/
structure Observed where
  game : GameMetadata
  proofBitmap : Bitmap
  challenged : Bool
deriving DecidableEq, Repr

def Observed.requiredSupport (observed : Observed) : ℕ :=
  if observed.challenged then observed.game.proofThreshold else 1

/-- An entry in the record of a defense. -/
inductive Action (ProofId : Type)
  | observed (observed : Observed)
  | requested (lane : ProofLane) (request : ProofRequest) (answer : Except (RequestFailure ProofId) ProofId)
  | submitted (lane : ProofLane) (proof : List (BitVec 8)) (answer : Except DefenderError DefenderSubmission)
  | abandoned (proofDeadline : ℕ)

/-- Games are read when defenses are started, and again when they are advanced. -/
inductive Reading
  | sync
  | scan
deriving DecidableEq

/-- What the calls of a tick answer. -/
structure Answers (ProofId : Type) where
  lineageResolutionStatus : Reading → Address → Except DefenderError ResolutionStatus
  claimData : Reading → Address → Except DefenderError ClaimData
  requestProof : Address → ProofLane → Except (RequestFailure ProofId) ProofId
  proofStatus : Address → ProofLane → Except String ProofStatus
  getProof : Address → ProofLane → Except String (ProofResponse ProofId)
  submitProof : Address → ProofLane → Except DefenderError DefenderSubmission

variable {ProofId : Type}

/-! ## One lane -/

/-- The request for a lane of a game. -/
def proofRequest (game : GameMetadata) (backend : ProofBackend) : ProofRequest where
  backend := backend
  game := game.address
  rootClaim := game.rootClaim
  l2BlockNumber := game.l2BlockNumber
  l1Head := game.l1OriginHash
  verifierId := match backend with
    | .sp1 => game.aggregationVkey
    | .nitro => game.teeImageId
  rangeVkeyCommitment := match backend with
    | .sp1 => some game.rangeVkeyCommitment
    | .nitro => none

def verifierPayload : ProofData → List (BitVec 8)
  | .sp1 proof _ => proof
  | .nitro _ _ signature => signature

section

variable (answers : Answers ProofId) (game : GameMetadata) (lane : ProofLane) (backend : ProofBackend)

def requestLane (otherwise : LaneState ProofId) : LaneState ProofId × List (Action ProofId) :=
  let answer := answers.requestProof game.address lane
  let state := match answer with
    | .ok id => .requested id
    | .error (.service (.tooManyRetries _ _)) => .abandoned
    | .error _ => otherwise
  (state, [.requested lane (proofRequest game backend) answer])

def requestPendingLane : LaneState ProofId × List (Action ProofId) := requestLane answers game lane backend .pending

def retryLane (state : LaneState ProofId) : LaneState ProofId × List (Action ProofId) :=
  requestLane answers game lane backend state

def submitSucceededLane (state : LaneState ProofId) : LaneState ProofId × List (Action ProofId) :=
  match answers.getProof game.address lane with
  | .ok (.succeeded _ proof) =>
    let answer := answers.submitProof game.address lane
    let next := match answer with
      | .ok _ => .proven
      | .error (.laneAlreadyProven _ _) => .proven
      | .error _ => state
    (next, [.submitted lane (verifierPayload proof) answer])
  | _ => (state, [])

def advanceRequestedLane (id : ProofId) : LaneState ProofId × List (Action ProofId) :=
  match answers.proofStatus game.address lane with
  | .error _ => (.requested id, [])
  | .ok .created | .ok .running => (.requested id, [])
  | .ok .succeeded => submitSucceededLane answers game lane (.requested id)
  | .ok .failed | .ok .cancelled => retryLane answers game lane backend (.requested id)

/-- `LaneDriver::advance`. -/
def advanceLane : LaneState ProofId → LaneState ProofId × List (Action ProofId)
  | .proven => (.proven, [])
  | .abandoned => (.abandoned, [])
  | .pending => requestPendingLane answers game lane backend
  | .requested id => advanceRequestedLane answers game lane backend id

end

/-! ## One game -/

inductive GameObservation
  | proposed (proofBitmap : Bitmap) (hasInitialSupport : Bool)
  | challenged (proofBitmap : Bitmap) (hasRequiredSupport : Bool)
  | finalized
  | invalidated (reason : InvalidationReason)
  | unset
deriving DecidableEq, Repr

def hasSufficientProofSupport : ProposalStatus → Bool
  | .unchallengedAndValidProofProvided | .challengedAndValidProofProvided => true
  | _ => false

def observe (answers : Answers ProofId) (reading : Reading) (game : GameMetadata) :
    Except DefenderError GameObservation := do
  let status ← answers.lineageResolutionStatus reading game.address
  match status.outcome with
  | .defenderWins => return .finalized
  | .challengerWins => return .invalidated status.invalidationReason
  | .inProgress =>
    let claim ← answers.claimData reading game.address
    match claim.status with
    | .unchallenged | .unchallengedAndValidProofProvided =>
      return .proposed claim.proofBitmap (hasSufficientProofSupport claim.status)
    | .challenged | .challengedAndValidProofProvided =>
      return .challenged claim.proofBitmap (hasSufficientProofSupport claim.status)
    | .resolved => return .unset

def needsDefense (answers : Answers ProofId) (game : GameMetadata) (now : ℕ) : Except DefenderError Bool := do
  match ← observe answers .sync game with
  | .proposed _ hasInitialSupport => return !hasInitialSupport && decide (now < game.challengeDeadline)
  | .challenged _ hasRequiredSupport => return !hasRequiredSupport && decide (now < game.proofDeadline)
  | .finalized | .invalidated _ | .unset => return false

structure ActiveDefense (ProofId : Type) where
  game : GameMetadata
  lanes : Fin 2 → LaneState ProofId

def ActiveDefense.new (game : GameMetadata) : ActiveDefense ProofId := ⟨game, fun _ => .pending⟩

variable [DecidableEq ProofId]

def effectiveProofBitmap (proofBitmap : Bitmap) (lanes : Fin 2 → LaneState ProofId) : Bitmap :=
  slots.foldl (fun bitmap slot => if lanes slot = .proven then bitmap.set (lane slot) else bitmap) proofBitmap

/-- Result of advancing a defense. -/
inductive DefenseProgress (ProofId : Type)
  | closed
  | complete
  | deadlineElapsed
  | lanes (lanes : Fin 2 → LaneState ProofId) (sufficientSupportSubmitted : Bool)

/-- The variables of the loop over the lanes. -/
structure LaneScan (ProofId : Type) where
  lanes : Fin 2 → LaneState ProofId
  lanesNeeded : ℕ
  actions : List (Action ProofId)

namespace LaneScan

variable (answers : Answers ProofId) (observed : Observed)

def start (lanes : Fin 2 → LaneState ProofId) : LaneScan ProofId where
  lanes := lanes
  lanesNeeded := observed.requiredSupport - (effectiveProofBitmap observed.proofBitmap lanes).count
  actions := [.observed observed]

/-- The body of the loop. -/
def visit (scan : LaneScan ProofId) (slot : Fin 2) : LaneScan ProofId :=
  if observed.proofBitmap.has (lane slot) then { scan with lanes := Function.update scan.lanes slot .proven }
  else if !observed.challenged ∧ lane slot ≠ .teeAttestation then scan
  else if scan.lanes slot = .proven ∨ scan.lanesNeeded = 0 then scan
  else
    let (state, actions) := advanceLane answers observed.game (lane slot) (backend slot) (scan.lanes slot)
    { lanes := Function.update scan.lanes slot state
      -- an active request reserves one of the lanes that are still needed
      lanesNeeded := if state = .abandoned then scan.lanesNeeded else scan.lanesNeeded - 1
      actions := actions ++ scan.actions }

def run (lanes : Fin 2 → LaneState ProofId) : LaneScan ProofId :=
  slots.foldl (visit answers observed) (start observed lanes)

end LaneScan

def advanceLanes (answers : Answers ProofId) (observed : Observed) (deadline now : ℕ)
    (lanes : Fin 2 → LaneState ProofId) :
    DefenseProgress ProofId × List (Action ProofId) :=
  if now ≥ deadline then (.deadlineElapsed, [])
  else
    let scan := LaneScan.run answers observed lanes
    (.lanes scan.lanes
      (observed.requiredSupport ≤ (effectiveProofBitmap observed.proofBitmap scan.lanes).count : Bool), scan.actions)

def advanceDefense (answers : Answers ProofId) (defense : ActiveDefense ProofId) (now : ℕ) :
    Except DefenderError (DefenseProgress ProofId × List (Action ProofId)) := do
  match ← observe answers .scan defense.game with
  | .finalized => return (.complete, [])
  | .invalidated reason => if reason = .proofTimeout then return (.deadlineElapsed, []) else return (.closed, [])
  | .proposed proofBitmap hasInitialSupport =>
    if hasInitialSupport then return (.complete, [])
    else return advanceLanes answers ⟨defense.game, proofBitmap, false⟩ defense.game.challengeDeadline now defense.lanes
  | .challenged proofBitmap hasRequiredSupport =>
    if hasRequiredSupport then return (.complete, [])
    else return advanceLanes answers ⟨defense.game, proofBitmap, true⟩ defense.game.proofDeadline now defense.lanes
  | .unset => return (.closed, [])

/-! ## What a record says -/

namespace Action

def observation : Action ProofId → Option Observed
  | .observed seen => some seen
  | _ => none

/-- The entry shows a lane as accepted. -/
def shows (lane : ProofLane) : Action ProofId → Bool
  | .observed seen => seen.proofBitmap.has lane
  | _ => false

def proves (lane : ProofLane) : Action ProofId → Bool
  | .submitted other _ (.ok _) => other = lane
  | .submitted other _ (.error (.laneAlreadyProven _ _)) => other = lane
  | _ => false

def refuses (lane : ProofLane) : Action ProofId → Bool
  | .requested other _ (.error (.service (.tooManyRetries _ _))) => other = lane
  | _ => false

/-- The entry is a call for a lane. -/
inductive Calls (game : GameMetadata) (slot : Fin 2) : Action ProofId → Prop
  | requested (answer : Except (RequestFailure ProofId) ProofId) :
      Calls game slot (.requested (lane slot) (proofRequest game (backend slot)) answer)
  | submitted (proof : List (BitVec 8)) (answer : Except DefenderError DefenderSubmission) :
      Calls game slot (.submitted (lane slot) proof answer)

end Action

/-- What was last observed. -/
def latest (record : List (Action ProofId)) : Option Observed := record.findSome? Action.observation

def isProven (record : List (Action ProofId)) (observed : Observed) (lane : ProofLane) : Bool :=
  observed.proofBitmap.has lane || record.any (·.proves lane)

def provenCount (record : List (Action ProofId)) (observed : Observed) : ℕ :=
  ProofLane.all.countP (isProven record observed)

def openBefore (record : List (Action ProofId)) (observed : Observed) (slot : Fin 2) : ℕ :=
  slots.countP fun other => other < slot ∧ isProven record observed (lane other) = false ∧
    record.any (·.refuses (lane other)) = false

/-- A call for a lane is made for a lane that is not in the observed bitmap, and in an unchallenged game only for an
attestation. -/
structure Called (record : List (Action ProofId)) (observed : Observed) (lane : ProofLane) : Prop where
  latest : latest record = some observed
  missing : observed.proofBitmap.has lane = false
  attestation : observed.challenged = false → lane = .teeAttestation

/-- Why an entry stands in the record of a defense, after the entries before it. -/
def Justified (record : List (Action ProofId)) : Action ProofId → Prop
  | .requested requested request _ => ∃ observed slot, Called record observed requested ∧ requested = lane slot ∧
      request = proofRequest observed.game (backend slot) ∧
      provenCount record observed + openBefore record observed slot < observed.requiredSupport
  | .submitted submitted _ _ => ∃ observed slot, Called record observed submitted ∧ submitted = lane slot
  | .abandoned proofDeadline =>
    ∃ observed, latest record = some observed ∧ proofDeadline = observed.game.proofDeadline ∧
      (∀ slot, record.any (fun entry => entry.shows (lane slot) || entry.proves (lane slot)) = true ∨
        record.any (·.refuses (lane slot)) = true) ∧ provenCount record observed < observed.requiredSupport
  | .observed _ => True

/-- Every entry of a record is justified by those before it. -/
def Sound : List (Action ProofId) → Prop
  | [] => True
  | action :: older => Justified older action ∧ Sound older

/-- The state of a lane agrees with the record of the defense. -/
structure Agrees (record : List (Action ProofId)) (slot : Fin 2) (state : LaneState ProofId) : Prop where
  proven : state = .proven ↔ record.any (fun entry => entry.shows (lane slot) || entry.proves (lane slot)) = true
  abandoned : state = .abandoned → record.any (·.refuses (lane slot)) = true
  refused : record.any (·.refuses (lane slot)) = true → state = .abandoned ∨ state = .proven

end WorldChain.Defender
