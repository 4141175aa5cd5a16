import WorldChain.Lib.Table
import WorldChain.Machine.Run

/-! # The store of the prover service

Proof requests and backend sessions are rows of two tables. An operation of the store is a sequence of SQL statements,
each of which is atomic; between two statements of an operation, statements of other operations may run.
-/

namespace WorldChain.ProverService

open Table

inductive ProofBackend
  | sp1
  | nitro
deriving DecidableEq, Repr

structure ProofRequest where
  backend : ProofBackend
  game : BitVec 160
  rootClaim : BitVec 256
  l2BlockNumber : ℕ
  l1Head : BitVec 256
  verifierId : BitVec 256
  rangeVkeyCommitment : Option (BitVec 256)
deriving DecidableEq, Repr

inductive ProofStatus
  | created
  | running
  | succeeded
  | failed
  | cancelled
deriving DecidableEq, Repr

inductive ProofJobStatus
  | pending
  | claimed
  | succeeded
  | failed
deriving DecidableEq, Repr

inductive ProofData
  | sp1 (proof publicValues : List (BitVec 8))
  | nitro (attestation publicValues signature : List (BitVec 8))
deriving DecidableEq, Repr

def ProofData.backend : ProofData → ProofBackend
  | sp1 .. => .sp1
  | nitro .. => .nitro

inductive SessionType
  | stark
  | snark
deriving DecidableEq, Repr

inductive BackendSessionStatus
  | submitting
  | running
  | completed
  | failed
deriving DecidableEq, Repr

def BackendSessionStatus.isTerminal : BackendSessionStatus → Bool
  | completed | failed => true
  | submitting | running => false

structure ProverServiceConfig where
  lockTimeout : ℕ
  maxAttempts : BitVec 32
  maxRetries : BitVec 32

/-- A row of `proof_requests`. -/
structure ProofRow where
  request : ProofRequest
  proofStatus : ProofStatus
  proofData : Option ProofData
  failureReason : Option String
  retryCount : ℤ
  workerId : Option String
  lockId : Option ℕ
  jobStatus : ProofJobStatus
  attempt : ℤ
  lockExpiresAt : Option ℕ
  createdAt : ℕ
deriving DecidableEq, Repr

/-- A row of `proof_sessions`; its id is its position in the table. -/
structure ProofSession (ProofId : Type*) where
  proofId : ProofId
  sessionType : SessionType
  backendSessionId : String
  status : BackendSessionStatus
  failureReason : Option String
deriving DecidableEq, Repr

/-! ## What the statements do to a row -/

namespace ProofRow

/-- The row that a request enters. -/
def new (request : ProofRequest) (now : ℕ) : ProofRow where
  request := request
  proofStatus := .created
  proofData := none
  failureReason := none
  retryCount := 0
  workerId := none
  lockId := none
  jobStatus := .pending
  attempt := 0
  lockExpiresAt := none
  createdAt := now

variable (row : ProofRow)

def requeue (l1Head : BitVec 256) (afterFailure : Bool) : ProofRow :=
  { row with
    proofStatus := .created
    jobStatus := .pending
    retryCount := row.retryCount + if afterFailure then 1 else 0
    request := { row.request with l1Head }
    failureReason := none
    proofData := none
    workerId := none
    lockId := none
    lockExpiresAt := none
    attempt := 0 }

/-- The request is created or running. -/
def isActive : Bool := row.proofStatus = .created ∨ row.proofStatus = .running

def cancel : ProofRow :=
  { row with
    proofStatus := .cancelled
    jobStatus := .failed
    failureReason := some "game no longer requires proof support"
    workerId := none
    lockId := none
    lockExpiresAt := none }

def isFree (now : ℕ) : Bool :=
  row.jobStatus = .pending ∨ row.jobStatus = .claimed ∧ row.lockExpiresAt.any (· < now)

def isExhausted (config : ProverServiceConfig) (now : ℕ) : Bool :=
  config.maxAttempts.toInt ≤ row.attempt ∧ row.isActive ∧ row.isFree now

def fail (reason : String) : ProofRow :=
  { row with
    proofStatus := .failed
    jobStatus := .failed
    failureReason := some reason
    workerId := none
    lockId := none
    lockExpiresAt := none }

/-- Grant a lease. -/
def claim (workerId : String) (lockId lockExpiresAt : ℕ) : ProofRow :=
  { row with
    proofStatus := .running
    workerId := some workerId
    lockId := some lockId
    jobStatus := .claimed
    attempt := row.attempt + 1
    lockExpiresAt := some lockExpiresAt }

def isLeasedTo (workerId : String) (lockId now : ℕ) : Bool :=
  row.jobStatus = .claimed ∧ row.workerId = some workerId ∧ row.lockId = some lockId ∧ row.lockExpiresAt.any (now < ·)

def extend (lockExpiresAt : ℕ) : ProofRow := { row with lockExpiresAt := some lockExpiresAt }

def succeed (proof : ProofData) : ProofRow :=
  { row with
    proofStatus := .succeeded
    jobStatus := .succeeded
    proofData := some proof
    failureReason := none }

end ProofRow

variable {ProofId : Type*}

namespace ProofSession

variable (session : ProofSession ProofId) [DecidableEq ProofId]

def isFor (proofId : ProofId) (sessionType : SessionType) : Bool :=
  session.proofId = proofId ∧ session.sessionType = sessionType

def isActive : Bool := !session.status.isTerminal

end ProofSession

/-! ## The database -/

/-- The two tables, the number of leases granted so far, and which operation holds the lock of a row. -/
structure Database (ProofId : Type*) where
  proofRequests : Finmap fun _ : ProofId => ProofRow
  proofSessions : List (ProofSession ProofId)
  leases : ℕ
  locks : Finmap fun _ : ProofId => ℕ

inductive ProofRequestError (ProofId : Type*)
  | blockNumberExceedsI64 (value : ℕ)
  | rowMissingAfterConflict (proofId : ProofId)
  | requestMismatch (proofId : ProofId)
  | tooManyRetries (proofId : ProofId) (maxRetries : BitVec 32)
  | proofIdNotFound (proofId : ProofId)
  | proofEncoding
deriving DecidableEq, Repr

inductive ProofJobQueueError (ProofId : Type*)
  | proofIdNotFound (proofId : ProofId)
  | proofJobStatusNotClaimed (proofId : ProofId) (actual : ProofJobStatus)
  | staleLock (proofId : ProofId)
  | lockExpired (proofId : ProofId)
  | alreadyTerminal (proofId : ProofId)
  | backendMismatch (proofId : ProofId) (expected actual : ProofBackend)
  | backendSessionAlreadyTerminal (proofId : ProofId) (sessionType : SessionType) (backendSessionId : String)
      (stored attempted : BackendSessionStatus)
  | proofMismatch (proofId : ProofId) (expected actual : ProofData)
  | unknown (proofId : ProofId)
  | sqlx
deriving DecidableEq, Repr

structure RequestProofResponse (ProofId : Type*) where
  proofId : ProofId
  l1Head : BitVec 256
deriving DecidableEq, Repr

structure GetNextProofRequest where
  backend : ProofBackend
  workerId : String
  verifierId : BitVec 256
  rangeVkeyCommitment : Option (BitVec 256)
deriving DecidableEq, Repr

structure LockedProofRequest where
  request : ProofRequest
  lockId : ℕ
deriving DecidableEq, Repr

structure RecordProofSessionRequest (ProofId : Type*) where
  proofId : ProofId
  sessionType : SessionType
  workerId : String
  lockId : ℕ
  backendSessionId : String
  status : BackendSessionStatus
  failureReason : Option String
deriving DecidableEq, Repr

structure SubmitProofRequest (ProofId : Type*) where
  proofId : ProofId
  proof : ProofData
  workerId : String
  lockId : ℕ
deriving DecidableEq, Repr

structure HeartbeatRequest (ProofId : Type*) where
  proofId : ProofId
  workerId : String
  lockId : ℕ
deriving DecidableEq, Repr

/-! ## How far an operation has come -/

inductive RequestPhase (ProofId : Type*)
  | insert
  | select
  | locked (row : ProofRow)
  | done (result : Except (ProofRequestError ProofId) (RequestProofResponse ProofId))

inductive RecordPhase (ProofId : Type*)
  | select
  | locked (row : ProofRow)
  | checked (row : ProofRow)
  | write (row : ProofRow) (active : Option ℕ)
  | done (result : Except (ProofJobQueueError ProofId) Unit)

inductive SubmitPhase (ProofId : Type*)
  | read
  | update
  | reread
  | done (result : Except (ProofJobQueueError ProofId) Unit)

inductive HeartbeatPhase (ProofId : Type*)
  | update
  | reread
  | done (result : Except (ProofJobQueueError ProofId) Unit)

/-- An operation, with the time at which it was called. -/
inductive Operation (ProofId : Type*)
  | requestProof (request : ProofRequest) (now : ℕ) (phase : RequestPhase ProofId)
  | cancelGameProofs (game : BitVec 160) (result : Option ℕ)
  | markExhaustedProofRequestsFailed (now : ℕ) (result : Option ℕ)
  | getNextProof (request : GetNextProofRequest) (now : ℕ) (result : Option (Option LockedProofRequest))
  | recordProofSession (request : RecordProofSessionRequest ProofId) (now : ℕ) (phase : RecordPhase ProofId)
  | submitProof (request : SubmitProofRequest ProofId) (now : ℕ) (phase : SubmitPhase ProofId)
  | heartbeat (request : HeartbeatRequest ProofId) (now : ℕ) (phase : HeartbeatPhase ProofId)

/-- A call of an operation. -/
inductive Call (ProofId : Type*)
  | requestProof (request : ProofRequest) (now : ℕ)
  | cancelGameProofs (game : BitVec 160)
  | markExhaustedProofRequestsFailed (now : ℕ)
  | getNextProof (request : GetNextProofRequest) (now : ℕ)
  | recordProofSession (request : RecordProofSessionRequest ProofId) (now : ℕ)
  | submitProof (request : SubmitProofRequest ProofId) (now : ℕ)
  | heartbeat (request : HeartbeatRequest ProofId) (now : ℕ)

def Call.begin : Call ProofId → Operation ProofId
  | requestProof request now => .requestProof request now .insert
  | cancelGameProofs game => .cancelGameProofs game none
  | markExhaustedProofRequestsFailed now => .markExhaustedProofRequestsFailed now none
  | getNextProof request now => .getNextProof request now none
  | recordProofSession request now => .recordProofSession request now .select
  | submitProof request now => .submitProof request now .read
  | heartbeat request now => .heartbeat request now .update

variable [LinearOrder ProofId]

namespace Database

def empty : Database ProofId := ⟨∅, [], 0, ∅⟩

variable (config : ProverServiceConfig) (idOf : ProofRequest → ProofId) (db : Database ProofId)

def setRow (proofId : ProofId) (row : ProofRow) : Database ProofId :=
  { db with proofRequests := db.proofRequests.insert proofId row }

def lock (proofId : ProofId) (operation : ℕ) : Database ProofId := { db with locks := db.locks.insert proofId operation }

def unlock (proofId : ProofId) : Database ProofId := { db with locks := db.locks.erase proofId }

/-- The response of `get_proof` to a reader. -/
inductive ProofResponse (ProofId : Type*)
  | succeeded (proofId : ProofId) (proof : ProofData)
  | failed (proofId : ProofId) (reason : String)
  | pending (proofId : ProofId) (status : ProofStatus)

def getProof (proofId : ProofId) : Except (ProofRequestError ProofId) (ProofResponse ProofId) :=
  match db.proofRequests.lookup proofId with
  | none => .error (.proofIdNotFound proofId)
  | some row =>
    match row.proofStatus with
    | .succeeded =>
      match row.proofData with
      | some proof => .ok (.succeeded proofId proof)
      | none => .error .proofEncoding
    | .failed | .cancelled => .ok (.failed proofId (row.failureReason.getD "proof job failed"))
    | status => .ok (.pending proofId status)

/-! ### `request_proof` -/

def advanceRequest (operation : ℕ) (request : ProofRequest) (now : ℕ) :
    RequestPhase ProofId → Database ProofId × RequestPhase ProofId
  | .insert =>
    if 2 ^ 63 ≤ request.l2BlockNumber then (db, .done (.error (.blockNumberExceedsI64 request.l2BlockNumber)))
    else
      match db.proofRequests.lookup (idOf request) with
      | none => (db.setRow (idOf request) (.new request now), .done (.ok ⟨idOf request, request.l1Head⟩))
      | some _ => (db, .select)
  | .select =>
    match db.proofRequests.lookup (idOf request) with
    | none => (db, .done (.error (.rowMissingAfterConflict (idOf request))))
    | some row =>
      if idOf request ∈ db.locks then (db, .select) else (db.lock (idOf request) operation, .locked row)
  | .locked row =>
    let released := db.unlock (idOf request)
    if row.request ≠ request then (released, .done (.error (.requestMismatch (idOf request))))
    else if row.proofStatus = .failed ∨ row.proofStatus = .cancelled then
      if row.proofStatus = .failed ∧ row.retryCount > config.maxRetries.toInt then
        (released, .done (.error (.tooManyRetries (idOf request) config.maxRetries)))
      else
        ({ released with
            proofRequests := adjust (idOf request) (·.requeue request.l1Head (row.proofStatus = .failed)) db.proofRequests },
          .done (.ok ⟨idOf request, request.l1Head⟩))
    else (released, .done (.ok ⟨idOf request, row.request.l1Head⟩))
  | .done result => (db, .done result)

/-! ### Statements over many rows -/

def blocks (changes : ProofId → ProofRow → Bool) : Prop := ∃ proofId ∈ select changes db.proofRequests, proofId ∈ db.locks

instance (changes : ProofId → ProofRow → Bool) : Decidable (db.blocks changes) :=
  inferInstanceAs (Decidable (∃ proofId ∈ select changes db.proofRequests, proofId ∈ db.locks))

/-- Change every row with a property. -/
def updateWhere (changes : ProofId → ProofRow → Bool) (change : ProofRow → ProofRow) : Database ProofId :=
  { db with proofRequests := mapEntries (fun proofId row => if changes proofId row then change row else row) db.proofRequests }

def isCancelled (game : BitVec 160) (_ : ProofId) (row : ProofRow) : Bool := row.request.game = game ∧ row.isActive

def advanceCancel (game : BitVec 160) : Option ℕ → Database ProofId × Option ℕ
  | none =>
    if db.blocks (isCancelled game) then (db, none)
    else (db.updateWhere (isCancelled game) ProofRow.cancel, some (count (isCancelled game) db.proofRequests))
  | some result => (db, some result)

def isExhausted (now : ℕ) (_ : ProofId) (row : ProofRow) : Bool := row.isExhausted config now

def exhaustedReason : String :=
  let maxAttempts := config.maxAttempts.toNat
  s!"proof request exhausted max attempts ({maxAttempts})"

def advanceExhausted (now : ℕ) : Option ℕ → Database ProofId × Option ℕ
  | none =>
    if db.blocks (isExhausted config now) then (db, none)
    else
      let reason := exhaustedReason config
      let failed := select (isExhausted config now) db.proofRequests
      ({ db.updateWhere (isExhausted config now) (·.fail reason) with
          proofSessions := db.proofSessions.map fun session =>
            if session.proofId ∈ failed ∧ session.isActive then
              { session with status := .failed, failureReason := some reason }
            else session },
        some failed.card)
  | some result => (db, some result)

/-! ### `get_next_proof` -/

def isClaimable (request : GetNextProofRequest) (now : ℕ) (proofId : ProofId) (row : ProofRow) : Bool :=
  row.request.backend = request.backend ∧ row.request.verifierId = request.verifierId ∧
    row.request.rangeVkeyCommitment = request.rangeVkeyCommitment ∧ row.attempt < config.maxAttempts.toInt ∧
    row.isFree now ∧ proofId ∉ db.locks

def queueKey (proofId : ProofId) : ℕ ×ₗ ℕ ×ₗ ProofId :=
  match db.proofRequests.lookup proofId with
  | some row => toLex (row.request.l2BlockNumber, toLex (row.createdAt, proofId))
  | none => toLex (0, toLex (0, proofId))

def nextInQueue (request : GetNextProofRequest) (now : ℕ) : Option ProofId :=
  match ((select (db.isClaimable config request now) db.proofRequests).image db.queueKey).min with
  | some key => some (ofLex (ofLex key).2).2
  | none => none

def advanceNext (request : GetNextProofRequest) (now : ℕ) :
    Option (Option LockedProofRequest) → Database ProofId × Option (Option LockedProofRequest)
  | none =>
    match db.nextInQueue config request now with
    | none => (db, some none)
    | some proofId =>
      match db.proofRequests.lookup proofId with
      | none => (db, some none)
      | some row =>
        ({ db.setRow proofId (row.claim request.workerId db.leases (now + config.lockTimeout)) with
            leases := db.leases + 1 },
          some (some ⟨row.request, db.leases⟩))
  | some result => (db, some result)

/-! ### `record_proof_session` -/

def terminalSession (request : RecordProofSessionRequest ProofId) : Option (ProofSession ProofId) :=
  db.proofSessions.find? fun session =>
    session.isFor request.proofId request.sessionType ∧ session.backendSessionId = request.backendSessionId ∧
      session.status.isTerminal

/-- The active session of a proof and a type. -/
def activeSession (proofId : ProofId) (sessionType : SessionType) : Option ℕ :=
  db.proofSessions.findIdx? fun session => session.isFor proofId sessionType ∧ session.isActive

def advanceRecord (operation : ℕ) (request : RecordProofSessionRequest ProofId) (now : ℕ) :
    RecordPhase ProofId → Database ProofId × RecordPhase ProofId
  | .select =>
    match db.proofRequests.lookup request.proofId with
    | none => (db, .done (.error (.proofIdNotFound request.proofId)))
    | some row =>
      if request.proofId ∈ db.locks then (db, .select) else (db.lock request.proofId operation, .locked row)
  | .locked row =>
    let released := db.unlock request.proofId
    if row.jobStatus ≠ .claimed then
      (released, .done (.error (.proofJobStatusNotClaimed request.proofId row.jobStatus)))
    else if row.lockId ≠ some request.lockId ∨ row.workerId ≠ some request.workerId then
      (released, .done (.error (.staleLock request.proofId)))
    else if row.lockExpiresAt.all (· ≤ now) then (released, .done (.error (.lockExpired request.proofId)))
    else
      match db.terminalSession request with
      | some session =>
        if session.status = request.status then (released, .done (.ok ()))
        else (released, .done (.error (.backendSessionAlreadyTerminal request.proofId request.sessionType
          request.backendSessionId session.status request.status)))
      | none => (db, .checked row)
  | .checked row => (db, .write row (db.activeSession request.proofId request.sessionType))
  | .write _ (some active) =>
    let released := db.unlock request.proofId
    match db.proofSessions[active]? with
    | some session =>
      if session.isActive then
        ({ released with
            proofSessions := db.proofSessions.set active
              { session with
                backendSessionId := request.backendSessionId
                status := request.status
                failureReason := request.failureReason } },
          .done (.ok ()))
      else (released, .done (.error .sqlx))
    | none => (released, .done (.error .sqlx))
  | .write _ none =>
    let released := db.unlock request.proofId
    -- the unique index allows one active session for a proof and a type
    if ¬ request.status.isTerminal ∧ (db.activeSession request.proofId request.sessionType).isSome then
      (released, .done (.error .sqlx))
    else
      ({ released with
          proofSessions := db.proofSessions ++
            [⟨request.proofId, request.sessionType, request.backendSessionId, request.status, none⟩] },
        .done (.ok ()))
  | .done result => (db, .done result)

/-! ### `submit_proof` -/

def leaseError (row : ProofRow) (proofId : ProofId) (workerId : String) (lockId now : ℕ) : ProofJobQueueError ProofId :=
  if row.jobStatus = .succeeded ∨ row.jobStatus = .failed then .alreadyTerminal proofId
  else if row.jobStatus ≠ .claimed then .proofJobStatusNotClaimed proofId row.jobStatus
  else if row.lockId ≠ some lockId ∨ row.workerId ≠ some workerId then .staleLock proofId
  else if row.lockExpiresAt.all (· ≤ now) then .lockExpired proofId
  else .unknown proofId

def advanceSubmit (clock : ℕ) (request : SubmitProofRequest ProofId) (now : ℕ) :
    SubmitPhase ProofId → Database ProofId × SubmitPhase ProofId
  | .read =>
    match db.proofRequests.lookup request.proofId with
    | none => (db, .done (.error (.proofIdNotFound request.proofId)))
    | some row =>
      if row.request.backend ≠ request.proof.backend then
        (db, .done (.error (.backendMismatch request.proofId row.request.backend request.proof.backend)))
      else if row.lockId ≠ some request.lockId ∨ row.workerId ≠ some request.workerId then
        (db, .done (.error (.staleLock request.proofId)))
      else if row.lockExpiresAt.all (· ≤ now) then (db, .done (.error (.lockExpired request.proofId)))
      else if row.jobStatus = .succeeded ∨ row.jobStatus = .failed then
        (db, .done (.error (.alreadyTerminal request.proofId)))
      else (db, .update)
  | .update =>
    match db.proofRequests.lookup request.proofId with
    | none => (db, .reread)
    | some row =>
      if row.isLeasedTo request.workerId request.lockId now then
        if request.proofId ∈ db.locks then (db, .update)
        else (db.setRow request.proofId (row.succeed request.proof), .done (.ok ()))
      else (db, .reread)
  | .reread =>
    match db.proofRequests.lookup request.proofId with
    | none => (db, .done (.error (.proofIdNotFound request.proofId)))
    | some row =>
      if row.jobStatus = .succeeded ∧ row.workerId = some request.workerId ∧ row.lockId = some request.lockId then
        match row.proofData with
        | some stored =>
          if stored = request.proof then (db, .done (.ok ()))
          else (db, .done (.error (.proofMismatch request.proofId stored request.proof)))
        | none => (db, .done (.error .sqlx))
      else (db, .done (.error (leaseError row request.proofId request.workerId request.lockId clock)))
  | .done result => (db, .done result)

/-! ### `heartbeat` -/

def advanceHeartbeat (request : HeartbeatRequest ProofId) (now : ℕ) :
    HeartbeatPhase ProofId → Database ProofId × HeartbeatPhase ProofId
  | .update =>
    match db.proofRequests.lookup request.proofId with
    | none => (db, .reread)
    | some row =>
      if row.isLeasedTo request.workerId request.lockId now then
        if request.proofId ∈ db.locks then (db, .update)
        else (db.setRow request.proofId (row.extend (now + config.lockTimeout)), .done (.ok ()))
      else (db, .reread)
  | .reread =>
    match db.proofRequests.lookup request.proofId with
    | none => (db, .done (.error (.proofIdNotFound request.proofId)))
    | some row => (db, .done (.error (leaseError row request.proofId request.workerId request.lockId now)))
  | .done result => (db, .done result)

def advance (number clock : ℕ) : Operation ProofId → Database ProofId × Operation ProofId
  | .requestProof request now phase =>
    let (db, phase) := db.advanceRequest config idOf number request now phase
    (db, .requestProof request now phase)
  | .cancelGameProofs game result =>
    let (db, result) := db.advanceCancel game result
    (db, .cancelGameProofs game result)
  | .markExhaustedProofRequestsFailed now result =>
    let (db, result) := db.advanceExhausted config now result
    (db, .markExhaustedProofRequestsFailed now result)
  | .getNextProof request now result =>
    let (db, result) := db.advanceNext config request now result
    (db, .getNextProof request now result)
  | .recordProofSession request now phase =>
    let (db, phase) := db.advanceRecord number request now phase
    (db, .recordProofSession request now phase)
  | .submitProof request now phase =>
    let (db, phase) := db.advanceSubmit clock request now phase
    (db, .submitProof request now phase)
  | .heartbeat request now phase =>
    let (db, phase) := db.advanceHeartbeat config request now phase
    (db, .heartbeat request now phase)

end Database

/-! ## Interleavings -/

/-- The database and the operations that have been called. -/
structure Service (ProofId : Type*) where
  db : Database ProofId
  operations : List (Operation ProofId)

inductive ServiceEvent (ProofId : Type*)
  | call (call : Call ProofId)
  | statement (number clock : ℕ)

/-- There is no such operation. -/
inductive NoOperation
  | noOperation

namespace Service

def initial : Service ProofId := ⟨.empty, []⟩

variable (config : ProverServiceConfig) (idOf : ProofRequest → ProofId)

def exec (service : Service ProofId) : ServiceEvent ProofId → Except NoOperation (Service ProofId)
  | .call call => .ok { service with operations := service.operations ++ [call.begin] }
  | .statement number clock =>
    match service.operations[number]? with
    | none => .error .noOperation
    | some operation =>
      let (db, operation) := service.db.advance config idOf number clock operation
      .ok ⟨db, service.operations.set number operation⟩

/-- All interleavings of the statements of any number of operations. -/
abbrev Runs : Service ProofId → List (ServiceEvent ProofId) → Service ProofId → Prop :=
  Machine.Run (exec config idOf) fun _ _ => True

end Service

end WorldChain.ProverService
