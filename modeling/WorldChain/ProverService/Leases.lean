import WorldChain.ProverService.Steps

/-! # Leases fence stale workers

A lease is the pair of worker and lock id in the row of a claimed job. A lock id that the row has lost never comes
back: each statement clears the lock id, keeps it, or puts in a new one.
-/

namespace WorldChain.ProverService

variable {ProofId : Type*} [LinearOrder ProofId]

namespace Operation

def presents : Operation ProofId → Option (ProofId × ℕ)
  | .recordProofSession request _ _ => some (request.proofId, request.lockId)
  | .submitProof request _ _ => some (request.proofId, request.lockId)
  | .heartbeat request _ _ => some (request.proofId, request.lockId)
  | _ => none

/-- The operation of a worker has returned success. -/
def succeeds : Operation ProofId → Bool
  | .recordProofSession _ _ (.done (.ok _)) => true
  | .submitProof _ _ (.done (.ok _)) => true
  | .heartbeat _ _ (.done (.ok _)) => true
  | _ => false

def Validated : Operation ProofId → Prop
  | .recordProofSession request _ (.checked row) => row.lockId = some request.lockId
  | .recordProofSession request _ (.write row _) => row.lockId = some request.lockId
  | _ => True

end Operation

namespace Database

variable {config : ProverServiceConfig} {idOf : ProofRequest → ProofId} {db after : Database ProofId} {number clock : ℕ}
  {operation : Operation ProofId} {proofId : ProofId} {lockId : ℕ}

def Fenced (db : Database ProofId) (proofId : ProofId) (lockId : ℕ) : Prop :=
  lockId < db.leases ∧ ∃ row, db.proofRequests.lookup proofId = some row ∧ row.lockId ≠ some lockId

theorem validated_record (request : RecordProofSessionRequest ProofId) (now : ℕ) (phase : RecordPhase ProofId)
    (validated : (Operation.recordProofSession request now phase).Validated) :
    (Operation.recordProofSession request now (db.advanceRecord number request now phase).2).Validated := by
  have step := recordStep_advance db number request now phase
  generalize (db.advanceRecord number request now phase).1 = after,
    (db.advanceRecord number request now phase).2 = next at step ⊢
  cases step with
  | @idle _ next _ unheld =>
    cases next with
    | checked row => cases unheld
    | write row active => cases unheld
    | _ => trivial
  | check leased => exact (of_decide_eq_true leased).2.2.1
  | look => exact validated
  | _ => trivial

theorem validated_advance (config : ProverServiceConfig) (idOf : ProofRequest → ProofId) (number clock : ℕ)
    (validated : operation.Validated) : (db.advance config idOf number clock operation).2.Validated := by
  cases operation with
  | recordProofSession request now phase => exact validated_record request now phase validated
  | _ => trivial

/-! ## A fenced lock id opens nothing -/

/-- A statement that changes no row and does not return success. -/
structure Futile (db after : Database ProofId) (before later : Operation ProofId) : Prop where
  proofRequests : after.proofRequests = db.proofRequests
  proofSessions : after.proofSessions = db.proofSessions
  fails : later.succeeds = true → before.succeeds = true

omit [LinearOrder ProofId] in
theorem Futile.of_unfinished {before later : Operation ProofId} (proofRequests : after.proofRequests = db.proofRequests)
    (proofSessions : after.proofSessions = db.proofSessions) (unfinished : later.succeeds = false) :
    Futile db after before later :=
  ⟨proofRequests, proofSessions, fun success => absurd success (Bool.eq_false_iff.mp unfinished)⟩

variable {now : ℕ}

theorem isLeasedTo_eq_false {row : ProofRow} {workerId : String} {lockId : ℕ} (lost : row.lockId ≠ some lockId) :
    row.isLeasedTo workerId lockId now = false := by
  rw [ProofRow.isLeasedTo, decide_eq_false_iff_not]
  exact fun leased => lost leased.2.2.1

theorem futile_record {request : RecordProofSessionRequest ProofId} {phase : RecordPhase ProofId}
    (owns : (Operation.recordProofSession request now phase).Owns idOf number db)
    (validated : (Operation.recordProofSession request now phase).Validated)
    (lost : ∀ row, db.proofRequests.lookup request.proofId = some row → row.lockId ≠ some request.lockId) :
    Futile db (db.advanceRecord number request now phase).1 (.recordProofSession request now phase)
      (.recordProofSession request now (db.advanceRecord number request now phase).2) := by
  have step := recordStep_advance db number request now phase
  generalize (db.advanceRecord number request now phase).1 = after,
    (db.advanceRecord number request now phase).2 = next at step ⊢
  have unleased : ∀ {row : ProofRow}, phase = .locked row →
      row.isLeasedTo request.workerId request.lockId now = true → False := by
    rintro row rfl leased
    rw [isLeasedTo_eq_false (lost row (owns _ _ rfl).2)] at leased
    cases leased
  cases step with
  | idle _ _ unanswered =>
    refine ⟨rfl, rfl, fun success => ?_⟩
    unfold Operation.succeeds at success
    split at success
    · next is =>
      obtain ⟨_, _, rfl⟩ := Operation.recordProofSession.inj is
      rw [unanswered rfl]
      rfl
    · next is => cases is
    · next is => cases is
    · cases success
  | lock => exact .of_unfinished rfl rfl rfl
  | refuse => exact .of_unfinished rfl rfl rfl
  | lost => exact .of_unfinished rfl rfl rfl
  | again leased => exact (unleased rfl leased).elim
  | check leased => exact (unleased rfl leased).elim
  | look => exact absurd validated (lost _ (owns _ _ rfl).2)
  | update => exact absurd validated (lost _ (owns _ _ rfl).2)
  | insert => exact absurd validated (lost _ (owns _ _ rfl).2)

theorem futile_submit (clock : ℕ) {request : SubmitProofRequest ProofId} {phase : SubmitPhase ProofId}
    (lost : ∀ row, db.proofRequests.lookup request.proofId = some row → row.lockId ≠ some request.lockId) :
    Futile db (db.advanceSubmit clock request now phase).1 (.submitProof request now phase)
      (.submitProof request now (db.advanceSubmit clock request now phase).2) := by
  cases phase with
  | read =>
    simp only [advanceSubmit]
    split
    · exact .of_unfinished rfl rfl rfl
    · split_ifs <;> exact .of_unfinished rfl rfl rfl
  | update =>
    simp only [advanceSubmit]
    split
    · exact .of_unfinished rfl rfl rfl
    · next row present =>
      rw [isLeasedTo_eq_false (lost row present)]
      exact .of_unfinished rfl rfl rfl
  | reread =>
    simp only [advanceSubmit]
    split
    · exact .of_unfinished rfl rfl rfl
    · next row present =>
      rw [if_neg fun accepted => lost row present accepted.2.2]
      exact .of_unfinished rfl rfl rfl
  | done result => exact ⟨rfl, rfl, id⟩

theorem futile_heartbeat (config : ProverServiceConfig) {request : HeartbeatRequest ProofId}
    {phase : HeartbeatPhase ProofId}
    (lost : ∀ row, db.proofRequests.lookup request.proofId = some row → row.lockId ≠ some request.lockId) :
    Futile db (db.advanceHeartbeat config request now phase).1 (.heartbeat request now phase)
      (.heartbeat request now (db.advanceHeartbeat config request now phase).2) := by
  cases phase with
  | update =>
    simp only [advanceHeartbeat]
    split
    · exact .of_unfinished rfl rfl rfl
    · next row present =>
      rw [isLeasedTo_eq_false (lost row present)]
      exact .of_unfinished rfl rfl rfl
  | reread =>
    simp only [advanceHeartbeat]
    split <;> exact .of_unfinished rfl rfl rfl
  | done result => exact ⟨rfl, rfl, id⟩

theorem futile_advance (config : ProverServiceConfig) (clock : ℕ) (owns : operation.Owns idOf number db)
    (validated : operation.Validated) (presents : operation.presents = some (proofId, lockId))
    (fenced : db.Fenced proofId lockId) :
    Futile db (db.advance config idOf number clock operation).1 operation
      (db.advance config idOf number clock operation).2 := by
  obtain ⟨_, row, present, different⟩ := fenced
  have lost : ∀ other, db.proofRequests.lookup proofId = some other → other.lockId ≠ some lockId := fun other found => by
    rw [← Option.some.inj (present.symm.trans found)]
    exact different
  cases operation with
  | recordProofSession request now phase =>
    obtain ⟨rfl, rfl⟩ := Prod.mk.inj (Option.some.inj presents)
    exact futile_record owns validated lost
  | submitProof request now phase =>
    obtain ⟨rfl, rfl⟩ := Prod.mk.inj (Option.some.inj presents)
    exact futile_submit clock lost
  | heartbeat request now phase =>
    obtain ⟨rfl, rfl⟩ := Prod.mk.inj (Option.some.inj presents)
    exact futile_heartbeat config lost
  | _ => cases presents

/-! ## A lock id that is lost stays lost -/

omit [LinearOrder ProofId] in
theorem lockId_of_change {leases : ℕ} {row later : ProofRow}
    (changed : RowChange config idOf leases proofId row operation later) :
    later.lockId = none ∨ later.lockId = row.lockId ∨ later.lockId = some leases := by
  cases changed with
  | requeue => exact .inl rfl
  | cancel => exact .inl rfl
  | fail => exact .inl rfl
  | claim => exact .inr (.inr rfl)
  | extend => exact .inr (.inl rfl)
  | succeed => exact .inr (.inl rfl)

theorem Fenced.kept {next : Operation ProofId} (fenced : db.Fenced proofId lockId)
    (effect : Effect config idOf number db operation after next) : after.Fenced proofId lockId := by
  obtain ⟨given, row, present, lost⟩ := fenced
  obtain ⟨later, held, same | changed⟩ := effect.rows proofId row present
  · exact ⟨given.trans_le effect.leases, later, held, same ▸ lost⟩
  · refine ⟨given.trans_le effect.leases, later, held, ?_⟩
    rcases lockId_of_change changed with cleared | kept | next
    · rw [cleared]
      simp
    · rw [kept]
      exact lost
    · rw [next]
      simp only [ne_eq, Option.some.injEq]
      omega

end Database

namespace Service

variable {config : ProverServiceConfig} {idOf : ProofRequest → ProofId} {service before after : Service ProofId}
  {event : ServiceEvent ProofId} {events : List (ServiceEvent ProofId)} {proofId : ProofId} {lockId : ℕ}

/-- The pair of worker and lock id is the current lease of the proof. -/
def Leases (service : Service ProofId) (proofId : ProofId) (workerId : String) (lockId : ℕ) : Prop :=
  ∃ row, service.db.proofRequests.lookup proofId = some row ∧ row.jobStatus = .claimed ∧
    row.workerId = some workerId ∧ row.lockId = some lockId

/-- Between two states a proof got a newer lease, or was cancelled, failed or queued again. -/
def Superseded (before after : Service ProofId) (proofId : ProofId) : Prop :=
  ∃ row later, before.db.proofRequests.lookup proofId = some row ∧ after.db.proofRequests.lookup proofId = some later ∧
    ((∃ lockId, later.lockId = some lockId ∧ before.db.leases ≤ lockId) ∨
      row.proofStatus ≠ .cancelled ∧ later.proofStatus = .cancelled ∨
      row.proofStatus ≠ .failed ∧ later.proofStatus = .failed ∨
      (row.proofStatus = .failed ∨ row.proofStatus = .cancelled) ∧ later.proofStatus = .created)

theorem validated_step (validated : ∀ (number : ℕ) (operation : Operation ProofId),
      before.operations[number]? = some operation → operation.Validated)
    (success : before.exec config idOf event = .ok after) (other : ℕ) (running : Operation ProofId)
    (present : after.operations[other]? = some running) : running.Validated := by
  rcases exec_cases success with ⟨call, rfl, rfl⟩ | ⟨number, clock, operation, rfl, found, rfl⟩
  · rcases running_call present with earlier | rfl
    · exact validated other running earlier
    · cases call <;> trivial
  · rcases running_statement found present with ⟨rfl, rfl⟩ | ⟨_, earlier⟩
    · exact Database.validated_advance config idOf other clock (validated other operation found)
    · exact validated other running earlier

theorem validated_of_run (run : Runs config idOf initial events service) :
    ∀ (number : ℕ) (operation : Operation ProofId), service.operations[number]? = some operation → operation.Validated :=
  run.invariant (motive := fun service => ∀ (number : ℕ) (operation : Operation ProofId),
    service.operations[number]? = some operation → operation.Validated) (fun _ _ present => by cases present)
    fun validated _ success => validated_step validated success

theorem fenced_of_superseded (locked : Locked idOf before) (success : before.exec config idOf event = .ok after)
    (superseded : Superseded before after proofId) (older : lockId < before.db.leases) :
    after.db.Fenced proofId lockId := by
  obtain ⟨_, _, _, effect⟩ := (locked.step success).1
  obtain ⟨row, later, present, held, kind⟩ := superseded
  refine ⟨older.trans_le effect.leases, later, held, ?_⟩
  rcases kind with ⟨newer, given, recent⟩ | outcome
  · rw [given]
    simp only [ne_eq, Option.some.injEq]
    omega
  · obtain ⟨found, isLater, same | changed⟩ := effect.rows proofId row present
    · -- without a change none of the three happened
      obtain rfl : later = row := (Option.some.inj (held.symm.trans isLater)).trans same
      rcases outcome with ⟨not, is⟩ | ⟨not, is⟩ | ⟨was, is⟩
      · exact absurd is not
      · exact absurd is not
      · rcases was with was | was <;> cases was.symm.trans is
    · obtain rfl := Option.some.inj (held.symm.trans isLater)
      cases changed with
      | requeue => simp [ProofRow.requeue]
      | cancel => simp [ProofRow.cancel]
      | fail => simp [ProofRow.fail]
      | claim => rcases outcome with ⟨_, is⟩ | ⟨_, is⟩ | ⟨_, is⟩ <;> cases is
      | extend lockExpiresAt claimed =>
        rcases outcome with ⟨not, is⟩ | ⟨not, is⟩ | ⟨was, is⟩
        · exact absurd is not
        · exact absurd is not
        · change row.proofStatus = .created at is
          rcases was with was | was <;> cases was.symm.trans is
      | succeed => rcases outcome with ⟨_, is⟩ | ⟨_, is⟩ | ⟨_, is⟩ <;> cases is

theorem fenced_of_run {later : Service ProofId} (locked : Locked idOf service) (run : Runs config idOf service events later)
    (fenced : service.db.Fenced proofId lockId) : Locked idOf later ∧ later.db.Fenced proofId lockId := by
  refine run.invariant (motive := fun reached => Locked idOf reached ∧ reached.db.Fenced proofId lockId) ⟨locked, fenced⟩ ?_
  rintro before after event ⟨locked, fenced⟩ _ success
  obtain ⟨⟨_, _, _, effect⟩, still⟩ := locked.step success
  exact ⟨still, fenced.kept effect⟩

/-- A proof has at most one lease; once a newer one is granted or the proof leaves the worker, no statement with an
older lock id changes a row or succeeds. -/
theorem leases_fence_stale_workers (config : ProverServiceConfig) (idOf : ProofRequest → ProofId) :
    (∀ events service, Runs config idOf initial events service → ∀ proofId workerId lockId otherWorker otherLock,
      service.Leases proofId workerId lockId → service.Leases proofId otherWorker otherLock →
      workerId = otherWorker ∧ lockId = otherLock) ∧
    ∀ past before event next between service proofId, Runs config idOf initial past before →
      before.exec config idOf event = .ok next → Superseded before next proofId →
      Runs config idOf next between service →
      ∀ number clock operation lockId, service.operations[number]? = some operation →
        operation.presents = some (proofId, lockId) → lockId < before.db.leases →
        Database.Futile service.db (service.db.advance config idOf number clock operation).1 operation
          (service.db.advance config idOf number clock operation).2 := by
  refine ⟨?_, ?_⟩
  · rintro events service _ proofId workerId lockId otherWorker otherLock ⟨row, present, _, worker, lock⟩
      ⟨other, found, _, worker', lock'⟩
    obtain rfl := Option.some.inj (present.symm.trans found)
    exact ⟨Option.some.inj (worker.symm.trans worker'), Option.some.inj (lock.symm.trans lock')⟩
  · intro past before event next between service proofId run success superseded onward number clock operation lockId
      found presents older
    have locked := locked_of_run run
    have fenced := fenced_of_superseded locked success superseded older
    obtain ⟨still, lost⟩ := fenced_of_run (locked.step success).2 onward fenced
    have whole : Runs config idOf initial (past ++ [event] ++ between) service :=
      (run.append (.single trivial success)).append onward
    exact Database.futile_advance config clock (still.owns number operation found)
      (validated_of_run whole number operation found) presents lost

def sampleConfig : ProverServiceConfig := ⟨10, 3, 1⟩

def sampleRow : ProofRow := .new ⟨.sp1, 0, 0, 5, 0, 0, none⟩ 0

def lateSubmission : List (ServiceEvent ℕ) :=
  [.call (.requestProof sampleRow.request 0), .statement 0 0, .call (.getNextProof ⟨.sp1, "first", 0, none⟩ 0),
    .statement 1 0, .call (.submitProof ⟨5, .sp1 [] [], "first", 0⟩ 5), .statement 2 5,
    .call (.getNextProof ⟨.sp1, "second", 0, none⟩ 20)]

theorem late_submission_is_futile : ∃ before next, ∃ operation : Operation ℕ,
    Runs sampleConfig ProofRequest.l2BlockNumber initial lateSubmission before ∧
    before.exec sampleConfig ProofRequest.l2BlockNumber (.statement 3 20) = .ok next ∧
    before.Leases 5 "first" 0 ∧ next.Leases 5 "second" 1 ∧
    next.operations[2]? = some operation ∧ operation.presents = some (5, 0) ∧
    Database.Futile next.db (next.db.advance sampleConfig ProofRequest.l2BlockNumber 2 21 operation).1 operation
      (next.db.advance sampleConfig ProofRequest.l2BlockNumber 2 21 operation).2 := by
  have run : Runs sampleConfig ProofRequest.l2BlockNumber initial lateSubmission _ :=
    Machine.Run.run_final (by decide +kernel)
  have success : [ServiceEvent.statement 3 20].foldlM (exec sampleConfig ProofRequest.l2BlockNumber)
      (Machine.Run.final (exec sampleConfig ProofRequest.l2BlockNumber) initial lateSubmission) = .ok _ :=
    Machine.Run.foldlM_eq_final (by decide +kernel)
  simp only [List.foldlM_cons, List.foldlM_nil, bind_pure] at success
  have first : (Machine.Run.final (exec sampleConfig ProofRequest.l2BlockNumber) initial
      lateSubmission).db.proofRequests.lookup 5 = some (sampleRow.claim "first" 0 10) := by decide +kernel
  have second : (Machine.Run.final (exec sampleConfig ProofRequest.l2BlockNumber)
      (Machine.Run.final (exec sampleConfig ProofRequest.l2BlockNumber) initial lateSubmission)
      [.statement 3 20]).db.proofRequests.lookup 5 = some ((sampleRow.claim "first" 0 10).claim "second" 1 30) := by
    decide +kernel
  refine ⟨_, _, .submitProof ⟨5, .sp1 [] [], "first", 0⟩ 5 .update, run, success, ⟨_, first, rfl, rfl, rfl⟩,
    ⟨_, second, rfl, rfl, rfl⟩, rfl, rfl, ?_⟩
  refine (leases_fence_stale_workers sampleConfig ProofRequest.l2BlockNumber).2 _ _ _ _ _ _ 5 run success ?_ (.start _)
    2 21 _ 0 rfl rfl (by decide +kernel)
  exact ⟨_, _, first, second, .inl ⟨1, rfl, by decide +kernel⟩⟩

end Service

end WorldChain.ProverService
