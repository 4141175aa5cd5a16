import WorldChain.ProverService.Store

/-! # What a statement of the store can do

`Effect` says it once for the statements of all operations: how they may change a row or the sessions, and that they
respect the locks of the others. `RecordStep` says it for `record_proof_session`, whose statements run under a lock. The
invariants of the service rest on these two and do not unfold a statement again.
-/

namespace WorldChain.ProverService

open Table

variable {ProofId : Type*}

/-- How a statement of an operation changes the row of a proof. Only a repeated request queues it again. -/
inductive RowChange (config : ProverServiceConfig) (idOf : ProofRequest → ProofId) (leases : ℕ) (proofId : ProofId)
    (row : ProofRow) : Operation ProofId → ProofRow → Prop
  | requeue (now : ℕ) (keyed : idOf row.request = proofId)
      (finished : row.proofStatus = .failed ∨ row.proofStatus = .cancelled)
      (room : row.proofStatus = .failed → row.retryCount ≤ config.maxRetries.toInt) :
      RowChange config idOf leases proofId row (.requestProof row.request now (.locked row))
        (row.requeue row.request.l1Head (row.proofStatus = .failed))
  | cancel {operation : Operation ProofId} (active : row.isActive = true) :
      RowChange config idOf leases proofId row operation row.cancel
  | fail {operation : Operation ProofId} (reason : String) (active : row.isActive = true) :
      RowChange config idOf leases proofId row operation (row.fail reason)
  | claim {operation : Operation ProofId} (workerId : String) (lockExpiresAt : ℕ)
      (waiting : row.jobStatus = .pending ∨ row.jobStatus = .claimed) (room : row.attempt < config.maxAttempts.toInt) :
      RowChange config idOf leases proofId row operation (row.claim workerId leases lockExpiresAt)
  | extend {operation : Operation ProofId} (lockExpiresAt : ℕ) (claimed : row.jobStatus = .claimed) :
      RowChange config idOf leases proofId row operation (row.extend lockExpiresAt)
  | succeed {operation : Operation ProofId} (proof : ProofData) (claimed : row.jobStatus = .claimed) :
      RowChange config idOf leases proofId row operation (row.succeed proof)

namespace RecordProofSessionRequest

variable (request : RecordProofSessionRequest ProofId)

def entry : ProofSession ProofId :=
  ⟨request.proofId, request.sessionType, request.backendSessionId, request.status, none⟩

def entryOver (session : ProofSession ProofId) : ProofSession ProofId :=
  { session with
    backendSessionId := request.backendSessionId
    status := request.status
    failureReason := request.failureReason }

end RecordProofSessionRequest

/-- The row that an operation has locked, as it has read it. -/
def RecordPhase.row? : RecordPhase ProofId → Option ProofRow
  | .locked row | .checked row | .write row _ => some row
  | .select | .done _ => none

namespace Operation

def holding (idOf : ProofRequest → ProofId) : Operation ProofId → Option (ProofId × ProofRow)
  | .requestProof request _ (.locked row) => some (idOf request, row)
  | .recordProofSession request _ phase => phase.row?.map (request.proofId, ·)
  | _ => none

end Operation

theorem Call.holding_begin (idOf : ProofRequest → ProofId) (call : Call ProofId) : call.begin.holding idOf = none := by
  cases call <;> rfl

variable [LinearOrder ProofId]

/-- How a statement of an operation changes the sessions. -/
inductive SessionChange (db : Database ProofId) :
    Operation ProofId → List (ProofSession ProofId) → Operation ProofId → Prop
  | fail {operation next : Operation ProofId} (failed : Finset ProofId) (reason : String)
      (free : ∀ proofId ∈ failed, proofId ∉ db.locks) :
      SessionChange db operation (db.proofSessions.map fun session =>
        if session.proofId ∈ failed ∧ session.isActive then
          { session with status := .failed, failureReason := some reason }
        else session) next
  | update {request : RecordProofSessionRequest ProofId} {now index : ℕ} {row : ProofRow} {session : ProofSession ProofId}
      (present : db.proofSessions[index]? = some session) (active : session.isActive = true) :
      SessionChange db (.recordProofSession request now (.write row (some index)))
        (db.proofSessions.set index (request.entryOver session)) (.recordProofSession request now (.done (.ok ())))
  | insert {request : RecordProofSessionRequest ProofId} {now : ℕ} {row : ProofRow}
      (room : request.entry.isActive = true → ∀ other ∈ db.proofSessions,
        other.isFor request.proofId request.sessionType = true → other.isActive = false) :
      SessionChange db (.recordProofSession request now (.write row none)) (db.proofSessions ++ [request.entry])
        (.recordProofSession request now (.done (.ok ())))

/-- An operation that has read a row under its lock holds the lock, and the row is as it has read it. -/
def Operation.Owns (idOf : ProofRequest → ProofId) (number : ℕ) (db : Database ProofId) (operation : Operation ProofId) :
    Prop :=
  ∀ proofId row, operation.holding idOf = some (proofId, row) →
    db.locks.lookup proofId = some number ∧ db.proofRequests.lookup proofId = some row

theorem Operation.owns_of_holding_eq_none {idOf : ProofRequest → ProofId} {number : ℕ} {db : Database ProofId}
    {operation : Operation ProofId} (nothing : operation.holding idOf = none) : operation.Owns idOf number db := by
  intro proofId row holding
  cases nothing.symm.trans holding

/-- What a statement of the operation `number` does to the tables, and what the operation is afterwards. -/
structure Effect (config : ProverServiceConfig) (idOf : ProofRequest → ProofId) (number : ℕ) (db : Database ProofId)
    (operation : Operation ProofId) (after : Database ProofId) (next : Operation ProofId) : Prop where
  rows : ∀ proofId row, db.proofRequests.lookup proofId = some row → ∃ later,
    after.proofRequests.lookup proofId = some later ∧
      (later = row ∨ RowChange config idOf db.leases proofId row operation later)
  added : ∀ proofId row, db.proofRequests.lookup proofId = none → after.proofRequests.lookup proofId = some row →
    ∃ request now, row = .new request now ∧ idOf request = proofId
  leases : db.leases ≤ after.leases
  sessions : after.proofSessions = db.proofSessions ∨ SessionChange db operation after.proofSessions next
  respects : ∀ proofId other, other ≠ number → db.locks.lookup proofId = some other →
    after.locks.lookup proofId = some other ∧ after.proofRequests.lookup proofId = db.proofRequests.lookup proofId
  locks : ∀ proofId ∈ after.locks, proofId ∈ db.locks ∨ proofId ∈ db.proofRequests
  owns : next.Owns idOf number after

namespace Effect

variable {config : ProverServiceConfig} {idOf : ProofRequest → ProofId} {number : ℕ} {db after : Database ProofId}
  {operation next : Operation ProofId} {proofId : ProofId} {row later : ProofRow}

theorem of_same (rows : after.proofRequests = db.proofRequests) (leases : after.leases = db.leases)
    (sessions : after.proofSessions = db.proofSessions ∨ SessionChange db operation after.proofSessions next)
    (kept : ∀ proofId other, other ≠ number → db.locks.lookup proofId = some other →
      after.locks.lookup proofId = some other)
    (locks : ∀ proofId ∈ after.locks, proofId ∈ db.locks ∨ proofId ∈ db.proofRequests)
    (owns : next.Owns idOf number after) : Effect config idOf number db operation after next where
  rows := fun _ row present => ⟨row, by rw [rows, present], .inl rfl⟩
  added := fun _ _ absent present => by rw [rows, absent] at present; cases present
  leases := leases.ge
  sessions := sessions
  respects := fun proofId other different held => ⟨kept proofId other different held, by rw [rows]⟩
  locks := locks
  owns := owns

theorem pass (owns : next.Owns idOf number db) : Effect config idOf number db operation db next :=
  of_same rfl rfl (.inl rfl) (fun _ _ _ held => held) (fun _ member => .inl member) owns

theorem refl (nothing : next.holding idOf = none) : Effect config idOf number db operation db next :=
  .pass (Operation.owns_of_holding_eq_none nothing)

theorem lock (present : db.proofRequests.lookup proofId = some row) (free : proofId ∉ db.locks)
    (holds : next.holding idOf = some (proofId, row)) :
    Effect config idOf number db operation (db.lock proofId number) next := by
  refine of_same rfl rfl (.inl rfl) (fun other holder _ held => ?_) (fun other member => ?_) fun other locked holding => ?_
  · rw [Database.lock, Finmap.lookup_insert_of_ne, held]
    rintro rfl
    exact free (Finmap.mem_of_lookup_eq_some held)
  · rcases Finmap.mem_insert.mp member with rfl | earlier
    · exact .inr (Finmap.mem_of_lookup_eq_some present)
    · exact .inl earlier
  · obtain ⟨rfl, rfl⟩ := Prod.mk.inj (Option.some.inj (holds.symm.trans holding))
    exact ⟨Finmap.lookup_insert _, present⟩

theorem lookup_unlock (own : db.locks.lookup proofId = some number) (other : ProofId) (holder : ℕ)
    (different : holder ≠ number) (held : db.locks.lookup other = some holder) :
    (db.unlock proofId).locks.lookup other = some holder := by
  rw [Database.unlock, Finmap.lookup_erase_ne, held]
  rintro rfl
  exact different (Option.some.inj (held.symm.trans own))

theorem mem_of_mem_unlock {other : ProofId} (member : other ∈ (db.unlock proofId).locks) : other ∈ db.locks :=
  (Finmap.mem_erase.mp member).2

theorem unlock (own : db.locks.lookup proofId = some number) {sessions : List (ProofSession ProofId)}
    (written : sessions = db.proofSessions ∨ SessionChange db operation sessions next)
    (nothing : next.holding idOf = none) :
    Effect config idOf number db operation { db.unlock proofId with proofSessions := sessions } next :=
  of_same rfl rfl written (lookup_unlock own) (fun _ member => .inl (mem_of_mem_unlock member))
    (Operation.owns_of_holding_eq_none nothing)

theorem of_change (present : db.proofRequests.lookup proofId = some row)
    (changed : RowChange config idOf db.leases proofId row operation later)
    (rows : after.proofRequests = db.proofRequests.insert proofId later) (leases : db.leases ≤ after.leases)
    (sessions : after.proofSessions = db.proofSessions)
    (own : ∀ holder, db.locks.lookup proofId = some holder → holder = number)
    (kept : ∀ other holder, holder ≠ number → db.locks.lookup other = some holder →
      after.locks.lookup other = some holder) (locks : ∀ other ∈ after.locks, other ∈ db.locks)
    (nothing : next.holding idOf = none) : Effect config idOf number db operation after next where
  rows := fun other entry found => by
    by_cases same : other = proofId
    · subst same
      obtain rfl := Option.some.inj (found.symm.trans present)
      exact ⟨later, by rw [rows, Finmap.lookup_insert], .inr changed⟩
    · exact ⟨entry, by rw [rows, Finmap.lookup_insert_of_ne _ same, found], .inl rfl⟩
  added := fun other entry absent found => by
    by_cases same : other = proofId
    · subst same
      cases absent.symm.trans present
    · rw [rows, Finmap.lookup_insert_of_ne _ same, absent] at found
      cases found
  leases := leases
  sessions := .inl sessions
  respects := fun other holder different held => by
    refine ⟨kept other holder different held, ?_⟩
    rw [rows, Finmap.lookup_insert_of_ne]
    rintro rfl
    exact different (own holder held)
  locks := fun other member => .inl (locks other member)
  owns := Operation.owns_of_holding_eq_none nothing

theorem setRow (present : db.proofRequests.lookup proofId = some row) (free : proofId ∉ db.locks)
    (changed : RowChange config idOf db.leases proofId row operation later) (nothing : next.holding idOf = none) :
    Effect config idOf number db operation (db.setRow proofId later) next :=
  of_change present changed rfl le_rfl rfl (fun _ held => absurd (Finmap.mem_of_lookup_eq_some held) free)
    (fun _ _ _ held => held) (fun _ member => member) nothing

theorem insert {request : ProofRequest} (now : ℕ) (absent : db.proofRequests.lookup (idOf request) = none)
    (unlocked : idOf request ∉ db.locks) (nothing : next.holding idOf = none) :
    Effect config idOf number db operation (db.setRow (idOf request) (.new request now)) next where
  rows := fun other entry found => by
    have different : other ≠ idOf request := by
      rintro rfl
      cases absent.symm.trans found
    exact ⟨entry, by rw [Database.setRow, Finmap.lookup_insert_of_ne _ different, found], .inl rfl⟩
  added := fun other entry missing found => by
    by_cases same : other = idOf request
    · rw [same, Database.setRow, Finmap.lookup_insert] at found
      exact ⟨request, now, (Option.some.inj found).symm, same.symm⟩
    · rw [Database.setRow, Finmap.lookup_insert_of_ne _ same, missing] at found
      cases found
  leases := le_rfl
  sessions := .inl rfl
  respects := fun other holder _ held => by
    refine ⟨held, ?_⟩
    rw [Database.setRow, Finmap.lookup_insert_of_ne]
    rintro rfl
    exact unlocked (Finmap.mem_of_lookup_eq_some held)
  locks := fun _ member => .inl member
  owns := Operation.owns_of_holding_eq_none nothing

theorem updateWhere {changes : ProofId → ProofRow → Bool} {change : ProofRow → ProofRow}
    {sessions : List (ProofSession ProofId)} (free : ¬ db.blocks changes)
    (changed : ∀ proofId row, changes proofId row = true →
      RowChange config idOf db.leases proofId row operation (change row))
    (written : sessions = db.proofSessions ∨ SessionChange db operation sessions next)
    (nothing : next.holding idOf = none) :
    Effect config idOf number db operation { db.updateWhere changes change with proofSessions := sessions } next where
  rows := fun proofId row present => by
    refine ⟨if changes proofId row then change row else row, ?_, ?_⟩
    · rw [Database.updateWhere, lookup_mapEntries, present, Option.map_some]
    · split
      · next holds => exact .inr (changed proofId row holds)
      · exact .inl rfl
  added := fun proofId row absent found => by
    rw [Database.updateWhere, lookup_mapEntries, absent] at found
    cases found
  leases := le_rfl
  sessions := written
  respects := fun proofId holder _ held => by
    refine ⟨held, ?_⟩
    rw [Database.updateWhere, lookup_mapEntries]
    cases present : db.proofRequests.lookup proofId with
    | none => rfl
    | some row =>
      rw [Option.map_some, if_neg]
      intro holds
      exact free ⟨proofId, mem_select.mpr ⟨row, present, holds⟩, Finmap.mem_of_lookup_eq_some held⟩
  locks := fun _ member => .inl member
  owns := Operation.owns_of_holding_eq_none nothing

end Effect

/-! ## The operations -/

namespace Database

variable {config : ProverServiceConfig} {idOf : ProofRequest → ProofId} {db : Database ProofId} {number clock now : ℕ}
  {operation : Operation ProofId}

theorem effect_request {request : ProofRequest} {phase : RequestPhase ProofId}
    (rooted : ∀ proofId ∈ db.locks, proofId ∈ db.proofRequests)
    (owns : (Operation.requestProof request now phase).Owns idOf number db) :
    Effect config idOf number db (.requestProof request now phase)
      (db.advanceRequest config idOf number request now phase).1
      (.requestProof request now (db.advanceRequest config idOf number request now phase).2) := by
  cases phase with
  | insert =>
    simp only [advanceRequest]
    split
    · exact .refl rfl
    · split
      · next absent => exact .insert now absent (fun held => Finmap.lookup_eq_none.mp absent (rooted _ held)) rfl
      · exact .refl rfl
  | select =>
    simp only [advanceRequest]
    split
    · exact .refl rfl
    · next row present =>
      split
      · exact .refl rfl
      · next free => exact .lock present free rfl
  | locked row =>
    obtain ⟨own, present⟩ := owns _ _ rfl
    simp only [advanceRequest]
    split
    · exact .unlock own (.inl rfl) rfl
    · next matching =>
      obtain rfl := not_not.mp matching
      split
      · next finished =>
        split
        · exact .unlock own (.inl rfl) rfl
        · next within =>
          have requeued : RowChange config idOf db.leases (idOf row.request) row _ _ :=
            .requeue now rfl finished fun failed => not_lt.mp fun beyond => within ⟨failed, beyond⟩
          refine .of_change present requeued ?_ le_rfl rfl (fun holder held => Option.some.inj (held.symm.trans own))
            (Effect.lookup_unlock own) (fun _ member => Effect.mem_of_mem_unlock member) rfl
          rw [adjust, present]
      · exact .unlock own (.inl rfl) rfl
  | done result => exact .refl rfl

theorem effect_cancel (game : BitVec 160) (result : Option ℕ) :
    Effect config idOf number db (.cancelGameProofs game result) (db.advanceCancel game result).1
      (.cancelGameProofs game (db.advanceCancel game result).2) := by
  cases result with
  | none =>
    simp only [advanceCancel]
    split
    · exact .refl rfl
    · next free => exact .updateWhere free (fun _ row holds => .cancel (of_decide_eq_true holds).2) (.inl rfl) rfl
  | some result => exact .refl rfl

theorem effect_exhausted (result : Option ℕ) :
    Effect config idOf number db (.markExhaustedProofRequestsFailed now result) (db.advanceExhausted config now result).1
      (.markExhaustedProofRequestsFailed now (db.advanceExhausted config now result).2) := by
  cases result with
  | none =>
    simp only [advanceExhausted]
    split
    · exact .refl rfl
    · next free =>
      exact .updateWhere free (fun _ row holds => .fail _ (of_decide_eq_true holds).2.1)
        (.inr (.fail _ _ fun proofId member held => free ⟨proofId, member, held⟩)) rfl
  | some result => exact .refl rfl

theorem mem_of_nextInQueue {request : GetNextProofRequest} {proofId : ProofId}
    (next : db.nextInQueue config request now = some proofId) :
    ∃ row, db.proofRequests.lookup proofId = some row ∧ db.isClaimable config request now proofId row = true := by
  rw [nextInQueue] at next
  split at next
  · next key least =>
    obtain ⟨candidate, member, same⟩ := Finset.mem_image.mp (Finset.mem_of_min least)
    obtain ⟨row, present, claimable⟩ := mem_select.mp member
    have isCandidate : proofId = candidate := by
      rw [← Option.some.inj next, ← same, queueKey, present]
      rfl
    rw [isCandidate]
    exact ⟨row, present, claimable⟩
  · cases next

theorem effect_next (request : GetNextProofRequest) (result : Option (Option LockedProofRequest)) :
    Effect config idOf number db (.getNextProof request now result) (db.advanceNext config request now result).1
      (.getNextProof request now (db.advanceNext config request now result).2) := by
  cases result with
  | none =>
    simp only [advanceNext]
    split
    · exact .refl rfl
    · next proofId next =>
      obtain ⟨row, present, claimable⟩ := mem_of_nextInQueue next
      obtain ⟨_, _, _, room, free, unlocked⟩ := of_decide_eq_true claimable
      simp only [present]
      exact .of_change present (.claim _ _ ((of_decide_eq_true free).imp_right And.left) room) rfl (Nat.le_succ _) rfl
        (fun _ held => absurd (Finmap.mem_of_lookup_eq_some held) unlocked) (fun _ _ _ held => held)
        (fun _ member => member) rfl
  | some result => exact .refl rfl

theorem effect_submit (clock : ℕ) (request : SubmitProofRequest ProofId) (phase : SubmitPhase ProofId) :
    Effect config idOf number db (.submitProof request now phase) (db.advanceSubmit clock request now phase).1
      (.submitProof request now (db.advanceSubmit clock request now phase).2) := by
  cases phase with
  | read =>
    simp only [advanceSubmit]
    split
    · exact .refl rfl
    · split_ifs <;> exact .refl rfl
  | update =>
    simp only [advanceSubmit]
    split
    · exact .refl rfl
    · next row present =>
      split
      · next leased =>
        split
        · exact .refl rfl
        · next free => exact .setRow present free (.succeed _ (of_decide_eq_true leased).1) rfl
      · exact .refl rfl
  | reread =>
    simp only [advanceSubmit]
    split
    · exact .refl rfl
    · split
      · split
        · split <;> exact .refl rfl
        · exact .refl rfl
      · exact .refl rfl
  | done result => exact .refl rfl

theorem effect_heartbeat (request : HeartbeatRequest ProofId) (phase : HeartbeatPhase ProofId) :
    Effect config idOf number db (.heartbeat request now phase) (db.advanceHeartbeat config request now phase).1
      (.heartbeat request now (db.advanceHeartbeat config request now phase).2) := by
  cases phase with
  | update =>
    simp only [advanceHeartbeat]
    split
    · exact .refl rfl
    · next row present =>
      split
      · next leased =>
        split
        · exact .refl rfl
        · next free => exact .setRow present free (.extend _ (of_decide_eq_true leased).1) rfl
      · exact .refl rfl
  | reread =>
    simp only [advanceHeartbeat]
    split <;> exact .refl rfl
  | done result => exact .refl rfl

theorem activeSession_eq_some {proofId : ProofId} {sessionType : SessionType} {index : ℕ} :
    db.activeSession proofId sessionType = some index ↔
    (∃ session, db.proofSessions[index]? = some session ∧ session.isFor proofId sessionType = true ∧
      session.isActive = true) ∧
    ∀ earlier < index, ∀ session, db.proofSessions[earlier]? = some session →
      session.isFor proofId sessionType = true → session.isActive = false := by
  simp only [activeSession, List.findIdx?_eq_some_iff_getElem, decide_eq_true_eq]
  constructor
  · rintro ⟨inside, ⟨isFor, active⟩, before⟩
    refine ⟨⟨_, List.getElem?_eq_getElem inside, isFor, active⟩, fun earlier below session present is => ?_⟩
    obtain ⟨_, rfl⟩ := List.getElem?_eq_some_iff.mp present
    exact Bool.eq_false_iff.mpr fun busy => before earlier below ⟨is, busy⟩
  · rintro ⟨⟨session, present, isFor, active⟩, before⟩
    obtain ⟨inside, rfl⟩ := List.getElem?_eq_some_iff.mp present
    refine ⟨inside, ⟨isFor, active⟩, fun earlier below both => ?_⟩
    have idle := before earlier below _ (List.getElem?_eq_getElem (below.trans inside)) both.1
    rw [both.2] at idle
    cases idle

/-- What a statement of `record_proof_session` does. The lease is checked when the row has been locked, and then whether
the session is stored as terminal. -/
inductive RecordStep (number : ℕ) (db : Database ProofId) (request : RecordProofSessionRequest ProofId) (now : ℕ) :
    RecordPhase ProofId → Database ProofId → RecordPhase ProofId → Prop
  | idle {phase next : RecordPhase ProofId} (free : phase.row? = none) (unheld : next.row? = none)
      (unanswered : next = .done (.ok ()) → phase = .done (.ok ())) : RecordStep number db request now phase db next
  | lock {row : ProofRow} (present : db.proofRequests.lookup request.proofId = some row)
      (free : request.proofId ∉ db.locks) :
      RecordStep number db request now .select (db.lock request.proofId number) (.locked row)
  | refuse {row : ProofRow} (error : ProofJobQueueError ProofId)
      (reason : row.isLeasedTo request.workerId request.lockId now = true →
        ∃ session, db.terminalSession request = some session ∧ session.status ≠ request.status) :
      RecordStep number db request now (.locked row) (db.unlock request.proofId) (.done (.error error))
  | again {row : ProofRow} (leased : row.isLeasedTo request.workerId request.lockId now = true)
      {session : ProofSession ProofId} (stored : db.terminalSession request = some session)
      (status : session.status = request.status) :
      RecordStep number db request now (.locked row) (db.unlock request.proofId) (.done (.ok ()))
  | check {row : ProofRow} (leased : row.isLeasedTo request.workerId request.lockId now = true)
      (none : db.terminalSession request = none) : RecordStep number db request now (.locked row) db (.checked row)
  | look {row : ProofRow} : RecordStep number db request now (.checked row) db
      (.write row (db.activeSession request.proofId request.sessionType))
  | lost {row : ProofRow} {active : Option ℕ} (error : ProofJobQueueError ProofId)
      (moved : db.activeSession request.proofId request.sessionType ≠ active) :
      RecordStep number db request now (.write row active) (db.unlock request.proofId) (.done (.error error))
  | update {row : ProofRow} {index : ℕ} {session : ProofSession ProofId}
      (present : db.proofSessions[index]? = some session) (active : session.isActive = true) :
      RecordStep number db request now (.write row (some index))
        { db.unlock request.proofId with proofSessions := db.proofSessions.set index (request.entryOver session) }
        (.done (.ok ()))
  | insert {row : ProofRow} (room : ¬ (¬ request.status.isTerminal = true ∧
        (db.activeSession request.proofId request.sessionType).isSome = true)) :
      RecordStep number db request now (.write row none)
        { db.unlock request.proofId with proofSessions := db.proofSessions ++ [request.entry] } (.done (.ok ()))

theorem recordStep_locked (request : RecordProofSessionRequest ProofId) (row : ProofRow) :
    RecordStep number db request now (.locked row) (db.advanceRecord number request now (.locked row)).1
      (db.advanceRecord number request now (.locked row)).2 := by
  have lease : row.isLeasedTo request.workerId request.lockId now = true ↔ row.jobStatus = .claimed ∧
      row.workerId = some request.workerId ∧ row.lockId = some request.lockId ∧
        row.lockExpiresAt.any (now < ·) = true := decide_eq_true_iff
  simp only [advanceRecord]
  split
  · next unclaimed => exact .refuse _ fun leased => absurd (lease.mp leased).1 unclaimed
  · next claimed =>
    split
    · next stale =>
      refine .refuse _ fun leased => ?_
      obtain ⟨_, worker, lock, _⟩ := lease.mp leased
      exact stale.elim (absurd lock) (absurd worker)
    · next matching =>
      have lives : row.lockExpiresAt.any (now < ·) = !row.lockExpiresAt.all (· ≤ now) := by
        cases row.lockExpiresAt with
        | none => rfl
        | some expiry => simp only [Option.any_some, Option.all_some, ← decide_not, not_le]
      split
      · next expired =>
        refine .refuse _ fun leased => ?_
        rw [lease, lives, expired] at leased
        cases leased.2.2.2
      · next unexpired =>
        obtain ⟨lock, worker⟩ := not_or.mp matching
        have leased := lease.mpr ⟨not_not.mp claimed, not_not.mp worker, not_not.mp lock, by simp [lives, unexpired]⟩
        split
        · next session stored =>
          split
          · next status => exact .again leased stored status
          · next other => exact .refuse _ fun _ => ⟨session, stored, other⟩
        · next none => exact .check leased none

theorem recordStep_write (request : RecordProofSessionRequest ProofId) (row : ProofRow) (active : Option ℕ) :
    RecordStep number db request now (.write row active) (db.advanceRecord number request now (.write row active)).1
      (db.advanceRecord number request now (.write row active)).2 := by
  cases active with
  | some active =>
    have known (is : db.activeSession request.proofId request.sessionType = some active) :
        ∃ session, db.proofSessions[active]? = some session ∧ session.isActive = true := by
      obtain ⟨⟨session, present, _, busy⟩, _⟩ := activeSession_eq_some.mp is
      exact ⟨session, present, busy⟩
    simp only [advanceRecord]
    split
    · next session present =>
      split
      · next active => exact .update present active
      · next idle =>
        refine .lost _ fun is => ?_
        obtain ⟨_, found, busy⟩ := known is
        exact idle (Option.some.inj (found.symm.trans present) ▸ busy)
    · next absent =>
      refine .lost _ fun is => ?_
      obtain ⟨_, found, _⟩ := known is
      cases absent.symm.trans found
  | none =>
    simp only [advanceRecord]
    split
    · next busy =>
      refine .lost _ fun is => ?_
      rw [is] at busy
      cases busy.2
    · next room => exact .insert room

theorem recordStep_advance (db : Database ProofId) (number : ℕ) (request : RecordProofSessionRequest ProofId) (now : ℕ)
    (phase : RecordPhase ProofId) :
    RecordStep number db request now phase (db.advanceRecord number request now phase).1
      (db.advanceRecord number request now phase).2 := by
  cases phase with
  | select =>
    simp only [advanceRecord]
    split
    · exact .idle rfl rfl fun finished => by cases finished
    · next row present =>
      split
      · exact .idle rfl rfl fun finished => by cases finished
      · next free => exact .lock present free
  | locked row => exact recordStep_locked request row
  | checked row => exact .look
  | write row active => exact recordStep_write request row active
  | done result => exact .idle rfl rfl id

theorem effect_record {request : RecordProofSessionRequest ProofId} {phase : RecordPhase ProofId}
    (owns : (Operation.recordProofSession request now phase).Owns idOf number db) :
    Effect config idOf number db (.recordProofSession request now phase) (db.advanceRecord number request now phase).1
      (.recordProofSession request now (db.advanceRecord number request now phase).2) := by
  have step := recordStep_advance db number request now phase
  generalize (db.advanceRecord number request now phase).1 = after,
    (db.advanceRecord number request now phase).2 = next at step ⊢
  cases step with
  | idle _ unheld => exact .refl (by rw [Operation.holding, unheld]; rfl)
  | lock present free => exact .lock present free rfl
  | refuse => exact .unlock (owns _ _ rfl).1 (.inl rfl) rfl
  | again => exact .unlock (owns _ _ rfl).1 (.inl rfl) rfl
  | check => exact .pass fun proofId held holding => owns proofId held holding
  | look => exact .pass fun proofId held holding => owns proofId held holding
  | lost => exact .unlock (owns _ _ rfl).1 (.inl rfl) rfl
  | update present active => exact .unlock (owns _ _ rfl).1 (.inr (.update present active)) rfl
  | insert room =>
    refine .unlock (owns _ _ rfl).1 (.inr (.insert fun active other member same => ?_)) rfl
    -- an active session would have been found
    by_contra busy
    refine room ⟨by simpa [ProofSession.isActive, RecordProofSessionRequest.entry] using active, ?_⟩
    rw [activeSession, List.findIdx?_isSome, List.any_eq_true]
    exact ⟨other, member, decide_eq_true ⟨same, Bool.eq_true_of_not_eq_false busy⟩⟩

theorem effect_advance (config : ProverServiceConfig) (clock : ℕ)
    (rooted : ∀ proofId ∈ db.locks, proofId ∈ db.proofRequests) (owns : operation.Owns idOf number db) :
    Effect config idOf number db operation (db.advance config idOf number clock operation).1
      (db.advance config idOf number clock operation).2 := by
  cases operation with
  | requestProof request now phase => exact effect_request rooted owns
  | cancelGameProofs game result => exact effect_cancel ..
  | markExhaustedProofRequestsFailed now result => exact effect_exhausted ..
  | getNextProof request now result => exact effect_next ..
  | recordProofSession request now phase => exact effect_record owns
  | submitProof request now phase => exact effect_submit ..
  | heartbeat request now phase => exact effect_heartbeat ..

end Database

/-! ## Interleavings -/

namespace Service

variable {config : ProverServiceConfig} {idOf : ProofRequest → ProofId} {service after : Service ProofId}
  {event : ServiceEvent ProofId} {events : List (ServiceEvent ProofId)}

/-- Every lock is on a row, and belongs to an operation that has read the row as it is. -/
structure Locked (idOf : ProofRequest → ProofId) (service : Service ProofId) : Prop where
  rooted : ∀ proofId ∈ service.db.locks, proofId ∈ service.db.proofRequests
  owns : ∀ (number : ℕ) (operation : Operation ProofId), service.operations[number]? = some operation →
    operation.Owns idOf number service.db

theorem exec_cases (success : service.exec config idOf event = .ok after) :
    (∃ call, event = .call call ∧ after = { service with operations := service.operations ++ [call.begin] }) ∨
    ∃ number clock operation, event = .statement number clock ∧ service.operations[number]? = some operation ∧
      after = ⟨(service.db.advance config idOf number clock operation).1,
        service.operations.set number (service.db.advance config idOf number clock operation).2⟩ := by
  cases event with
  | call call => exact .inl ⟨call, rfl, (Except.ok.inj success).symm⟩
  | statement number clock =>
    rw [exec] at success
    split at success
    · cases success
    · next operation found => exact .inr ⟨number, clock, operation, rfl, found, (Except.ok.inj success).symm⟩

section

variable {operations : List (Operation ProofId)} {call : Call ProofId} {number other : ℕ}
  {operation running advanced : Operation ProofId}

omit [LinearOrder ProofId]

theorem running_call (present : (operations ++ [call.begin])[other]? = some running) :
    operations[other]? = some running ∨ running = call.begin := by
  rw [List.getElem?_append] at present
  split at present
  · exact .inl present
  · rw [List.getElem?_singleton] at present
    split at present
    · exact .inr (Option.some.inj present).symm
    · cases present

theorem running_statement (found : operations[number]? = some operation)
    (present : (operations.set number advanced)[other]? = some running) :
    other = number ∧ running = advanced ∨ other ≠ number ∧ operations[other]? = some running := by
  by_cases same : other = number
  · subst same
    rw [List.getElem?_set_self (List.getElem?_eq_some_iff.mp found).1] at present
    exact .inl ⟨rfl, (Option.some.inj present).symm⟩
  · rw [List.getElem?_set_ne (Ne.symm same)] at present
    exact .inr ⟨same, present⟩

end

theorem Locked.step (locked : Locked idOf service) (success : service.exec config idOf event = .ok after) :
    (∃ number operation next, Effect config idOf number service.db operation after.db next) ∧ Locked idOf after := by
  rcases exec_cases success with ⟨call, rfl, rfl⟩ | ⟨number, clock, operation, rfl, found, rfl⟩
  · refine ⟨⟨0, call.begin, call.begin, .refl (call.holding_begin idOf)⟩, locked.rooted, fun other operation present => ?_⟩
    rcases running_call present with earlier | rfl
    · exact locked.owns other operation earlier
    · exact Operation.owns_of_holding_eq_none (call.holding_begin idOf)
  · have effect := Database.effect_advance config clock locked.rooted (locked.owns number operation found)
    refine ⟨⟨number, operation, _, effect⟩, fun proofId member => ?_, fun other running present => ?_⟩
    · have before := (effect.locks proofId member).elim (locked.rooted proofId) id
      obtain ⟨row, held⟩ := Finmap.mem_iff.mp before
      obtain ⟨later, kept, _⟩ := effect.rows proofId row held
      exact Finmap.mem_of_lookup_eq_some kept
    · rcases running_statement found present with ⟨rfl, rfl⟩ | ⟨different, earlier⟩
      · exact effect.owns
      · intro proofId row holding
        obtain ⟨own, held⟩ := locked.owns other running earlier proofId row holding
        obtain ⟨still, unchanged⟩ := effect.respects proofId other different own
        exact ⟨still, unchanged.trans held⟩

theorem Locked.initial : Locked idOf (initial : Service ProofId) where
  rooted := fun _ member => absurd member (Finmap.notMem_empty)
  owns := fun _ _ present => by cases present

theorem locked_of_run (run : Runs config idOf initial events service) : Locked idOf service :=
  run.invariant .initial fun locked _ success => (locked.step success).2

end Service

end WorldChain.ProverService
