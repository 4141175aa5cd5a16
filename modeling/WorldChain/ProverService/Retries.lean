import WorldChain.ProverService.Steps

/-! # How often a request is proved

Two counters bound it: `attempt`, which a claim advances and a requeue resets, and `retry_count`, which a requeue after a
failure advances. `request_proof` compares the second with `>`, so that one retry more than `max_retries` is made.
-/

namespace WorldChain.ProverService

open Table

variable {ProofId : Type*} [LinearOrder ProofId]

/-! ## The counters of one row -/

/-- What a statement does to the counters of a row. -/
inductive CounterChange (config : ProverServiceConfig) (row later : ProofRow) : Prop
  | same (attempt : later.attempt = row.attempt) (retryCount : later.retryCount = row.retryCount)
      (status : later.proofStatus = .created → row.proofStatus ≠ .failed)
  | claim (room : row.attempt < config.maxAttempts.toInt) (attempt : later.attempt = row.attempt + 1)
      (retryCount : later.retryCount = row.retryCount) (running : later.proofStatus = .running)
  | requeue (failed : row.proofStatus = .failed) (room : row.retryCount ≤ config.maxRetries.toInt)
      (attempt : later.attempt = 0) (retryCount : later.retryCount = row.retryCount + 1)
      (created : later.proofStatus = .created)
  | restore (cancelled : row.proofStatus = .cancelled)

namespace CounterChange

variable {config : ProverServiceConfig} {row later : ProofRow}

theorem refl (config : ProverServiceConfig) (row : ProofRow) : CounterChange config row row :=
  .same rfl rfl fun created failed => by cases created.symm.trans failed

omit [LinearOrder ProofId] in
theorem of_rowChange {idOf : ProofRequest → ProofId} {leases : ℕ} {proofId : ProofId} {operation : Operation ProofId}
    (changed : RowChange config idOf leases proofId row operation later) : CounterChange config row later := by
  cases changed with
  | requeue now keyed finished room =>
    rcases finished with failed | cancelled
    · exact .requeue failed (room failed) rfl (by simp [ProofRow.requeue, failed]) rfl
    · exact .restore cancelled
  | cancel => exact .same rfl rfl fun created => by cases created
  | fail => exact .same rfl rfl fun created => by cases created
  | claim workerId lockExpiresAt waiting room => exact .claim room rfl rfl rfl
  | extend => exact .same rfl rfl fun created failed => absurd (created.symm.trans failed) (by decide)
  | succeed => exact .same rfl rfl fun created => by cases created

end CounterChange

/-- The counters of a row against how often it was queued again and claimed; `within` says that no request was repeated
at the limit. -/
structure Counted (config : ProverServiceConfig) (row : ProofRow) (requeued claimed : ℕ) (within : Prop) : Prop where
  retryCount : row.retryCount = requeued
  requeued_le : requeued ≤ config.maxRetries.toNat + 1
  requeued_le_iff : requeued ≤ config.maxRetries.toNat ↔ within
  attempt_nonneg : 0 ≤ row.attempt
  attempt_le : row.attempt ≤ config.maxAttempts.toNat
  claimed_le : (claimed : ℤ) ≤ config.maxAttempts.toNat * requeued + row.attempt

theorem Counted.new (config : ProverServiceConfig) (request : ProofRequest) (now : ℕ) :
    Counted config (.new request now) 0 0 True where
  retryCount := rfl
  requeued_le := Nat.zero_le _
  requeued_le_iff := by simp
  attempt_nonneg := le_rfl
  attempt_le := Int.natCast_nonneg _
  claimed_le := by simp [ProofRow.new]

theorem toInt_le_toNat (word : BitVec 32) : word.toInt ≤ word.toNat := by
  rw [BitVec.toInt_eq_toNat_cond]
  split <;> omega

theorem toNat_eq_of_toInt_eq {word : BitVec 32} {value : ℕ} (same : word.toInt = value) : word.toNat = value := by
  rw [BitVec.toInt_eq_toNat_cond] at same
  split at same <;> omega

namespace ProofRow

variable (row later : ProofRow)

def isRequeued : Bool := row.proofStatus = .failed ∧ later.proofStatus = .created

/-- A lease is granted. -/
def isClaimed : Bool := row.attempt < later.attempt

def isCancelled : Bool := row.proofStatus ≠ .cancelled ∧ later.proofStatus = .cancelled

end ProofRow

theorem Counted.change {config : ProverServiceConfig} {row later : ProofRow} {requeued claimed : ℕ}
    {within atLimit : Prop} (counted : Counted config row requeued claimed within)
    (uncancelled : row.proofStatus ≠ .cancelled)
    (limit : atLimit ↔ row.isRequeued later = true ∧ row.retryCount = config.maxRetries.toInt)
    (changed : CounterChange config row later) :
    Counted config later (requeued + if row.isRequeued later then 1 else 0)
      (claimed + if row.isClaimed later then 1 else 0) (within ∧ ¬ atLimit) := by
  obtain ⟨retryCount, requeued_le, requeued_le_iff, attempt_nonneg, attempt_le, claimed_le⟩ := counted
  cases changed with
  | same attempt count status =>
    have stays : row.isRequeued later = false := by
      simp only [ProofRow.isRequeued, decide_eq_false_iff_not]
      exact fun both => status both.2 both.1
    simp only [limit, ProofRow.isClaimed, stays, attempt, lt_irrefl, false_and, decide_false,
      Bool.false_eq_true, if_false, Nat.add_zero, not_false_eq_true, and_true]
    exact ⟨by rw [count, retryCount], requeued_le, requeued_le_iff, by rw [attempt]; exact attempt_nonneg,
      by rw [attempt]; exact attempt_le, by rw [attempt]; exact claimed_le⟩
  | claim room attempt count running =>
    have stays : row.isRequeued later = false := by simp [ProofRow.isRequeued, running]
    have below := toInt_le_toNat config.maxAttempts
    simp only [limit, ProofRow.isClaimed, stays, attempt, lt_add_iff_pos_right, zero_lt_one, false_and,
      decide_true, Bool.false_eq_true, if_false, if_true, Nat.add_zero, not_false_eq_true, and_true]
    exact ⟨by rw [count, retryCount], requeued_le, requeued_le_iff, by omega, by omega, by push_cast; omega⟩
  | requeue failed room attempt count created =>
    have goes : row.isRequeued later = true := by simp [ProofRow.isRequeued, failed, created]
    have stays : row.isClaimed later = false := by simpa [ProofRow.isClaimed, attempt] using attempt_nonneg
    have below := toInt_le_toNat config.maxRetries
    have fewer : (claimed : ℤ) ≤ config.maxAttempts.toNat * (requeued + 1) := by linarith
    rw [retryCount] at room count
    simp only [limit, goes, stays, retryCount, true_and, if_true, Bool.false_eq_true, if_false, Nat.add_zero]
    refine ⟨by rw [count]; push_cast; rfl, by omega, ?_, attempt.ge, by rw [attempt]; exact Int.natCast_nonneg _, by
      rw [attempt]; push_cast; linarith⟩
    rw [← requeued_le_iff]
    constructor
    · intro fits
      refine ⟨by omega, fun reached => ?_⟩
      have exact := toNat_eq_of_toInt_eq reached.symm
      omega
    · rintro ⟨_, below⟩
      omega
  | restore cancelled => exact absurd cancelled uncancelled

/-! ## Runs -/

namespace Service

variable {config : ProverServiceConfig} {idOf : ProofRequest → ProofId} {service before after : Service ProofId}
  {event : ServiceEvent ProofId} {events : List (ServiceEvent ProofId)} {proofId : ProofId}

/-- The row of a proof changes in a given way. -/
def changes (proofId : ProofId) (change : ProofRow → ProofRow → Bool) (before after : Service ProofId) : Bool :=
  match before.db.proofRequests.lookup proofId, after.db.proofRequests.lookup proofId with
  | some row, some later => change row later
  | _, _ => false

def times (config : ProverServiceConfig) (idOf : ProofRequest → ProofId) (proofId : ProofId)
    (change : ProofRow → ProofRow → Bool) (events : List (ServiceEvent ProofId)) : ℕ :=
  Machine.Run.tally (exec config idOf) (changes proofId change) initial events

/-- The statement of `request_proof` that is next repeats a request whose row is `FAILED`, with `retry_count` equal to
`max_retries`. -/
def repeatsAtLimit (config : ProverServiceConfig) (idOf : ProofRequest → ProofId) (proofId : ProofId)
    (service : Service ProofId) : ServiceEvent ProofId → Bool
  | .call _ => false
  | .statement number _ =>
    match service.operations[number]? with
    | some (.requestProof request _ (.locked row)) => idOf request = proofId ∧ row.request = request ∧
      row.proofStatus = .failed ∧ row.retryCount = config.maxRetries.toInt
    | _ => false

theorem repeatsAtLimit_eq_true :
    service.repeatsAtLimit config idOf proofId event = true ↔ ∃ number clock now row,
      event = .statement number clock ∧
      service.operations[number]? = some (.requestProof row.request now (.locked row)) ∧ idOf row.request = proofId ∧
      row.proofStatus = .failed ∧ row.retryCount = config.maxRetries.toInt := by
  constructor
  · intro repeats
    unfold repeatsAtLimit at repeats
    split at repeats
    · cases repeats
    · next number clock =>
      split at repeats
      · next request now row found =>
        obtain ⟨keyed, rfl, failed, limit⟩ := of_decide_eq_true repeats
        exact ⟨number, clock, now, row, rfl, found, keyed, failed, limit⟩
      · cases repeats
  · rintro ⟨number, clock, now, row, rfl, found, keyed, failed, limit⟩
    simp [repeatsAtLimit, found, keyed, failed, limit]

theorem repeatsAtLimit_iff {row later : ProofRow} (locked : Locked idOf before)
    (success : before.exec config idOf event = .ok after) (old : before.db.proofRequests.lookup proofId = some row)
    (held : after.db.proofRequests.lookup proofId = some later) :
    before.repeatsAtLimit config idOf proofId event = true ↔
      row.isRequeued later = true ∧ row.retryCount = config.maxRetries.toInt := by
  rw [repeatsAtLimit_eq_true]
  rcases exec_cases success with ⟨call, rfl, rfl⟩ | ⟨number, clock, operation, rfl, found, rfl⟩
  · obtain rfl := Option.some.inj (old.symm.trans held)
    constructor
    · rintro ⟨_, _, _, _, ⟨⟩, _⟩
    · rintro ⟨requeued, _⟩
      obtain ⟨failed, created⟩ := of_decide_eq_true requeued
      cases failed.symm.trans created
  · have owns := locked.owns number operation found
    constructor
    · rintro ⟨_, _, now, own, ⟨⟩, is, rfl, failed, limit⟩
      obtain rfl := Option.some.inj (found.symm.trans is)
      obtain rfl := Option.some.inj (old.symm.trans (owns _ _ rfl).2)
      refine ⟨decide_eq_true ⟨failed, ?_⟩, limit⟩
      have requeued : (before.db.advance config idOf number clock
          (.requestProof row.request now (.locked row))).1.proofRequests.lookup (idOf row.request) =
            some (row.requeue row.request.l1Head true) := by
        simp [Database.advance, Database.advanceRequest, failed, limit, old]
      obtain rfl := Option.some.inj (requeued.symm.trans held)
      rfl
    · rintro ⟨requeued, limit⟩
      obtain ⟨failed, created⟩ := of_decide_eq_true requeued
      obtain ⟨_, is, same | changed⟩ := (Database.effect_advance config clock locked.rooted owns).rows proofId row old
      · rw [Option.some.inj (held.symm.trans is), same] at created
        cases failed.symm.trans created
      · obtain rfl := Option.some.inj (held.symm.trans is)
        cases changed with
        | requeue now keyed => exact ⟨number, clock, now, row, rfl, found, keyed, failed, limit⟩
        | extend => cases failed.symm.trans created
        | cancel => cases created
        | fail => cases created
        | claim => cases created
        | succeed => cases created

/-- No step repeats the request at the limit. -/
def KeepsToLimit (config : ProverServiceConfig) (idOf : ProofRequest → ProofId) (proofId : ProofId)
    (events : List (ServiceEvent ProofId)) : Prop :=
  Machine.Run.Permitted (exec config idOf) (fun service event => ¬ service.repeatsAtLimit config idOf proofId event = true)
    initial events

/-- The counters of the row of a proof are right as long as it has not been cancelled. -/
structure Counts (config : ProverServiceConfig) (idOf : ProofRequest → ProofId) (proofId : ProofId)
    (events : List (ServiceEvent ProofId)) (service : Service ProofId) : Prop where
  absent : service.db.proofRequests.lookup proofId = none →
    KeepsToLimit config idOf proofId events ∧ ∀ change, times config idOf proofId change events = 0
  present : ∀ row, service.db.proofRequests.lookup proofId = some row →
    times config idOf proofId ProofRow.isCancelled events = 0 → row.proofStatus ≠ .cancelled ∧
    Counted config row (times config idOf proofId ProofRow.isRequeued events)
      (times config idOf proofId ProofRow.isClaimed events) (KeepsToLimit config idOf proofId events)

theorem counts_of_run (run : Runs config idOf initial events service) (proofId : ProofId) :
    Counts config idOf proofId events service := by
  refine run.history (motive := fun events service => Counts config idOf proofId events service)
    ⟨fun _ => ⟨trivial, fun _ => rfl⟩, fun _ present => by cases present⟩ ?_
  intro past before after event earlier counts _ success
  have locked := locked_of_run earlier
  obtain ⟨_, _, _, effect⟩ := (locked.step success).1
  have grows : ∀ change, times config idOf proofId change (past ++ [event]) =
      times config idOf proofId change past + if changes proofId change before after then 1 else 0 :=
    fun change => earlier.tally_append_singleton success (changes proofId change)
  have keeps : KeepsToLimit config idOf proofId (past ++ [event]) ↔ KeepsToLimit config idOf proofId past ∧
      ¬ before.repeatsAtLimit config idOf proofId event = true := Machine.Run.permitted_append_singleton earlier success
  cases old : before.db.proofRequests.lookup proofId with
  | none =>
    -- nothing has been counted before the request is entered
    have nothing : ∀ change, times config idOf proofId change (past ++ [event]) = 0 := fun change => by
      rw [grows, (counts.absent old).2 change, changes, old]
      rfl
    have within : KeepsToLimit config idOf proofId (past ++ [event]) := by
      refine keeps.mpr ⟨(counts.absent old).1, fun repeats => ?_⟩
      obtain ⟨number, _, _, row, _, found, rfl, _⟩ := repeatsAtLimit_eq_true.mp repeats
      cases old.symm.trans (locked.owns number _ found _ row rfl).2
    refine ⟨fun _ => ⟨within, nothing⟩, fun row present _ => ?_⟩
    obtain ⟨request, now, rfl, _⟩ := effect.added proofId row old present
    rw [nothing, nothing, eq_true within]
    exact ⟨by simp [ProofRow.new], .new config request now⟩
  | some row =>
    obtain ⟨later, held, changed⟩ := effect.rows proofId row old
    refine ⟨fun absent => (by cases held.symm.trans absent), fun other present uncancelled => ?_⟩
    obtain rfl := Option.some.inj (held.symm.trans present)
    have added : ∀ change, changes proofId change before after = change row later := fun change => by
      rw [changes, old, held]
    have counterChange : CounterChange config row later := by
      rcases changed with rfl | changed
      · exact .refl config later
      · exact .of_rowChange changed
    rw [grows, added] at uncancelled
    obtain ⟨active, counted⟩ := counts.present row old (by omega)
    simp only [grows, added, keeps]
    refine ⟨fun cancelled => ?_, counted.change active (repeatsAtLimit_iff locked success old held) counterChange⟩
    rw [ProofRow.isCancelled, if_pos (decide_eq_true ⟨active, cancelled⟩)] at uncancelled
    omega

/-- A request is queued again after failures at most once more than `max_retries`, and its job is claimed at most
`max_attempts` times each time. It stays within `max_retries` exactly if no step repeats the request at the limit. -/
theorem requeues_and_claims_bounded (config : ProverServiceConfig) (idOf : ProofRequest → ProofId)
    (events : List (ServiceEvent ProofId)) (service : Service ProofId) (proofId : ProofId)
    (run : Runs config idOf initial events service)
    (uncancelled : times config idOf proofId ProofRow.isCancelled events = 0) :
    times config idOf proofId ProofRow.isRequeued events ≤ config.maxRetries.toNat + 1 ∧
    times config idOf proofId ProofRow.isClaimed events ≤
      config.maxAttempts.toNat * (times config idOf proofId ProofRow.isRequeued events + 1) ∧
    (times config idOf proofId ProofRow.isRequeued events ≤ config.maxRetries.toNat ↔
      KeepsToLimit config idOf proofId events) ∧
    (KeepsToLimit config idOf proofId events →
      times config idOf proofId ProofRow.isClaimed events ≤
        config.maxAttempts.toNat * (config.maxRetries.toNat + 1)) := by
  have counts := counts_of_run run proofId
  cases present : service.db.proofRequests.lookup proofId with
  | none => simp [(counts.absent present).2, (counts.absent present).1]
  | some row =>
    obtain ⟨_, counted⟩ := counts.present row present uncancelled
    have claimed : times config idOf proofId ProofRow.isClaimed events ≤
        config.maxAttempts.toNat * (times config idOf proofId ProofRow.isRequeued events + 1) := by
      have bound : (times config idOf proofId ProofRow.isClaimed events : ℤ) ≤
          config.maxAttempts.toNat * (times config idOf proofId ProofRow.isRequeued events + 1) := by
        linarith [counted.claimed_le, counted.attempt_le]
      exact_mod_cast bound
    refine ⟨counted.requeued_le, claimed, counted.requeued_le_iff, fun within => claimed.trans ?_⟩
    exact Nat.mul_le_mul_left _ (Nat.succ_le_succ (counted.requeued_le_iff.mpr within))

/-- A job is claimed, and its only lease runs out. -/
def failing (number now : ℕ) : List (ServiceEvent ℕ) :=
  [.call (.getNextProof ⟨.sp1, "worker", 0, none⟩ now), .statement number now,
    .call (.markExhaustedProofRequestsFailed (now + 11)), .statement (number + 1) (now + 11)]

/-- A failed request is sent again. -/
def resending (number now : ℕ) : List (ServiceEvent ℕ) :=
  [.call (.requestProof ⟨.sp1, 0, 0, 5, 0, 0, none⟩ now), .statement number now, .statement number now,
    .statement number now]

def persistent : List (ServiceEvent ℕ) :=
  [.call (.requestProof ⟨.sp1, 0, 0, 5, 0, 0, none⟩ 0), .statement 0 0] ++ failing 1 0 ++ resending 3 20 ++
    failing 4 20 ++
    resending 6 40 ++ failing 7 40

theorem persistent_request_is_requeued_twice : ∃ service,
    Runs ⟨10, 1, 1⟩ ProofRequest.l2BlockNumber initial persistent service ∧
    times ⟨10, 1, 1⟩ ProofRequest.l2BlockNumber 5 ProofRow.isCancelled persistent = 0 ∧
    times ⟨10, 1, 1⟩ ProofRequest.l2BlockNumber 5 ProofRow.isRequeued persistent = 2 ∧
    times ⟨10, 1, 1⟩ ProofRequest.l2BlockNumber 5 ProofRow.isClaimed persistent = 3 :=
  ⟨_, Machine.Run.run_final (by decide +kernel), by decide +kernel, by decide +kernel, by decide +kernel⟩

theorem retried_request_keeps_to_limit : ∃ service events,
    Runs ⟨10, 1, 1⟩ ProofRequest.l2BlockNumber initial events service ∧
    KeepsToLimit ⟨10, 1, 1⟩ ProofRequest.l2BlockNumber 5 events ∧
    times ⟨10, 1, 1⟩ ProofRequest.l2BlockNumber 5 ProofRow.isRequeued events = 1 ∧
    times ⟨10, 1, 1⟩ ProofRequest.l2BlockNumber 5 ProofRow.isClaimed events ≤ 1 * (1 + 1) := by
  have run : Runs ⟨10, 1, 1⟩ ProofRequest.l2BlockNumber initial
      ([.call (.requestProof ⟨.sp1, 0, 0, 5, 0, 0, none⟩ 0), .statement 0 0] ++ failing 1 0 ++ resending 3 20 ++
        failing 4 20) _ :=
    Machine.Run.run_final (by decide +kernel)
  obtain ⟨_, _, within, claimed⟩ := requeues_and_claims_bounded _ _ _ _ 5 run (by decide +kernel)
  have limit := within.mp (by decide +kernel)
  exact ⟨_, _, run, limit, by decide +kernel, claimed limit⟩

end Service

end WorldChain.ProverService
