import WorldChain.ProverService.Statuses

/-! # Submitting a proof again

`submit_proof` reads the row, writes the proof if the lease still holds, and otherwise reads the row again: if it finds
its own proof there it returns success. A call that begins after the proof is stored does not get that far, since the
first read already refuses it.
-/

namespace WorldChain.ProverService

variable {ProofId : Type*} [LinearOrder ProofId]

/-- The first read has let the call through. -/
def SubmitPhase.HasRead : SubmitPhase ProofId → Prop
  | .read => False
  | .update => True
  | .reread => True
  | .done result => result = .ok ()

namespace Database

variable {db after : Database ProofId} {request : SubmitProofRequest ProofId} {row : ProofRow}

/-- The row in which the proof of a submission is stored, as the submission has left it. -/
structure Stores (db : Database ProofId) (request : SubmitProofRequest ProofId) (row : ProofRow) : Prop where
  present : db.proofRequests.lookup request.proofId = some row
  proofStatus : row.proofStatus = .succeeded
  jobStatus : row.jobStatus = .succeeded
  workerId : row.workerId = some request.workerId
  lockId : row.lockId = some request.lockId
  proofData : row.proofData = some request.proof

theorem Stores.kept {config : ProverServiceConfig} {idOf : ProofRequest → ProofId} {number : ℕ}
    {operation next : Operation ProofId} (stores : db.Stores request row) (consistent : db.Consistent)
    (effect : Effect config idOf number db operation after next) : after.Stores request row := by
  refine { stores with present := ?_ }
  obtain ⟨later, held, same | changed⟩ := effect.rows _ _ stores.present
  · rw [held, same]
  · exact absurd changed ((consistent.rows _ _ stores.present).not_change stores.proofStatus)

theorem stores_of_advanceSubmit {clock now : ℕ} {phase : SubmitPhase ProofId} (consistent : db.Consistent)
    (accepted : (db.advanceSubmit clock request now phase).2 = .done (.ok ())) :
    phase = .done (.ok ()) ∨ ∃ row, (db.advanceSubmit clock request now phase).1.Stores request row := by
  cases phase with
  | read =>
    simp only [advanceSubmit] at accepted
    split at accepted
    · cases accepted
    · split_ifs at accepted <;> cases accepted
  | update =>
    simp only [advanceSubmit] at accepted ⊢
    split at accepted
    · cases accepted
    · next row present =>
      split at accepted
      · next leased =>
        split at accepted
        · cases accepted
        · next free =>
          obtain ⟨_, worker, lock, _⟩ := of_decide_eq_true leased
          simp only [leased, if_true, if_neg free]
          exact .inr ⟨row.succeed request.proof, Finmap.lookup_insert _, rfl, rfl, worker, lock, rfl⟩
      · cases accepted
  | reread =>
    simp only [advanceSubmit] at accepted ⊢
    split at accepted
    · cases accepted
    · next row present =>
      split at accepted
      · next finished =>
        obtain ⟨succeeded, worker, lock⟩ := finished
        split at accepted
        · next stored data =>
          split at accepted
          · next same =>
            simp only [succeeded, worker, lock, same, and_self, if_true]
            refine .inr ⟨row, present, ?_, succeeded, worker, lock, by rw [data, same]⟩
            have pair := (consistent.rows _ _ present).statuses
            rw [succeeded] at pair
            simpa [statusPairs] using pair
          · cases accepted
        · cases accepted
      · cases accepted
  | done result => exact .inl accepted

section

variable (stores : db.Stores request row) (clock : ℕ)

include stores clock

theorem Stores.read_eq (now : ℕ) :
    ∃ error, db.advanceSubmit clock request now .read = (db, .done (.error error)) := by
  simp only [Database.advanceSubmit, stores.present]
  split
  · exact ⟨_, rfl⟩
  · split
    · exact ⟨_, rfl⟩
    · split
      · exact ⟨_, rfl⟩
      · rw [if_pos (.inl stores.jobStatus)]
        exact ⟨_, rfl⟩

theorem Stores.update_eq (now : ℕ) :
    db.advanceSubmit clock request now .update = (db, .reread) := by
  have released : row.isLeasedTo request.workerId request.lockId now = false := by
    simp [ProofRow.isLeasedTo, stores.jobStatus]
  simp [Database.advanceSubmit, stores.present, released]

theorem Stores.reread_eq (now : ℕ) :
    db.advanceSubmit clock request now .reread = (db, .done (.ok ())) := by
  simp [Database.advanceSubmit, stores.present, stores.jobStatus, stores.workerId, stores.lockId, stores.proofData]

theorem Stores.advanceSubmit (now : ℕ) (phase : SubmitPhase ProofId) :
    (db.advanceSubmit clock request now phase).1 = db ∧
      ((db.advanceSubmit clock request now phase).2.HasRead ↔ phase.HasRead) := by
  cases phase with
  | read =>
    obtain ⟨error, refused⟩ := stores.read_eq clock now
    simp [refused, SubmitPhase.HasRead]
  | update => simp [stores.update_eq, SubmitPhase.HasRead]
  | reread => simp [stores.reread_eq, SubmitPhase.HasRead]
  | done result => exact ⟨rfl, .rfl⟩

theorem Stores.finishes (next now : ℕ) (phase : SubmitPhase ProofId) :
    ∃ result, (db.advanceSubmit next request now (db.advanceSubmit clock request now phase).2).2 = .done result := by
  cases phase with
  | read =>
    obtain ⟨error, refused⟩ := stores.read_eq clock now
    exact ⟨_, by rw [refused]; rfl⟩
  | update => exact ⟨_, by rw [stores.update_eq, stores.reread_eq]⟩
  | reread => exact ⟨_, by rw [stores.reread_eq]; rfl⟩
  | done result => exact ⟨result, rfl⟩

end

end Database

/-! ## Interleavings -/

namespace Service

variable {config : ProverServiceConfig} {idOf : ProofRequest → ProofId} {service later : Service ProofId}
  {event : ServiceEvent ProofId} {events rest : List (ServiceEvent ProofId)}

/-- Every submission that has been accepted has its proof stored. -/
def Honest (service : Service ProofId) : Prop :=
  ∀ (number : ℕ) (request : SubmitProofRequest ProofId) (now : ℕ),
    service.operations[number]? = some (.submitProof request now (.done (.ok ()))) →
      ∃ row, service.db.Stores request row

theorem Honest.step (honest : service.Honest) (locked : Locked idOf service) (consistent : service.db.Consistent)
    (success : service.exec config idOf event = .ok later) : later.Honest := by
  obtain ⟨_, _, _, effect⟩ := (locked.step success).1
  have kept : ∀ request row, service.db.Stores request row → later.db.Stores request row :=
    fun _ _ stores => stores.kept consistent effect
  intro other request now accepted
  rcases exec_cases success with ⟨call, rfl, rfl⟩ | ⟨mover, clock, operation, rfl, found, rfl⟩
  · rcases running_call accepted with earlier | begun
    · exact honest other request now earlier
    · cases call <;> cases begun
  · rcases running_statement found accepted with ⟨rfl, moved⟩ | ⟨_, earlier⟩
    · -- the operation that moved is this submission
      cases operation with
      | submitProof old began phase =>
        obtain ⟨rfl, rfl, ended⟩ := Operation.submitProof.inj moved
        rcases Database.stores_of_advanceSubmit consistent ended.symm with before | stored
        · subst before
          obtain ⟨row, stores⟩ := honest other request now found
          exact ⟨row, kept request row stores⟩
        · exact stored
      | requestProof => cases moved
      | cancelGameProofs => cases moved
      | markExhaustedProofRequestsFailed => cases moved
      | getNextProof => cases moved
      | recordProofSession => cases moved
      | heartbeat => cases moved
    · obtain ⟨row, stores⟩ := honest other request now earlier
      exact ⟨row, kept request row stores⟩

theorem honest_of_run (run : Runs config idOf initial events service) : service.Honest := by
  refine run.history (motive := fun _ service => service.Honest) (fun _ _ _ present => by cases present) ?_
  intro past before after event earlier honest _ success
  exact honest.step (locked_of_run earlier) (consistent_of_run earlier) success

/-- A call that was under way when the proof was stored, and one that began later. -/
structure Repeats (start : Service ProofId) (request : SubmitProofRequest ProofId) (row : ProofRow)
    (service : Service ProofId) : Prop where
  stores : service.db.Stores request row
  overlapping : ∀ (other time : ℕ) (phase : SubmitPhase ProofId),
    start.operations[other]? = some (.submitProof request time phase) → ∃ reached,
      service.operations[other]? = some (.submitProof request time reached) ∧ (reached.HasRead ↔ phase.HasRead)
  later : ∀ (other time : ℕ) (reached : SubmitPhase ProofId), start.operations.length ≤ other →
    service.operations[other]? = some (.submitProof request time reached) → ¬ reached.HasRead

theorem Repeats.step {start : Service ProofId} {request : SubmitProofRequest ProofId} {row : ProofRow}
    (repeats : Repeats start request row service) (locked : Locked idOf service) (consistent : service.db.Consistent)
    (success : service.exec config idOf event = .ok later) : Repeats start request row later := by
  obtain ⟨_, _, _, effect⟩ := (locked.step success).1
  refine ⟨repeats.stores.kept consistent effect, fun other time phase began => ?_, fun other time reached begins moved => ?_⟩
  · obtain ⟨reached, present, same⟩ := repeats.overlapping other time phase began
    have inside := (List.getElem?_eq_some_iff.mp present).1
    rcases exec_cases success with ⟨call, rfl, rfl⟩ | ⟨mover, clock, operation, rfl, found, rfl⟩
    · exact ⟨reached, by rw [List.getElem?_append_left inside, present], same⟩
    · by_cases moves : mover = other
      · subst moves
        obtain rfl := Option.some.inj (found.symm.trans present)
        exact ⟨(service.db.advanceSubmit clock request time reached).2, List.getElem?_set_self inside,
          (repeats.stores.advanceSubmit clock time reached).2.trans same⟩
      · exact ⟨reached, by rw [List.getElem?_set_ne moves, present], same⟩
  · rcases exec_cases success with ⟨call, rfl, rfl⟩ | ⟨mover, clock, operation, rfl, found, rfl⟩
    · rcases running_call moved with earlier | begun
      · exact repeats.later other time reached begins earlier
      · cases call <;> cases begun
        exact id
    · rcases running_statement found moved with ⟨rfl, is⟩ | ⟨_, earlier⟩
      · cases operation with
        | submitProof old began phase =>
          obtain ⟨rfl, rfl, rfl⟩ := Operation.submitProof.inj is
          exact mt (repeats.stores.advanceSubmit clock time phase).2.mp (repeats.later other time phase begins found)
        | _ => cases is
      · exact repeats.later other time reached begins earlier

theorem repeats_of_run {request : SubmitProofRequest ProofId} {number now : ℕ}
    (run : Runs config idOf initial events service)
    (accepted : service.operations[number]? = some (.submitProof request now (.done (.ok ()))))
    (onward : Runs config idOf service rest later) :
    ∃ row, service.db.Stores request row ∧ Repeats service request row later := by
  obtain ⟨row, stores⟩ := honest_of_run run number request now accepted
  refine ⟨row, stores, onward.history (motive := fun _ later => Repeats service request row later)
    ⟨stores, fun _ _ phase began => ⟨phase, began, .rfl⟩, fun other _ _ begins present => ?_⟩ ?_⟩
  · exact absurd (List.getElem?_eq_some_iff.mp present).1 (not_lt.mpr begins)
  · intro past before after event earlier repeats _ success
    have reached := run.append earlier
    exact repeats.step (locked_of_run reached) (consistent_of_run reached) success

/-- After `submit_proof` has returned success nothing changes the row, and no call with the same arguments that begins
later returns success. Of the calls that were under way, those return success that had passed their first read. -/
theorem resubmission_never_succeeds (config : ProverServiceConfig) (idOf : ProofRequest → ProofId)
    (events rest : List (ServiceEvent ProofId)) (service later : Service ProofId) (request : SubmitProofRequest ProofId)
    (number now : ℕ) (run : Runs config idOf initial events service)
    (accepted : service.operations[number]? = some (.submitProof request now (.done (.ok ()))))
    (onward : Runs config idOf service rest later) :
    later.db.proofRequests.lookup request.proofId = service.db.proofRequests.lookup request.proofId ∧
    (∀ (other time : ℕ) result, service.operations.length ≤ other →
      later.operations[other]? = some (.submitProof request time (.done result)) → result ≠ .ok ()) ∧
    (∀ (other time : ℕ) phase result, service.operations[other]? = some (.submitProof request time phase) →
      later.operations[other]? = some (.submitProof request time (.done result)) →
        (phase = .read → result ≠ .ok ()) ∧ (phase = .update ∨ phase = .reread → result = .ok ())) ∧
    ∀ other time reached clock,
      later.db.advance config idOf other clock (.submitProof request time reached) =
          (later.db, .submitProof request time (later.db.advanceSubmit clock request time reached).2) ∧
        ∀ next, ∃ result, (later.db.advanceSubmit next request time
          (later.db.advanceSubmit clock request time reached).2).2 = .done result := by
  obtain ⟨row, stores, repeats⟩ := repeats_of_run run accepted onward
  refine ⟨by rw [repeats.stores.present, stores.present], fun other time result begins finished => ?_,
    fun other time phase result began finished => ?_, fun other time reached clock => ⟨?_, fun next => ?_⟩⟩
  · exact repeats.later other time _ begins finished
  · obtain ⟨reached, present, same⟩ := repeats.overlapping other time phase began
    obtain ⟨_, _, rfl⟩ := Operation.submitProof.inj (Option.some.inj (present.symm.trans finished))
    refine ⟨?_, ?_⟩
    · rintro rfl
      exact same.mp
    · rintro (rfl | rfl)
      · exact same.mpr trivial
      · exact same.mpr trivial
  · exact Prod.ext (repeats.stores.advanceSubmit clock time reached).1 rfl
  · exact repeats.stores.finishes clock next time reached

def resent : List (ServiceEvent ℕ) :=
  [.call (.requestProof ⟨.sp1, 0, 0, 5, 0, 0, none⟩ 0), .statement 0 0,
    .call (.getNextProof ⟨.sp1, "worker", 0, none⟩ 0),
    .statement 1 0, .call (.submitProof ⟨5, .sp1 [1] [2], "worker", 0⟩ 2), .statement 2 2, .statement 2 2,
    .call (.submitProof ⟨5, .sp1 [1] [2], "worker", 0⟩ 3), .statement 3 3]

theorem resent_submission_is_refused : ∃ service,
    Runs ⟨10, 3, 1⟩ ProofRequest.l2BlockNumber initial resent service ∧
    service.operations[2]? = some (.submitProof ⟨5, .sp1 [1] [2], "worker", 0⟩ 2 (.done (.ok ()))) ∧
    service.operations[3]? =
      some (.submitProof ⟨5, .sp1 [1] [2], "worker", 0⟩ 3 (.done (.error (.alreadyTerminal 5)))) :=
  ⟨_, Machine.Run.run_final (by decide +kernel), by rfl, by rfl⟩

def overlapping : List (ServiceEvent ℕ) :=
  [.call (.requestProof ⟨.sp1, 0, 0, 5, 0, 0, none⟩ 0), .statement 0 0,
    .call (.getNextProof ⟨.sp1, "worker", 0, none⟩ 0),
    .statement 1 0, .call (.submitProof ⟨5, .sp1 [1] [2], "worker", 0⟩ 2), .statement 2 2,
    .call (.submitProof ⟨5, .sp1 [1] [2], "worker", 0⟩ 2), .statement 3 2, .statement 2 2]

theorem overlapping_submission_is_accepted : ∃ service later, ∃ result ≠ .ok (),
    Runs ⟨10, 3, 1⟩ ProofRequest.l2BlockNumber initial overlapping service ∧
    Runs ⟨10, 3, 1⟩ ProofRequest.l2BlockNumber service
      [.statement 3 2, .statement 3 2, .call (.submitProof ⟨5, .sp1 [1] [2], "worker", 0⟩ 3), .statement 4 3] later ∧
    later.db.proofRequests.lookup 5 = service.db.proofRequests.lookup 5 ∧
    later.operations[3]? = some (.submitProof ⟨5, .sp1 [1] [2], "worker", 0⟩ 2 (.done (.ok ()))) ∧
    later.operations[4]? = some (.submitProof ⟨5, .sp1 [1] [2], "worker", 0⟩ 3 (.done result)) := by
  have run : Runs ⟨10, 3, 1⟩ ProofRequest.l2BlockNumber initial overlapping _ :=
    Machine.Run.run_final (by decide +kernel)
  have onward : Runs ⟨10, 3, 1⟩ ProofRequest.l2BlockNumber
      (Machine.Run.final (exec ⟨10, 3, 1⟩ ProofRequest.l2BlockNumber) initial overlapping)
      [.statement 3 2, .statement 3 2, .call (.submitProof ⟨5, .sp1 [1] [2], "worker", 0⟩ 3), .statement 4 3] _ :=
    Machine.Run.run_final (by decide +kernel)
  obtain ⟨same, refused, returns, _⟩ :=
    resubmission_never_succeeds _ _ _ _ _ _ ⟨5, .sp1 [1] [2], "worker", 0⟩ 2 2 run rfl onward
  have first := (returns 3 2 .update _ rfl rfl).2 (.inl rfl)
  exact ⟨_, _, _, refused 4 3 _ (by decide +kernel) rfl, run, onward, same, by rw [← first]; rfl, rfl⟩

end Service

end WorldChain.ProverService
