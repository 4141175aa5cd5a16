import WorldChain.ProverService.Steps

/-! # The statuses of requests and sessions

The columns of a row fit together in every state of every interleaving, since each change of a row takes a consistent
row to a consistent row. No change applies to a row that has succeeded, and none to a session that is terminal, so both
are final.
-/

namespace WorldChain.ProverService

variable {ProofId : Type*} [LinearOrder ProofId]

/-! ## One row -/

def statusPairs : List (ProofStatus × ProofJobStatus) :=
  [(.created, .pending), (.running, .claimed), (.succeeded, .succeeded), (.failed, .failed), (.cancelled, .failed)]

namespace ProofRow

variable {config : ProverServiceConfig} {idOf : ProofRequest → ProofId} {leases : ℕ} {proofId : ProofId}
  {row later : ProofRow} {operation : Operation ProofId}

/-- The columns of a row fit together. -/
structure Consistent (row : ProofRow) : Prop where
  statuses : (row.proofStatus, row.jobStatus) ∈ statusPairs
  leased : row.jobStatus = .claimed → row.workerId.isSome ∧ row.lockId.isSome ∧ row.lockExpiresAt.isSome
  data : row.proofData.isSome ↔ row.proofStatus = .succeeded

theorem Consistent.new (request : ProofRequest) (now : ℕ) : Consistent (.new request now) :=
  ⟨by simp [statusPairs, ProofRow.new], fun claimed => (by cases claimed), by simp [ProofRow.new]⟩

theorem Consistent.data_eq_none (consistent : row.Consistent) (unfinished : row.proofStatus ≠ .succeeded) :
    row.proofData = none := by
  rw [← Option.not_isSome_iff_eq_none, consistent.data]
  exact unfinished

theorem Consistent.unfinished_of_waiting (consistent : row.Consistent)
    (waiting : row.jobStatus = .pending ∨ row.jobStatus = .claimed) : row.proofStatus ≠ .succeeded := by
  intro succeeded
  have pair := consistent.statuses
  rw [succeeded] at pair
  rcases waiting with waiting | waiting
  · rw [waiting] at pair
    simp [statusPairs] at pair
  · rw [waiting] at pair
    simp [statusPairs] at pair

theorem unfinished_of_isActive (active : row.isActive = true) : row.proofStatus ≠ .succeeded := by
  intro succeeded
  rcases of_decide_eq_true active with is | is <;> cases succeeded.symm.trans is

omit [LinearOrder ProofId] in
theorem Consistent.change (consistent : row.Consistent)
    (changed : RowChange config idOf leases proofId row operation later) : later.Consistent := by
  cases changed with
  | requeue =>
    exact ⟨by simp [statusPairs, requeue], fun claimed => (by cases claimed), by simp [requeue]⟩
  | cancel active =>
    have absent := consistent.data_eq_none (unfinished_of_isActive active)
    exact ⟨by simp [statusPairs, cancel], fun claimed => (by cases claimed), by simp [cancel, absent]⟩
  | fail reason active =>
    have absent := consistent.data_eq_none (unfinished_of_isActive active)
    exact ⟨by simp [statusPairs, fail], fun claimed => (by cases claimed), by simp [fail, absent]⟩
  | claim workerId lockExpiresAt waiting =>
    have absent := consistent.data_eq_none (consistent.unfinished_of_waiting waiting)
    exact ⟨by simp [statusPairs, claim], fun _ => ⟨rfl, rfl, rfl⟩, by simp [claim, absent]⟩
  | extend lockExpiresAt claimed =>
    obtain ⟨worker, lock, _⟩ := consistent.leased claimed
    exact ⟨consistent.statuses, fun _ => ⟨worker, lock, rfl⟩, consistent.data⟩
  | succeed proof claimed =>
    exact ⟨by simp [statusPairs, succeed], fun claimed => (by cases claimed), by simp [succeed]⟩

omit [LinearOrder ProofId] in
theorem Consistent.not_change (consistent : row.Consistent) (succeeded : row.proofStatus = .succeeded) :
    ¬ RowChange config idOf leases proofId row operation later := by
  intro changed
  cases changed with
  | requeue now keyed finished => rcases finished with is | is <;> cases succeeded.symm.trans is
  | cancel active => exact unfinished_of_isActive active succeeded
  | fail reason active => exact unfinished_of_isActive active succeeded
  | claim workerId lockExpiresAt waiting => exact consistent.unfinished_of_waiting waiting succeeded
  | extend lockExpiresAt claimed => exact consistent.unfinished_of_waiting (.inr claimed) succeeded
  | succeed proof claimed => exact consistent.unfinished_of_waiting (.inr claimed) succeeded

end ProofRow

/-! ## The sessions -/

/-- A proof has at most one active session of a type. -/
def OneActive (sessions : List (ProofSession ProofId)) : Prop :=
  ∀ (first second : ℕ) (left right : ProofSession ProofId), sessions[first]? = some left → sessions[second]? = some right →
    left.isActive = true → right.isActive = true → left.isFor right.proofId right.sessionType = true → first = second

namespace SessionChange

variable {db : Database ProofId} {operation next : Operation ProofId} {after : List (ProofSession ProofId)} {index : ℕ}
  {session : ProofSession ProofId}

theorem terminal_kept (changed : SessionChange db operation after next)
    (present : db.proofSessions[index]? = some session)
    (terminal : session.isActive = false) : after[index]? = some session := by
  cases changed with
  | fail failed reason =>
    rw [List.getElem?_map, present, Option.map_some, if_neg]
    rintro ⟨_, active⟩
    rw [terminal] at active
    cases active
  | @update _ _ written _ old found active =>
    rw [List.getElem?_set_ne, present]
    rintro rfl
    rw [Option.some.inj (found.symm.trans present), terminal] at active
    cases active
  | insert room =>
    rw [List.getElem?_append_left (List.getElem?_eq_some_iff.mp present).1, present]

theorem active_cases (changed : SessionChange db operation after next) (present : after[index]? = some session)
    (active : session.isActive = true) :
    (∃ old, db.proofSessions[index]? = some old ∧ old.isActive = true ∧ old.proofId = session.proofId ∧
      old.sessionType = session.sessionType) ∨
    index = db.proofSessions.length ∧ ∀ other ∈ db.proofSessions, other.isFor session.proofId session.sessionType = true →
      other.isActive = false := by
  cases changed with
  | fail failed reason =>
    rw [List.getElem?_map, Option.map_eq_some_iff] at present
    obtain ⟨old, found, rfl⟩ := present
    split at active
    · cases active
    · next kept =>
      refine .inl ⟨old, found, active, ?_⟩
      rw [if_neg kept]
      exact ⟨rfl, rfl⟩
  | @update _ _ written _ old found was =>
    by_cases same : written = index
    · subst same
      rw [List.getElem?_set_self (List.getElem?_eq_some_iff.mp found).1] at present
      obtain rfl := Option.some.inj present
      exact .inl ⟨old, found, was, rfl, rfl⟩
    · rw [List.getElem?_set_ne same] at present
      exact .inl ⟨session, present, active, rfl, rfl⟩
  | insert room =>
    rw [List.getElem?_append] at present
    split at present
    · exact .inl ⟨session, present, active, rfl, rfl⟩
    · next beyond =>
      rw [List.getElem?_singleton] at present
      split at present
      · obtain rfl := Option.some.inj present
        exact .inr ⟨by omega, room active⟩
      · cases present

theorem oneActive (changed : SessionChange db operation after next) (single : OneActive db.proofSessions) :
    OneActive after := by
  intro first second left right isLeft isRight leftActive rightActive same
  obtain ⟨proof, kind⟩ := of_decide_eq_true same
  rcases changed.active_cases isLeft leftActive with ⟨earlier, atFirst, active, hasProof, hasKind⟩ | ⟨last, alone⟩
  · rcases changed.active_cases isRight rightActive with ⟨other, atSecond, active', hasProof', hasKind'⟩ | ⟨_, alone⟩
    · refine single first second earlier other atFirst atSecond active active' (decide_eq_true ?_)
      exact ⟨by rw [hasProof, hasProof', proof], by rw [hasKind, hasKind', kind]⟩
    · -- the added session found no active one
      have none := alone earlier (List.mem_of_getElem? atFirst)
        (decide_eq_true ⟨by rw [hasProof, proof], by rw [hasKind, kind]⟩)
      rw [active] at none
      cases none
  · rcases changed.active_cases isRight rightActive with ⟨other, atSecond, active', hasProof', hasKind'⟩ | ⟨last', _⟩
    · have none := alone other (List.mem_of_getElem? atSecond)
        (decide_eq_true ⟨by rw [hasProof', proof], by rw [hasKind', kind]⟩)
      rw [active'] at none
      cases none
    · rw [last, last']

end SessionChange

/-! ## The tables -/

namespace Database

variable {config : ProverServiceConfig} {idOf : ProofRequest → ProofId} {db after : Database ProofId} {number : ℕ}
  {operation next : Operation ProofId} {proofId : ProofId} {row : ProofRow}

/-- Every row is consistent, and a proof has at most one active session of a type. -/
structure Consistent (db : Database ProofId) : Prop where
  rows : ∀ proofId row, db.proofRequests.lookup proofId = some row → row.Consistent
  sessions : OneActive db.proofSessions

theorem Consistent.kept (consistent : db.Consistent) (effect : Effect config idOf number db operation after next) :
    after.Consistent where
  rows := fun proofId row present => by
    cases before : db.proofRequests.lookup proofId with
    | none =>
      obtain ⟨request, now, rfl, _⟩ := effect.added proofId row before present
      exact .new request now
    | some old =>
      have fits := consistent.rows proofId old before
      obtain ⟨later, held, same | changed⟩ := effect.rows proofId old before
      · rw [Option.some.inj (present.symm.trans held), same]
        exact fits
      · rw [Option.some.inj (present.symm.trans held)]
        exact fits.change changed
  sessions := by
    rcases effect.sessions with same | changed
    · rw [same]
      exact consistent.sessions
    · exact changed.oneActive consistent.sessions

/-- What succeeded or is terminal in one state is the same in the other. -/
structure Final (db after : Database ProofId) : Prop where
  proofs : ∀ proofId row, db.proofRequests.lookup proofId = some row → row.proofStatus = .succeeded →
    after.proofRequests.lookup proofId = some row
  sessions : ∀ (index : ℕ) (session : ProofSession ProofId), db.proofSessions[index]? = some session →
    session.status.isTerminal = true → after.proofSessions[index]? = some session

theorem Final.kept {first : Database ProofId} (final : first.Final db) (consistent : db.Consistent)
    (effect : Effect config idOf number db operation after next) : first.Final after where
  proofs := fun proofId row present succeeded => by
    have still := final.proofs proofId row present succeeded
    obtain ⟨later, held, same | changed⟩ := effect.rows proofId row still
    · rw [held, same]
    · exact absurd changed ((consistent.rows proofId row still).not_change succeeded)
  sessions := fun index session present terminal => by
    have still := final.sessions index session present terminal
    rcases effect.sessions with same | changed
    · rw [same, still]
    · exact changed.terminal_kept still (by rw [ProofSession.isActive, terminal]; rfl)

theorem getProof_of_consistent (consistent : db.Consistent) (present : db.proofRequests.lookup proofId = some row)
    (succeeded : row.proofStatus = .succeeded) :
    ∃ proof, row.proofData = some proof ∧ db.getProof proofId = .ok (.succeeded proofId proof) := by
  have some := (consistent.rows proofId row present).data.mpr succeeded
  obtain ⟨proof, stored⟩ := Option.isSome_iff_exists.mp some
  exact ⟨proof, stored, by simp only [getProof, present, succeeded, stored]⟩

theorem getProof_ne_proofEncoding (consistent : db.Consistent) (proofId : ProofId) :
    db.getProof proofId ≠ .error .proofEncoding := by
  intro failed
  cases present : db.proofRequests.lookup proofId with
  | none =>
    simp only [getProof, present] at failed
    cases failed
  | some row =>
    by_cases succeeded : row.proofStatus = .succeeded
    · obtain ⟨proof, _, result⟩ := getProof_of_consistent consistent present succeeded
      rw [result] at failed
      cases failed
    · simp only [getProof, present] at failed
      split at failed
      · next is => exact succeeded is
      · cases failed
      · cases failed
      · cases failed

end Database

namespace Service

variable {config : ProverServiceConfig} {idOf : ProofRequest → ProofId} {service later : Service ProofId}
  {events rest : List (ServiceEvent ProofId)}

theorem consistent_of_run (run : Runs config idOf initial events service) : service.db.Consistent := by
  have both : Locked idOf service ∧ service.db.Consistent := by
    refine run.invariant (motive := fun service => Locked idOf service ∧ service.db.Consistent) ⟨.initial, ?_, ?_⟩ ?_
    · intro proofId row present
      cases present
    · intro first second left right present
      cases present
    · rintro before after event ⟨locked, consistent⟩ _ success
      obtain ⟨⟨_, _, _, effect⟩, still⟩ := locked.step success
      exact ⟨still, consistent.kept effect⟩
  exact both.2

theorem final_of_run (run : Runs config idOf initial events service) (onward : Runs config idOf service rest later) :
    service.db.Final later.db := by
  have all : Locked idOf later ∧ later.db.Consistent ∧ service.db.Final later.db := by
    refine onward.invariant (motive := fun reached => Locked idOf reached ∧ reached.db.Consistent ∧ service.db.Final reached.db)
      ⟨locked_of_run run, consistent_of_run run, fun _ _ present _ => present, fun _ _ present _ => present⟩ ?_
    rintro before after event ⟨locked, consistent, final⟩ _ success
    obtain ⟨⟨_, _, _, effect⟩, still⟩ := locked.step success
    exact ⟨still, consistent.kept effect, final.kept consistent effect⟩
  exact all.2.2

/-- The columns of every row fit together and a proof has at most one active session of a type; what has succeeded or is
terminal never changes. -/
theorem statuses_consistent (config : ProverServiceConfig) (idOf : ProofRequest → ProofId)
    (events : List (ServiceEvent ProofId)) (service : Service ProofId) (run : Runs config idOf initial events service) :
    (∀ proofId row, service.db.proofRequests.lookup proofId = some row →
      (row.proofStatus, row.jobStatus) ∈ statusPairs ∧
      (row.jobStatus = .claimed → row.workerId.isSome ∧ row.lockId.isSome ∧ row.lockExpiresAt.isSome) ∧
      (row.proofData.isSome ↔ row.proofStatus = .succeeded)) ∧
    OneActive service.db.proofSessions ∧
    (∀ rest later, Runs config idOf service rest later → service.db.Final later.db) ∧
    (∀ proofId, service.db.getProof proofId ≠ .error .proofEncoding) ∧
    ∀ proofId row, service.db.proofRequests.lookup proofId = some row → row.proofStatus = .succeeded →
      ∃ proof, row.proofData = some proof ∧ service.db.getProof proofId = .ok (.succeeded proofId proof) := by
  have consistent := consistent_of_run run
  refine ⟨fun proofId row present => ?_, consistent.sessions, fun rest later onward => final_of_run run onward,
    fun proofId => Database.getProof_ne_proofEncoding consistent proofId, fun proofId row present succeeded => ?_⟩
  · have fits := consistent.rows proofId row present
    exact ⟨fits.statuses, fits.leased, fits.data⟩
  · exact Database.getProof_of_consistent consistent present succeeded

def answered : List (ServiceEvent ℕ) :=
  [.call (.requestProof ⟨.sp1, 0, 0, 5, 0, 0, none⟩ 0), .statement 0 0, .call (.getNextProof ⟨.sp1, "worker", 0, none⟩ 0),
    .statement 1 0, .call (.recordProofSession ⟨5, .stark, "worker", 0, "session", .running, none⟩ 1), .statement 2 1,
    .statement 2 1, .statement 2 1, .statement 2 1, .call (.submitProof ⟨5, .sp1 [1] [2], "worker", 0⟩ 2), .statement 3 2,
    .statement 3 2]

theorem answered_proof_is_final : ∃ service row, Runs ⟨10, 3, 1⟩ ProofRequest.l2BlockNumber initial answered service ∧
    service.db.proofSessions = [⟨5, .stark, "session", .running, none⟩] ∧
    service.db.proofRequests.lookup 5 = some row ∧ row.proofData = some (.sp1 [1] [2]) ∧
    service.db.getProof 5 = .ok (.succeeded 5 (.sp1 [1] [2])) ∧
    ∀ rest later, Runs ⟨10, 3, 1⟩ ProofRequest.l2BlockNumber service rest later →
      later.db.proofRequests.lookup 5 = some row := by
  have run : Runs ⟨10, 3, 1⟩ ProofRequest.l2BlockNumber initial answered _ := Machine.Run.run_final (by decide +kernel)
  obtain ⟨_, _, final, _, read⟩ := statuses_consistent _ _ _ _ run
  have present : (Machine.Run.final (exec ⟨10, 3, 1⟩ ProofRequest.l2BlockNumber) initial answered).db.proofRequests.lookup 5 =
      some (((ProofRow.new ⟨.sp1, 0, 0, 5, 0, 0, none⟩ 0).claim "worker" 0 10).succeed (.sp1 [1] [2])) := by decide +kernel
  refine ⟨_, _, run, by decide +kernel, present, rfl, ?_, fun rest later onward => (final rest later onward).proofs 5 _ present rfl⟩
  obtain ⟨proof, stored, result⟩ := read 5 _ present rfl
  obtain rfl := Option.some.inj stored
  exact result

end Service

end WorldChain.ProverService
