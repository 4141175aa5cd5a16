import WorldChain.Sp1.Planner
import WorldChain.ProverService.Store

/-! # Proving the ranges of a plan

`Sound` holds of every state, `Ready` is what the loop needs to go on, and a round makes the `potential` smaller.
-/

namespace WorldChain.Sp1

open ProverService (BackendSessionStatus)

/-- Structured failures of a succinct prover. -/
inductive SuccinctProverError where
  | notCompressed
  | requestAuctionTimedOut (sessionId : String)
  | requestTimedOut (sessionId : String)
  | requestUnexecutable (sessionId : String)
  | requestUnfulfillable (sessionId : String)
deriving DecidableEq, Repr

namespace SuccinctProverError

def shouldResubmit : SuccinctProverError → Bool
  | requestAuctionTimedOut _ | requestTimedOut _ => true
  | _ => false

def isTerminalSession : SuccinctProverError → Bool
  | requestAuctionTimedOut _ | requestTimedOut _ | requestUnexecutable _ | requestUnfulfillable _ => true
  | notCompressed => false

end SuccinctProverError

/-- A failed wait, by whether its error is one of the prover's. -/
inductive WaitError where
  | prover (error : SuccinctProverError)
  | other (message : String)
deriving DecidableEq, Repr

/-- The length of `NETWORK_REQUEST_RETRY_BACKOFFS`. -/
def networkRequestRetries : ℕ := 3

/-- Why the ranges could not be proven, with what the error's context names. -/
inductive ProveError where
  | build (message : String)
  | submit (message : String)
  | lostSession
  | artifact (message : String)
  | record (message : String)
  | exhausted (startBlock endBlock : ℕ) (error : SuccinctProverError)
  | unsplittable (startBlock endBlock splits maxSplits : ℕ) (error : SuccinctProverError)
  | terminal (startBlock endBlock : ℕ) (error : SuccinctProverError)
  | wait (error : WaitError)
  | missingArtifact
  | outOfFuel
deriving DecidableEq, Repr

/-- What becomes of a range whose wait has failed. -/
inductive RangeFailure where
  | retry
  | split (low high : PlannedRange)
  | abandon (failure : ProveError)
  | stop

def PlannedRange.onFailure (range : PlannedRange) (maxSplits resubmissions : ℕ) : WaitError → RangeFailure
  | .other _ => .stop
  | .prover sessionError =>
    if sessionError.shouldResubmit then
      if resubmissions ≥ networkRequestRetries then .abandon (.exhausted range.startBlock range.endBlock sessionError)
      else .retry
    else
      match sessionError with
      | .requestUnexecutable _ =>
        match if range.splits < maxSplits then range.bisect else none with
        | none => .abandon (.unsplittable range.startBlock range.endBlock range.splits maxSplits sessionError)
        | some (low, high) => .split low high
      | _ =>
        if sessionError.isTerminalSession then .abandon (.terminal range.startBlock range.endBlock sessionError)
        else .stop

structure Network (Artifact : Type) where
  supportsPersistentSessions : Bool
  buildRangeRequest : ℕ → Except String Unit
  submit : ℕ → Except String String
  wait : ℕ → Except WaitError (Except String Artifact)
  record : ℕ → Except String Unit

/-- The variables of `prove_ranges`, and a history of what it did. -/
structure Proving (Artifact : Type) where
  plan : RangePlan
  artifacts : ℕ × ℕ → Option Artifact
  resubmissions : ℕ × ℕ → ℕ
  calls : ℕ
  submissions : List (ℕ × ℕ)
  persisted : List (RangePlan × BackendSessionStatus)
  proofs : List (PlannedRange × Artifact)

namespace Proving

variable {Artifact : Type}

def start (plan : RangePlan) : Proving Artifact := ⟨plan, fun _ => none, fun _ => 0, 0, [], [], []⟩

section Model

variable (network : Network Artifact) (maxSplits : ℕ) (proving : Proving Artifact)

@[simps] def call : Proving Artifact := { proving with calls := proving.calls + 1 }

@[simps] def withRanges (ranges : List PlannedRange) : Proving Artifact :=
  { proving with plan := ⟨proving.plan.v, ranges⟩ }

/-- A range was handed to the network. -/
@[simps] def withSubmission (range : PlannedRange) : Proving Artifact :=
  { proving.call with submissions := proving.submissions ++ [range.bounds] }

/-- The proof of a range has arrived. -/
@[simps] def withArtifact (range : PlannedRange) (artifact : Artifact) : Proving Artifact :=
  { proving with
    artifacts := Function.update proving.artifacts range.bounds (some artifact)
    proofs := proving.proofs ++ [(range, artifact)] }

/-- A range is to be submitted once more. -/
@[simps] def withRetry (before : List PlannedRange) (range : PlannedRange) (after : List PlannedRange) :
    Proving Artifact :=
  { proving with
    plan := ⟨proving.plan.v, before ++ { range with sessionId := none } :: after⟩
    resubmissions := Function.update proving.resubmissions range.bounds (proving.resubmissions range.bounds + 1) }

/-- `persist_plan`. -/
def persistPlan (status : BackendSessionStatus) : Proving Artifact × Except ProveError Unit :=
  if network.supportsPersistentSessions then
    ({ proving.call with persisted := proving.persisted ++ [(proving.plan, status)] },
      (network.record proving.calls).mapError .record)
  else (proving, .ok ())

def submitRange (before : List PlannedRange) (range : PlannedRange) (after : List PlannedRange) :
    Proving Artifact × Except ProveError PlannedRange :=
  match network.buildRangeRequest proving.calls with
  | .error message => (proving.call, .error (.build message))
  | .ok () =>
    match network.submit proving.call.calls with
    | .error message => (proving.call.withSubmission range, .error (.submit message))
    | .ok sessionId =>
      let submitted := { range with sessionId := some sessionId }
      let (proving, recorded) :=
        ((proving.call.withSubmission range).withRanges (before ++ submitted :: after)).persistPlan network .running
      (proving, recorded.map fun _ => submitted)

def submitRanges (proving : Proving Artifact) (before : List PlannedRange) :
    List PlannedRange → Proving Artifact × Except ProveError Unit
  | [] => (proving, .ok ())
  | range :: after =>
    if range.sessionId.isSome then submitRanges proving (before ++ [range]) after
    else
      match proving.submitRange network before range after with
      | (proving, .error error) => (proving, .error error)
      | (proving, .ok submitted) => submitRanges proving (before ++ [submitted]) after

/-- Record the plan as failed, and fail. -/
def abandon (error : ProveError) : Proving Artifact × Except ProveError Unit :=
  let (proving, recorded) := proving.persistPlan network .failed
  (proving, recorded.bind fun _ => .error error)

/-- What follows on a failed wait. -/
def handleFailure (before : List PlannedRange) (range : PlannedRange) (after : List PlannedRange) (error : WaitError) :
    Proving Artifact × Except ProveError Unit :=
  match range.onFailure maxSplits (proving.resubmissions range.bounds) error with
  | .retry => (proving.withRetry before range after).persistPlan network .running
  | .split low high => (proving.withRanges (before ++ low :: high :: after)).persistPlan network .running
  | .abandon failure => proving.abandon network failure
  | .stop => (proving, .error (.wait error))

/-- Wait for one range. -/
def waitRange (before : List PlannedRange) (range : PlannedRange) (after : List PlannedRange) :
    Proving Artifact × Except ProveError Unit :=
  match range.sessionId with
  | none => (proving, .error .lostSession)
  | some _ =>
    match network.wait proving.calls with
    | .ok (.ok artifact) => (proving.call.withArtifact range artifact, .ok ())
    | .ok (.error message) => (proving.call, .error (.artifact message))
    | .error error => proving.call.handleFailure network maxSplits before range after error

/-- Take the artifact of each range out of the map. -/
def collect (artifacts : ℕ × ℕ → Option Artifact) : List PlannedRange → Except ProveError (List Artifact)
  | [] => .ok []
  | range :: rest =>
    match artifacts range.bounds with
    | none => .error .missingArtifact
    | some artifact => (collect (Function.update artifacts range.bounds none) rest).map (artifact :: ·)

def round : Proving Artifact × Except ProveError (Option (List Artifact)) :=
  match proving.submitRanges network [] proving.plan.ranges with
  | (proving, .error error) => (proving, .error error)
  | (proving, .ok ()) =>
    match proving.plan.ranges.span fun range => (proving.artifacts range.bounds).isSome with
    | (before, range :: after) =>
      let (proving, waited) := proving.waitRange network maxSplits before range after
      (proving, waited.map fun _ => none)
    | (_, []) =>
      let (proving, recorded) := proving.persistPlan network .completed
      (proving, recorded.bind fun _ => (collect proving.artifacts proving.plan.ranges).map some)

def loop : ℕ → Proving Artifact → Proving Artifact × Except ProveError (List Artifact)
  | 0, proving => (proving, .error .outOfFuel)
  | fuel + 1, proving =>
    match proving.round network maxSplits with
    | (proving, .error error) => (proving, .error error)
    | (proving, .ok (some artifacts)) => (proving, .ok artifacts)
    | (proving, .ok none) => loop fuel proving

end Model

end Proving

/-- `prove_ranges`. -/
def proveRanges {Artifact : Type} (network : Network Artifact) (maxSplits : ℕ) (plan : RangePlan) :
    Proving Artifact × Except ProveError (List Artifact) :=
  Proving.loop network maxSplits (8 * (plan.ranges.map fun range => range.endBlock - range.startBlock).sum + 1)
    (.start plan)

/-! ## Plans that come from a starting plan -/

/-- One interval comes from another by so many bisections. -/
inductive Bisected : ℕ → ℕ × ℕ → ℕ × ℕ → Prop
  | whole (interval : ℕ × ℕ) : Bisected 0 interval interval
  | low {depth first last : ℕ} {interval : ℕ × ℕ} (parent : Bisected depth interval (first, last)) :
      Bisected (depth + 1) interval (first, first + (last - first) / 2)
  | high {depth first last : ℕ} {interval : ℕ × ℕ} (parent : Bisected depth interval (first, last)) :
      Bisected (depth + 1) interval (first + (last - first) / 2, last)

/-- What the rounds start from. -/
structure RangeJob where
  codec : PlanCodec
  starting : RangePlan
  maxSplits : ℕ
  startBlock : ℕ
  endBlock : ℕ

structure Derived (job : RangeJob) (plan : RangePlan) : Prop where
  tiling : Tiling job.startBlock (plan.ranges.map PlannedRange.bounds) job.endBlock
  descends : ∀ range ∈ plan.ranges, ∃ origin ∈ job.starting.ranges, ∃ depth ≤ job.maxSplits,
    Bisected depth origin.bounds range.bounds ∧ range.splits = origin.splits + depth
  plain : ∀ range ∈ plan.ranges, ∀ sessionId, range.sessionId = some sessionId → job.codec.fromJson sessionId = none

theorem mem_replaced {α : Type*} {before after : List α} {new other : α} (member : other ∈ before ++ new :: after) :
    other = new ∨ other ∈ before ++ after := by
  simp only [List.mem_append, List.mem_cons] at member ⊢
  tauto

theorem mem_of_split {α : Type*} {ranges before after : List α} {range other : α}
    (split : ranges = before ++ range :: after) (member : other ∈ before ++ after) : other ∈ ranges := by
  rw [split]
  exact List.mem_append.mpr ((List.mem_append.mp member).imp_right (List.mem_cons_of_mem _))

namespace Derived

variable {job : RangeJob} {plan : RangePlan}
  {before after : List PlannedRange} {range low high : PlannedRange}

section

variable (derived : Derived job plan)
  (split : plan.ranges = before ++ range :: after)

include derived split

theorem around :
    Tiling job.startBlock (before.map PlannedRange.bounds ++ range.bounds :: after.map PlannedRange.bounds)
      job.endBlock := by
  simpa [split] using derived.tiling

theorem withSession {session : Option String}
    (plain : ∀ sessionId, session = some sessionId → job.codec.fromJson sessionId = none) :
    Derived job
      ⟨plan.v, before ++ { range with sessionId := session } :: after⟩ := by
  have members : ∀ other ∈ before ++ { range with sessionId := session } :: after,
      other = { range with sessionId := session } ∨ other ∈ plan.ranges := by
    intro other member
    exact (mem_replaced member).imp_right (mem_of_split split)
  have held : range ∈ plan.ranges := by simp [split]
  refine ⟨?_, ?_, ?_⟩
  · simpa [PlannedRange.bounds] using derived.around split
  · intro other member
    rcases members other member with rfl | old
    · exact derived.descends range held
    · exact derived.descends other old
  · intro other member
    rcases members other member with rfl | old
    · exact plain
    · exact derived.plain other old

end

theorem bisect_eq_some (halves : range.bisect = some (low, high)) : 2 ≤ range.endBlock - range.startBlock ∧
    low = ⟨range.startBlock, range.startBlock + (range.endBlock - range.startBlock) / 2, none, range.splits + 1⟩ ∧
    high = ⟨range.startBlock + (range.endBlock - range.startBlock) / 2, range.endBlock, none, range.splits + 1⟩ := by
  unfold PlannedRange.bisect at halves
  dsimp only at halves
  split at halves
  · cases halves
  · next more =>
    obtain ⟨rfl, rfl⟩ := Prod.mk.inj (Option.some.inj halves)
    exact ⟨by omega, rfl, rfl⟩

theorem bisect (derived : Derived job plan)
    (split : plan.ranges = before ++ range :: after) (few : range.splits < job.maxSplits)
    (halves : range.bisect = some (low, high)) :
    Derived job ⟨plan.v, before ++ low :: high :: after⟩ := by
  obtain ⟨more, rfl, rfl⟩ := bisect_eq_some halves
  have held : range ∈ plan.ranges := by simp [split]
  obtain ⟨origin, start, depth, _, bisected, counted⟩ := derived.descends range held
  have old : ∀ other ∈ before ++ after, other ∈ plan.ranges := fun _ => mem_of_split split
  refine ⟨?_, ?_, ?_⟩
  · have after : range.startBlock < range.startBlock + (range.endBlock - range.startBlock) / 2 := by omega
    have before : range.startBlock + (range.endBlock - range.startBlock) / 2 < range.endBlock := by omega
    simpa [PlannedRange.bounds] using (derived.around split).cut after before
  · simp only [List.mem_append, List.mem_cons]
    rintro other (member | rfl | rfl | member)
    · exact derived.descends other (old other (List.mem_append_left _ member))
    · exact ⟨origin, start, depth + 1, by omega, bisected.low, by simp only; omega⟩
    · exact ⟨origin, start, depth + 1, by omega, bisected.high, by simp only; omega⟩
    · exact derived.descends other (old other (List.mem_append_right _ member))
  · simp only [List.mem_append, List.mem_cons]
    rintro other (member | rfl | rfl | member)
    · exact derived.plain other (old other (List.mem_append_left _ member))
    · exact fun _ missing => by cases missing
    · exact fun _ missing => by cases missing
    · exact derived.plain other (old other (List.mem_append_right _ member))

end Derived

/-! ## What the loop keeps -/

namespace Proving

variable {Artifact : Type} {job : RangeJob} {proving : Proving Artifact} {before after : List PlannedRange} {range low high : PlannedRange}

/-- Every plan comes from the starting plan, and no range was submitted more often than once and for each retry. -/
structure Sound (job : RangeJob) (proving : Proving Artifact) : Prop where
  derived : Derived job proving.plan
  persisted : ∀ entry ∈ proving.persisted, Derived job entry.1
  bounded : ∀ key, proving.submissions.count key ≤ networkRequestRetries + 1

structure Ready (job : RangeJob) (proving : Proving Artifact) : Prop extends Sound job proving where
  retried : ∀ key, proving.resubmissions key ≤ networkRequestRetries
  counted : ∀ range ∈ proving.plan.ranges, proving.submissions.count range.bounds +
    (if range.sessionId = none then 1 else 0) ≤ proving.resubmissions range.bounds + 1
  fresh : ∀ range ∈ proving.plan.ranges, ∀ first last, range.startBlock ≤ first → last ≤ range.endBlock →
    (first, last) ≠ range.bounds → first < last → proving.submissions.count (first, last) = 0
  proved : ∀ key artifact, proving.artifacts key = some artifact →
    ∃ range, (range, artifact) ∈ proving.proofs ∧ range.bounds = key

theorem Ready.call (ready : Ready job proving) :
    Ready job proving.call :=
  ⟨⟨ready.derived, ready.persisted, ready.bounded⟩, ready.retried, ready.counted, ready.fresh, ready.proved⟩

def price (proving : Proving Artifact) (key : ℕ × ℕ) : ℕ :=
  if (proving.artifacts key).isSome then 0 else 4 * (2 * (key.2 - key.1) - 1) - proving.resubmissions key

def potential (proving : Proving Artifact) : ℕ := (proving.plan.ranges.map fun range => proving.price range.bounds).sum

section Updates

section

variable (derived : Derived job proving.plan)
  (split : proving.plan.ranges = before ++ range :: after)

include derived split

theorem other_range {other : PlannedRange} (member : other ∈ before ++ after) :
    other ∈ proving.plan.ranges ∧ ¬ (other.startBlock ≤ range.startBlock ∧ range.endBlock ≤ other.endBlock) ∧
      other.bounds ≠ range.bounds := by
  have mapped : other.bounds ∈ before.map PlannedRange.bounds ++ after.map PlannedRange.bounds := by
    rw [← List.map_append]
    exact List.mem_map_of_mem member
  have apart := ((derived.around split).not_within mapped).1
  refine ⟨mem_of_split split member, apart, ?_⟩
  intro same
  rw [same] at apart
  exact apart ⟨le_rfl, le_rfl⟩

theorem nonempty_range : range.startBlock < range.endBlock := by
  have mapped : range.bounds ∈ before.map PlannedRange.bounds ++
      range.bounds :: after.map PlannedRange.bounds := by simp
  exact (derived.around split).lt_of_mem mapped

end

section

variable (ready : Ready job proving)
  (split : proving.plan.ranges = before ++ range :: after)

include ready split

theorem Ready.count_le (unsubmitted : range.sessionId = none) (key : ℕ × ℕ) :
    (proving.submissions ++ [range.bounds]).count key ≤ networkRequestRetries + 1 := by
  rw [List.count_append, List.count_singleton]
  by_cases same : range.bounds = key
  · have counted := ready.counted range (by simp [split])
    have retried := ready.retried range.bounds
    rw [if_pos unsubmitted] at counted
    rw [← same]
    simp only [beq_self_eq_true, if_true]
    omega
  · simpa [same] using ready.bounded key

theorem Ready.refused (unsubmitted : range.sessionId = none) :
    Sound job (proving.withSubmission range) :=
  ⟨ready.derived, ready.persisted, ready.count_le split unsubmitted⟩

theorem Ready.submitted (unsubmitted : range.sessionId = none) {sessionId : String}
    (plain : job.codec.fromJson sessionId = none) :
    Ready job
      ((proving.withSubmission range).withRanges (before ++ { range with sessionId := some sessionId } :: after)) := by
  have derived := ready.derived.withSession split fun _ (same : some sessionId = some _) => Option.some.inj same ▸ plain
  refine ⟨⟨derived, ready.persisted, ready.count_le split unsubmitted⟩, ready.retried, ?_, ?_, ready.proved⟩
  · intro other member
    simp only [withRanges_submissions, withSubmission_submissions, withRanges_resubmissions,
      withSubmission_resubmissions,
      List.count_append, List.count_singleton]
    rcases mem_replaced member with rfl | old
    · have counted := ready.counted range (by simp [split])
      rw [if_pos unsubmitted] at counted
      simpa [PlannedRange.bounds] using counted
    · obtain ⟨held, _, different⟩ := other_range ready.derived split old
      simpa [different.symm] using ready.counted other held
  · intro other member first last after' before' different nonempty
    simp only [withRanges_submissions, withSubmission_submissions, List.count_append, List.count_singleton]
    rcases mem_replaced member with rfl | old
    · have fresh := ready.fresh range (by simp [split]) first last after' before' different nonempty
      simp only [fresh, Nat.zero_add]
      exact if_neg fun same => different (eq_of_beq same).symm
    · obtain ⟨held, apart, _⟩ := other_range ready.derived split old
      have fresh := ready.fresh other held first last after' before' different nonempty
      simp only [fresh, Nat.zero_add]
      refine if_neg fun same => ?_
      obtain ⟨rfl, rfl⟩ := Prod.mk.inj (eq_of_beq same)
      exact apart ⟨after', before'⟩

end

section

variable (derived : Derived job proving.plan)
  (split : proving.plan.ranges = before ++ range :: after)

include derived split

theorem price_others {next : Proving Artifact} (same : ∀ key ≠ range.bounds, next.price key = proving.price key)
    {others : List PlannedRange} (part : ∀ other ∈ others, other ∈ before ++ after) :
    (others.map fun range => next.price range.bounds) = others.map fun range => proving.price range.bounds :=
  List.map_congr_left fun other member => same _ (other_range derived split (part other member)).2.2

theorem potential_lt {next : Proving Artifact} (pieces : List PlannedRange)
    (replaced : next.plan.ranges = before ++ pieces ++ after)
    (same : ∀ key ≠ range.bounds, next.price key = proving.price key)
    (less : (pieces.map fun piece => next.price piece.bounds).sum < proving.price range.bounds) :
    next.potential < proving.potential := by
  have left := price_others derived split same fun other (member : other ∈ before) => List.mem_append_left _ member
  have right := price_others derived split same fun other (member : other ∈ after) => List.mem_append_right _ member
  simp only [potential, replaced, split, List.map_append, List.map_cons, List.sum_append, List.sum_cons, left, right]
  omega

end

section

variable (ready : Ready job proving)
  (split : proving.plan.ranges = before ++ range :: after) (unproven : proving.artifacts range.bounds = none)

include ready split unproven

theorem Ready.price_eq :
    proving.price range.bounds =
        4 * (2 * (range.endBlock - range.startBlock) - 1) - proving.resubmissions range.bounds ∧
      0 < proving.price range.bounds ∧ proving.resubmissions range.bounds ≤ 3 := by
  have nonempty := nonempty_range ready.derived split
  have retried := ready.retried range.bounds
  have priced : proving.price range.bounds =
      4 * (2 * (range.endBlock - range.startBlock) - 1) - proving.resubmissions range.bounds := by
    rw [price, unproven]
    rfl
  rw [networkRequestRetries] at retried
  exact ⟨priced, by omega, retried⟩

theorem Ready.proven (artifact : Artifact) :
    Ready job (proving.withArtifact range artifact) ∧
      (proving.withArtifact range artifact).potential < proving.potential := by
  refine ⟨⟨⟨ready.derived, ready.persisted, ready.bounded⟩, ready.retried, ready.counted, ready.fresh, ?_⟩, ?_⟩
  · intro key found held
    rw [withArtifact_artifacts] at held
    by_cases same : key = range.bounds
    · subst same
      rw [Function.update_self] at held
      exact ⟨range, by simp [Option.some.inj held], rfl⟩
    · rw [Function.update_of_ne same] at held
      obtain ⟨proved, member, bounds⟩ := ready.proved key found held
      exact ⟨proved, List.mem_append_left _ member, bounds⟩
  · refine potential_lt ready.derived split [range] (by simpa using split) ?_ ?_
    · intro key different
      simp [price, Function.update_of_ne different]
    · simpa [price] using (ready.price_eq split unproven).2.1

theorem Ready.retry (submitted : range.sessionId ≠ none)
    (few : proving.resubmissions range.bounds < networkRequestRetries) :
    Ready job (proving.withRetry before range after) ∧
      (proving.withRetry before range after).potential < proving.potential := by
  have derived := ready.derived.withSession split fun _ (missing : none = some _) => by cases missing
  refine ⟨⟨⟨derived, ready.persisted, ready.bounded⟩, ?_, ?_, ?_, ready.proved⟩, ?_⟩
  · intro key
    rw [withRetry_resubmissions]
    by_cases same : key = range.bounds
    · subst same
      rw [Function.update_self]
      omega
    · rw [Function.update_of_ne same]
      exact ready.retried key
  · intro other member
    rw [withRetry_resubmissions, withRetry_submissions]
    rcases mem_replaced member with rfl | old
    · have counted := ready.counted range (by simp [split])
      rw [if_neg submitted] at counted
      simpa [PlannedRange.bounds] using counted
    · obtain ⟨held, _, different⟩ := other_range ready.derived split old
      simpa [Function.update_of_ne different] using ready.counted other held
  · intro other member
    rcases mem_replaced member with rfl | old
    · exact ready.fresh range (by simp [split])
    · exact ready.fresh other (other_range ready.derived split old).1
  · refine potential_lt ready.derived split [{ range with sessionId := none }] (by simp) ?_ ?_
    · intro key different
      simp [price, Function.update_of_ne different]
    · obtain ⟨priced, positive, _⟩ := ready.price_eq split unproven
      have cost : (proving.withRetry before range after).price range.bounds =
          4 * (2 * (range.endBlock - range.startBlock) - 1) - (proving.resubmissions range.bounds + 1) := by
        rw [price, withRetry_artifacts, withRetry_resubmissions, unproven, Function.update_self]
        rfl
      simp only [List.map_cons, List.map_nil, List.sum_singleton]
      exact lt_of_eq_of_lt cost (by omega)

end

theorem half_within (halves : range.bisect = some (low, high)) {piece : PlannedRange}
    (half : piece = low ∨ piece = high) :
    piece.sessionId = none ∧ range.startBlock ≤ piece.startBlock ∧ piece.endBlock ≤ range.endBlock ∧
      piece.startBlock < piece.endBlock ∧ piece.endBlock - piece.startBlock < range.endBlock - range.startBlock := by
  obtain ⟨more, rfl, rfl⟩ := Derived.bisect_eq_some halves
  rcases half with rfl | rfl
  · refine ⟨rfl, ?_, ?_, ?_, ?_⟩ <;> dsimp only <;> omega
  · refine ⟨rfl, ?_, ?_, ?_, ?_⟩ <;> dsimp only <;> omega

/-- A range is only given up for good by an error that says so, and only cut in two if it may be. -/
theorem onFailure_spec (range : PlannedRange) (maxSplits resubmissions : ℕ) (error : WaitError) :
    match range.onFailure maxSplits resubmissions error with
    | .retry => resubmissions < networkRequestRetries
    | .split low high => range.splits < maxSplits ∧ range.bisect = some (low, high)
    | .abandon failure => failure ≠ .outOfFuel
    | .stop => ∀ sessionError, error = .prover sessionError → sessionError.isTerminalSession = false := by
  cases error with
  | other _ =>
    rintro _ ⟨⟩
  | prover sessionError =>
    by_cases resubmits : sessionError.shouldResubmit = true
    · by_cases exhausted : resubmissions ≥ networkRequestRetries
      · simp [PlannedRange.onFailure, resubmits, exhausted]
      · simpa [PlannedRange.onFailure, resubmits, exhausted] using not_le.mp exhausted
    · cases sessionError with
      | requestUnexecutable _ =>
        by_cases few : range.splits < maxSplits
        · cases halves : range.bisect with
          | none => simp [PlannedRange.onFailure, resubmits, few, halves]
          | some pair => simp [PlannedRange.onFailure, resubmits, few, halves]
        · simp [PlannedRange.onFailure, resubmits, few]
      | notCompressed =>
        rintro _ ⟨⟩
        rfl
      | requestUnfulfillable _ => simp [PlannedRange.onFailure, resubmits, SuccinctProverError.isTerminalSession]
      | _ => exact absurd rfl resubmits

theorem price_le (proving : Proving Artifact) (piece : PlannedRange) :
    proving.price piece.bounds ≤ 4 * (2 * (piece.endBlock - piece.startBlock) - 1) := by
  rw [price]
  split
  · exact Nat.zero_le _
  · exact Nat.sub_le _ _

theorem Ready.bisected (ready : Ready job proving)
    (split : proving.plan.ranges = before ++ range :: after) (unproven : proving.artifacts range.bounds = none)
    (few : range.splits < job.maxSplits) (halves : range.bisect = some (low, high)) :
    Ready job (proving.withRanges (before ++ low :: high :: after)) ∧
      (proving.withRanges (before ++ low :: high :: after)).potential < proving.potential := by
  have held : range ∈ proving.plan.ranges := by simp [split]
  have members {other : PlannedRange} (member : other ∈ before ++ low :: high :: after) :
      (other = low ∨ other = high) ∨ other ∈ proving.plan.ranges := by
    rw [split]
    simp only [List.mem_append, List.mem_cons] at member ⊢
    tauto
  -- What lies within a half lies within the range and is not the range, so it was not submitted yet.
  have fresh {piece : PlannedRange} (half : piece = low ∨ piece = high) {first last : ℕ}
      (above : piece.startBlock ≤ first) (below : last ≤ piece.endBlock) (nonempty : first < last) :
      proving.submissions.count (first, last) = 0 := by
    obtain ⟨_, start, stop, _, shorter⟩ := half_within halves half
    refine ready.fresh range held first last (start.trans above) (below.trans stop) ?_ nonempty
    rintro ⟨⟩
    omega
  refine ⟨⟨⟨ready.derived.bisect split few halves, ready.persisted, ready.bounded⟩, ready.retried, ?_, ?_,
    ready.proved⟩, ?_⟩
  · intro other member
    rcases members member with half | old
    · obtain ⟨_, _, _, nonempty, _⟩ := half_within halves half
      have none := fresh half le_rfl le_rfl nonempty
      rw [withRanges_submissions, withRanges_resubmissions, PlannedRange.bounds, none]
      split <;> omega
    · exact ready.counted other old
  · intro other member first last above below different nonempty
    rcases members member with half | old
    · exact fresh half above below nonempty
    · exact ready.fresh other old first last above below different nonempty
  · refine potential_lt ready.derived split [low, high] (by simp) (fun _ _ => rfl) ?_
    obtain ⟨priced, _, retried⟩ := ready.price_eq split unproven
    have first := price_le (proving.withRanges (before ++ low :: high :: after)) low
    have second := price_le (proving.withRanges (before ++ low :: high :: after)) high
    obtain ⟨more, rfl, rfl⟩ := Derived.bisect_eq_some halves
    simp only [List.map_cons, List.map_nil, List.sum_cons, List.sum_nil, priced]
    dsimp only at first second
    omega

end Updates

/-! ## The loop -/

section Specs

variable {α β : Type} {network : Network Artifact}

/-- What a part of the loop leads to: a sound state, and if it goes on, a state to go on from. -/
structure Outcome (job : RangeJob) (result : Proving Artifact × Except ProveError α) (post : α → Proving Artifact → Prop) : Prop where
  sound : Sound job result.1
  fueled : result.2 ≠ .error .outOfFuel
  ready : ∀ value, result.2 = .ok value → Ready job result.1 ∧
    post value result.1

theorem Outcome.failed {error : ProveError} {post : α → Proving Artifact → Prop}
    (sound : Sound job proving) (fueled : error ≠ .outOfFuel) :
    Outcome job (proving, .error error) post :=
  ⟨sound, fun same => fueled (Except.error.inj same), fun _ impossible => by cases impossible⟩

section

variable {result : Proving Artifact × Except ProveError α} {post : α → Proving Artifact → Prop}
  (outcome : Outcome job result post)

include outcome

theorem Outcome.bind {next : α → Except ProveError β} {post' : β → Proving Artifact → Prop}
    (fueled : ∀ value, post value result.1 → next value ≠ .error .outOfFuel)
    (step : ∀ value other, post value result.1 → next value = .ok other → post' other result.1) :
    Outcome job (result.1, result.2.bind next) post' := by
  obtain ⟨state, computed⟩ := result
  cases computed with
  | error error => exact .failed outcome.sound fun same => outcome.fueled (congrArg Except.error same)
  | ok value =>
    obtain ⟨ready, holds⟩ := outcome.ready value rfl
    exact ⟨outcome.sound, fueled value holds, fun other success => ⟨ready, step value other holds success⟩⟩

theorem Outcome.map {convert : α → β} {post' : β → Proving Artifact → Prop}
    (step : ∀ value, post value result.1 → post' (convert value) result.1) :
    Outcome job (result.1, result.2.map convert) post' :=
  outcome.bind (fun _ _ => by simp) fun value _ holds success => Except.ok.inj success ▸ step value holds

end

/-- The same ranges are to be proven, at the same price. -/
structure Unchanged (proving next : Proving Artifact) : Prop where
  bounds : next.plan.ranges.map PlannedRange.bounds = proving.plan.ranges.map PlannedRange.bounds
  artifacts : next.artifacts = proving.artifacts
  resubmissions : next.resubmissions = proving.resubmissions

theorem Unchanged.potential {next : Proving Artifact} (unchanged : Unchanged proving next) :
    next.potential = proving.potential := by
  have priced : next.price = proving.price := by
    funext key
    rw [price, price, unchanged.artifacts, unchanged.resubmissions]
  have sums (state : Proving Artifact) :
      state.potential = ((state.plan.ranges.map PlannedRange.bounds).map state.price).sum := by
    rw [Proving.potential, List.map_map]
    rfl
  rw [sums, sums, unchanged.bounds, priced]

theorem persistPlan_spec (network : Network Artifact)
    (ready : Ready job proving)
    (status : BackendSessionStatus) :
    Outcome job (proving.persistPlan network status)
      fun _ next => next.plan = proving.plan ∧ Unchanged proving next := by
  unfold persistPlan
  split
  · have recorded : Ready job
        { proving.call with persisted := proving.persisted ++ [(proving.plan, status)] } := by
      refine ⟨⟨ready.derived, ?_, ready.bounded⟩, ready.retried, ready.counted, ready.fresh, ready.proved⟩
      intro entry member
      rcases List.mem_append.mp member with earlier | last
      · exact ready.persisted entry earlier
      · rw [List.mem_singleton.mp last]
        exact ready.derived
    refine ⟨recorded.toSound, ?_, fun _ _ => ⟨recorded, rfl, rfl, rfl, rfl⟩⟩
    cases network.record proving.calls <;> simp [Except.mapError]
  · exact ⟨ready.toSound, by simp, fun _ _ => ⟨ready, rfl, rfl, rfl, rfl⟩⟩

section

variable (ready : Ready job proving)
  (plain : ∀ call sessionId, network.submit call = .ok sessionId → job.codec.fromJson sessionId = none)

include ready plain

theorem submitRange_spec (split : proving.plan.ranges = before ++ range :: after)
    (unsubmitted : range.sessionId = none) :
    Outcome job (proving.submitRange network before range after)
      fun submitted next => next.plan.ranges = before ++ submitted :: after ∧ Unchanged proving next := by
  unfold submitRange
  split
  · exact .failed ready.call.toSound (by simp)
  · split
    · exact .failed (ready.call.refused split unsubmitted) (by simp)
    · next sessionId answered =>
      have persisted := persistPlan_spec network (ready.call.submitted split unsubmitted (plain _ _ answered)) .running
      refine persisted.map ?_
      rintro _ ⟨plan, unchanged⟩
      refine ⟨by rw [plan, withRanges_plan_ranges], ?_, unchanged.artifacts, unchanged.resubmissions⟩
      rw [unchanged.bounds, split]
      simp [PlannedRange.bounds]

theorem submitRanges_spec (split : proving.plan.ranges = before ++ after) :
    Outcome job (proving.submitRanges network before after)
      fun _ next => Unchanged proving next := by
  induction after generalizing proving before with
  | nil => exact ⟨ready.toSound, by simp [submitRanges], fun _ _ => ⟨ready, rfl, rfl, rfl⟩⟩
  | cons range after ih =>
    rw [submitRanges]
    split
    · exact ih ready (by simpa using split)
    · next unsubmitted =>
      have submitted := submitRange_spec ready plain split (by simpa using unsubmitted)
      split
      · next next error failed =>
        rw [failed] at submitted
        exact .failed submitted.sound fun same => submitted.fueled (congrArg Except.error same)
      · next next noted success =>
        rw [success] at submitted
        obtain ⟨going, plan, unchanged⟩ := submitted.ready noted rfl
        have rest := ih going (show next.plan.ranges = (before ++ [noted]) ++ after by simpa using plan)
        refine ⟨rest.sound, rest.fueled, fun value finished => ?_⟩
        obtain ⟨final, further⟩ := rest.ready value finished
        exact ⟨final, further.bounds.trans unchanged.bounds, further.artifacts.trans unchanged.artifacts,
          further.resubmissions.trans unchanged.resubmissions⟩

end

theorem abandon_spec (network : Network Artifact) (ready : Ready job proving)
    {error : ProveError} (fueled : error ≠ .outOfFuel) {post : Unit → Proving Artifact → Prop} :
    Outcome job (proving.abandon network error) post :=
  (persistPlan_spec network ready .failed).bind (fun _ _ same => fueled (Except.error.inj same))
    fun _ _ _ impossible => by cases impossible

theorem persistPlan_lt {next : Proving Artifact} (network : Network Artifact)
    (step : Ready job next ∧ next.potential < proving.potential) :
    Outcome job (next.persistPlan network .running)
      fun _ later => later.potential < proving.potential := by
  have persisted := persistPlan_spec network step.1 .running
  refine ⟨persisted.sound, persisted.fueled, fun value success => ?_⟩
  obtain ⟨going, _, unchanged⟩ := persisted.ready value success
  exact ⟨going, unchanged.potential.trans_lt step.2⟩

section

variable (ready : Ready job proving)
  (split : proving.plan.ranges = before ++ range :: after) (unproven : proving.artifacts range.bounds = none)

include ready split unproven

theorem handleFailure_spec (submitted : range.sessionId ≠ none) (error : WaitError) :
    Outcome job (proving.handleFailure network job.maxSplits before range after error)
      fun _ next => next.potential < proving.potential := by
  have verdict := onFailure_spec range job.maxSplits (proving.resubmissions range.bounds) error
  unfold handleFailure
  generalize range.onFailure job.maxSplits (proving.resubmissions range.bounds) error = answer at verdict ⊢
  cases answer with
  | retry => exact persistPlan_lt network (ready.retry split unproven submitted verdict)
  | split low high => exact persistPlan_lt network (ready.bisected split unproven verdict.1 verdict.2)
  | abandon failure => exact abandon_spec network ready verdict
  | stop => exact .failed ready.toSound (by simp)

theorem waitRange_spec :
    Outcome job (proving.waitRange network job.maxSplits before range after)
      fun _ next => next.potential < proving.potential := by
  unfold waitRange
  split
  · exact .failed ready.toSound (by simp)
  · next sessionId submitted =>
    split
    · next artifact _ =>
      have proven := ready.call.proven split unproven artifact
      exact ⟨proven.1.toSound, by simp, fun _ _ => proven⟩
    · exact .failed ready.call.toSound (by simp)
    · next error _ => exact handleFailure_spec ready.call split unproven (by simp [submitted]) error

end

theorem collect_eq_ok {artifacts : ℕ × ℕ → Option Artifact} {ranges : List PlannedRange} {collected : List Artifact}
    (success : collect artifacts ranges = .ok collected) :
    List.Forall₂ (fun range artifact => artifacts range.bounds = some artifact) ranges collected := by
  induction ranges generalizing artifacts collected with
  | nil =>
    obtain rfl := Except.ok.inj success
    exact .nil
  | cons range rest ih =>
    rw [collect] at success
    split at success
    · cases success
    · next artifact found =>
      cases collectedRest : collect (Function.update artifacts range.bounds none) rest with
      | error _ => simp [collectedRest, Except.map] at success
      | ok others =>
        rw [collectedRest] at success
        obtain rfl := Except.ok.inj success
        refine .cons found ((ih collectedRest).imp fun other taken held => ?_)
        by_cases same : other.bounds = range.bounds
        · simp [same] at held
        · rwa [Function.update_of_ne same] at held

theorem map_ne_outOfFuel {computed : Except ProveError α} {convert : α → β} (fueled : computed ≠ .error .outOfFuel) :
    computed.map convert ≠ .error .outOfFuel := by
  cases computed with
  | ok _ => simp [Except.map]
  | error error => simpa [Except.map] using fueled

theorem collect_ne_outOfFuel (artifacts : ℕ × ℕ → Option Artifact) (ranges : List PlannedRange) :
    collect artifacts ranges ≠ .error .outOfFuel := by
  induction ranges generalizing artifacts with
  | nil => simp [collect]
  | cons range rest ih =>
    rw [collect]
    split
    · simp
    · exact map_ne_outOfFuel (ih _)

def Collected (artifacts : List Artifact) (proving : Proving Artifact) : Prop :=
  List.Forall₂ (fun range artifact => proving.artifacts range.bounds = some artifact) proving.plan.ranges artifacts

theorem round_spec (ready : Ready job proving)
    (plain : ∀ call sessionId, network.submit call = .ok sessionId → job.codec.fromJson sessionId = none) :
    Outcome job (proving.round network job.maxSplits) fun done next =>
      match done with
      | none => next.potential < proving.potential
      | some artifacts => Collected artifacts next := by
  have submitted := submitRanges_spec ready plain (List.nil_append _).symm
  unfold round
  split
  · next next error failed =>
    rw [failed] at submitted
    exact .failed submitted.sound fun same => submitted.fueled (congrArg Except.error same)
  · next next success =>
    rw [success] at submitted
    obtain ⟨going, unchanged⟩ := submitted.ready () rfl
    rw [← unchanged.potential]
    rw [List.span_eq_takeWhile_dropWhile]
    split
    · next before range after cut =>
      obtain ⟨proven, rest⟩ := Prod.mk.inj cut
      have whole : next.plan.ranges = before ++ range :: after := by
        rw [← proven, ← rest, List.takeWhile_append_dropWhile]
      have unproven : next.artifacts range.bounds = none := by
        have first := List.head?_dropWhile_not (fun range => (next.artifacts range.bounds).isSome) next.plan.ranges
        rw [rest] at first
        simpa using first
      exact (waitRange_spec going whole unproven).map fun _ less => less
    · have persisted := persistPlan_spec network going .completed
      generalize next.persistPlan network .completed = result at persisted ⊢
      refine persisted.bind (fun _ _ => map_ne_outOfFuel (collect_ne_outOfFuel _ _)) fun _ done _ finished => ?_
      obtain ⟨artifacts, collected, rfl⟩ := Machine.map_eq_ok.mp finished
      exact collect_eq_ok collected

theorem loop_spec (plain : ∀ call sessionId, network.submit call = .ok sessionId → job.codec.fromJson sessionId = none)
    {fuel : ℕ} (ready : Ready job proving)
    (enough : proving.potential < fuel) :
    Outcome job (loop network job.maxSplits fuel proving) Collected := by
  induction fuel generalizing proving with
  | zero => omega
  | succ fuel ih =>
    have turn := round_spec ready plain
    rw [loop]
    split
    · next next error failed =>
      rw [failed] at turn
      exact .failed turn.sound fun same => turn.fueled (congrArg Except.error same)
    · next next artifacts finished =>
      rw [finished] at turn
      refine ⟨turn.sound, by simp, fun value same => ?_⟩
      obtain rfl := Except.ok.inj same
      exact turn.ready _ rfl
    · next next more =>
      rw [more] at turn
      obtain ⟨going, less⟩ := turn.ready none rfl
      exact ih going (less.trans_le (Nat.lt_succ_iff.mp enough))

end Specs

end Proving

/-- A plan and every plan on the way to it. -/
def Proving.plans {Artifact : Type} (proving : Proving Artifact) : List RangePlan :=
  proving.plan :: proving.persisted.map Prod.fst

theorem ready_start {Artifact : Type} {job : RangeJob}
    (covers : job.starting.covers job.startBlock job.endBlock = true)
    (plain : ∀ range ∈ job.starting.ranges, ∀ sessionId, range.sessionId = some sessionId →
      job.codec.fromJson sessionId = none) : Proving.Ready job (.start job.starting : Proving Artifact) := by
  have derived : Derived job job.starting :=
    ⟨RangePlan.covers_eq_true.mp covers, fun range member =>
      ⟨range, member, 0, Nat.zero_le _, .whole _, rfl⟩, plain⟩
  refine ⟨⟨derived, fun _ missing => (by cases missing), fun _ => Nat.zero_le _⟩, fun _ => Nat.zero_le _, ?_, ?_, ?_⟩
  · intro range _
    simp only [Proving.start, List.count_nil]
    split <;> omega
  · exact fun _ _ _ _ _ _ _ _ => rfl
  · exact fun _ _ missing => by cases missing

theorem potential_start_le {Artifact : Type} (plan : RangePlan) : (Proving.start plan : Proving Artifact).potential ≤
    8 * (plan.ranges.map fun range => range.endBlock - range.startBlock).sum := by
  rw [Proving.potential, ← List.sum_map_mul_left]
  refine List.sum_le_sum fun range _ => (Proving.price_le _ range).trans ?_
  omega

/-- Proving the ranges of a plan ends. Each plan covers the interval and, unless it is empty or a bare id of another
version, is read back from what is stored. No range is submitted more than four times, and success gives one artifact for
each range. -/
theorem proveRanges_spec {Artifact : Type} {codec : PlanCodec} {network : Network Artifact} {plan : RangePlan}
    {maxSplits startBlock endBlock : ℕ} (covers : plan.covers startBlock endBlock = true)
    (plain : ∀ range ∈ plan.ranges, ∀ sessionId, range.sessionId = some sessionId → codec.fromJson sessionId = none)
    (issued : ∀ call sessionId, network.submit call = .ok sessionId → codec.fromJson sessionId = none)
    {final : Proving Artifact} {result : Except ProveError (List Artifact)}
    (proved : proveRanges network maxSplits plan = (final, result)) :
    result ≠ .error .outOfFuel ∧
    (∀ reached ∈ final.plans, reached.covers startBlock endBlock = true ∧
      (∀ range ∈ reached.ranges, ∃ origin ∈ plan.ranges, ∃ depth ≤ maxSplits,
      Bisected depth origin.bounds range.bounds) ∧
      (reached.ranges ≠ [] → (reached.isBareId = true → reached.v = 1) →
        .decode codec (reached.encode codec) startBlock endBlock = reached)) ∧
    (∀ key, final.submissions.count key ≤ 4) ∧
    ∀ artifacts, result = .ok artifacts →
      List.Forall₂ (fun range artifact => ∃ waited, (waited, artifact) ∈ final.proofs ∧ waited.bounds = range.bounds)
        final.plan.ranges artifacts ∧
      final.plan.ranges.Pairwise fun earlier later => earlier.endBlock ≤ later.startBlock := by
  let job : RangeJob := ⟨codec, plan, maxSplits, startBlock, endBlock⟩
  have outcome : Proving.Outcome job (proveRanges network maxSplits plan) Proving.Collected :=
    Proving.loop_spec issued (ready_start covers plain) (Nat.lt_succ_of_le (potential_start_le plan))
  rw [proved] at outcome
  refine ⟨outcome.fueled, ?_, outcome.sound.bounded, ?_⟩
  · intro reached member
    have derived : Derived job reached := by
      rcases List.mem_cons.mp member with rfl | recorded
      · exact outcome.sound.derived
      · obtain ⟨entry, held, rfl⟩ := List.mem_map.mp recorded
        exact outcome.sound.persisted entry held
    refine ⟨RangePlan.covers_eq_true.mpr derived.tiling, ?_, ?_⟩
    · intro range held
      obtain ⟨origin, start, depth, few, bisected, _⟩ := derived.descends range held
      exact ⟨origin, start, depth, few, bisected⟩
    · intro nonempty version
      refine RangePlan.decode_encode nonempty version derived.tiling fun sessionId held => ?_
      obtain ⟨range, isRange, session⟩ := List.mem_filterMap.mp held
      exact derived.plain range isRange sessionId session
  · intro artifacts success
    obtain ⟨ready, collected⟩ := outcome.ready artifacts success
    refine ⟨collected.imp fun range artifact found => ready.proved _ _ found, ?_⟩
    have ordered := ready.derived.tiling.pairwise
    rwa [List.pairwise_map] at ordered

/-! ## Sample runs -/

/-- The fields of a plan, as numbers. -/
def RangePlan.fields (plan : RangePlan) : ℕ × List (ℕ × ℕ × Option (List ℕ) × ℕ) :=
  (plan.v, plan.ranges.map fun range =>
    (range.startBlock, range.endBlock, range.sessionId.map fun sessionId =>
      sessionId.toList.map Char.toNat, range.splits))

def RangePlan.ofFields (fields : ℕ × List (ℕ × ℕ × Option (List ℕ) × ℕ)) : RangePlan :=
  ⟨fields.1, fields.2.map fun range =>
    ⟨range.1, range.2.1, range.2.2.1.map fun codes => String.ofList (codes.map Char.ofNat), range.2.2.2⟩⟩

theorem RangePlan.ofFields_fields (plan : RangePlan) : .ofFields plan.fields = plan := by
  obtain ⟨v, ranges⟩ := plan
  simp [ofFields, fields, Function.comp_def]

def sampleToJson (plan : RangePlan) : String := String.ofList (List.replicate (Encodable.encode plan.fields) 'x')

def sampleFromJson (document : String) : Option RangePlan :=
  if document = String.ofList (List.replicate document.length 'x') then
    (Encodable.decode document.length).map RangePlan.ofFields
  else none

theorem sampleFromJson_toJson (plan : RangePlan) : sampleFromJson (sampleToJson plan) = some plan := by
  simp only [sampleFromJson, sampleToJson, String.length_ofList, List.length_replicate, if_true, Encodable.encodek,
    Option.map_some, RangePlan.ofFields_fields]

def sampleCodec : PlanCodec := ⟨sampleToJson, sampleFromJson, sampleFromJson_toJson⟩

def sampleNetwork (unexecutable : ℕ) : Network ℕ where
  supportsPersistentSessions := true
  buildRangeRequest _ := .ok ()
  submit _ := .ok "session"
  wait call := if call = unexecutable then .error (.prover (.requestUnexecutable "session")) else .ok (.ok call)
  record _ := .ok ()

theorem sampleNetwork_plain {unexecutable : ℕ} (call : ℕ) (sessionId : String)
    (answered : (sampleNetwork unexecutable).submit call = .ok sessionId) : sampleCodec.fromJson sessionId = none := by
  obtain rfl := Except.ok.inj answered
  decide

theorem unexecutable_range_is_halved :
    ∃ final, proveRanges (sampleNetwork 3) 2 ⟨2, [.new 10 14]⟩ = (final, .ok [11, 12]) ∧
    final.plan.ranges.map PlannedRange.bounds = [(10, 12), (12, 14)] ∧ (∀ key, final.submissions.count key ≤ 4) ∧
    .decode sampleCodec (final.plan.encode sampleCodec) 10 14 = final.plan := by
  have result : (proveRanges (sampleNetwork 3) 2 ⟨2, [.new 10 14]⟩).2 = .ok [11, 12] := by rfl
  have bounds : (proveRanges (sampleNetwork 3) 2 ⟨2, [.new 10 14]⟩).1.plan.ranges.map PlannedRange.bounds =
      [(10, 12), (12, 14)] := by decide +kernel
  have bare : (proveRanges (sampleNetwork 3) 2 ⟨2, [.new 10 14]⟩).1.plan.isBareId = false := by decide +kernel
  have proved : proveRanges (sampleNetwork 3) 2 ⟨2, [.new 10 14]⟩ =
      ((proveRanges (sampleNetwork 3) 2 ⟨2, [.new 10 14]⟩).1, .ok [11, 12]) := Prod.ext rfl result
  have covers : RangePlan.covers ⟨2, [.new 10 14]⟩ 10 14 = true := by decide
  obtain ⟨_, plans, submissions, _⟩ := proveRanges_spec covers (by simp [PlannedRange.new]) sampleNetwork_plain proved
  refine ⟨_, proved, bounds, submissions, (plans _ List.mem_cons_self).2.2 (fun empty => ?_) fun is => ?_⟩
  · rw [empty] at bounds
    cases bounds
  · rw [bare] at is
    cases is

theorem other_plans_are_not_read_back :
    (RangePlan.covers ⟨2, [.new 10 14]⟩ 10 14 = true ∧
      ∃ entry ∈ (proveRanges (sampleNetwork 0) 2 ⟨2, [.new 10 14]⟩).1.persisted,
        .decode sampleCodec (entry.1.encode sampleCodec) 10 14 ≠ entry.1) ∧
    RangePlan.covers ⟨1, []⟩ 10 10 = true ∧ ∃ entry ∈ (proveRanges (sampleNetwork 0) 2 ⟨1, []⟩).1.persisted,
      .decode sampleCodec (entry.1.encode sampleCodec) 10 10 ≠ entry.1 := by
  constructor
  · refine ⟨by decide, (⟨2, [⟨10, 14, some "session", 0⟩]⟩, .running), by decide +kernel, ?_⟩
    decide +kernel
  · refine ⟨by decide, (⟨1, []⟩, .completed), by decide +kernel, ?_⟩
    rw [RangePlan.decode, RangePlan.encode, sampleCodec.lossless]
    simp [RangePlan.single]

end WorldChain.Sp1
