import WorldChain.Defender.Defense
import WorldChain.Machine.Run

/-! # The lanes of a defense and its record

The loop over the lanes keeps the record of a defense sound: every call stands in it for a lane that was not accepted,
and a request only if the lanes that count as proven, together with the open ones before it, are fewer than the
observed state requires.
-/

namespace WorldChain.Defender

open Dispute (Bitmap ProofLane)
open Machine

variable {ProofId : Type} [DecidableEq ProofId]

/-! ## One lane -/

structure LaneStep (game : GameMetadata) (slot : Fin 2) (state next : LaneState ProofId)
    (actions : List (Action ProofId)) : Prop where
  single : actions.length ≤ 1
  calls : ∀ action ∈ actions, action.Calls game slot
  proven : next = .proven ↔ actions.any (·.proves (lane slot)) = true
  abandoned : next = .abandoned ↔ state = .abandoned ∨ actions.any (·.refuses (lane slot)) = true

section

omit [DecidableEq ProofId]

variable (answers : Answers ProofId) (game : GameMetadata) (slot : Fin 2) {state : LaneState ProofId}

theorem LaneStep.rest (unproven : state ≠ .proven) : LaneStep game slot state state [] where
  single := Nat.zero_le _
  calls := fun _ member => absurd member List.not_mem_nil
  proven := ⟨fun is => absurd is unproven, fun is => by cases is⟩
  abandoned := ⟨.inl, fun is => is.resolve_right (by simp)⟩

theorem LaneStep.call {next : LaneState ProofId} {action : Action ProofId} (kept : state ≠ .abandoned)
    (calls : action.Calls game slot) (proven : next = .proven ↔ action.proves (lane slot) = true)
    (abandoned : next = .abandoned ↔ action.refuses (lane slot) = true) : LaneStep game slot state next [action] where
  single := le_rfl
  calls := fun _ member => List.mem_singleton.mp member ▸ calls
  proven := by simpa using proven
  abandoned := by simpa [kept] using abandoned

theorem laneStep_requestLane (unproven : state ≠ .proven) (kept : state ≠ .abandoned) :
    LaneStep game slot state (requestLane answers game (lane slot) (backend slot) state).1
      (requestLane answers game (lane slot) (backend slot) state).2 := by
  unfold requestLane
  cases answers.requestProof game.address (lane slot) with
  | ok id => exact .call game slot kept (.requested _) (by simp [Action.proves]) (by simp [Action.refuses])
  | error failure =>
    cases failure with
    | transport message =>
      exact .call game slot kept (.requested _) (by simp [Action.proves, unproven]) (by simp [Action.refuses, kept])
    | service error =>
      cases error with
      | tooManyRetries id maxRetries =>
        exact .call game slot kept (.requested _) (by simp [Action.proves]) (by simp [Action.refuses])
      | _ =>
        exact .call game slot kept (.requested _) (by simp [Action.proves, unproven]) (by simp [Action.refuses, kept])

theorem laneStep_submitSucceededLane (unproven : state ≠ .proven) (kept : state ≠ .abandoned) :
    LaneStep game slot state (submitSucceededLane answers game (lane slot) state).1
      (submitSucceededLane answers game (lane slot) state).2 := by
  unfold submitSucceededLane
  split
  · cases answers.submitProof game.address (lane slot) with
    | ok submission => exact .call game slot kept (.submitted _ _) (by simp [Action.proves]) (by simp [Action.refuses])
    | error error =>
      cases error with
      | laneAlreadyProven other already =>
        exact .call game slot kept (.submitted _ _) (by simp [Action.proves]) (by simp [Action.refuses])
      | _ =>
        exact .call game slot kept (.submitted _ _) (by simp [Action.proves, unproven]) (by simp [Action.refuses, kept])
  · exact .rest game slot unproven

theorem laneStep_advanceLane (unproven : state ≠ .proven) :
    LaneStep game slot state (advanceLane answers game (lane slot) (backend slot) state).1
      (advanceLane answers game (lane slot) (backend slot) state).2 := by
  cases state with
  | proven => exact absurd rfl unproven
  | abandoned => exact .rest game slot unproven
  | pending => exact laneStep_requestLane answers game slot unproven (by simp)
  | requested id =>
    simp only [advanceLane, advanceRequestedLane]
    split
    · exact .rest game slot unproven
    · exact .rest game slot unproven
    · exact .rest game slot unproven
    · exact laneStep_submitSucceededLane answers game slot unproven (by simp)
    · exact laneStep_requestLane answers game slot unproven (by simp)
    · exact laneStep_requestLane answers game slot unproven (by simp)

end

/-! ## The lanes that are counted -/

theorem countP_all (counts : ProofLane → Bool) : ProofLane.all.countP counts =
    (counts .teeAttestation).toNat + (counts .validityProof).toNat + (counts .securityCouncil).toNat := by
  simp only [ProofLane.all, List.countP_cons, List.countP_nil]
  cases counts .teeAttestation <;> cases counts .validityProof <;> cases counts .securityCouncil <;> rfl

theorem countP_slots (counts : Fin 2 → Bool) : slots.countP counts = (counts 0).toNat + (counts 1).toNat := by
  simp only [slots, List.countP_cons, List.countP_nil]
  cases counts 0 <;> cases counts 1 <;> rfl

theorem lane_zero : lane 0 = .teeAttestation := rfl

theorem lane_one : lane 1 = .validityProof := rfl

theorem has_effectiveProofBitmap (proofBitmap : Bitmap) (lanes : Fin 2 → LaneState ProofId) (other : ProofLane) :
    (effectiveProofBitmap proofBitmap lanes).has other =
      (proofBitmap.has other || slots.any fun slot => lanes slot = .proven ∧ lane slot = other) := by
  simp only [effectiveProofBitmap, slots, List.foldl_cons, List.foldl_nil, List.any_cons, List.any_nil, Bool.or_false]
  by_cases first : lanes 0 = .proven <;> by_cases second : lanes 1 = .proven <;>
    simp [first, second, eq_comm, Bool.or_assoc]

variable {slot : Fin 2}

theorem has_effectiveProofBitmap_of_proven {proofBitmap : Bitmap} {lanes : Fin 2 → LaneState ProofId}
    (proven : lanes slot = .proven) : (effectiveProofBitmap proofBitmap lanes).has (lane slot) = true := by
  have member : slot ∈ slots := by fin_cases slot <;> simp [slots]
  rw [has_effectiveProofBitmap, Bool.or_eq_true]
  exact .inr (List.any_eq_true.mpr ⟨slot, member, by simp [proven]⟩)

theorem count_effectiveProofBitmap_update (proofBitmap : Bitmap) (lanes : Fin 2 → LaneState ProofId) (slot : Fin 2)
    (state : LaneState ProofId) : (effectiveProofBitmap proofBitmap (Function.update lanes slot state)).count ≤
      (effectiveProofBitmap proofBitmap lanes).count +
        (decide (state = .proven) && !proofBitmap.has (lane slot)).toNat := by
  have bound : ∀ (accepted : Bool) (before : LaneState ProofId), (accepted || decide (state = .proven)).toNat ≤
      (accepted || decide (before = .proven)).toNat + (decide (state = .proven) && !accepted).toNat := by
    intro accepted before
    by_cases proven : state = .proven <;> cases accepted <;> simp [proven]
  simp only [Bitmap.count, countP_all, has_effectiveProofBitmap, slots, List.any_cons, List.any_nil, Bool.or_false,
    lane_zero, lane_one]
  fin_cases slot
  · have this := bound (proofBitmap.has .teeAttestation) (lanes 0)
    simp [lane_zero]
    omega
  · have this := bound (proofBitmap.has .validityProof) (lanes 1)
    simp [lane_one]
    omega

omit [DecidableEq ProofId] in
theorem lane_injective {other : Fin 2} (same : lane slot = lane other) : slot = other := by
  revert slot other
  decide

def pendingBefore (bound : ℕ) (lanes : Fin 2 → LaneState ProofId) : ℕ :=
  slots.countP fun slot => slot.val < bound ∧ lanes slot ≠ .proven ∧ lanes slot ≠ .abandoned

theorem pendingBefore_update (lanes : Fin 2 → LaneState ProofId) (slot : Fin 2) (state : LaneState ProofId) :
    pendingBefore (slot.val + 1) (Function.update lanes slot state) =
      pendingBefore slot.val lanes + if state ≠ .proven ∧ state ≠ .abandoned then 1 else 0 := by
  simp only [pendingBefore, countP_slots]
  fin_cases slot <;> by_cases ends : state ≠ .proven ∧ state ≠ .abandoned <;> simp [ends]

namespace Agrees

variable {record actions : List (Action ProofId)} {slot : Fin 2} {state : LaneState ProofId}

omit [DecidableEq ProofId] in
theorem append (agrees : Agrees record slot state)
    (silent : ∀ action ∈ actions, action.shows (lane slot) = false ∧ action.proves (lane slot) = false ∧
      action.refuses (lane slot) = false) : Agrees (actions ++ record) slot state := by
  have shows : actions.any (fun entry => entry.shows (lane slot) || entry.proves (lane slot)) = false :=
    List.any_eq_false.mpr fun action member => by simp [(silent action member).1, (silent action member).2.1]
  have refuses : actions.any (·.refuses (lane slot)) = false :=
    List.any_eq_false.mpr fun action member => by simp [(silent action member).2.2]
  constructor
  · rw [List.any_append, shows, Bool.false_or]
    exact agrees.proven
  · rw [List.any_append, refuses, Bool.false_or]
    exact agrees.abandoned
  · rw [List.any_append, refuses, Bool.false_or]
    exact agrees.refused

omit [DecidableEq ProofId] in
theorem of_shown (shown : record.any (·.shows (lane slot)) = true) : Agrees record slot .proven where
  proven := by
    refine iff_of_true rfl ?_
    obtain ⟨entry, member, shows⟩ := List.any_eq_true.mp shown
    exact List.any_eq_true.mpr ⟨entry, member, by simp [shows]⟩
  abandoned := fun is => by cases is
  refused := fun _ => .inr rfl

end Agrees

omit [DecidableEq ProofId] in
theorem Action.Calls.silent {game : GameMetadata} {other : Fin 2} {action : Action ProofId}
    (calls : action.Calls game slot) (different : other ≠ slot) :
    action.shows (lane other) = false ∧ action.proves (lane other) = false ∧ action.refuses (lane other) = false := by
  have apart : lane slot ≠ lane other := fun same => different (lane_injective same).symm
  cases calls with
  | requested answer =>
    refine ⟨rfl, rfl, ?_⟩
    unfold Action.refuses
    split
    · next is => cases is; simpa using apart
    · rfl
  | submitted proof answer =>
    refine ⟨rfl, ?_, rfl⟩
    unfold Action.proves
    split
    · next is => cases is; simpa using apart
    · next is => cases is; simpa using apart
    · rfl

namespace LaneStep

omit [DecidableEq ProofId]

variable {game : GameMetadata} {slot : Fin 2} {state next : LaneState ProofId} {actions record : List (Action ProofId)}

section

variable (step : LaneStep game slot state next actions)

include step

theorem shows (other : ProofLane) : actions.any (·.shows other) = false :=
  List.any_eq_false.mpr fun action member => by
    cases step.calls action member <;> simp [Action.shows]

theorem latest : latest (actions ++ record) = latest record := by
  have none : actions.findSome? Action.observation = none :=
    List.findSome?_eq_none_iff.mpr fun action member => by cases step.calls action member <;> rfl
  rw [Defender.latest, List.findSome?_append, none, Option.none_or, Defender.latest]

theorem sound (justified : ∀ action ∈ actions, Justified record action) (before : Sound record) :
    Sound (actions ++ record) := by
  cases actions with
  | nil => exact before
  | cons action rest =>
    have alone : rest = [] := List.length_eq_zero_iff.mp (Nat.le_zero.mp (Nat.le_of_succ_le_succ step.single))
    subst alone
    exact ⟨justified action (List.mem_singleton_self action), before⟩

theorem agrees (unproven : state ≠ .proven) (before : Agrees record slot state) :
    Agrees (actions ++ record) slot next := by
  have none : record.any (fun entry => entry.shows (lane slot) || entry.proves (lane slot)) = false :=
    Bool.eq_false_iff.mpr fun shown => unproven (before.proven.mpr shown)
  constructor
  · have same : actions.any (fun entry => entry.shows (lane slot) || entry.proves (lane slot)) =
        actions.any (·.proves (lane slot)) := by
      rw [Bool.eq_iff_iff, List.any_eq_true, List.any_eq_true]
      refine exists_congr fun entry => and_congr_right fun member => ?_
      simp [List.any_eq_false.mp (step.shows (lane slot)) entry member]
    rw [List.any_append, none, Bool.or_false, same]
    exact step.proven
  · intro abandoned
    rw [List.any_append, Bool.or_eq_true]
    rcases step.abandoned.mp abandoned with already | refused
    · exact .inr (before.abandoned already)
    · exact .inl refused
  · intro refused
    rw [List.any_append, Bool.or_eq_true] at refused
    rcases refused with now | earlier
    · exact .inl (step.abandoned.mpr (.inr now))
    · exact .inl (step.abandoned.mpr (.inl ((before.refused earlier).resolve_right unproven)))

end

end LaneStep

/-! ## The loop over the lanes -/

omit [DecidableEq ProofId] in
theorem Sound.split {newer older : List (Action ProofId)} {action : Action ProofId}
    (sound : Sound (newer ++ action :: older)) :
    Justified older action := by
  induction newer with
  | nil => exact sound.1
  | cons _ newer inductive_hypothesis => exact inductive_hypothesis sound.2

omit [DecidableEq ProofId] in
theorem Sound.not_proves {record : List (Action ProofId)} (sound : Sound record) :
    record.any (·.proves .securityCouncil) = false := by
  refine List.any_eq_false.mpr fun action member proves => ?_
  obtain ⟨newer, older, rfl⟩ := List.append_of_mem member
  have justified := sound.split
  unfold Action.proves at proves
  split at proves
  all_goals first
    | cases proves
    | obtain ⟨observed, slot, -, rfl⟩ := justified
      fin_cases slot <;> cases proves

/-- The states of the visited lanes agree with the record, those of the others with the record before the tick; what is
needed is what the proven and the open ones leave. -/
structure Visiting (base : List (Action ProofId)) (observed : Observed) (visited : ℕ)
    (scan : LaneScan ProofId) : Prop where
  latest : latest (scan.actions ++ base) = some observed
  shows : ∀ lane, scan.actions.any (·.shows lane) = observed.proofBitmap.has lane
  seen : ∀ seen, .observed seen ∈ scan.actions → seen = observed
  sound : Sound (scan.actions ++ base)
  agrees : ∀ slot : Fin 2, slot.val < visited → Agrees (scan.actions ++ base) slot (scan.lanes slot)
  waits : ∀ slot : Fin 2, visited ≤ slot.val → Agrees base slot (scan.lanes slot) ∧
    ∀ action ∈ scan.actions, action.proves (lane slot) = false ∧ action.refuses (lane slot) = false
  needed : visited < 2 → 0 < scan.lanesNeeded →
    (effectiveProofBitmap observed.proofBitmap scan.lanes).count + scan.lanesNeeded + pendingBefore visited scan.lanes ≤
      observed.requiredSupport

namespace Visiting

variable {base : List (Action ProofId)} {observed : Observed} {visited : ℕ} {scan : LaneScan ProofId} {slot : Fin 2}

theorem start {lanes : Fin 2 → LaneState ProofId} (sound : Sound base)
    (agrees : ∀ slot, Agrees base slot (lanes slot)) :
    Visiting base observed 0 (LaneScan.start observed lanes) where
  latest := rfl
  shows := fun lane => by simp [LaneScan.start, Action.shows]
  seen := fun seen member => by simpa [LaneScan.start] using member
  sound := ⟨trivial, sound⟩
  agrees := fun _ below => absurd below (Nat.not_lt_zero _)
  waits := fun slot _ => ⟨agrees slot, fun action member => by
    obtain rfl := List.mem_singleton.mp member
    exact ⟨rfl, rfl⟩⟩
  needed := fun _ positive => by
    have none : pendingBefore 0 lanes = 0 := by simp [pendingBefore]
    simp only [LaneScan.start] at positive ⊢
    omega

theorem agrees_of_missing (visiting : Visiting base observed slot.val scan)
    (missing : observed.proofBitmap.has (lane slot) = false) :
    Agrees (scan.actions ++ base) slot (scan.lanes slot) := by
  obtain ⟨agrees, untouched⟩ := visiting.waits slot le_rfl
  refine agrees.append fun action member => ⟨?_, untouched action member⟩
  have none := visiting.shows (lane slot)
  rw [missing] at none
  simpa using List.any_eq_false.mp none action member

theorem has_of_isProven (visiting : Visiting base observed visited scan) (other : Fin 2)
    (proven : isProven (scan.actions ++ base) observed (lane other) = true) :
    (effectiveProofBitmap observed.proofBitmap scan.lanes).has (lane other) = true := by
  rcases Bool.or_eq_true _ _ ▸ proven with accepted | submitted
  · rw [has_effectiveProofBitmap, accepted, Bool.true_or]
  · have state : scan.lanes other = .proven := by
      rcases lt_or_ge other.val visited with before | after
      · refine (visiting.agrees other before).proven.mpr ?_
        obtain ⟨entry, member, proves⟩ := List.any_eq_true.mp submitted
        exact List.any_eq_true.mpr ⟨entry, member, by simp [proves]⟩
      · obtain ⟨agrees, untouched⟩ := visiting.waits other after
        refine agrees.proven.mpr ?_
        obtain ⟨entry, member, proves⟩ := List.any_eq_true.mp submitted
        rcases List.mem_append.mp member with recent | earlier
        · rw [(untouched entry recent).1] at proves
          cases proves
        · exact List.any_eq_true.mpr ⟨entry, earlier, by simp [proves]⟩
    exact has_effectiveProofBitmap_of_proven state

theorem counted_le (visiting : Visiting base observed slot.val scan) (other : Fin 2) :
    (isProven (scan.actions ++ base) observed (lane other)).toNat +
        (decide (other < slot ∧ isProven (scan.actions ++ base) observed (lane other) = false ∧
          (scan.actions ++ base).any (·.refuses (lane other)) = false)).toNat ≤
      ((effectiveProofBitmap observed.proofBitmap scan.lanes).has (lane other)).toNat +
        (decide (other.val < slot.val ∧ scan.lanes other ≠ .proven ∧ scan.lanes other ≠ .abandoned)).toNat := by
  cases proven : isProven (scan.actions ++ base) observed (lane other) with
  | true => simp [visiting.has_of_isProven other proven]
  | false =>
    by_cases counted : other < slot ∧ (scan.actions ++ base).any (·.refuses (lane other)) = false
    · have kept : scan.lanes other ≠ .abandoned := fun is => by
        rw [(visiting.agrees other counted.1).abandoned is] at counted
        exact absurd counted.2 (by simp)
      by_cases state : scan.lanes other = .proven
      · rw [has_effectiveProofBitmap_of_proven state]
        exact (Nat.zero_add _).le.trans ((Bool.toNat_le _).trans (Nat.le_add_right _ _))
      · rw [decide_eq_true (p := other.val < slot.val ∧ _ ∧ _) ⟨counted.1, state, kept⟩]
        exact (Nat.zero_add _).le.trans ((Bool.toNat_le _).trans (Nat.le_add_left _ _))
    · rw [decide_eq_false fun all => counted ⟨all.1, all.2.2⟩]
      exact Nat.zero_le _

theorem council (visiting : Visiting base observed visited scan) :
    isProven (scan.actions ++ base) observed .securityCouncil =
      (effectiveProofBitmap observed.proofBitmap scan.lanes).has .securityCouncil := by
  have notOurs : ∀ slot, lane slot ≠ .securityCouncil := by decide
  simp [isProven, visiting.sound.not_proves, has_effectiveProofBitmap, notOurs]

theorem provenCount_add_openBefore_le (visiting : Visiting base observed slot.val scan) :
    provenCount (scan.actions ++ base) observed + openBefore (scan.actions ++ base) observed slot ≤
      (effectiveProofBitmap observed.proofBitmap scan.lanes).count + pendingBefore slot.val scan.lanes := by
  have tee := visiting.counted_le 0
  have validity := visiting.counted_le 1
  simp only [lane_zero, lane_one] at tee validity
  simp only [provenCount, Bitmap.count, countP_all, visiting.council, openBefore, pendingBefore, countP_slots,
    lane_zero, lane_one]
  omega

theorem visit_shown (visiting : Visiting base observed slot.val scan)
    (shown : observed.proofBitmap.has (lane slot) = true) :
    Visiting base observed (slot.val + 1) { scan with lanes := Function.update scan.lanes slot .proven } where
  latest := visiting.latest
  shows := visiting.shows
  seen := visiting.seen
  sound := visiting.sound
  agrees := fun other before => by
    rcases eq_or_ne other slot with rfl | different
    · have seen : (scan.actions ++ base).any (·.shows (lane other)) = true := by
        rw [List.any_append, visiting.shows, shown, Bool.true_or]
      simpa using Agrees.of_shown seen
    · have below : other.val < slot.val := by
        have := Fin.val_ne_of_ne different
        omega
      simpa [different] using visiting.agrees other below
  waits := fun other after => by
    have different : other ≠ slot := fun is => by rw [is] at after; omega
    simpa [different] using visiting.waits other (by omega)
  needed := fun last positive => by
    have bound := visiting.needed (by omega) positive
    have count := count_effectiveProofBitmap_update observed.proofBitmap scan.lanes slot .proven
    have pending := pendingBefore_update scan.lanes slot .proven
    simp only [shown, Bool.not_true, Bool.and_false, Bool.toNat_false] at count
    simp only [ne_eq, not_true_eq_false, false_and, if_false] at pending
    simp only at positive ⊢
    omega

section

variable (visiting : Visiting base observed slot.val scan) (missing : observed.proofBitmap.has (lane slot) = false)

include visiting missing

theorem visit_skip (skipped : lane slot ≠ .teeAttestation ∨ scan.lanes slot = .proven ∨ scan.lanesNeeded = 0) :
    Visiting base observed (slot.val + 1) scan where
  latest := visiting.latest
  shows := visiting.shows
  seen := visiting.seen
  sound := visiting.sound
  agrees := fun other before => by
    rcases eq_or_ne other slot with rfl | different
    · exact visiting.agrees_of_missing missing
    · exact visiting.agrees other (by have := Fin.val_ne_of_ne different; omega)
  waits := fun other after => visiting.waits other (by omega)
  needed := fun last positive => by
    have bound := visiting.needed (by omega) positive
    rcases skipped with second | proven | none
    · have is : slot ≠ 0 := fun is => second (is ▸ lane_zero)
      have := Fin.val_ne_of_ne is
      simp only [Fin.val_zero] at this
      omega
    · have pending := pendingBefore_update scan.lanes slot .proven
      rw [← proven, Function.update_eq_self, proven] at pending
      simp only [ne_eq, not_true_eq_false, false_and, if_false] at pending
      omega
    · omega

theorem justified (allowed : observed.challenged = false → lane slot = .teeAttestation)
    (positive : 0 < scan.lanesNeeded) {action : Action ProofId} (calls : action.Calls observed.game slot) :
    Justified (scan.actions ++ base) action := by
  have called : Called (scan.actions ++ base) observed (lane slot) := ⟨visiting.latest, missing, allowed⟩
  cases calls with
  | submitted proof answer => exact ⟨observed, slot, called, rfl⟩
  | requested answer =>
    have counted := visiting.provenCount_add_openBefore_le
    have bound := visiting.needed slot.isLt positive
    exact ⟨observed, slot, called, rfl, rfl, by omega⟩

theorem visit_advance {state : LaneState ProofId} {actions : List (Action ProofId)}
    (allowed : observed.challenged = false → lane slot = .teeAttestation) (unproven : scan.lanes slot ≠ .proven)
    (positive : 0 < scan.lanesNeeded) (step : LaneStep observed.game slot (scan.lanes slot) state actions) :
    Visiting base observed (slot.val + 1)
      { lanes := Function.update scan.lanes slot state
        lanesNeeded := if state = .abandoned then scan.lanesNeeded else scan.lanesNeeded - 1
        actions := actions ++ scan.actions } := by
  have before := visiting.agrees_of_missing missing
  constructor
  · rw [List.append_assoc, step.latest]
    exact visiting.latest
  · intro other
    rw [List.any_append, step.shows, Bool.false_or]
    exact visiting.shows other
  · intro seen member
    rcases List.mem_append.mp member with now | earlier
    · cases step.calls _ now
    · exact visiting.seen seen earlier
  · rw [List.append_assoc]
    exact step.sound (fun action member => visiting.justified missing allowed positive (step.calls action member))
      visiting.sound
  · intro other below
    simp only [List.append_assoc]
    rcases eq_or_ne other slot with rfl | different
    · simpa using step.agrees unproven before
    · have earlier : other.val < slot.val := by
        have := Fin.val_ne_of_ne different
        omega
      simpa [different] using (visiting.agrees other earlier).append fun action member =>
        (step.calls action member).silent different
  · intro other after
    have different : other ≠ slot := fun is => by
      rw [is] at after
      omega
    obtain ⟨agrees, untouched⟩ := visiting.waits other (by omega)
    refine ⟨by simpa [different] using agrees, fun action member => ?_⟩
    rcases List.mem_append.mp member with now | earlier
    · exact ((step.calls action now).silent different).2
    · exact untouched action earlier
  · intro last stillNeeded
    have bound := visiting.needed slot.isLt positive
    have count := count_effectiveProofBitmap_update observed.proofBitmap scan.lanes slot state
    have pending := pendingBefore_update scan.lanes slot state
    simp only at stillNeeded ⊢
    cases state <;> simp [missing] at count pending stillNeeded ⊢ <;> omega

end

theorem visit (answers : Answers ProofId) (slot : Fin 2) (visiting : Visiting base observed slot.val scan) :
    Visiting base observed (slot.val + 1) (scan.visit answers observed slot) := by
  rw [LaneScan.visit]
  split
  · next shown => exact visiting.visit_shown shown
  · next unshown =>
    have missing : observed.proofBitmap.has (lane slot) = false := by simpa using unshown
    split
    · next proposed => exact visiting.visit_skip missing (.inl proposed.2)
    · next allowed =>
      split
      · next idle => exact visiting.visit_skip missing (.inr idle)
      · next needed =>
        obtain ⟨unproven, positive⟩ := not_or.mp needed
        refine visiting.visit_advance missing (fun proposed => ?_) unproven (Nat.pos_of_ne_zero positive)
          (laneStep_advanceLane answers observed.game slot unproven)
        by_contra other
        exact allowed ⟨by simp [proposed], other⟩

theorem run {lanes : Fin 2 → LaneState ProofId} (answers : Answers ProofId) (sound : Sound base)
    (agrees : ∀ slot, Agrees base slot (lanes slot)) : Visiting base observed 2 (LaneScan.run answers observed lanes) :=
  visit answers 1 (visit answers 0 (start sound agrees))

theorem provenCount_le (visiting : Visiting base observed visited scan) :
    provenCount (scan.actions ++ base) observed ≤ (effectiveProofBitmap observed.proofBitmap scan.lanes).count := by
  refine List.countP_mono_left fun other _ proven => ?_
  cases other with
  | teeAttestation => exact visiting.has_of_isProven 0 proven
  | validityProof => exact visiting.has_of_isProven 1 proven
  | securityCouncil => rw [← visiting.council, proven]

end Visiting

/-! ## One tick of a defense -/

structure Advanced (base : List (Action ProofId)) (game : GameMetadata) (lanes : Fin 2 → LaneState ProofId)
    (sufficientSupportSubmitted : Bool) (actions : List (Action ProofId)) : Prop where
  sound : Sound (actions ++ base)
  agrees : ∀ slot, Agrees (actions ++ base) slot (lanes slot)
  games : ∀ seen, .observed seen ∈ actions → seen.game = game
  latest : ∃ observed, latest (actions ++ base) = some observed ∧ observed.game = game ∧
    (sufficientSupportSubmitted = false → provenCount (actions ++ base) observed < observed.requiredSupport)

omit [DecidableEq ProofId] in
theorem Advanced.sound_abandoned {base actions : List (Action ProofId)} {game : GameMetadata}
    {lanes : Fin 2 → LaneState ProofId} (advanced : Advanced base game lanes false actions)
    (terminal : ∀ slot, (lanes slot).isTerminal = true) :
    Sound (.abandoned game.proofDeadline :: (actions ++ base)) := by
  obtain ⟨observed, latest, rfl, fewer⟩ := advanced.latest
  refine ⟨⟨observed, latest, rfl, fun slot => ?_, fewer rfl⟩, advanced.sound⟩
  have ends := terminal slot
  cases state : lanes slot with
  | pending => rw [state] at ends; cases ends
  | requested id => rw [state] at ends; cases ends
  | proven => exact .inl ((advanced.agrees slot).proven.mp state)
  | abandoned => exact .inr ((advanced.agrees slot).abandoned state)

/-- A defense ends without a call, or its lanes are advanced. -/
inductive Progresses (base : List (Action ProofId)) (game : GameMetadata) :
    DefenseProgress ProofId → List (Action ProofId) → Prop
  | closed : Progresses base game .closed []
  | complete : Progresses base game .complete []
  | deadlineElapsed : Progresses base game .deadlineElapsed []
  | lanes {lanes : Fin 2 → LaneState ProofId} {sufficientSupportSubmitted : Bool} {actions : List (Action ProofId)}
      (advanced : Advanced base game lanes sufficientSupportSubmitted actions) :
      Progresses base game (.lanes lanes sufficientSupportSubmitted) actions

section

variable {base : List (Action ProofId)} (answers : Answers ProofId) (now : ℕ)

theorem progresses_advanceLanes (observed : Observed) (deadline : ℕ) {lanes : Fin 2 → LaneState ProofId}
    (sound : Sound base)
    (agrees : ∀ slot, Agrees base slot (lanes slot)) :
    Progresses base observed.game (advanceLanes answers observed deadline now lanes).1
      (advanceLanes answers observed deadline now lanes).2 := by
  have visiting : Visiting base observed 2 (LaneScan.run answers observed lanes) := Visiting.run answers sound agrees
  unfold advanceLanes
  split
  · exact .deadlineElapsed
  · refine .lanes ⟨visiting.sound, fun slot => visiting.agrees slot slot.isLt, ?_, observed, visiting.latest, rfl, ?_⟩
    · intro seen member
      rw [visiting.seen seen member]
    · intro insufficient
      exact visiting.provenCount_le.trans_lt (not_le.mp (of_decide_eq_false insufficient))

theorem progresses_advanceDefense {defense : ActiveDefense ProofId} {progress : DefenseProgress ProofId}
    {actions : List (Action ProofId)} (sound : Sound base) (agrees : ∀ slot, Agrees base slot (defense.lanes slot))
    (advanced : advanceDefense answers defense now = .ok (progress, actions)) :
    Progresses base defense.game progress actions := by
  have of_lanes : ∀ (observed : Observed) (deadline : ℕ),
      advanceLanes answers observed deadline now defense.lanes = (progress, actions) →
        Progresses base observed.game progress actions := by
    intro observed deadline is
    have progresses := progresses_advanceLanes answers now observed deadline sound agrees
    rwa [is] at progresses
  obtain ⟨observation, -, advanced⟩ := bind_eq_ok.mp advanced
  cases observation with
  | finalized => cases advanced; exact .complete
  | unset => cases advanced; exact .closed
  | invalidated reason =>
    simp only at advanced
    split at advanced <;> cases advanced
    · exact .deadlineElapsed
    · exact .closed
  | proposed proofBitmap hasInitialSupport =>
    simp only at advanced
    split at advanced
    · cases advanced; exact .complete
    · exact of_lanes ⟨defense.game, proofBitmap, false⟩ defense.game.challengeDeadline (pure_eq_ok.mp advanced)
  | challenged proofBitmap hasRequiredSupport =>
    simp only at advanced
    split at advanced
    · cases advanced; exact .complete
    · exact of_lanes ⟨defense.game, proofBitmap, true⟩ defense.game.proofDeadline (pure_eq_ok.mp advanced)

end

end WorldChain.Defender
