import WorldChain.P2P.Events

/-! # From the protocol layer to the event layer

`publish` sends the flashblocks of a payload in the order of their indices, and `BufferedFlashblocks` reads what is
sent.
-/

namespace WorldChain.P2P

open Reorder

variable {Body : Type*}

namespace Numbered

variable {payloadId : PayloadId} {segment : List (FlashblocksPayloadV1 Body)} {fb : FlashblocksPayloadV1 Body}

theorem of_prefix {front : List (FlashblocksPayloadV1 Body)} (numbered : Numbered payloadId segment)
    (initial : front <+: segment) : Numbered payloadId front := by
  obtain ⟨rest, rfl⟩ := initial
  refine ⟨fun payload member => numbered.payloadId payload (List.mem_append_left _ member), ?_⟩
  have indices := congrArg (List.take front.length) numbered.indices
  rw [List.map_append, List.take_left' (List.length_map _), List.take_range, List.length_append] at indices
  rw [indices, Nat.min_eq_left (Nat.le_add_right ..)]

theorem last (numbered : Numbered payloadId (segment ++ [fb])) :
    fb.payloadId = payloadId ∧ fb.index = segment.length := by
  refine ⟨numbered.payloadId fb (by simp), ?_⟩
  have indices := congrArg (·[segment.length]?) numbered.indices
  simpa using indices

end Numbered

def upToNextBase : List (FlashblocksPayloadV1 Body) → List (FlashblocksPayloadV1 Body)
  | [] => []
  | opener :: later => opener :: later.takeWhile (·.base.isNone)

section

variable {seen : List (FlashblocksPayloadV1 Body)} {fb : FlashblocksPayloadV1 Body}

theorem upToNextBase_initial (seen : List (FlashblocksPayloadV1 Body)) : upToNextBase seen <+: seen := by
  cases seen with
  | nil => exact List.prefix_rfl
  | cons opener later => exact List.cons_prefix_cons.mpr ⟨rfl, List.takeWhile_prefix _⟩

theorem upToNextBase_eq_self_iff : upToNextBase seen = seen ↔ ∀ other ∈ seen.tail, other.base = none := by
  cases seen with
  | nil => simp [upToNextBase]
  | cons opener later => simp [upToNextBase, List.takeWhile_eq_self_iff]

theorem upToNextBase_plain (plain : fb.base = none) (whole : upToNextBase seen = seen) :
    upToNextBase (seen ++ [fb]) = seen ++ [fb] := by
  rw [upToNextBase_eq_self_iff] at whole ⊢
  intro other member
  cases seen with
  | nil => cases member
  | cons opener later =>
    rw [List.cons_append, List.tail_cons] at member
    rcases List.mem_append.mp member with member | last
    · exact whole other member
    · rw [List.mem_singleton.mp last, plain]

theorem upToNextBase_restarted (fb : FlashblocksPayloadV1 Body) (nonempty : seen ≠ []) (restarts : fb.base ≠ none ∨ upToNextBase seen ≠ seen) :
    upToNextBase (seen ++ [fb]) = upToNextBase seen ∧ upToNextBase (seen ++ [fb]) ≠ seen ++ [fb] := by
  cases seen with
  | nil => exact absurd rfl nonempty
  | cons opener later =>
    have kept : (later ++ [fb]).takeWhile (·.base.isNone) = later.takeWhile (·.base.isNone) := by
      rw [List.takeWhile_append]
      split
      · next whole =>
        rcases restarts with isBase | short
        · have stops : ¬ fb.base.isNone := by simpa using isBase
          rw [List.takeWhile_cons, if_neg stops, List.append_nil]
          exact (List.takeWhile_prefix _).eq_of_length whole |>.symm
        · exact absurd (congrArg (opener :: ·) ((List.takeWhile_prefix _).eq_of_length whole)) short
      · rfl
    refine ⟨congrArg (opener :: ·) kept, fun whole => ?_⟩
    have lengths := congrArg List.length ((congrArg (opener :: ·) kept).symm.trans whole)
    have shorter := (upToNextBase_initial (opener :: later)).length_le
    rw [List.length_append] at lengths
    change (upToNextBase (opener :: later)).length = _ at lengths
    simp only [List.length_singleton] at lengths
    omega

end

namespace BlockEpochState

variable {epoch : BlockEpochState Body} {fb : FlashblocksPayloadV1 Body}

theorem drain_of_empty (empty : slot epoch.buffer epoch.cursor = none) (fuel : ℕ) : epoch.drain fuel = (epoch, []) := by
  cases fuel with
  | zero => rfl
  | succ fuel => simp [drain, empty]

theorem drain_cursor_le {fuel : ℕ} (bounded : epoch.cursor ≤ maxFlashblocks) :
    (epoch.drain fuel).1.cursor ≤ maxFlashblocks := by
  induction fuel generalizing epoch with
  | zero => exact bounded
  | succ fuel ih =>
    rw [drain]
    split
    · next fb present =>
      apply ih
      change epoch.cursor + 1 ≤ maxFlashblocks
      by_contra full
      rw [slot, List.getD_eq_default _ _ (by rw [epoch.size]; omega)] at present
      cases present
    · exact bounded

def Stuck (epoch : BlockEpochState Body) : Prop := epoch.cursor = 0 ∧ slot epoch.buffer 0 = none

theorem Stuck.insert (stuck : epoch.Stuck) (later : fb.index ≠ 0) : (epoch.insert fb).1.Stuck := by
  by_cases own : fb.payloadId = epoch.payloadId
  · refine ⟨by rw [insert_cursor, stuck.1], ?_⟩
    rw [slot_insert own (by decide), stuck.2, if_neg later, Option.or_none]
  · rw [insert_of_ne own]
    exact stuck

theorem stuck_of_tryNew {canonTip : Option BlockNumHash} (made : tryNew fb canonTip = some epoch) (later : fb.index ≠ 0) :
    epoch.Stuck := by
  obtain ⟨base, _, _, rfl⟩ := tryNew_eq_some.mp made
  refine Stuck.insert ⟨rfl, ?_⟩ later
  exact slot_replicate_none ..

end BlockEpochState

namespace BufferedFlashblocks

variable {state : BufferedFlashblocks Body} {parent : BlockNumHash} {payloadId : PayloadId}

theorem Drained.drain_eq (drained : state.Drained) : state.drain = state := by
  rcases drain_cases state with ⟨epoch, present, anchored, result⟩ | ⟨same, _⟩
  · rw [result, BlockEpochState.drain_of_empty (drained epoch present anchored)]
    simp [← present]
  · exact same

/-- Where the reducer stands in a numbered sequence of flashblocks, by what it has seen and emitted of it. -/
inductive Phase (parent : BlockNumHash) (payloadId : PayloadId) :
    List (FlashblocksPayloadV1 Body) → Option (BlockEpochState Body) → List (FlashblocksPayloadV1 Body) → Prop
  | before (held : Option (BlockEpochState Body)) : Phase parent payloadId [] held []
  | serving {seen emitted : List (FlashblocksPayloadV1 Body)} {epoch : BlockEpochState Body} (nonempty : seen ≠ [])
      (whole : upToNextBase seen = seen) (anchored : epoch.parent = parent) (own : epoch.payloadId = payloadId)
      (serving : epoch.Serving seen emitted) (bounded : epoch.cursor ≤ maxFlashblocks)
      (drained : slot epoch.buffer epoch.cursor = none) : Phase parent payloadId seen (some epoch) emitted
  | restarted {seen : List (FlashblocksPayloadV1 Body)} {held : Option (BlockEpochState Body)} (nonempty : seen ≠ [])
      (further : upToNextBase seen ≠ seen) (stuck : ∀ epoch, held = some epoch → epoch.Stuck) :
      Phase parent payloadId seen held ((upToNextBase seen).take maxFlashblocks)

variable {seen emitted : List (FlashblocksPayloadV1 Body)} {held : Option (BlockEpochState Body)}
  {fb : FlashblocksPayloadV1 Body}

theorem Phase.emitted_eq (phase : Phase parent payloadId seen held emitted) (numbered : Numbered payloadId seen) :
    emitted = (upToNextBase seen).take maxFlashblocks := by
  cases phase with
  | before => rfl
  | @serving _ _ epoch _ whole _ _ serving bounded drained =>
    rw [whole, ← epoch.size]
    exact Window.eq_take serving drained (by rw [epoch.size]; exact bounded) numbered.indices
  | restarted => rfl

theorem Phase.canon (phase : Phase parent payloadId seen held emitted) :
    Phase parent payloadId seen (held.filter fun epoch => ¬ ParentStale parent epoch) emitted := by
  cases phase with
  | before => exact .before _
  | @serving _ _ epoch nonempty whole anchored own serving bounded drained =>
    have current : ¬ ParentStale parent epoch := by
      rw [ParentStale, anchored]
      simp
    rw [Option.filter_some, if_pos (by simpa using current)]
    exact .serving nonempty whole anchored own serving bounded drained
  | restarted nonempty further stuck =>
    refine .restarted nonempty further fun epoch kept => stuck epoch ?_
    exact Option.eq_some_of_filter_eq_some kept

theorem Phase.drain {epoch : BlockEpochState Body} (nonempty : seen ≠ []) (whole : upToNextBase seen = seen)
    (anchored : epoch.parent = parent) (own : epoch.payloadId = payloadId) (serving : epoch.Serving seen emitted)
    (bounded : epoch.cursor ≤ maxFlashblocks) :
    Phase parent payloadId seen (some (epoch.drain maxFlashblocks).1) (emitted ++ (epoch.drain maxFlashblocks).2) := by
  obtain ⟨serves, drained⟩ := serving.drain (Nat.le_add_left maxFlashblocks epoch.cursor)
  refine .serving nonempty whole ?_ ?_ serves (BlockEpochState.drain_cursor_le bounded) drained
  · rw [(BlockEpochState.drain_keeps ..).1, anchored]
  · rw [(BlockEpochState.drain_keeps ..).2, own]

def emittedSince (past fed : List (ChainEvent Body)) : List (FlashblocksPayloadV1 Body) :=
  pendings ((run (past ++ fed)).output.drop (run past).output.length)

variable {past fed : List (ChainEvent Body)} {event : ChainEvent Body}

theorem emittedSince_append_singleton (fbs : List (FlashblocksPayloadV1 Body))
    (output : ((run (past ++ fed)).step event).output =
      ((run (past ++ fed)).absorb event).output ++ fbs.map .pending) :
    emittedSince past (fed ++ [event]) = emittedSince past fed ++ fbs := by
  have reached := (output_prefix_run past fed).length_le
  rw [emittedSince, ← List.append_assoc, run_append_singleton, output, absorb_output, List.append_assoc,
    List.drop_append_of_le_length reached, pendings_append, pendings_append, pendings_map_pending, emittedSince]
  cases event <;> rfl

theorem step_of_drained (drained : ((run (past ++ fed)).absorb event).Drained) :
    (run (past ++ (fed ++ [event]))).epoch = ((run (past ++ fed)).absorb event).epoch ∧
      emittedSince past (fed ++ [event]) = emittedSince past fed := by
  have same : (run (past ++ fed)).step event = (run (past ++ fed)).absorb event := drained.drain_eq
  refine ⟨?_, ?_⟩
  · rw [← List.append_assoc, run_append_singleton, same]
  · rw [emittedSince_append_singleton [] (by rw [same]; simp), List.append_nil]

theorem step_of_anchored {epoch : BlockEpochState Body} (present : ((run (past ++ fed)).absorb event).epoch = some epoch)
    (anchored : ((run (past ++ fed)).absorb event).canonTip = some epoch.parent) :
    (run (past ++ (fed ++ [event]))).epoch = some (epoch.drain maxFlashblocks).1 ∧
      emittedSince past (fed ++ [event]) = emittedSince past fed ++ (epoch.drain maxFlashblocks).2 := by
  have drains : (run (past ++ fed)).step event = { (run (past ++ fed)).absorb event with
      epoch := some (epoch.drain maxFlashblocks).1
      output := ((run (past ++ fed)).absorb event).output ++ (epoch.drain maxFlashblocks).2.map .pending } := by
    simp [step, drain, present, anchored]
  refine ⟨?_, emittedSince_append_singleton _ (by rw [drains])⟩
  rw [← List.append_assoc, run_append_singleton, drains]

/-- What is fed: a numbered sequence whose first flashblock carries a base on `parent`, and no other tip. -/
structure Feeds (parent : BlockNumHash) (payloadId : PayloadId) (fed : List (ChainEvent Body)) : Prop where
  numbered : Numbered payloadId (pendings fed)
  opens : ∀ opener later, pendings fed = opener :: later →
    ∃ base, opener.base = some base ∧ BlockEpochState.parentOf base = parent
  steady : ∀ tip ∈ canons fed, tip = parent

theorem Feeds.of_append (feeds : Feeds parent payloadId (fed ++ [event])) : Feeds parent payloadId fed where
  numbered := feeds.numbered.of_prefix (by simp)
  opens := fun opener later first => feeds.opens opener (later ++ pendings [event]) (by simp [first])
  steady := fun tip member => feeds.steady tip (by simp [member])

theorem canonTip_of_feeds (feeds : Feeds parent payloadId fed) (tip : lastCanon past = some parent) :
    (run (past ++ fed)).canonTip = some parent := by
  rw [(follows_run (past ++ fed)).1.tip, lastCanon, canons_append]
  cases last : (canons fed).getLast? with
  | none => rw [List.getLast?_append, last, Option.none_or]; exact tip
  | some final =>
    rw [List.getLast?_append, last, Option.some_or, feeds.steady final (List.mem_of_getLast? last)]

def Reached (parent : BlockNumHash) (payloadId : PayloadId) (past fed : List (ChainEvent Body)) : Prop :=
  Phase parent payloadId (pendings fed) (run (past ++ fed)).epoch (emittedSince past fed)

theorem Reached.step_canon (phase : Reached parent payloadId past fed)
    (tip : (run (past ++ fed)).canonTip = some parent) :
    Reached parent payloadId past (fed ++ [.canon parent]) := by
  -- the epoch in place was drained under the same tip
  have drained : ((run (past ++ fed)).absorb (.canon parent)).Drained := by
    intro epoch kept anchored
    apply (follows_run (past ++ fed)).2 epoch (Option.eq_some_of_filter_eq_some kept)
    exact tip.trans anchored
  obtain ⟨epoch, emitted⟩ := step_of_drained drained
  rw [Reached, epoch, emitted, pendings_append, pendings_canon, pendings_nil, List.append_nil]
  exact phase.canon

theorem Reached.step_open {base : ExecutionPayloadBaseV1} (none : pendings fed = []) (opens : fb.base = some base)
    (phase : Reached parent payloadId past fed)
    (on : BlockEpochState.parentOf base = parent) (own : fb.payloadId = payloadId)
    (tip : (run (past ++ fed)).canonTip = some parent) :
    Reached parent payloadId past (fed ++ [.pending fb]) := by
  have made : ((run (past ++ fed)).absorb (.pending fb)).epoch =
      some ((BlockEpochState.empty parent fb.payloadId).insert fb).1 := by
    rw [absorb, if_pos (by rw [opens]; rfl)]
    refine BlockEpochState.tryNew_eq_some.mpr ⟨base, opens, fun other same => ?_, by rw [on]⟩
    obtain rfl : parent = other := Option.some.inj (tip.symm.trans same)
    exact (congrArg BlockNumHash.number on).ge
  have anchored : ((run (past ++ fed)).absorb (.pending fb)).canonTip =
      some ((BlockEpochState.empty parent fb.payloadId).insert fb).1.parent := by
    rw [absorb, if_pos (by rw [opens]; rfl), BlockEpochState.insert_parent]
    exact tip
  obtain ⟨epoch, emitted⟩ := step_of_anchored made anchored
  have nothing : emittedSince past fed = [] := by
    rw [Reached, none] at phase
    exact phase.emitted_eq ⟨by simp, rfl⟩
  rw [Reached, epoch, emitted, nothing, pendings_append, none, List.nil_append, pendings_pending, pendings_nil]
  have serving := (BlockEpochState.serving_empty parent fb.payloadId).insert fb
  rw [if_pos (by rfl), List.nil_append] at serving
  refine Phase.drain (by simp) rfl ?_ ?_ serving ?_
  · rw [BlockEpochState.insert_parent]
    rfl
  · rw [BlockEpochState.insert_payloadId]
    exact own
  · rw [BlockEpochState.insert_cursor]
    exact Nat.zero_le _

theorem Reached.step_restart (nonempty : pendings fed ≠ []) (isBase : fb.base.isSome) (later : fb.index ≠ 0)
    (numbered : Numbered payloadId (pendings fed))
    (phase : Reached parent payloadId past fed) :
    Reached parent payloadId past (fed ++ [.pending fb]) := by
  have stuck : ∀ epoch, ((run (past ++ fed)).absorb (.pending fb)).epoch = some epoch → epoch.Stuck := by
    intro epoch made
    rw [absorb, if_pos isBase] at made
    exact BlockEpochState.stuck_of_tryNew made later
  obtain ⟨epoch, emitted⟩ := step_of_drained fun epoch made _ => by rw [(stuck epoch made).1, (stuck epoch made).2]
  obtain ⟨same, further⟩ := upToNextBase_restarted fb nonempty (.inl (Option.isSome_iff_ne_none.mp isBase))
  rw [Reached, epoch, emitted, Phase.emitted_eq phase numbered, pendings_append, pendings_pending, pendings_nil, ← same]
  exact .restarted (by simp) further stuck

theorem Reached.step_plain (nonempty : pendings fed ≠ []) (plain : fb.base = none) (later : fb.index ≠ 0)
    (own : fb.payloadId = payloadId) (tip : (run (past ++ fed)).canonTip = some parent)
    (phase : Reached parent payloadId past fed) :
    Reached parent payloadId past (fed ++ [.pending fb]) := by
  have absorbed : (run (past ++ fed)).absorb (.pending fb) = { run (past ++ fed) with
      epoch := (run (past ++ fed)).epoch.map fun epoch => (epoch.insert fb).1 } := by
    rw [absorb, if_neg (by simp [plain])]
  rw [Reached] at phase
  rw [Reached, pendings_append, pendings_pending, pendings_nil]
  generalize before : (run (past ++ fed)).epoch = held at phase
  generalize so : emittedSince past fed = emitted at phase
  generalize pendings fed = seen at phase nonempty
  cases phase with
  | before => exact absurd rfl nonempty
  | @serving _ _ epoch _ whole anchored mine serving bounded _ =>
    have present : ((run (past ++ fed)).absorb (.pending fb)).epoch = some (epoch.insert fb).1 := by
      rw [absorbed, before, Option.map_some]
    obtain ⟨epochNow, emittedNow⟩ := step_of_anchored present (by
      rw [absorbed, BlockEpochState.insert_parent, anchored]; exact tip)
    have inserted := serving.insert fb
    rw [if_pos (own.trans mine.symm)] at inserted
    rw [epochNow, emittedNow, so]
    refine Phase.drain (by simp) (upToNextBase_plain plain whole) ?_ ?_ inserted ?_
    · rw [BlockEpochState.insert_parent, anchored]
    · rw [BlockEpochState.insert_payloadId, mine]
    · rw [BlockEpochState.insert_cursor]
      exact bounded
  | restarted _ further stuck =>
    have stuckNow : ∀ epoch, ((run (past ++ fed)).absorb (.pending fb)).epoch = some epoch → epoch.Stuck := by
      intro epoch made
      rw [absorbed] at made
      obtain ⟨earlier, present, rfl⟩ := Option.map_eq_some_iff.mp made
      exact (stuck earlier (before.symm.trans present)).insert later
    obtain ⟨epochNow, emittedNow⟩ := step_of_drained fun epoch made _ => by
      rw [(stuckNow epoch made).1, (stuckNow epoch made).2]
    obtain ⟨same, restarted⟩ := upToNextBase_restarted fb nonempty (.inr further)
    rw [epochNow, emittedNow, so, ← same]
    exact .restarted (by simp) restarted stuckNow

theorem Feeds.reached (feeds : Feeds parent payloadId fed) (tip : lastCanon past = some parent) :
    Reached parent payloadId past fed := by
  induction fed using List.reverseRecOn with
  | nil =>
    have none : emittedSince past [] = [] := by simp [emittedSince]
    rw [Reached, none]
    exact .before _
  | append_singleton fed event ih =>
    have phase := ih feeds.of_append
    have current := canonTip_of_feeds feeds.of_append tip
    cases event with
    | canon other =>
      obtain rfl : other = parent := feeds.steady other (by simp)
      exact phase.step_canon current
    | pending fb =>
      have numbered := feeds.numbered
      rw [pendings_append, pendings_pending, pendings_nil] at numbered
      obtain ⟨own, index⟩ := numbered.last
      cases first : pendings fed with
      | nil =>
        obtain ⟨base, opens, on⟩ := feeds.opens fb [] (by simp [first])
        exact phase.step_open first opens on own current
      | cons opener later =>
        have nonempty : pendings fed ≠ [] := by simp [first]
        have advanced : fb.index ≠ 0 := by
          rw [index]
          exact fun zero => nonempty (List.length_eq_zero_iff.mp zero)
        cases base : fb.base with
        | none => exact phase.step_plain nonempty base advanced own current
        | some base' => exact phase.step_restart nonempty (by simp [base]) advanced feeds.of_append.numbered

/-- What a sequence of calls to `publish` sends, cut into one numbered segment for each epoch. -/
structure SentAs (calls : List (AuthorizedPayload Body)) (segments : List (List (FlashblocksPayloadV1 Body))) : Prop where
  sent : (FlashblocksP2PState.publishAll calls).2 = segments.flatten
  numbered : List.Forall₂ (fun epoch segment => Numbered epoch.payloadId segment) (Epoch.all calls) segments

theorem SentAs.exists_numbered {calls : List (AuthorizedPayload Body)} {segments : List (List (FlashblocksPayloadV1 Body))}
    (sentAs : SentAs calls segments) {segment : List (FlashblocksPayloadV1 Body)} (member : segment ∈ segments) :
    ∃ payloadId, Numbered payloadId segment := by
  obtain ⟨place, within, rfl⟩ := List.getElem_of_mem member
  have covered : place < (Epoch.all calls).length := by
    rw [sentAs.numbered.length_eq]
    exact within
  exact ⟨_, (List.forall₂_iff_get.mp sentAs.numbered).2 place covered within⟩

/-- When the start of a segment that `publish` sends is fed to the reducer on the parent of its base, the flashblocks
that have a slot come out in order. -/
theorem events_emit_what_has_a_slot (calls : List (AuthorizedPayload Body)) :
    (∃ segments, SentAs calls segments) ∧
    ∀ segments, SentAs calls segments → ∀ segment ∈ segments,
      ∀ (opener : FlashblocksPayloadV1 Body) (base : ExecutionPayloadBaseV1) (past fed : List (ChainEvent Body)),
        pendings fed <+: segment → (pendings fed).head? = some opener → opener.base = some base →
        lastCanon past = some (BlockEpochState.parentOf base) → (∀ tip ∈ canons fed, tip = BlockEpochState.parentOf base) →
        emittedSince past fed = (upToNextBase (pendings fed)).take maxFlashblocks ∧
        (emittedSince past fed = pendings fed ↔
          (pendings fed).length ≤ maxFlashblocks ∧ ∀ other ∈ (pendings fed).tail, other.base = none) := by
  constructor
  · obtain ⟨segments, sent, numbered⟩ := publish_sends_numbered_segments calls
    exact ⟨segments, sent, numbered⟩
  intro segments sentAs segment member opener base past fed part first opens tip steady
  obtain ⟨payloadId, numbered⟩ := sentAs.exists_numbered member
  have feeds : Feeds (BlockEpochState.parentOf base) payloadId fed := by
    refine ⟨numbered.of_prefix part, fun other later split => ⟨base, ?_, rfl⟩, steady⟩
    rw [split, List.head?_cons] at first
    rw [Option.some.inj first, opens]
  have emitted := (feeds.reached tip).emitted_eq feeds.numbered
  refine ⟨emitted, ?_⟩
  rw [emitted, ← upToNextBase_eq_self_iff]
  constructor
  · intro all
    have lengths := congrArg List.length all
    have shorter := (upToNextBase_initial (pendings fed)).length_le
    rw [List.length_take] at lengths
    refine ⟨by omega, ?_⟩
    rw [List.take_of_length_le (by omega)] at all
    exact all
  · rintro ⟨short, alone⟩
    rw [alone, List.take_of_length_le short]

def longCalls : List (AuthorizedPayload ℕ) :=
  (List.range 13).map fun index =>
    ⟨⟨7, 5⟩, ⟨7, index, if index = 0 then some ⟨5, 11⟩ else none, 100 + index⟩, 100⟩

def repeatedBaseCalls : List (AuthorizedPayload ℕ) :=
  (List.range 2).map fun index => ⟨⟨7, 5⟩, ⟨7, index, some ⟨5, 11⟩, 100 + index⟩, 100⟩

theorem sample_events_emit :
    emittedSince [.canon ⟨10, 5⟩] [.pending ⟨7, 0, some ⟨5, 11⟩, 100⟩, .canon ⟨10, 5⟩, .pending ⟨7, 1, none, 101⟩,
      .pending ⟨7, 2, none, 102⟩] = (FlashblocksP2PState.publishAll longCalls).2.take 3 := by
  have sentAs : SentAs longCalls [[], (FlashblocksP2PState.publishAll longCalls).2] :=
    ⟨by simp, .cons ⟨by decide, rfl⟩ (.cons ⟨by decide +kernel, by decide +kernel⟩ .nil)⟩
  have emits := (events_emit_what_has_a_slot longCalls).2 _ sentAs (FlashblocksP2PState.publishAll longCalls).2 (by simp)
    ⟨7, 0, some ⟨5, 11⟩, 100⟩ ⟨5, 11⟩ [.canon ⟨10, 5⟩] [.pending ⟨7, 0, some ⟨5, 11⟩, 100⟩, .canon ⟨10, 5⟩,
      .pending ⟨7, 1, none, 101⟩, .pending ⟨7, 2, none, 102⟩] (by decide +kernel) rfl rfl (by decide) (by decide)
  exact (emits.2.mpr (by decide)).trans (by decide +kernel)

theorem events_lose_accepted_flashblocks :
    ((FlashblocksP2PState.publishAll longCalls).2.map (·.index) = List.range 13 ∧
      emittedSince [.canon ⟨10, 5⟩] ((FlashblocksP2PState.publishAll longCalls).2.map .pending) =
        (FlashblocksP2PState.publishAll longCalls).2.take 12) ∧
    ((FlashblocksP2PState.publishAll repeatedBaseCalls).2.map (·.index) = [0, 1] ∧
      (emittedSince [.canon ⟨10, 5⟩] ((FlashblocksP2PState.publishAll repeatedBaseCalls).2.map .pending)).map (·.index) =
        [0]) := by
  decide +kernel

end BufferedFlashblocks

end WorldChain.P2P
