import WorldChain.Lib.Reorder

/-! # Publishing flashblocks in order

`FlashblocksP2PCtx::publish` takes flashblocks in any order of arrival and sends them on the local channel in the order
of their indices. A newer authorization resets the buffer for its payload; the buffer is emptied, never shortened.
-/

namespace WorldChain.P2P

open Reorder

abbrev PayloadId := BitVec 64

/-- The fields of a base that the consumers of a flashblock read. -/
structure ExecutionPayloadBaseV1 where
  parentHash : BitVec 256
  blockNumber : ℕ
deriving DecidableEq, Repr

/-- A flashblock; `Body` stands for its contents, which nothing here looks into. -/
structure FlashblocksPayloadV1 (Body : Type*) where
  payloadId : PayloadId
  index : ℕ
  base : Option ExecutionPayloadBaseV1
  body : Body
deriving DecidableEq, Repr

structure Authorization where
  payloadId : PayloadId
  timestamp : ℕ
deriving DecidableEq, Repr

/-- A flashblock under an authorization, with the length its message has when it is encoded. -/
structure AuthorizedPayload (Body : Type*) where
  authorization : Authorization
  msg : FlashblocksPayloadV1 Body
  encodedLength : ℕ
deriving DecidableEq, Repr

/-- Maximum frame size for messages: 16 MB. -/
def maxFrame : ℕ := 2 ^ 24

/-- Maximum index for flashblocks payloads. -/
def maxFlashblockIndex : ℕ := 100

/-- The part of the protocol state that publishing reads and writes. -/
structure FlashblocksP2PState (Body : Type*) where
  payloadId : PayloadId
  payloadTimestamp : ℕ
  flashblockIndex : ℕ
  flashblocks : List (Option (FlashblocksPayloadV1 Body))
deriving DecidableEq, Repr

variable {Body : Type*}

/-- The default state. -/
def FlashblocksP2PState.initial : FlashblocksP2PState Body where
  payloadId := 0#64
  payloadTimestamp := 0
  flashblockIndex := 0
  flashblocks := []

namespace FlashblocksP2PState

variable (state : FlashblocksP2PState Body)

def renew (authorization : Authorization) : FlashblocksP2PState Body :=
  if authorization.timestamp > state.payloadTimestamp then
    { payloadId := authorization.payloadId
      payloadTimestamp := authorization.timestamp
      flashblockIndex := 0
      flashblocks := List.replicate state.flashblocks.length none }
  else state

def broadcast : FlashblocksP2PState Body × List (FlashblocksPayloadV1 Body) :=
  let sent := contiguous (state.flashblocks.drop state.flashblockIndex)
  ({ state with flashblockIndex := state.flashblockIndex + sent.length }, sent)

def cache (authorizedPayload : AuthorizedPayload Body) :
    FlashblocksP2PState Body × List (FlashblocksPayloadV1 Body) :=
  let payload := authorizedPayload.msg
  let flashblocks := resize state.flashblocks (max state.flashblocks.length (payload.index + 1))
  if slot flashblocks payload.index = none then
    let state := { state with flashblocks := flashblocks.set payload.index (some payload) }
    if authorizedPayload.encodedLength > maxFrame then (state, [])
    else state.broadcast
  else ({ state with flashblocks }, [])

def publish (authorizedPayload : AuthorizedPayload Body) :
    FlashblocksP2PState Body × List (FlashblocksPayloadV1 Body) :=
  let payload := authorizedPayload.msg
  let authorization := authorizedPayload.authorization
  if authorization.payloadId ≠ payload.payloadId then (state, [])
  else
    let state := state.renew authorization
    if payload.payloadId ≠ state.payloadId then (state, [])
    else if payload.index > maxFlashblockIndex then (state, [])
    else state.cache authorizedPayload

def publishAll (calls : List (AuthorizedPayload Body)) : FlashblocksP2PState Body × List (FlashblocksPayloadV1 Body) :=
  calls.foldl (fun run call => ((run.1.publish call).1, run.2 ++ (run.1.publish call).2)) (.initial, [])

end FlashblocksP2PState

/-! ## Epochs -/

/-- What one payload has received since the authorization that started it. -/
structure Epoch (Body : Type*) where
  payloadId : PayloadId
  timestamp : ℕ
  received : List (FlashblocksPayloadV1 Body)

namespace Epoch

def initial : Epoch Body := ⟨0#64, 0, []⟩

/-- A call is consistent when its authorization is for its own payload. -/
def Consistent (call : AuthorizedPayload Body) : Prop := call.authorization.payloadId = call.msg.payloadId

instance (call : AuthorizedPayload Body) : Decidable (Consistent call) := inferInstanceAs (Decidable (_ = _))

variable (epoch : Epoch Body)

def Ends (call : AuthorizedPayload Body) : Prop :=
  Consistent call ∧ epoch.timestamp < call.authorization.timestamp

instance (call : AuthorizedPayload Body) : Decidable (epoch.Ends call) := inferInstanceAs (Decidable (_ ∧ _))

def receive (payload : FlashblocksPayloadV1 Body) : Epoch Body :=
  if payload.payloadId = epoch.payloadId ∧ payload.index ≤ maxFlashblockIndex then
    { epoch with received := epoch.received ++ [payload] }
  else epoch

/-- The epoch after a call. -/
def next (call : AuthorizedPayload Body) : Epoch Body :=
  if Consistent call then
    if epoch.timestamp < call.authorization.timestamp then
      receive ⟨call.authorization.payloadId, call.authorization.timestamp, []⟩ call.msg
    else epoch.receive call.msg
  else epoch

def history (calls : List (AuthorizedPayload Body)) : List (Epoch Body) × Epoch Body :=
  calls.foldl (fun past call => (if past.2.Ends call then past.1 ++ [past.2] else past.1, past.2.next call)) ([], initial)

def all (calls : List (AuthorizedPayload Body)) : List (Epoch Body) := (history calls).1 ++ [(history calls).2]

end Epoch

/-! ## The state follows the current epoch -/

structure Tracks (state : FlashblocksP2PState Body) (epoch : Epoch Body) (sent : List (FlashblocksPayloadV1 Body)) :
    Prop where
  payloadId : state.payloadId = epoch.payloadId
  timestamp : state.payloadTimestamp = epoch.timestamp
  holds : Holds (·.index) state.flashblocks epoch.received
  own : ∀ payload ∈ epoch.received, payload.payloadId = epoch.payloadId
  bounded : state.flashblockIndex ≤ (contiguous state.flashblocks).length
  sent : sent = (contiguous state.flashblocks).take state.flashblockIndex

/-- Everything that is in order has been sent. -/
def Drained (state : FlashblocksP2PState Body) : Prop :=
  state.flashblockIndex = (contiguous state.flashblocks).length

variable {state : FlashblocksP2PState Body} {epoch : Epoch Body} {sent : List (FlashblocksPayloadV1 Body)}
  {call : AuthorizedPayload Body}

theorem Tracks.initial : Tracks (.initial : FlashblocksP2PState Body) .initial [] where
  payloadId := rfl
  timestamp := rfl
  holds := fun index => by simp [FlashblocksP2PState.initial, Epoch.initial]
  own := fun _ member => by cases member
  bounded := Nat.zero_le _
  sent := rfl

section

variable (tracks : Tracks state epoch sent)

include tracks

theorem Tracks.broadcast :
    Tracks state.broadcast.1 epoch (sent ++ state.broadcast.2) ∧ Drained state.broadcast.1 := by
  have run := contiguous_eq_take_append state.flashblocks tracks.bounded
  have drained : state.flashblockIndex + (contiguous (state.flashblocks.drop state.flashblockIndex)).length =
      (contiguous state.flashblocks).length := by
    have lengths := congrArg List.length run
    rw [List.length_append, List.length_take, Nat.min_eq_left tracks.bounded] at lengths
    exact lengths.symm
  refine ⟨{ tracks with bounded := drained.le, sent := ?_ }, drained⟩
  change sent ++ _ = (contiguous state.flashblocks).take (state.flashblockIndex + _)
  rw [drained, List.take_length, tracks.sent]
  exact run.symm

theorem Tracks.fill {payload : FlashblocksPayloadV1 Body} {filled : List (Option (FlashblocksPayloadV1 Body))}
    (own : payload.payloadId = epoch.payloadId) (empty : slot state.flashblocks payload.index = none)
    (set : ∀ index, slot filled index = if index = payload.index then some payload else slot state.flashblocks index) :
    Tracks { state with flashblocks := filled } { epoch with received := epoch.received ++ [payload] } sent := by
  have extended : contiguous state.flashblocks <+: contiguous filled := by
    apply contiguous_prefix_of_le
    intro index present
    rw [set, if_neg]
    rintro rfl
    exact present empty
  refine
    { payloadId := tracks.payloadId, timestamp := tracks.timestamp
      holds := tracks.holds.fresh empty set
      own := fun other member => ?_
      bounded := tracks.bounded.trans extended.length_le
      sent := ?_ }
  · rcases List.mem_append.mp member with member | last
    · exact tracks.own other member
    · rw [List.mem_singleton.mp last, own]
  · obtain ⟨rest, split⟩ := extended
    rw [tracks.sent]
    change _ = (contiguous filled).take state.flashblockIndex
    rw [← split, List.take_append_of_le_length tracks.bounded]

theorem Tracks.resize (size : ℕ) :
    Tracks { state with flashblocks := Reorder.resize state.flashblocks size } epoch sent ∧
      contiguous (Reorder.resize state.flashblocks size) = contiguous state.flashblocks := by
  have same : contiguous (Reorder.resize state.flashblocks size) = contiguous state.flashblocks := by
    refine (contiguous_prefix_of_le fun index _ => ?_).eq_of_length_le
      (contiguous_prefix_of_le fun index _ => ?_).length_le
    · rw [slot_resize]
    · rw [slot_resize]
  refine ⟨{ tracks with holds := fun index => ?_, bounded := ?_, sent := ?_ }, same⟩
  · rw [slot_resize, tracks.holds]
  · change _ ≤ (contiguous (Reorder.resize state.flashblocks size)).length
    rw [same]
    exact tracks.bounded
  · change sent = (contiguous (Reorder.resize state.flashblocks size)).take _
    rw [same, tracks.sent]

theorem Tracks.cache (own : call.msg.payloadId = epoch.payloadId) :
    Tracks (state.cache call).1 { epoch with received := epoch.received ++ [call.msg] } (sent ++ (state.cache call).2) ∧
      (call.encodedLength ≤ maxFrame → Drained state → Drained (state.cache call).1) := by
  obtain ⟨resized, same⟩ := tracks.resize (max state.flashblocks.length (call.msg.index + 1))
  have within : call.msg.index < (Reorder.resize state.flashblocks
      (max state.flashblocks.length (call.msg.index + 1))).length := by
    simp only [Reorder.resize, List.length_append, List.length_replicate]
    omega
  by_cases empty : slot (Reorder.resize state.flashblocks (max state.flashblocks.length (call.msg.index + 1)))
      call.msg.index = none
  · have filled := resized.fill own empty fun index => slot_set within (some call.msg) index
    by_cases large : call.encodedLength > maxFrame
    · simp only [FlashblocksP2PState.cache, if_pos empty, if_pos large, List.append_nil]
      exact ⟨filled, fun small => absurd large (Nat.not_lt.mpr small)⟩
    · simp only [FlashblocksP2PState.cache, if_pos empty, if_neg large]
      exact ⟨filled.broadcast.1, fun _ _ => filled.broadcast.2⟩
  · simp only [FlashblocksP2PState.cache, if_neg empty, List.append_nil]
    refine ⟨{ resized with holds := resized.holds.repeated empty, own := fun other member => ?_ }, ?_⟩
    · rcases List.mem_append.mp member with member | last
      · exact tracks.own other member
      · rw [List.mem_singleton.mp last, own]
    · intro _ drained
      change state.flashblockIndex = (contiguous _).length
      rw [same, drained]

end

theorem Tracks.renewed {authorization : Authorization} (newer : state.payloadTimestamp < authorization.timestamp) :
    Tracks (state.renew authorization) ⟨authorization.payloadId, authorization.timestamp, []⟩ [] ∧
      Drained (state.renew authorization) := by
  have empty : contiguous (List.replicate state.flashblocks.length
      (none : Option (FlashblocksPayloadV1 Body))) = [] := contiguous_eq_nil (slot_replicate_none ..)
  rw [FlashblocksP2PState.renew, if_pos newer]
  refine ⟨⟨rfl, rfl, fun index => ?_, fun _ member => (by cases member), Nat.zero_le _, rfl⟩, ?_⟩
  · rw [slot_replicate_none, firstAt_nil]
  · change 0 = (contiguous _).length
    rw [empty]
    rfl

theorem Tracks.admit (tracks : Tracks state epoch sent) {result : FlashblocksP2PState Body × List (FlashblocksPayloadV1 Body)}
    (admitted : result = if call.msg.payloadId ≠ state.payloadId then (state, [])
      else if call.msg.index > maxFlashblockIndex then (state, []) else state.cache call) :
    Tracks result.1 (epoch.receive call.msg) (sent ++ result.2) ∧
      (call.encodedLength ≤ maxFrame → Drained state → Drained result.1) := by
  rw [tracks.payloadId] at admitted
  by_cases own : call.msg.payloadId = epoch.payloadId
  · by_cases large : call.msg.index > maxFlashblockIndex
    · rw [if_neg (not_not.mpr own), if_pos large] at admitted
      rw [admitted, Epoch.receive, if_neg fun counted => absurd counted.2 (Nat.not_le.mpr large), List.append_nil]
      exact ⟨tracks, fun _ => id⟩
    · rw [if_neg (not_not.mpr own), if_neg large] at admitted
      rw [admitted, Epoch.receive, if_pos ⟨own, Nat.le_of_not_lt large⟩]
      exact tracks.cache own
  · rw [if_pos own] at admitted
    rw [admitted, Epoch.receive, if_neg fun counted => own counted.1, List.append_nil]
    exact ⟨tracks, fun _ => id⟩

theorem Tracks.publish (tracks : Tracks state epoch sent) (call : AuthorizedPayload Body) :
    Tracks (state.publish call).1 (epoch.next call) ((if epoch.Ends call then [] else sent) ++ (state.publish call).2) ∧
      (call.encodedLength ≤ maxFrame → Drained state → Drained (state.publish call).1) := by
  by_cases consistent : Epoch.Consistent call
  · have opened : state.publish call = if call.msg.payloadId ≠ (state.renew call.authorization).payloadId then
        (state.renew call.authorization, [])
        else if call.msg.index > maxFlashblockIndex then (state.renew call.authorization, [])
        else (state.renew call.authorization).cache call := if_neg (not_not.mpr consistent)
    by_cases newer : epoch.timestamp < call.authorization.timestamp
    · obtain ⟨renewed, fresh⟩ : Tracks (state.renew call.authorization)
          ⟨call.authorization.payloadId, call.authorization.timestamp, []⟩ [] ∧ Drained (state.renew call.authorization) :=
        Tracks.renewed (tracks.timestamp ▸ newer)
      have admitted := renewed.admit opened
      rw [Epoch.next, if_pos consistent, if_pos newer, if_pos ⟨consistent, newer⟩]
      exact ⟨admitted.1, fun small _ => admitted.2 small fresh⟩
    · have kept : state.renew call.authorization = state := if_neg (tracks.timestamp ▸ newer)
      rw [kept] at opened
      rw [Epoch.next, if_pos consistent, if_neg newer, if_neg fun ends => newer ends.2]
      exact tracks.admit opened
  · have ignored : state.publish call = (state, []) := if_pos consistent
    rw [ignored, Epoch.next, if_neg consistent, if_neg fun ends => consistent ends.1, List.append_nil]
    exact ⟨tracks, fun _ => id⟩

/-! ## Whole sequences of calls -/

def resetTimestamps (calls : List (AuthorizedPayload Body)) : List ℕ :=
  (calls.foldl (fun run call => ((run.1.publish call).1,
    if Epoch.Consistent call ∧ run.1.payloadTimestamp < call.authorization.timestamp then
      run.2 ++ [call.authorization.timestamp] else run.2)) (FlashblocksP2PState.initial, [])).2

/-- Flashblocks of the epoch's payload with the indices from zero up, each the first one received, and none withheld. -/
structure Serves (epoch : Epoch Body) (segment : List (FlashblocksPayloadV1 Body)) : Prop where
  payloadId : ∀ payload ∈ segment, payload.payloadId = epoch.payloadId
  indices : segment.map (·.index) = List.range segment.length
  delivered : Delivered (·.index) epoch.received segment

theorem Tracks.serves (tracks : Tracks state epoch sent) (drained : Drained state) : Serves epoch sent := by
  have all : sent = contiguous state.flashblocks := by
    rw [tracks.sent, drained, List.take_length]
  have delivered := tracks.holds.delivered
  rw [← all] at delivered
  exact ⟨fun payload member => tracks.own payload (mem_of_firstAt (delivered.first.firstAt_position member)),
    delivered.first.positions, delivered⟩

/-- Flashblocks of one payload with the indices from zero up. -/
structure Numbered (payloadId : PayloadId) (segment : List (FlashblocksPayloadV1 Body)) : Prop where
  payloadId : ∀ payload ∈ segment, payload.payloadId = payloadId
  indices : segment.map (·.index) = List.range segment.length

theorem Tracks.numbered (tracks : Tracks state epoch sent) : Numbered epoch.payloadId sent := by
  have firsts := tracks.holds.delivered.first.take state.flashblockIndex
  rw [← tracks.sent] at firsts
  exact ⟨fun payload member => tracks.own payload (mem_of_firstAt (firsts.firstAt_position member)), firsts.positions⟩

section

variable (calls : List (AuthorizedPayload Body)) (call : AuthorizedPayload Body)

theorem publishAll_append_singleton : FlashblocksP2PState.publishAll (calls ++ [call]) =
    (((FlashblocksP2PState.publishAll calls).1.publish call).1,
      (FlashblocksP2PState.publishAll calls).2 ++ ((FlashblocksP2PState.publishAll calls).1.publish call).2) := by
  simp [FlashblocksP2PState.publishAll]

theorem history_append_singleton : Epoch.history (calls ++ [call]) =
    (if (Epoch.history calls).2.Ends call then (Epoch.history calls).1 ++ [(Epoch.history calls).2]
      else (Epoch.history calls).1, (Epoch.history calls).2.next call) := by
  rw [Epoch.history, List.foldl_append]
  rfl

theorem resetTimestamps_append_singleton : resetTimestamps (calls ++ [call]) =
    if Epoch.Consistent call ∧
        (FlashblocksP2PState.publishAll calls).1.payloadTimestamp < call.authorization.timestamp then
      resetTimestamps calls ++ [call.authorization.timestamp] else resetTimestamps calls := by
  have states : ∀ calls : List (AuthorizedPayload Body), (calls.foldl (fun run call => ((run.1.publish call).1,
      if Epoch.Consistent call ∧ run.1.payloadTimestamp < call.authorization.timestamp then
        run.2 ++ [call.authorization.timestamp] else run.2)) (FlashblocksP2PState.initial, [])).1 =
      (FlashblocksP2PState.publishAll calls).1 := by
    intro calls
    induction calls using List.reverseRecOn with
    | nil => rfl
    | append_singleton calls call ih => rw [publishAll_append_singleton, List.foldl_append, ← ih]; rfl
  simp [resetTimestamps, List.foldl_append, states]

end

theorem Epoch.next_payload (epoch : Epoch Body) (call : AuthorizedPayload Body) :
    ((epoch.next call).payloadId, (epoch.next call).timestamp) =
      if epoch.Ends call then (call.authorization.payloadId, call.authorization.timestamp)
      else (epoch.payloadId, epoch.timestamp) := by
  unfold Epoch.next Epoch.Ends Epoch.receive
  split_ifs <;> simp_all

theorem timestamps_append_singleton (calls : List (AuthorizedPayload Body)) (call : AuthorizedPayload Body) :
    (Epoch.all (calls ++ [call])).map (·.timestamp) = if (Epoch.history calls).2.Ends call then
      (Epoch.all calls).map (·.timestamp) ++ [call.authorization.timestamp] else (Epoch.all calls).map (·.timestamp) := by
  have next : ((Epoch.history calls).2.next call).timestamp = _ := congrArg Prod.snd (Epoch.next_payload _ call)
  by_cases ends : (Epoch.history calls).2.Ends call <;> simp [Epoch.all, history_append_singleton, next, ends]

/-- What a sequence of calls has sent: segments that satisfy `served` for the epochs that ended, then the
current one's. -/
structure Segmented (served : Epoch Body → List (FlashblocksPayloadV1 Body) → Prop)
    (calls : List (AuthorizedPayload Body)) (segments : List (List (FlashblocksPayloadV1 Body)))
    (current : List (FlashblocksPayloadV1 Body)) : Prop where
  sent : (FlashblocksP2PState.publishAll calls).2 = segments.flatten ++ current
  served : List.Forall₂ served (Epoch.history calls).1 segments
  tracks : Tracks (FlashblocksP2PState.publishAll calls).1 (Epoch.history calls).2 current

section

variable {served : Epoch Body → List (FlashblocksPayloadV1 Body) → Prop} {calls : List (AuthorizedPayload Body)}
  {segments : List (List (FlashblocksPayloadV1 Body))} {current : List (FlashblocksPayloadV1 Body)}

theorem Segmented.step (segmented : Segmented served calls segments current) (ending : served (Epoch.history calls).2 current)
    (call : AuthorizedPayload Body) : ∃ segments current, Segmented served (calls ++ [call]) segments current := by
  have followed := (segmented.tracks.publish call).1
  have sent : (FlashblocksP2PState.publishAll (calls ++ [call])).2 = segments.flatten ++ current ++
      ((FlashblocksP2PState.publishAll calls).1.publish call).2 := by
    rw [publishAll_append_singleton, segmented.sent]
  by_cases ends : (Epoch.history calls).2.Ends call
  · rw [if_pos ends] at followed
    refine ⟨segments ++ [current], ((FlashblocksP2PState.publishAll calls).1.publish call).2, ?_, ?_, ?_⟩
    · rw [sent, List.flatten_append]
      simp
    · rw [history_append_singleton, if_pos ends]
      exact List.rel_append segmented.served (.cons ending .nil)
    · rw [publishAll_append_singleton, history_append_singleton]
      exact followed
  · rw [if_neg ends] at followed
    refine ⟨segments, current ++ ((FlashblocksP2PState.publishAll calls).1.publish call).2, ?_, ?_, ?_⟩
    · rw [sent, List.append_assoc]
    · rw [history_append_singleton, if_neg ends]
      exact segmented.served
    · rw [publishAll_append_singleton, history_append_singleton]
      exact followed

theorem Segmented.all (segmented : Segmented served calls segments current) (ending : served (Epoch.history calls).2 current) :
    ∃ segments, (FlashblocksP2PState.publishAll calls).2 = segments.flatten ∧
      List.Forall₂ served (Epoch.all calls) segments := by
  refine ⟨segments ++ [current], ?_, List.rel_append segmented.served (.cons ending .nil)⟩
  rw [segmented.sent, List.flatten_append]
  simp

end

theorem publish_sends_numbered_segments (calls : List (AuthorizedPayload Body)) :
    ∃ segments, (FlashblocksP2PState.publishAll calls).2 = segments.flatten ∧
      List.Forall₂ (fun epoch segment => Numbered epoch.payloadId segment) (Epoch.all calls) segments := by
  obtain ⟨segments, current, segmented⟩ : ∃ segments current,
      Segmented (fun epoch segment => Numbered epoch.payloadId segment) calls segments current := by
    induction calls using List.reverseRecOn with
    | nil => exact ⟨[], [], rfl, .nil, Tracks.initial⟩
    | append_singleton calls call ih =>
      obtain ⟨segments, current, segmented⟩ := ih
      exact segmented.step segmented.tracks.numbered call
  exact segmented.all segmented.tracks.numbered

/-- What a sequence of calls has sent: the segments of the epochs that ended, then the current one's. -/
structure InOrder (calls : List (AuthorizedPayload Body)) (segments : List (List (FlashblocksPayloadV1 Body)))
    (current : List (FlashblocksPayloadV1 Body)) : Prop extends Segmented Serves calls segments current where
  drained : Drained (FlashblocksP2PState.publishAll calls).1
  resets : (Epoch.all calls).map (·.timestamp) = 0 :: resetTimestamps calls
  rising : ((Epoch.all calls).map (·.timestamp)).Pairwise (· < ·)

section

variable {calls : List (AuthorizedPayload Body)} {segments : List (List (FlashblocksPayloadV1 Body))}
  {current : List (FlashblocksPayloadV1 Body)}

theorem InOrder.step (ordered : InOrder calls segments current) (small : call.encodedLength ≤ maxFrame) :
    ∃ segments current, InOrder (calls ++ [call]) segments current := by
  obtain ⟨segments, current, next⟩ := ordered.toSegmented.step (ordered.tracks.serves ordered.drained) call
  refine ⟨segments, current, next, ?_, ?_, ?_⟩
  · rw [publishAll_append_singleton]
    exact (ordered.tracks.publish call).2 small ordered.drained
  all_goals rw [timestamps_append_singleton]
  · rw [resetTimestamps_append_singleton, ordered.tracks.timestamp, ordered.resets]
    exact (apply_ite (List.cons 0) ..).symm
  · split
    · next ends =>
      refine List.pairwise_append.mpr ⟨ordered.rising, List.pairwise_singleton .., ?_⟩
      intro earlier member latest last
      rw [List.mem_singleton.mp last]
      refine lt_of_le_of_lt ?_ ends.2
      have rising := ordered.rising
      rw [Epoch.all, List.map_append] at rising member
      rcases List.mem_append.mp member with member | final
      · exact (List.pairwise_append.mp rising).2.2 earlier member _ (by simp) |>.le
      · simp only [List.map_cons, List.map_nil, List.mem_singleton] at final
        exact final.le
    · exact ordered.rising

end

/-- What is sent is one segment for each reset, at rising timestamps: flashblocks of one payload with indices from zero
up, the first received for each. -/
theorem publish_sends_segments_in_order (calls : List (AuthorizedPayload Body))
    (small : ∀ call ∈ calls, call.encodedLength ≤ maxFrame) :
    (∃ segments, (FlashblocksP2PState.publishAll calls).2 = segments.flatten ∧
      List.Forall₂ Serves (Epoch.all calls) segments) ∧
    (Epoch.all calls).map (·.timestamp) = 0 :: resetTimestamps calls ∧
    ((Epoch.all calls).map (·.timestamp)).Pairwise (· < ·) ∧
    (FlashblocksP2PState.publishAll calls).1.flashblockIndex =
      (contiguous (FlashblocksP2PState.publishAll calls).1.flashblocks).length := by
  obtain ⟨segments, current, ordered⟩ : ∃ segments current, InOrder calls segments current := by
    induction calls using List.reverseRecOn with
    | nil => exact ⟨[], [], ⟨rfl, .nil, Tracks.initial⟩, rfl, rfl, List.pairwise_singleton ..⟩
    | append_singleton calls call ih =>
      obtain ⟨segments, current, ordered⟩ := ih fun other member => small other (List.mem_append_left _ member)
      exact ordered.step (small call (by simp))
  exact ⟨ordered.toSegmented.all (ordered.tracks.serves ordered.drained), ordered.resets, ordered.rising, ordered.drained⟩

def sampleCall (payloadId : PayloadId) (timestamp index body : ℕ) : AuthorizedPayload ℕ :=
  ⟨⟨payloadId, timestamp⟩, ⟨payloadId, index, none, body⟩, 100⟩

def sampleCalls : List (AuthorizedPayload ℕ) :=
  [sampleCall 7 5 1 10, sampleCall 7 5 0 11, sampleCall 7 5 0 12, sampleCall 8 6 0 13, sampleCall 7 5 2 14]

theorem publish_sends_sample_in_order :
    (FlashblocksP2PState.publishAll sampleCalls).2.map (·.body) = [11, 10, 13] ∧
    ∃ segments, (FlashblocksP2PState.publishAll sampleCalls).2 = segments.flatten ∧
      List.Forall₂ Serves (Epoch.all sampleCalls) segments :=
  ⟨by decide, (publish_sends_segments_in_order sampleCalls (by decide)).1⟩

theorem publish_sends_before_any_reset :
    (FlashblocksP2PState.publishAll [sampleCall 0 0 0 10]).2 = [(sampleCall 0 0 0 10).msg] ∧
      resetTimestamps [sampleCall 0 0 0 10] = [] := by
  decide

end WorldChain.P2P
