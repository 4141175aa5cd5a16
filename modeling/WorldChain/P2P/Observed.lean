import WorldChain.Lib.Recent
import WorldChain.P2P.FanoutBounds
import WorldChain.P2P.PublishingStatus

/-! # Flashblocks observed from peers

A node remembers the last flashblocks that it was sent, and from which peers, so that it can tell a peer that sends a
flashblock again from one that sends it for the first time.
-/

namespace WorldChain.P2P

open Table Reorder

variable {Body Key PeerId : Type*}

def missedFlashblockPenaltyNs : ℤ := 10 ^ 9

def receiveFlashblockGraceWindow : ℕ := 50

structure ObservedPayload (PeerId : Type*) where
  payloadId : PayloadId
  timestamp : ℕ
  flashblockIndex : ℕ
  receivedPeers : Finset PeerId
  sendPeers : Finset PeerId

namespace ObservedPayload

def isFor (payloadId : PayloadId) (index : ℕ) (observed : ObservedPayload PeerId) : Bool :=
  observed.payloadId = payloadId ∧ observed.flashblockIndex = index

def received (observed : ObservedPayload PeerId) : (PayloadId × ℕ) × Finset PeerId :=
  ((observed.payloadId, observed.flashblockIndex), observed.receivedPeers)

theorem decide_received_eq {payloadId : PayloadId} {index : ℕ} (observed : ObservedPayload PeerId) :
    decide (observed.received.1 = (payloadId, index)) = observed.isFor payloadId index := by
  simp only [received, isFor, Prod.mk.injEq]

end ObservedPayload

def FlashblocksP2PState.forwards (state : FlashblocksP2PState Body) (authorizedPayload : AuthorizedPayload Body) : Bool :=
  let payload := authorizedPayload.msg
  let renewed := state.renew authorizedPayload.authorization
  let flashblocks := resize renewed.flashblocks (max renewed.flashblocks.length (payload.index + 1))
  authorizedPayload.authorization.payloadId = payload.payloadId ∧ payload.payloadId = renewed.payloadId ∧
    payload.index ≤ maxFlashblockIndex ∧ (slot flashblocks payload.index).isNone ∧
    authorizedPayload.encodedLength ≤ maxFrame

/-- The protocol state of a node. -/
structure ObservingNode (Body Key PeerId : Type*) where
  publisher : PublisherNode Body Key
  fanout : FanoutState PeerId
  observed : List (ObservedPayload PeerId)

def ObservingNode.memory (node : ObservingNode Body Key PeerId) : List ((PayloadId × ℕ) × Finset PeerId) :=
  node.observed.map ObservedPayload.received

theorem ObservingNode.find_memory {node : ObservingNode Body Key PeerId}
    (payloadId : PayloadId) (index : ℕ) : Recent.find node.memory (payloadId, index) =
    (node.observed.find? (·.isFor payloadId index)).map ObservedPayload.received := by
  rw [Recent.find, ObservingNode.memory, List.find?_map]
  congr 2
  funext observed
  exact observed.decide_received_eq

/-- What happens to a node; `latency` is how long a flashblock took, if it says when it was made. -/
inductive ObservingEvent (Body Key PeerId : Type*)
  | flashblock (peer : PeerId) (authorizedPayload : AuthorizedPayload Body) (builderVk : Key) (latency : Option ℤ)
  | notice (notice : PublishNotice Key)
  | startPublishing (newAuthorization : BuilderAuthorization Key)
  | stopPublishing
  | publishNew (authorization : BuilderAuthorization Key) (authorizedPayload : AuthorizedPayload Body)
  | fanout (moment : Moment PeerId) (event : FanoutEvent PeerId)

variable [DecidableEq PeerId]

def FanoutState.scoreMissed (state : FanoutState PeerId) (evicted : ObservedPayload PeerId) : FanoutState PeerId :=
  ⟨mapEntries (fun peer peerState =>
    if peerState.receiveStatusTimestamp + 2 ≤ evicted.timestamp ∧ peer ∉ evicted.receivedPeers ∧
        peer ∉ evicted.sendPeers then
      peerState.recordSample missedFlashblockPenaltyNs
    else peerState) state.peers⟩

namespace ObservingNode

def initial (builderVk : Option Key) : ObservingNode Body Key PeerId := ⟨.initial builderVk, .initial, []⟩

section

variable (node : ObservingNode Body Key PeerId)

def notePeerReceivedFlashblock (authorization : Authorization) (flashblock : FlashblocksPayloadV1 Body) (peer : PeerId) :
    ObservingNode Body Key PeerId × Bool :=
  match node.observed.find? (·.isFor flashblock.payloadId flashblock.index) with
  | some observed =>
    ({ node with
        observed := Recent.amendFirst (·.isFor flashblock.payloadId flashblock.index)
          (fun observed => { observed with receivedPeers := insert peer observed.receivedPeers }) node.observed },
      peer ∉ observed.receivedPeers)
  | none =>
    ({ node with
        fanout :=
          if receiveFlashblockGraceWindow ≤ node.observed.length then
            node.observed.head?.elim node.fanout node.fanout.scoreMissed
          else node.fanout
        observed := Recent.evict receiveFlashblockGraceWindow node.observed ++
          [⟨flashblock.payloadId, authorization.timestamp, flashblock.index, {peer}, ∅⟩] }, true)

def sendFlashblockToSendSet (payloadId : PayloadId) (index : ℕ) : ObservingNode Body Key PeerId :=
  { node with
    observed := Recent.amendFirst (·.isFor payloadId index)
      (fun observed => { observed with
        sendPeers := observed.sendPeers ∪
          select (fun peer peerState => peerState.sendEnabled ∧ peer ∉ observed.receivedPeers) node.fanout.peers })
      node.observed }

def forward (authorizedPayload : AuthorizedPayload Body) : ObservingNode Body Key PeerId :=
  if node.publisher.p2p.forwards authorizedPayload then
    node.sendFlashblockToSendSet authorizedPayload.msg.payloadId authorizedPayload.msg.index
  else node

def reception (authorizedPayload : AuthorizedPayload Body) (peer : PeerId) : ObservingNode Body Key PeerId × Reception :=
  match node.fanout.peers.lookup peer with
  | none => (node, .unknownPeer)
  | some peerState =>
    match peerState.receiveStatus with
    | .requesting => (node, .requesting)
    | .notReceiving =>
      (node, .notReceiving (peerState.receiveStatusTimestamp + 2 < authorizedPayload.authorization.timestamp))
    | .receiving _ =>
      let (noted, first) := node.notePeerReceivedFlashblock authorizedPayload.authorization authorizedPayload.msg peer
      (noted, if first then .first else .repeated)

def acceptable (authorizedPayload : AuthorizedPayload Body) : Bool :=
  node.publisher.p2p.payloadTimestamp - authorizationTimestampGraceSec ≤ authorizedPayload.authorization.timestamp ∧
    authorizedPayload.msg.index ≤ maxFlashblockIndex

variable [DecidableEq Key]

def handleFlashblocksPayloadV1 (peer : PeerId) (authorizedPayload : AuthorizedPayload Body) (builderVk : Key)
    (latency : Option ℤ) : ObservingNode Body Key PeerId :=
  if node.acceptable authorizedPayload then
    let (noted, reception) := node.reception authorizedPayload peer
    let publisher := (noted.publisher.handleFlashblocksPayloadV1 authorizedPayload builderVk reception).node
    match reception with
    | .first =>
      let scored := { noted with fanout := latency.elim noted.fanout (noted.fanout.recordSample peer) }
      { scored.forward authorizedPayload with publisher }
    | _ => { noted with publisher }
  else node

variable (localId : PeerId) (args : FanoutArgs PeerId)

def step : ObservingEvent Body Key PeerId → ObservingNode Body Key PeerId
  | .flashblock peer authorizedPayload builderVk latency =>
    if some builderVk = node.publisher.builderVk then node
    else node.handleFlashblocksPayloadV1 peer authorizedPayload builderVk latency
  | .notice notice => { node with publisher := node.publisher.step (.notice notice) }
  | .startPublishing newAuthorization => { node with publisher := node.publisher.step (.startPublishing newAuthorization) }
  | .stopPublishing => { node with publisher := node.publisher.step .stopPublishing }
  | .publishNew authorization authorizedPayload =>
    match node.publisher.publishNew authorization authorizedPayload with
    | .ok publisher => { node.forward authorizedPayload with publisher }
    | .error _ => node
  | .fanout moment event => { node with fanout := (node.fanout.react localId args moment event).state }

/-- The node after a sequence of events. -/
def after (events : List (ObservingEvent Body Key PeerId)) : ObservingNode Body Key PeerId :=
  events.foldl (fun node event => node.step localId args event) node

end

/-! ## The calls that note a flashblock -/

section

variable [DecidableEq Key] (node : ObservingNode Body Key PeerId)

def noted : ObservingEvent Body Key PeerId → Option ((PayloadId × ℕ) × PeerId)
  | .flashblock peer authorizedPayload builderVk _ =>
    if some builderVk ≠ node.publisher.builderVk ∧ node.acceptable authorizedPayload ∧
      (node.fanout.peers.lookup peer).any (·.isReceiving) then
      some ((authorizedPayload.msg.payloadId, authorizedPayload.msg.index), peer)
    else none
  | _ => none

def firstSeen (event : ObservingEvent Body Key PeerId) : Option ((PayloadId × ℕ) × PeerId) :=
  match event with
  | .flashblock peer authorizedPayload _ _ =>
    if (node.notePeerReceivedFlashblock authorizedPayload.authorization authorizedPayload.msg peer).2 then node.noted event
    else none
  | _ => none

/-- What is noted along a sequence of events. -/
def calls (localId : PeerId) (args : FanoutArgs PeerId) :
    ObservingNode Body Key PeerId → List (ObservingEvent Body Key PeerId) → List ((PayloadId × ℕ) × PeerId)
  | _, [] => []
  | node, event :: events => (node.noted event).toList ++ calls localId args (node.step localId args event) events

end

variable {node : ObservingNode Body Key PeerId}

theorem note_memory (authorization : Authorization) (flashblock : FlashblocksPayloadV1 Body) (peer : PeerId) :
    ((node.notePeerReceivedFlashblock authorization flashblock peer).1.memory,
      (node.notePeerReceivedFlashblock authorization flashblock peer).2) =
    Recent.note receiveFlashblockGraceWindow node.memory ((flashblock.payloadId, flashblock.index), peer) := by
  rw [Recent.note, find_memory, notePeerReceivedFlashblock]
  cases node.observed.find? (·.isFor flashblock.payloadId flashblock.index) with
  | some observed =>
    refine Prod.ext ?_ rfl
    exact Recent.map_amendFirst ObservedPayload.received ObservedPayload.decide_received_eq (fun _ _ => rfl) node.observed
  | none =>
    refine Prod.ext ?_ rfl
    simp only [memory, List.map_append, Recent.map_evict, Option.map_none]
    rfl

theorem memory_forward (node : ObservingNode Body Key PeerId) (authorizedPayload : AuthorizedPayload Body) :
    (node.forward authorizedPayload).memory = node.memory := by
  rw [forward]
  split
  · apply Recent.map_amendFirst_eq
    intro observed
    rfl
  · rfl

theorem reception_of_not_receiving {peer : PeerId} (authorizedPayload : AuthorizedPayload Body)
    (idle : ¬ (node.fanout.peers.lookup peer).any (·.isReceiving)) : (node.reception authorizedPayload peer).1 = node := by
  rw [reception]
  split
  · rfl
  · next peerState present =>
    split
    · rfl
    · rfl
    · next score status =>
      rw [present, Option.any_some, FlashblocksPeerState.isReceiving, status] at idle
      exact absurd rfl idle

theorem reception_of_receiving {peer : PeerId} (authorizedPayload : AuthorizedPayload Body)
    (receiving : (node.fanout.peers.lookup peer).any (·.isReceiving)) :
    (node.reception authorizedPayload peer).1 =
      (node.notePeerReceivedFlashblock authorizedPayload.authorization authorizedPayload.msg peer).1 := by
  obtain ⟨peerState, present, receives⟩ := (Option.any_eq_true ..).mp receiving
  rw [FlashblocksPeerState.isReceiving] at receives
  split at receives
  · next score status => simp only [reception, present, status]
  · cases receives

variable [DecidableEq Key] {localId : PeerId} {args : FanoutArgs PeerId}

theorem memory_handle (peer : PeerId) (authorizedPayload : AuthorizedPayload Body) (builderVk : Key)
    (latency : Option ℤ) (accepted : node.acceptable authorizedPayload = true) :
    (node.handleFlashblocksPayloadV1 peer authorizedPayload builderVk latency).memory =
      (node.reception authorizedPayload peer).1.memory := by
  rw [handleFlashblocksPayloadV1, if_pos accepted]
  rcases node.reception authorizedPayload peer with ⟨received, reception⟩
  cases reception with
  | first =>
    exact memory_forward { received with
      fanout := latency.elim received.fanout (received.fanout.recordSample peer) } authorizedPayload
  | _ => rfl

theorem memory_step (event : ObservingEvent Body Key PeerId) : (node.step localId args event).memory =
    (node.noted event).elim node.memory fun call => (Recent.note receiveFlashblockGraceWindow node.memory call).1 := by
  cases event with
  | flashblock peer authorizedPayload builderVk latency =>
    simp only [step, noted]
    by_cases own : some builderVk = node.publisher.builderVk
    · rw [if_pos own, if_neg (fun holds => holds.1 own)]
      rfl
    · rw [if_neg own]
      by_cases accepted : node.acceptable authorizedPayload = true
      · rw [memory_handle peer authorizedPayload builderVk latency accepted]
        by_cases receiving : (node.fanout.peers.lookup peer).any (·.isReceiving)
        · rw [reception_of_receiving authorizedPayload receiving, if_pos ⟨own, accepted, receiving⟩]
          exact congrArg Prod.fst (note_memory authorizedPayload.authorization authorizedPayload.msg peer)
        · rw [reception_of_not_receiving authorizedPayload receiving, if_neg (fun holds => receiving holds.2.2)]
          rfl
      · rw [handleFlashblocksPayloadV1, if_neg accepted, if_neg (fun holds => accepted holds.2.1)]
        rfl
  | publishNew authorization authorizedPayload =>
    simp only [step, noted]
    split
    · exact node.memory_forward authorizedPayload
    · rfl
  | _ => rfl

theorem firstSeen_eq_some {event : ObservingEvent Body Key PeerId} {call : (PayloadId × ℕ) × PeerId} :
    node.firstSeen event = some call ↔ node.noted event = some call ∧
      (Recent.note receiveFlashblockGraceWindow node.memory call).2 = true := by
  cases event with
  | flashblock peer authorizedPayload builderVk latency =>
    rw [firstSeen, congrArg Prod.snd (note_memory authorizedPayload.authorization authorizedPayload.msg peer)]
    have key : ∀ {call}, node.noted (.flashblock peer authorizedPayload builderVk latency) = some call →
        call = ((authorizedPayload.msg.payloadId, authorizedPayload.msg.index), peer) := fun holds => by
      rw [noted, Option.ite_none_right_eq_some] at holds
      exact (Option.some.inj holds.2).symm
    rw [Option.ite_none_right_eq_some, and_comm]
    refine and_congr_right fun holds => ?_
    rw [key holds]
  | _ => simp [firstSeen, noted]

/-! ## Whole runs -/

theorem calls_append_singleton (localId : PeerId) (args : FanoutArgs PeerId) (node : ObservingNode Body Key PeerId)
    (events : List (ObservingEvent Body Key PeerId)) (event : ObservingEvent Body Key PeerId) :
    calls localId args node (events ++ [event]) =
      calls localId args node events ++ ((node.after localId args events).noted event).toList := by
  induction events generalizing node with
  | nil => simp [calls, after]
  | cons first events ih => rw [List.cons_append, calls, ih, calls, List.append_assoc]; rfl

theorem memory_after (builderVk : Option Key) (events : List (ObservingEvent Body Key PeerId)) :
    ((initial builderVk).after localId args events).memory =
      Recent.after receiveFlashblockGraceWindow (calls localId args (initial builderVk) events) := by
  induction events using List.reverseRecOn with
  | nil => rfl
  | append_singleton events event ih =>
    have last : (initial builderVk).after localId args (events ++ [event]) =
        ((initial builderVk).after localId args events).step localId args event := by simp [after]
    rw [last, memory_step, calls_append_singleton, ih]
    cases ((initial builderVk).after localId args events).noted event with
    | none => rw [Option.elim_none, Option.toList_none, List.append_nil]
    | some call => rw [Option.elim_some, Option.toList_some, Recent.after_append_singleton]

theorem calls_append_prefix (localId : PeerId) (args : FanoutArgs PeerId) (node : ObservingNode Body Key PeerId)
    (events rest : List (ObservingEvent Body Key PeerId)) :
    ∃ later, calls localId args node (events ++ rest) = calls localId args node events ++ later := by
  induction rest using List.reverseRecOn with
  | nil => exact ⟨[], by simp⟩
  | append_singleton rest event ih =>
    obtain ⟨later, split⟩ := ih
    rw [← List.append_assoc, calls_append_singleton, split, List.append_assoc]
    exact ⟨_, rfl⟩

/-- With fewer than fifty other flashblocks between two notes of one, none is reported twice as the first from the same
peer. -/
theorem first_seen_once (localId : PeerId) (args : FanoutArgs PeerId) (builderVk : Option Key)
    (events : List (ObservingEvent Body Key PeerId))
    (spaced : Recent.Spaced receiveFlashblockGraceWindow (calls localId args (initial builderVk) events))
    (past between rest : List (ObservingEvent Body Key PeerId)) (event again : ObservingEvent Body Key PeerId)
    (split : events = past ++ event :: between ++ again :: rest) (call : (PayloadId × ℕ) × PeerId)
    (first : ((initial builderVk).after localId args past).firstSeen event = some call) :
    ((initial builderVk).after localId args (past ++ event :: between)).firstSeen again ≠ some call := by
  intro second
  obtain ⟨noted, _⟩ := firstSeen_eq_some.mp first
  obtain ⟨repeated, reported⟩ := firstSeen_eq_some.mp second
  -- the notes up to the second event end with the same call, and contain the first
  have ends := calls_append_singleton localId args (initial builderVk) (past ++ event :: between) again
  rw [repeated, Option.toList_some] at ends
  have within : Recent.Spaced receiveFlashblockGraceWindow
      (calls localId args (initial builderVk) (past ++ event :: between) ++ [call]) := by
    obtain ⟨later, whole⟩ := calls_append_prefix localId args (initial builderVk)
      (past ++ event :: between ++ [again]) rest
    rw [ends] at whole
    rw [split, List.append_cons, whole] at spaced
    exact spaced.of_append
  rw [memory_after, Recent.note_snd_iff_not_mem (by decide) within] at reported
  apply reported
  obtain ⟨later, whole⟩ := calls_append_prefix localId args (initial builderVk) (past ++ [event]) between
  rw [List.append_assoc, List.singleton_append, calls_append_singleton, noted] at whole
  rw [whole]
  simp

/-- A node that receives from one peer. -/
def oneSource : FanoutArgs ℕ := ⟨0, 1, 30, 16, []⟩

/-- The peer connects, is asked, and accepts. -/
def accepted : List (ObservingEvent Unit ℕ ℕ) :=
  [.fanout (FanoutState.sampleMoment 100 0) (.connected 1),
    .fanout (FanoutState.sampleMoment 100 0) (.message 1 .acceptFlashblocks)]

def sends (index : ℕ) : ObservingEvent Unit ℕ ℕ := .flashblock 1 ⟨⟨7, 100⟩, ⟨7, index, none, ()⟩, 0⟩ 2 none

theorem first_seen_once_of_two : ((initial none).after 9 oneSource accepted).firstSeen (sends 0) = some ((7, 0), 1) ∧
    ((initial none).after 9 oneSource (accepted ++ [sends 0])).firstSeen (sends 0) ≠ some ((7, 0), 1) := by
  have first : ((initial none).after 9 oneSource accepted).firstSeen (sends 0) = some ((7, 0), 1) := by decide +kernel
  refine ⟨first, ?_⟩
  exact first_seen_once 9 oneSource none (accepted ++ sends 0 :: [] ++ sends 0 :: [])
    (Recent.spaced_of_length_le (by decide +kernel)) accepted [] [] (sends 0) (sends 0) rfl ((7, 0), 1) first

theorem first_seen_again_after_fifty :
    ((initial none).after 9 oneSource accepted).firstSeen (sends 0) = some ((7, 0), 1) ∧
    ((initial none).after 9 oneSource (accepted ++ (List.range 51).map sends)).firstSeen (sends 0) = some ((7, 0), 1) ∧
    ((initial none).after 9 oneSource (accepted ++ (List.range 51).map sends)).acceptable
      ⟨⟨7, 100⟩, ⟨7, 0, none, ()⟩, 0⟩ = true := by
  decide +kernel

end ObservingNode

end WorldChain.P2P
