import WorldChain.Lib.Table

/-! # Bounded fanout

Each node receives flashblocks from a few peers that it has asked, and sends them to the peers whose request it has
accepted. This is the part of the protocol state that the control messages, the connections and the rotation timer work
on.
-/

namespace WorldChain.P2P

open Table

inductive ControlMsg
  | requestFlashblocks
  | acceptFlashblocks
  | rejectFlashblocks
  | cancelFlashblocks
deriving DecidableEq, Repr

/-- A moving average with a smoothing window. -/
structure Score where
  value : Option ℤ
  window : ℤ
  positive : 1 ≤ window
deriving DecidableEq

namespace Score

def new (window : ℤ) : Score := ⟨none, max window 1, le_max_right ..⟩

def record (score : Score) (sample : ℤ) : Score :=
  { score with
    value := some (match score.value with
      | some current => (current * (score.window - 1) + sample).tdiv score.window
      | none => sample) }

end Score

inductive ReceiveStatus
  | notReceiving
  | receiving (score : Score)
  | requesting
deriving DecidableEq

/-- What is kept for a connected peer. -/
structure FlashblocksPeerState where
  trusted : Bool
  sendEnabled : Bool
  receiveStatus : ReceiveStatus
  receiveStatusTimestamp : ℕ
  controlMsgCount : ℕ
  controlMsgWindowStart : ℕ
deriving DecidableEq

structure FanoutArgs (PeerId : Type*) where
  maxSendPeers : ℕ
  maxReceivePeers : ℕ
  rotationInterval : ℕ
  scoreSamples : ℤ
  forceReceivePeers : List PeerId

def maxControlMsgsPerWindow : ℕ := 10

def controlMsgWindow : ℕ := 30 * 10 ^ 9

def receiveRequestTimeoutSecs : ℕ := 2

structure Moment (PeerId : Type*) where
  now : ℕ
  instant : ℕ
  chooser : Chooser PeerId

namespace FlashblocksPeerState

/-- A peer that has just connected. -/
def new (instant : ℕ) : FlashblocksPeerState := ⟨false, false, .notReceiving, 0, 0, instant⟩

variable (peerState : FlashblocksPeerState)

def isReceiving : Bool :=
  match peerState.receiveStatus with
  | .receiving _ => true
  | _ => false

def isReceivingOrRequesting : Bool := peerState.receiveStatus ≠ .notReceiving

def score : WithTop ℤ :=
  match peerState.receiveStatus with
  | .receiving score => score.value
  | _ => none

def clearReceiveState (now : ℕ) : FlashblocksPeerState :=
  { peerState with receiveStatus := .notReceiving, receiveStatusTimestamp := now }

def beginRequesting (now : ℕ) : FlashblocksPeerState :=
  { peerState with receiveStatus := .requesting, receiveStatusTimestamp := now }

def isStale (now : ℕ) : Bool :=
  peerState.receiveStatus = .requesting ∧ peerState.receiveStatusTimestamp + receiveRequestTimeoutSecs ≤ now

def recordSample (sample : ℤ) : FlashblocksPeerState :=
  match peerState.receiveStatus with
  | .receiving score => { peerState with receiveStatus := .receiving (score.record sample) }
  | _ => peerState

def noteControlMsg (instant : ℕ) : FlashblocksPeerState :=
  if instant - peerState.controlMsgWindowStart > controlMsgWindow then
    { peerState with controlMsgCount := 1, controlMsgWindowStart := instant }
  else { peerState with controlMsgCount := peerState.controlMsgCount + 1 }

end FlashblocksPeerState

/-- The connected peers. -/
structure FanoutState (PeerId : Type*) where
  peers : Finmap fun _ : PeerId => FlashblocksPeerState

variable {PeerId : Type*} [DecidableEq PeerId]

/-- Two steps in a row, with what both send. -/
def andThen (first : FanoutState PeerId × List (PeerId × ControlMsg))
    (second : FanoutState PeerId → FanoutState PeerId × List (PeerId × ControlMsg)) :
    FanoutState PeerId × List (PeerId × ControlMsg) :=
  ((second first.1).1, first.2 ++ (second first.1).2)

/-- The result of handling a message: `penalised` when the sender's reputation suffers. -/
structure Outcome (PeerId : Type*) where
  state : FanoutState PeerId
  sent : List (PeerId × ControlMsg)
  penalised : Bool

namespace FanoutState

variable (args : FanoutArgs PeerId) (moment : Moment PeerId) (state : FanoutState PeerId) (peer : PeerId)

/-- Send a message to a connected peer. -/
def sendDirect (msg : ControlMsg) : List (PeerId × ControlMsg) := if peer ∈ state.peers then [(peer, msg)] else []

def checkControlRateLimit : FanoutState PeerId × Bool :=
  match state.peers.lookup peer with
  | none => (state, true)
  | some peerState =>
    let peerState := peerState.noteControlMsg moment.instant
    (⟨state.peers.insert peer peerState⟩, peerState.controlMsgCount > maxControlMsgsPerWindow)

def numReceivePeers : ℕ := count (fun _ peerState => peerState.isReceiving) state.peers

def numReceiveOrRequestingPeers : ℕ := count (fun _ peerState => peerState.isReceivingOrRequesting) state.peers

def receiveRetryCooldownSecs : ℕ := max args.rotationInterval 1

def availableReceiveCandidates : Finset PeerId :=
  select (fun _ peerState => peerState.receiveStatus = .notReceiving ∧ (peerState.receiveStatusTimestamp = 0 ∨
    peerState.receiveStatusTimestamp + receiveRetryCooldownSecs args ≤ moment.now)) state.peers

def beginRequestingPeer : FanoutState PeerId × List (PeerId × ControlMsg) :=
  (⟨adjust peer (·.beginRequesting moment.now) state.peers⟩, state.sendDirect peer .requestFlashblocks)

def requestForcePeers : List PeerId → FanoutState PeerId → FanoutState PeerId × List (PeerId × ControlMsg)
  | [], state => (state, [])
  | forcePeer :: others, state =>
    andThen (if (state.peers.lookup forcePeer).any (·.receiveStatus = .notReceiving) then
      state.beginRequestingPeer moment forcePeer else (state, [])) (requestForcePeers others)

def requestLoop : ℕ → FanoutState PeerId → FanoutState PeerId × List (PeerId × ControlMsg)
  | 0, state => (state, [])
  | fuel + 1, state =>
    if state.numReceiveOrRequestingPeers < args.maxReceivePeers then
      if state.availableReceiveCandidates args moment = ∅ then (state, [])
      else andThen (state.beginRequestingPeer moment
        (moment.chooser.pick (state.availableReceiveCandidates args moment))) (requestLoop fuel)
    else (state, [])

def maybeRequestReceivePeers : FanoutState PeerId × List (PeerId × ControlMsg) :=
  andThen (requestForcePeers moment args.forceReceivePeers state) (requestLoop args moment args.maxReceivePeers)

def expireStaleReceiveRequests : FanoutState PeerId × List (PeerId × ControlMsg) :=
  let cleared : FanoutState PeerId := ⟨mapEntries (fun _ peerState =>
    if peerState.isStale moment.now then peerState.clearReceiveState moment.now else peerState) state.peers⟩
  if select (fun _ peerState => peerState.isStale moment.now) state.peers = ∅ then (cleared, [])
  else cleared.maybeRequestReceivePeers args moment

/-- The peers that rotation may evict. -/
def rotatablePeers : Finset PeerId :=
  select (fun peer peerState => peer ∉ args.forceReceivePeers ∧ peerState.isReceiving) state.peers

def scoreOf : WithTop ℤ := ((state.peers.lookup peer).map (·.score)).getD none

def worstReceivePeer : Option PeerId :=
  if state.rotatablePeers args = ∅ then none
  else some (moment.chooser.pick ((state.rotatablePeers args).filter fun peer =>
    ∀ other ∈ state.rotatablePeers args, state.scoreOf other ≤ state.scoreOf peer))

def maybeStartRotation : FanoutState PeerId × List (PeerId × ControlMsg) :=
  if state.numReceivePeers < args.maxReceivePeers then (state, [])
  else
    match state.worstReceivePeer args moment with
    | none => (state, [])
    | some evict =>
      if state.availableReceiveCandidates args moment = ∅ then (state, [])
      else
        let candidate := moment.chooser.pick (state.availableReceiveCandidates args moment)
        let cleared : FanoutState PeerId := ⟨adjust evict (·.clearReceiveState moment.now) state.peers⟩
        andThen (cleared, cleared.sendDirect evict .cancelFlashblocks) (·.beginRequestingPeer moment candidate)

def sendCount : ℕ := count (fun _ peerState => peerState.sendEnabled) state.peers

def handleRequest : Outcome PeerId :=
  let (state, limited) := state.checkControlRateLimit moment peer
  if limited then ⟨state, [], true⟩
  else
    match state.peers.lookup peer with
    | none => ⟨state, [], false⟩
    | some peerState =>
      if peerState.sendEnabled then ⟨state, [], true⟩
      else if ¬ peerState.trusted ∧ state.sendCount ≥ args.maxSendPeers then
        ⟨state, state.sendDirect peer .rejectFlashblocks, false⟩
      else
        let accepted : FanoutState PeerId := ⟨adjust peer (fun peerState => { peerState with sendEnabled := true }) state.peers⟩
        ⟨accepted, accepted.sendDirect peer .acceptFlashblocks, false⟩

def handleAccept : Outcome PeerId :=
  let (state, limited) := state.checkControlRateLimit moment peer
  if limited then ⟨state, [], true⟩
  else
    match state.peers.lookup peer with
    | none => ⟨state, [], false⟩
    | some peerState =>
      match peerState.receiveStatus with
      | .requesting =>
        ⟨⟨state.peers.insert peer { peerState with receiveStatus := .receiving (.new args.scoreSamples) }⟩, [], false⟩
      | _ => ⟨state, [], true⟩

def handleReject : Outcome PeerId :=
  let (state, limited) := state.checkControlRateLimit moment peer
  if limited then ⟨state, [], true⟩
  else
    match state.peers.lookup peer with
    | none => ⟨state, [], false⟩
    | some peerState =>
      match peerState.receiveStatus with
      | .requesting =>
        let cleared : FanoutState PeerId := ⟨state.peers.insert peer (peerState.clearReceiveState moment.now)⟩
        let (state, sent) := cleared.maybeRequestReceivePeers args moment
        ⟨state, sent, false⟩
      | _ => ⟨state, [], true⟩

def handleCancel : Outcome PeerId :=
  let (state, limited) := state.checkControlRateLimit moment peer
  if limited then ⟨state, [], true⟩
  else
    match state.peers.lookup peer with
    | none => ⟨state, [], false⟩
    | some peerState =>
      if peerState.sendEnabled then ⟨⟨state.peers.insert peer { peerState with sendEnabled := false }⟩, [], false⟩
      else ⟨state, [], true⟩

/-- A control message from a peer. -/
def handle : ControlMsg → Outcome PeerId
  | .requestFlashblocks => state.handleRequest args moment peer
  | .acceptFlashblocks => state.handleAccept args moment peer
  | .rejectFlashblocks => state.handleReject args moment peer
  | .cancelFlashblocks => state.handleCancel moment peer

/-- A connection of ours to ourselves is ignored. -/
def onPeerConnected (localId : PeerId) : FanoutState PeerId × List (PeerId × ControlMsg) :=
  if peer = localId then (state, [])
  else maybeRequestReceivePeers args moment ⟨state.peers.insert peer (.new moment.instant)⟩

def onPeerDisconnected : FanoutState PeerId × List (PeerId × ControlMsg) :=
  maybeRequestReceivePeers args moment ⟨state.peers.erase peer⟩

def setTrusted (trusted : Bool) : FanoutState PeerId :=
  ⟨adjust peer (fun peerState => { peerState with trusted }) state.peers⟩

def recordSample (sample : ℤ) : FanoutState PeerId := ⟨adjust peer (·.recordSample sample) state.peers⟩

/-- The rotation timer. -/
def tick : FanoutState PeerId × List (PeerId × ControlMsg) :=
  andThen (andThen (state.expireStaleReceiveRequests args moment) (·.maybeRequestReceivePeers args moment))
    (·.maybeStartRotation args moment)

end FanoutState

/-- What happens to the fanout of a node. -/
inductive FanoutEvent (PeerId : Type*)
  | connected (peer : PeerId)
  | disconnected (peer : PeerId)
  | trustResolved (peer : PeerId) (trusted : Bool)
  | sampled (peer : PeerId) (sample : ℤ)
  | message (peer : PeerId) (msg : ControlMsg)
  | tick

namespace FanoutState

variable (localId : PeerId) (args : FanoutArgs PeerId) (moment : Moment PeerId) (state : FanoutState PeerId)

/-- The outcome of an event. -/
def react : FanoutEvent PeerId → Outcome PeerId
  | .connected peer => ⟨(state.onPeerConnected args moment peer localId).1, (state.onPeerConnected args moment peer localId).2, false⟩
  | .disconnected peer => ⟨(state.onPeerDisconnected args moment peer).1, (state.onPeerDisconnected args moment peer).2, false⟩
  | .trustResolved peer trusted => ⟨state.setTrusted peer trusted, [], false⟩
  | .sampled peer sample => ⟨state.recordSample peer sample, [], false⟩
  | .message peer msg => state.handle args moment peer msg
  | .tick => ⟨(state.tick args moment).1, (state.tick args moment).2, false⟩

/-- No peers are connected at first. -/
def initial : FanoutState PeerId := ⟨∅⟩

def after (events : List (Moment PeerId × FanoutEvent PeerId)) : FanoutState PeerId :=
  events.foldl (fun state event => (state.react localId args event.1 event.2).state) initial

end FanoutState

end WorldChain.P2P
