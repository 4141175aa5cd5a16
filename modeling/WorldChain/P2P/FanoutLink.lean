import WorldChain.Lib.Duplex
import WorldChain.P2P.FanoutBounds

/-! # The two ends of a fanout link

Two nodes connected to each other, each with any other peers besides. Each end asks, cancels, accepts and rejects by
the same rules, so the two directions of a link are alike: one end asks for flashblocks and gives them up, the other
one answers.
-/

namespace WorldChain.P2P

open Table Duplex Machine

variable {PeerId : Type*} [DecidableEq PeerId]

/-- How far an end has come in receiving from the other. -/
inductive Stage
  | idle
  | requesting
  | receiving
deriving DecidableEq, Repr

def ReceiveStatus.stage : ReceiveStatus → Stage
  | .notReceiving => .idle
  | .requesting => .requesting
  | .receiving _ => .receiving

theorem FlashblocksPeerState.isReceiving_iff {peerState : FlashblocksPeerState} :
    peerState.isReceiving = true ↔ peerState.receiveStatus.stage = .receiving := by
  rw [isReceiving]
  cases peerState.receiveStatus <;> simp [ReceiveStatus.stage]

/-- The messages to one peer. -/
def toPeer (peer : PeerId) (sent : List (PeerId × ControlMsg)) : List ControlMsg :=
  sent.filterMap fun message => if message.1 = peer then some message.2 else none

theorem toPeer_self (peer : PeerId) (msg : ControlMsg) : toPeer peer [(peer, msg)] = [msg] := by simp [toPeer]

theorem toPeer_append (peer : PeerId) (first second : List (PeerId × ControlMsg)) :
    toPeer peer (first ++ second) = toPeer peer first ++ toPeer peer second := List.filterMap_append

/-- What an end does by itself towards the other: nothing, ask, or give it up. -/
inductive Moves : Stage → List ControlMsg → Stage → Prop
  | stays (stage : Stage) : Moves stage [] stage
  | requests : Moves .idle [.requestFlashblocks] .requesting
  | cancels : Moves .receiving [.cancelFlashblocks] .idle

/-- The end does nothing or asks. -/
inductive Asks : Stage → List ControlMsg → Stage → Prop
  | stays (stage : Stage) : Asks stage [] stage
  | requests : Asks .idle [.requestFlashblocks] .requesting

variable {first second : Stage} {sent : List ControlMsg}

theorem Asks.moves (asks : Asks first sent second) : Moves first sent second := by
  cases asks with
  | stays => exact .stays _
  | requests => exact .requests

theorem Asks.andThen {third : Stage} {later : List ControlMsg} (asks : Asks first sent second)
    (moves : Moves second later third) : Moves first (sent ++ later) third := by
  cases asks with
  | stays => exact moves
  | requests =>
    cases moves with
    | stays => exact .requests

theorem Asks.trans {third : Stage} {later : List ControlMsg} (left : Asks first sent second)
    (right : Asks second later third) : Asks first (sent ++ later) third := by
  cases left with
  | stays => exact right
  | requests =>
    cases right with
    | stays => exact .requests

namespace FanoutState

variable {args : FanoutArgs PeerId} {moment : Moment PeerId} {state middle after : FanoutState PeerId} {peer other : PeerId}
  {peerState : FlashblocksPeerState} {sent : List (PeerId × ControlMsg)}

def Follows (step : Stage → List ControlMsg → Stage → Prop) (peer : PeerId) (peerState : FlashblocksPeerState)
    (sent : List (PeerId × ControlMsg)) (after : FanoutState PeerId) : Prop :=
  ∃ later, after.peers.lookup peer = some later ∧ later.sendEnabled = peerState.sendEnabled ∧
    step peerState.receiveStatus.stage (toPeer peer sent) later.receiveStatus.stage

theorem Requesting.follows (requesting : Requesting args moment state sent after)
    (present : state.peers.lookup peer = some peerState) : Follows Asks peer peerState sent after := by
  induction requesting generalizing peerState with
  | done => exact ⟨peerState, present, rfl, .stays _⟩
  | @next state after asked entry sent held idle _ _ ih =>
    by_cases same : asked = peer
    · subst same
      obtain rfl : entry = peerState := Option.some.inj (held.symm.trans present)
      have begun : (state.beginRequestingPeer moment asked).1.peers.lookup asked =
          some (entry.beginRequesting moment.now) := by
        rw [beginRequestingPeer, lookup_adjust_self, held, Option.map_some]
      obtain ⟨later, found, enabled, asks⟩ := ih begun
      refine ⟨later, found, enabled, ?_⟩
      have told : toPeer asked ((asked, .requestFlashblocks) :: sent) = .requestFlashblocks :: toPeer asked sent := by
        simp [toPeer]
      rw [told, idle]
      -- the peer is now requesting, from where no further request is made
      generalize toPeer asked sent = rest at asks ⊢
      generalize later.receiveStatus.stage = stage at asks ⊢
      cases asks with
      | stays => exact .requests
    · have unchanged : (state.beginRequestingPeer moment asked).1.peers.lookup peer = some peerState := by
        rw [beginRequestingPeer, lookup_adjust_of_ne (Ne.symm same), present]
      have told : toPeer peer ((asked, .requestFlashblocks) :: sent) = toPeer peer sent := by
        simp [toPeer, same]
      rw [Follows, told]
      exact ih unchanged

theorem Follows.moves (follows : Follows Asks peer peerState sent after) : Follows Moves peer peerState sent after := by
  obtain ⟨later, found, enabled, asks⟩ := follows
  exact ⟨later, found, enabled, asks.moves⟩

theorem follows_rotation (args : FanoutArgs PeerId) (moment : Moment PeerId)
    (present : state.peers.lookup peer = some peerState) :
    Follows Moves peer peerState (state.maybeStartRotation args moment).2 (state.maybeStartRotation args moment).1 := by
  rcases state.maybeStartRotation_cases args moment with same | rotated
  · rw [same]
    exact ⟨peerState, present, rfl, .stays _⟩
  · obtain ⟨evict, candidate, evicted, chosen, _, different, held, receiving, found, idle, result⟩ := rotated
    rw [result]
    by_cases gone : peer = evict
    · subst gone
      obtain rfl : evicted = peerState := Option.some.inj (held.symm.trans present)
      refine ⟨evicted.clearReceiveState moment.now, ?_, rfl, ?_⟩
      · rw [lookup_adjust_of_ne different, lookup_adjust_self, held, Option.map_some]
      · have told : toPeer peer [(peer, ControlMsg.cancelFlashblocks), (candidate, .requestFlashblocks)] =
            [.cancelFlashblocks] := by
          simp [toPeer, different.symm]
        rw [FlashblocksPeerState.isReceiving_iff.mp receiving, told]
        exact .cancels
    · by_cases asked : peer = candidate
      · subst asked
        obtain rfl : chosen = peerState := Option.some.inj (found.symm.trans present)
        refine ⟨chosen.beginRequesting moment.now, ?_, rfl, ?_⟩
        · rw [lookup_adjust_self, lookup_adjust_of_ne gone, found, Option.map_some]
        · have told : toPeer peer [(evict, ControlMsg.cancelFlashblocks), (peer, .requestFlashblocks)] =
              [.requestFlashblocks] := by
            simp [toPeer, different]
          rw [idle, told]
          exact .requests
      · refine ⟨peerState, by rw [lookup_adjust_of_ne asked, lookup_adjust_of_ne gone, present], rfl, ?_⟩
        have told : toPeer peer [(evict, ControlMsg.cancelFlashblocks), (candidate, .requestFlashblocks)] = [] := by
          simp [toPeer, Ne.symm gone, Ne.symm asked]
        rw [told]
        exact .stays _

theorem Follows.andThen {rule : Stage → List ControlMsg → Stage → Prop}
    (compose : ∀ {first second third sent later}, Asks first sent second → rule second later third →
      rule first (sent ++ later) third)
    {step : FanoutState PeerId → FanoutState PeerId × List (PeerId × ControlMsg)}
    {first : FanoutState PeerId × List (PeerId × ControlMsg)} (left : Follows Asks peer peerState first.2 first.1)
    (right : ∀ between, first.1.peers.lookup peer = some between → Follows rule peer between (step first.1).2 (step first.1).1) :
    Follows rule peer peerState (P2P.andThen first step).2 (P2P.andThen first step).1 := by
  obtain ⟨between, held, enabled, asks⟩ := left
  obtain ⟨later, found, same, moves⟩ := right between held
  refine ⟨later, found, same.trans enabled, ?_⟩
  rw [P2P.andThen, toPeer_append]
  exact compose asks moves

theorem follows_tick (args : FanoutArgs PeerId) (present : state.peers.lookup peer = some peerState)
    (timely : peerState.isStale moment.now = false) :
    Follows Moves peer peerState (state.tick args moment).2 (state.tick args moment).1 := by
  obtain ⟨cleared, lookup, requesting⟩ := requesting_expire args moment state
  have kept : cleared.peers.lookup peer = some peerState := by
    rw [lookup, present, Option.map_some, timely]
    rfl
  refine Follows.andThen Asks.andThen ?_ fun between held => follows_rotation args moment held
  refine Follows.andThen Asks.trans (requesting.follows kept) fun between held => ?_
  exact (requesting_maybeRequest args moment _).follows held

theorem toPeer_of_towards {sent : List (PeerId × ControlMsg)} (different : other ≠ peer)
    (towards : ∀ letter ∈ sent, letter.1 = other) : toPeer peer sent = [] := by
  apply List.filterMap_eq_nil_iff.mpr
  intro letter member
  rw [if_neg]
  exact fun same => different ((towards letter member).symm.trans same)

theorem follows_handle_of_ne (args : FanoutArgs PeerId) (different : other ≠ peer)
    (present : state.peers.lookup peer = some peerState) (msg : ControlMsg) :
    Follows Asks peer peerState (state.handle args moment other msg).sent (state.handle args moment other msg).state := by
  have kept : (state.checkControlRateLimit moment other).1.peers.lookup peer = some peerState := by
    rw [checkControlRateLimit_fst, lookup_adjust_of_ne different.symm, present]
  have handled := handling args moment state other msg
  generalize (state.handle args moment other msg).sent = sent at handled ⊢
  generalize (state.handle args moment other msg).state = after at handled ⊢
  cases handled with
  | kept towards =>
    refine ⟨peerState, kept, rfl, ?_⟩
    rw [toPeer_of_towards different towards]
    exact .stays _
  | changed towards =>
    refine ⟨peerState, (Finmap.lookup_insert_of_ne _ different.symm).trans kept, rfl, ?_⟩
    rw [toPeer_of_towards different towards]
    exact .stays _
  | replaced =>
    exact (requesting_maybeRequest args moment _).follows ((Finmap.lookup_insert_of_ne _ different.symm).trans kept)

end FanoutState

def FanoutEvent.Concerns (peer : PeerId) : FanoutEvent PeerId → Prop
  | .connected other => other = peer
  | .disconnected other => other = peer
  | .message other _ => other = peer
  | _ => False

def FanoutState.TimesOut (state : FanoutState PeerId) (peer : PeerId) (moment : Moment PeerId) : FanoutEvent PeerId → Prop
  | .tick => (state.peers.lookup peer).any (·.isStale moment.now) = true
  | _ => False

instance FanoutEvent.decidableConcerns (peer : PeerId) : ∀ event : FanoutEvent PeerId, Decidable (event.Concerns peer)
  | .connected _ => inferInstanceAs (Decidable (_ = _))
  | .disconnected _ => inferInstanceAs (Decidable (_ = _))
  | .message _ _ => inferInstanceAs (Decidable (_ = _))
  | .trustResolved _ _ => inferInstanceAs (Decidable False)
  | .sampled _ _ => inferInstanceAs (Decidable False)
  | .tick => inferInstanceAs (Decidable False)

namespace FanoutState

variable {args : FanoutArgs PeerId} {moment : Moment PeerId} {state : FanoutState PeerId} {peer : PeerId}
  {peerState : FlashblocksPeerState}

instance decidableTimesOut (state : FanoutState PeerId) (peer : PeerId) (moment : Moment PeerId) :
    ∀ event, Decidable (state.TimesOut peer moment event)
  | .tick => inferInstanceAs (Decidable (_ = _))
  | .connected _ => inferInstanceAs (Decidable False)
  | .disconnected _ => inferInstanceAs (Decidable False)
  | .message _ _ => inferInstanceAs (Decidable False)
  | .trustResolved _ _ => inferInstanceAs (Decidable False)
  | .sampled _ _ => inferInstanceAs (Decidable False)

theorem follows_react (localId : PeerId) (args : FanoutArgs PeerId) {event : FanoutEvent PeerId}
    (present : state.peers.lookup peer = some peerState) (elsewhere : ¬ event.Concerns peer)
    (timely : ¬ state.TimesOut peer moment event) :
    Follows Moves peer peerState (state.react localId args moment event).sent (state.react localId args moment event).state := by
  cases event with
  | connected other =>
    have different : peer ≠ other := fun same => elsewhere same.symm
    simp only [react, onPeerConnected]
    split
    · exact ⟨peerState, present, rfl, .stays _⟩
    · exact ((requesting_maybeRequest args moment _).follows
        ((Finmap.lookup_insert_of_ne _ different).trans present)).moves
  | disconnected other =>
    have different : peer ≠ other := fun same => elsewhere same.symm
    exact ((requesting_maybeRequest args moment _).follows ((Finmap.lookup_erase_ne different).trans present)).moves
  | trustResolved other trusted =>
    by_cases same : peer = other
    · subst same
      refine ⟨{ peerState with trusted }, ?_, rfl, .stays _⟩
      rw [react, setTrusted, lookup_adjust_self, present, Option.map_some]
    · exact ⟨peerState, (lookup_adjust_of_ne same).trans present, rfl, .stays _⟩
  | sampled other sample =>
    by_cases same : peer = other
    · subst same
      refine ⟨peerState.recordSample sample, ?_, ?_, ?_⟩
      · rw [react, recordSample, lookup_adjust_self, present, Option.map_some]
      · rw [FlashblocksPeerState.recordSample]
        split <;> rfl
      · have stage : (peerState.recordSample sample).receiveStatus.stage = peerState.receiveStatus.stage := by
          rw [FlashblocksPeerState.recordSample]
          split
          · next score receiving => rw [receiving]; rfl
          · rfl
        rw [stage]
        exact .stays _
    · exact ⟨peerState, (lookup_adjust_of_ne same).trans present, rfl, .stays _⟩
  | message other msg => exact (follows_handle_of_ne args elsewhere present msg).moves
  | tick =>
    apply follows_tick args present
    simpa [TimesOut, present] using timely

end FanoutState

/-! ## The messages of one direction -/

@[simp] def ControlMsg.isAsk : ControlMsg → Bool
  | requestFlashblocks | cancelFlashblocks => true
  | acceptFlashblocks | rejectFlashblocks => false

def asks (messages : List ControlMsg) : List ControlMsg := messages.filter (·.isAsk)

def answers (messages : List ControlMsg) : List ControlMsg := messages.filter (!·.isAsk)

section

variable (msg : ControlMsg) (first second rest : List ControlMsg)

theorem asks_append : asks (first ++ second) = asks first ++ asks second := List.filter_append ..

theorem answers_append : answers (first ++ second) = answers first ++ answers second := List.filter_append ..

@[simp] theorem asks_nil : asks [] = [] := rfl

@[simp] theorem answers_nil : answers [] = [] := rfl

@[simp] theorem asks_cons : asks (msg :: rest) = if msg.isAsk then msg :: asks rest else asks rest :=
  List.filter_cons ..

@[simp] theorem answers_cons : answers (msg :: rest) = if !msg.isAsk then msg :: answers rest else answers rest :=
  List.filter_cons ..

end

inductive Agree : Stage → Bool → List ControlMsg → List ControlMsg → Prop
  | idle : Agree .idle false [] []
  | cancelled : Agree .idle true [.cancelFlashblocks] []
  | requested : Agree .requesting false [.requestFlashblocks] []
  | requestedAgain : Agree .requesting true [.cancelFlashblocks, .requestFlashblocks] []
  | accepted : Agree .requesting true [] [.acceptFlashblocks]
  | rejected : Agree .requesting false [] [.rejectFlashblocks]
  | receiving : Agree .receiving true [] []

namespace Agree

variable {stage later : Stage} {sending : Bool} {asked answered sent : List ControlMsg}

theorem moves (agree : Agree stage sending asked answered) (moves : Moves stage sent later) :
    Agree later sending (asked ++ sent) answered := by
  cases moves with
  | stays => rwa [List.append_nil]
  | requests =>
    cases agree with
    | idle => exact .requested
    | cancelled => exact .requestedAgain
  | cancels =>
    cases agree with
    | receiving => exact .cancelled

theorem request (agree : Agree stage sending (.requestFlashblocks :: asked) answered) :
    stage = .requesting ∧ sending = false ∧ asked = [] ∧ answered = [] := by
  cases agree
  exact ⟨rfl, rfl, rfl, rfl⟩

theorem cancel (agree : Agree stage sending (.cancelFlashblocks :: asked) answered) :
    sending = true ∧ Agree stage false asked answered := by
  cases agree with
  | cancelled => exact ⟨rfl, .idle⟩
  | requestedAgain => exact ⟨rfl, .requested⟩

theorem accept (agree : Agree stage sending asked (.acceptFlashblocks :: answered)) :
    stage = .requesting ∧ Agree .receiving sending asked answered := by
  cases agree
  exact ⟨rfl, .receiving⟩

theorem reject (agree : Agree stage sending asked (.rejectFlashblocks :: answered)) :
    stage = .requesting ∧ Agree .idle sending asked answered := by
  cases agree
  exact ⟨rfl, .idle⟩

theorem quiet (agree : Agree stage sending [] []) : sending = true ↔ stage = .receiving := by
  cases agree with
  | idle => simp
  | receiving => simp

end Agree

theorem Moves.asks_only (moves : Moves first sent second) :
    asks sent = sent ∧ answers sent = [] := by
  cases moves with
  | stays => exact ⟨rfl, rfl⟩
  | requests => exact ⟨rfl, rfl⟩
  | cancels => exact ⟨rfl, rfl⟩

theorem ReceiveStatus.stage_eq_requesting {status : ReceiveStatus} : status.stage = .requesting ↔ status = .requesting := by
  cases status <;> simp [stage]

/-! ## The link -/

/-- One end of a link: a node, the peer at the other end, and whether the node has penalised it. -/
structure LinkEnd (PeerId : Type*) where
  localId : PeerId
  peer : PeerId
  args : FanoutArgs PeerId
  state : FanoutState PeerId
  penalised : Bool

namespace LinkEnd

/-- The peer is in the send set. -/
def sends (node : LinkEnd PeerId) : Bool := (node.state.peers.lookup node.peer).any (·.sendEnabled)

/-- The node receives from the peer. -/
def receives (node : LinkEnd PeerId) : Bool := (node.state.peers.lookup node.peer).any (·.isReceiving)

def protocol : Protocol (LinkEnd PeerId) (Moment PeerId × FanoutEvent PeerId) (Moment PeerId) ControlMsg where
  act node action :=
    let outcome := node.state.react node.localId node.args action.1 action.2
    ({ node with state := outcome.state }, toPeer node.peer outcome.sent)
  handle node moment msg :=
    let outcome := node.state.handle node.args moment node.peer msg
    ({ node with state := outcome.state, penalised := node.penalised || outcome.penalised },
      toPeer node.peer outcome.sent)

/-- The connection stays up, messages of the other end come over it alone, and they stay within the limit. -/
def Orderly (link : Link (LinkEnd PeerId) ControlMsg) : Event (Moment PeerId × FanoutEvent PeerId) (Moment PeerId) → Prop
  | .act side action => ¬ action.2.Concerns (link.node side).peer
  | .deliver side moment => ((link.node side).state.checkControlRateLimit moment (link.node side).peer).2 = false

/-- No request from one end to the other is given up for want of an answer. -/
def Timely (link : Link (LinkEnd PeerId) ControlMsg) : Event (Moment PeerId × FanoutEvent PeerId) (Moment PeerId) → Prop
  | .act side action => ¬ (link.node side).state.TimesOut (link.node side).peer action.1 action.2
  | .deliver _ _ => True

def connect (localId : Side → PeerId) (args : Side → FanoutArgs PeerId) (before : Side → FanoutState PeerId)
    (moment : Side → Moment PeerId) : Link (LinkEnd PeerId) ControlMsg where
  node side := ⟨localId side, localId side.other, args side,
    ((before side).onPeerConnected (args side) (moment side) (localId side.other) (localId side)).1, false⟩
  inbox side := toPeer (localId side)
    ((before side.other).onPeerConnected (args side.other) (moment side.other) (localId side) (localId side.other)).2

/-- The two ends know each other and agree in both directions, and neither has penalised the other. -/
structure Agreed (link : Link (LinkEnd PeerId) ControlMsg) (entry : Side → FlashblocksPeerState) : Prop where
  known (side : Side) : (link.node side).state.peers.lookup (link.node side).peer = some (entry side)
  agree (side : Side) : Agree (entry side).receiveStatus.stage (entry side.other).sendEnabled
    (asks (link.inbox side.other)) (answers (link.inbox side))
  satisfied (side : Side) : (link.node side).penalised = false

variable {link : Link (LinkEnd PeerId) ControlMsg} {entry : Side → FlashblocksPeerState} {side : Side}

theorem Agreed.moved (agreed : Agreed link entry) (side : Side) (rest : List ControlMsg) (result : LinkEnd PeerId × List ControlMsg)
    (later : FlashblocksPeerState) (known : result.1.state.peers.lookup result.1.peer = some later)
    (satisfied : result.1.penalised = false)
    (asking : Agree later.receiveStatus.stage (entry side.other).sendEnabled
      (asks (link.inbox side.other) ++ asks result.2) (answers rest))
    (answering : Agree (entry side.other).receiveStatus.stage later.sendEnabled (asks rest)
      (answers (link.inbox side.other) ++ answers result.2)) :
    ∃ entry, Agreed ((link.taken side rest).moved side result) entry := by
  refine ⟨Function.update entry side later, ?_, ?_, ?_⟩
  · refine Side.forall_of side ?_ ?_
    · rw [Link.moved_node, Function.update_self]
      exact known
    · rw [Link.moved_node_other, Link.taken_node, Function.update_of_ne side.other_ne]
      exact agreed.known side.other
  · refine Side.forall_of side ?_ ?_
    · simpa [asks_append] using asking
    · simpa [answers_append] using answering
  · refine Side.forall_of side ?_ ?_
    · simpa using satisfied
    · simpa using agreed.satisfied side.other

theorem Agreed.acts (agreed : Agreed link entry) {action : Moment PeerId × FanoutEvent PeerId}
    (orderly : Orderly link (.act side action)) (timely : Timely link (.act side action)) :
    ∃ entry, Agreed (link.moved side (protocol.act (link.node side) action)) entry := by
  obtain ⟨later, known, enabled, moves⟩ :=
    FanoutState.follows_react (link.node side).localId (link.node side).args (agreed.known side) orderly timely
  obtain ⟨asksOnly, noAnswer⟩ := moves.asks_only
  have moved := agreed.moved side (link.inbox side) (protocol.act (link.node side) action) later known
    (agreed.satisfied side) ?_ ?_
  · rwa [Link.taken_self] at moved
  · rw [protocol, asksOnly]
    exact (agreed.agree side).moves moves
  · rw [protocol, noAnswer, List.append_nil, enabled]
    simpa using agreed.agree side.other

theorem Agreed.handled (agreed : Agreed link entry) {moment : Moment PeerId} {msg : ControlMsg} {rest : List ControlMsg}
    {after : FanoutState PeerId} {sent : List (PeerId × ControlMsg)} {later : FlashblocksPeerState}
    (outcome : (link.node side).state.handle (link.node side).args moment (link.node side).peer msg = ⟨after, sent, false⟩)
    (known : after.peers.lookup (link.node side).peer = some later)
    (asking : Agree later.receiveStatus.stage (entry side.other).sendEnabled
      (asks (link.inbox side.other) ++ asks (toPeer (link.node side).peer sent)) (answers rest))
    (answering : Agree (entry side.other).receiveStatus.stage later.sendEnabled (asks rest)
      (answers (link.inbox side.other) ++ answers (toPeer (link.node side).peer sent))) :
    ∃ entry, Agreed ((link.taken side rest).moved side (protocol.handle (link.node side) moment msg)) entry := by
  have handled : protocol.handle (link.node side) moment msg =
      ({ link.node side with state := after }, toPeer (link.node side).peer sent) := by
    simp [protocol, outcome]
  rw [handled]
  exact agreed.moved side rest _ later known (agreed.satisfied side) asking answering

theorem Agreed.waiting (agreed : Agreed link entry) {msg : ControlMsg} {rest : List ControlMsg}
    (waiting : link.inbox side = msg :: rest) :
    Agree (entry side).receiveStatus.stage (entry side.other).sendEnabled (asks (link.inbox side.other))
      (answers (msg :: rest)) ∧
    Agree (entry side.other).receiveStatus.stage (entry side).sendEnabled (asks (msg :: rest))
      (answers (link.inbox side.other)) := by
  have asking := agreed.agree side
  have answering := agreed.agree side.other
  rw [Side.other_other] at answering
  rw [waiting] at asking answering
  exact ⟨asking, answering⟩

section

variable {moment : Moment PeerId} {rest : List ControlMsg} (agreed : Agreed link entry)
  (within : Orderly link (.deliver side moment))

include agreed within

theorem Agreed.requestDelivered (waiting : link.inbox side = .requestFlashblocks :: rest) :
    ∃ entry, Agreed ((link.taken side rest).moved side (protocol.handle (link.node side) moment .requestFlashblocks)) entry := by
  obtain ⟨asking, answering⟩ := agreed.waiting waiting
  rw [asks_cons, ControlMsg.isAsk, if_pos rfl] at answering
  obtain ⟨requesting, fresh, noAsk, noAnswer⟩ := answering.request
  have outcome := FanoutState.handleRequest_eq (agreed.known side) within (link.node side).args fresh
  split at outcome
  · refine agreed.handled outcome (FanoutState.lookup_counted (agreed.known side)) ?_ ?_
    · simpa [toPeer_self] using asking
    · rw [toPeer_self, FlashblocksPeerState.noteControlMsg_sendEnabled, requesting, fresh, noAsk, noAnswer]
      exact .rejected
  · refine agreed.handled outcome (Finmap.lookup_insert _) ?_ ?_
    · simpa [toPeer_self] using asking
    · rw [toPeer_self, requesting, noAsk, noAnswer]
      exact .accepted

theorem Agreed.acceptDelivered (waiting : link.inbox side = .acceptFlashblocks :: rest) :
    ∃ entry, Agreed ((link.taken side rest).moved side (protocol.handle (link.node side) moment .acceptFlashblocks)) entry := by
  obtain ⟨asking, answering⟩ := agreed.waiting waiting
  rw [answers_cons, ControlMsg.isAsk, Bool.not_false, if_pos rfl] at asking
  obtain ⟨requesting, receives⟩ := asking.accept
  have outcome := FanoutState.handleAccept_eq (agreed.known side) within (link.node side).args
    (ReceiveStatus.stage_eq_requesting.mp requesting)
  refine agreed.handled outcome (Finmap.lookup_insert _) ?_ ?_
  · simpa [toPeer, ReceiveStatus.stage] using receives
  · simpa [toPeer] using answering

theorem Agreed.rejectDelivered (waiting : link.inbox side = .rejectFlashblocks :: rest) :
    ∃ entry, Agreed ((link.taken side rest).moved side (protocol.handle (link.node side) moment .rejectFlashblocks)) entry := by
  obtain ⟨asking, answering⟩ := agreed.waiting waiting
  rw [answers_cons, ControlMsg.isAsk, Bool.not_false, if_pos rfl] at asking
  obtain ⟨requesting, idles⟩ := asking.reject
  obtain ⟨cleared, known, outcome⟩ := FanoutState.handleReject_eq (agreed.known side) within
    (link.node side).args (ReceiveStatus.stage_eq_requesting.mp requesting)
  obtain ⟨later, found, enabled, moves⟩ :=
    ((FanoutState.requesting_maybeRequest (link.node side).args moment cleared).follows known).moves
  obtain ⟨asksOnly, noAnswer⟩ := moves.asks_only
  refine agreed.handled outcome found ?_ ?_
  · rw [asksOnly]
    exact idles.moves moves
  · rw [noAnswer, List.append_nil, enabled]
    simpa [FlashblocksPeerState.clearReceiveState] using answering

theorem Agreed.cancelDelivered (waiting : link.inbox side = .cancelFlashblocks :: rest) :
    ∃ entry, Agreed ((link.taken side rest).moved side (protocol.handle (link.node side) moment .cancelFlashblocks)) entry := by
  obtain ⟨asking, answering⟩ := agreed.waiting waiting
  rw [asks_cons, ControlMsg.isAsk, if_pos rfl] at answering
  obtain ⟨sending, cancels⟩ := answering.cancel
  refine agreed.handled (FanoutState.handleCancel_eq (agreed.known side) within sending) (Finmap.lookup_insert _) ?_ ?_
  · simpa [toPeer] using asking
  · simpa [toPeer] using cancels

theorem Agreed.delivered {msg : ControlMsg} (waiting : link.inbox side = msg :: rest) :
    ∃ entry, Agreed ((link.taken side rest).moved side (protocol.handle (link.node side) moment msg)) entry := by
  cases msg with
  | requestFlashblocks => exact agreed.requestDelivered within waiting
  | acceptFlashblocks => exact agreed.acceptDelivered within waiting
  | rejectFlashblocks => exact agreed.rejectDelivered within waiting
  | cancelFlashblocks => exact agreed.cancelDelivered within waiting

end

section

variable {localId : Side → PeerId} {args : Side → FanoutArgs PeerId} {before : Side → FanoutState PeerId}
  {moment : Side → Moment PeerId}

theorem connect_inbox_other (side : Side) : (connect localId args before moment).inbox side.other =
    toPeer (localId side.other)
      ((before side).onPeerConnected (args side) (moment side) (localId side.other) (localId side)).2 := by
  simp [connect]

theorem agreed_connect (distinct : localId .left ≠ localId .right) : ∃ entry, Agreed (connect localId args before moment) entry := by
  have different : ∀ side : Side, localId side.other ≠ localId side := Side.forall_of .left distinct.symm distinct
  have follows : ∀ side : Side, FanoutState.Follows Asks (localId side.other) (.new (moment side).instant)
      ((before side).onPeerConnected (args side) (moment side) (localId side.other) (localId side)).2
      ((before side).onPeerConnected (args side) (moment side) (localId side.other) (localId side)).1 := by
    intro side
    rw [FanoutState.onPeerConnected, if_neg (different side)]
    exact (FanoutState.requesting_maybeRequest ..).follows (Finmap.lookup_insert _)
  choose entry known enabled asking using follows
  refine ⟨entry, known, fun side => ?_, fun _ => rfl⟩
  have noAnswer : answers ((connect localId args before moment).inbox side) = [] := by
    simpa [connect] using (asking side.other).moves.asks_only.2
  rw [noAnswer, enabled, connect_inbox_other, (asking side).moves.asks_only.1]
  exact Agree.idle.moves (asking side).moves

theorem agreed_run (distinct : localId .left ≠ localId .right)
    {log : List (Event (Moment PeerId × FanoutEvent PeerId) (Moment PeerId))}
    (run : Run (Link.exec · protocol) (fun link event => Orderly link event ∧ Timely link event)
      (connect localId args before moment) log link) : ∃ entry, Agreed link entry := by
  apply Link.invariant (motive := fun link => ∃ entry, Agreed link entry) run (agreed_connect distinct)
  · rintro link side action ⟨entry, agreed⟩ ⟨orderly, timely⟩
    exact agreed.acts orderly timely
  · rintro link side moment msg rest ⟨entry, agreed⟩ ⟨within, _⟩ waiting
    exact agreed.delivered within waiting

/-- With nothing on its way the two ends agree, and neither is penalised, as long as no request is given up unanswered.
-/
theorem link_ends_agree (localId : Side → PeerId) (args : Side → FanoutArgs PeerId) (before : Side → FanoutState PeerId)
    (moment : Side → Moment PeerId) (distinct : localId .left ≠ localId .right)
    (log : List (Event (Moment PeerId × FanoutEvent PeerId) (Moment PeerId))) (link : Link (LinkEnd PeerId) ControlMsg)
    (run : Run (Link.exec · protocol) (fun link event => Orderly link event ∧ Timely link event)
      (connect localId args before moment) log link) :
    (∀ side, (link.node side).penalised = false) ∧
      ((∀ side, link.inbox side = []) → ∀ side, (link.node side.other).sends = true ↔ (link.node side).receives = true) := by
  obtain ⟨entry, agreed⟩ := agreed_run distinct run
  refine ⟨agreed.satisfied, fun quiet side => ?_⟩
  have agree := agreed.agree side
  rw [quiet, quiet] at agree
  rw [sends, receives, agreed.known, agreed.known, Option.any_some, Option.any_some, agree.quiet,
    FlashblocksPeerState.isReceiving_iff]

end

instance decidableOrderly (link : Link (LinkEnd PeerId) ControlMsg) :
    ∀ event, Decidable (Orderly link event)
  | .act _ action => inferInstanceAs (Decidable ¬ action.2.Concerns _)
  | .deliver _ _ => inferInstanceAs (Decidable (_ = _))

instance decidableTimely (link : Link (LinkEnd PeerId) ControlMsg) : ∀ event, Decidable (Timely link event)
  | .act _ action => inferInstanceAs (Decidable ¬ FanoutState.TimesOut _ _ action.1 action.2)
  | .deliver _ _ => inferInstanceAs (Decidable True)

def sampleConnect : Link (LinkEnd ℕ) ControlMsg :=
  connect (fun side => if side = .left then 1 else 2)
    (fun side => if side = .left then ⟨0, 1, 30, 16, []⟩ else ⟨1, 0, 30, 16, []⟩) (fun _ => .initial)
    (fun _ => FanoutState.sampleMoment 100 0)

/-- The request is answered in time. -/
def answeredInTime : List (Event (Moment ℕ × FanoutEvent ℕ) (Moment ℕ)) :=
  [.deliver .right (FanoutState.sampleMoment 100 0), .deliver .left (FanoutState.sampleMoment 101 0),
    .act .left (FanoutState.sampleMoment 102 0, .tick)]

theorem link_ends_agree_in_time :
    ((Run.final (Link.exec · protocol) sampleConnect answeredInTime).node .left).receives = true ∧
    ((Run.final (Link.exec · protocol) sampleConnect answeredInTime).node .right).sends = true ∧
    ((Run.final (Link.exec · protocol) sampleConnect answeredInTime).node .left).penalised = false := by
  have permitted : Run.Permitted (Link.exec · protocol) (fun link event => Orderly link event ∧ Timely link event)
      sampleConnect answeredInTime := by
    decide +kernel
  have agree := link_ends_agree _ _ _ _ (by decide) _ _ (Run.run_final_of_permitted permitted)
  have quiet : ∀ side, (Run.final (Link.exec · protocol) sampleConnect answeredInTime).inbox side = [] :=
    Side.forall_of .left (by decide +kernel) (by decide +kernel)
  have receives : ((Run.final (Link.exec · protocol) sampleConnect answeredInTime).node .left).receives = true := by
    decide +kernel
  exact ⟨receives, (agree.2 quiet .left).mpr receives, agree.1 .left⟩

def answeredLate : List (Event (Moment ℕ × FanoutEvent ℕ) (Moment ℕ)) :=
  [.act .left (FanoutState.sampleMoment 102 0, .tick), .deliver .right (FanoutState.sampleMoment 102 0),
    .deliver .left (FanoutState.sampleMoment 103 0)]

theorem late_accept_is_penalised :
    Run.Permitted (Link.exec · protocol) Orderly sampleConnect answeredLate ∧
    (∀ side ∈ [Side.left, .right], (Run.final (Link.exec · protocol) sampleConnect answeredLate).inbox side = []) ∧
    ((Run.final (Link.exec · protocol) sampleConnect answeredLate).node .right).sends = true ∧
    ((Run.final (Link.exec · protocol) sampleConnect answeredLate).node .left).receives = false ∧
    ((Run.final (Link.exec · protocol) sampleConnect answeredLate).node .left).penalised = true := by
  decide +kernel

end LinkEnd

end WorldChain.P2P
