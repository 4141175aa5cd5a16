import WorldChain.P2P.FanoutBounds
import WorldChain.Machine.Run

/-! # Connections and the entries they register

A connection registers its peer when it is created and removes the entry of that peer when it is dropped. The entry
holds the sending end of the connection's channel, but the removal goes by the peer alone.
-/

namespace WorldChain.P2P

open Table

variable {PeerId : Type*} [DecidableEq PeerId]

namespace FanoutState

variable {args : FanoutArgs PeerId} {moment : Moment PeerId} {state after : FanoutState PeerId}
  {sent : List (PeerId × ControlMsg)}

theorem Requesting.sameKeys (requesting : Requesting args moment state sent after) : SameKeys state.peers after.peers := by
  induction requesting with
  | done state => exact .refl _
  | next _ _ _ _ ih => exact (sameKeys_adjust _ _ _).trans ih

theorem sameKeys_maybeRequest (args : FanoutArgs PeerId) (moment : Moment PeerId) (state : FanoutState PeerId) :
    SameKeys state.peers (state.maybeRequestReceivePeers args moment).1.peers :=
  (requesting_maybeRequest args moment state).sameKeys

theorem sameKeys_rotation (args : FanoutArgs PeerId) (moment : Moment PeerId) (state : FanoutState PeerId) :
    SameKeys state.peers (state.maybeStartRotation args moment).1.peers := by
  rcases maybeStartRotation_cases args moment state with same | ⟨_, _, _, _, _, _, _, _, _, _, rotated⟩
  · rw [same]
    exact .refl _
  · rw [rotated]
    exact (sameKeys_adjust _ _ _).trans (sameKeys_adjust _ _ _)

theorem sameKeys_tick (args : FanoutArgs PeerId) (moment : Moment PeerId) (state : FanoutState PeerId) :
    SameKeys state.peers (state.tick args moment).1.peers := by
  have expired : SameKeys state.peers (state.expireStaleReceiveRequests args moment).1.peers := by
    obtain ⟨cleared, lookup, requesting⟩ := requesting_expire args moment state
    have kept : SameKeys state.peers cleared.peers := fun peer => by rw [lookup, Option.isSome_map]
    exact kept.trans requesting.sameKeys
  exact (expired.trans (sameKeys_maybeRequest args moment _)).trans (sameKeys_rotation args moment _)

theorem handle_of_absent {counted : FanoutState PeerId} {peer : PeerId} {limited : Bool}
    (limit : state.checkControlRateLimit moment peer = (counted, limited)) (absent : counted.peers.lookup peer = none)
    (msg : ControlMsg) : (state.handle args moment peer msg).state = counted := by
  cases msg with
  | requestFlashblocks =>
    simp only [handle, handleRequest, limit, absent]
    split <;> rfl
  | acceptFlashblocks =>
    simp only [handle, handleAccept, limit, absent]
    split <;> rfl
  | rejectFlashblocks =>
    simp only [handle, handleReject, limit, absent]
    split <;> rfl
  | cancelFlashblocks =>
    simp only [handle, handleCancel, limit, absent]
    split <;> rfl

theorem sameKeys_handle (args : FanoutArgs PeerId) (moment : Moment PeerId) (state : FanoutState PeerId) (peer : PeerId)
    (msg : ControlMsg) : SameKeys state.peers (state.handle args moment peer msg).state.peers := by
  have noted : SameKeys state.peers (state.checkControlRateLimit moment peer).1.peers := by
    rw [checkControlRateLimit_fst]
    exact sameKeys_adjust _ _ _
  have handled := handling args moment state peer msg
  rcases limit : state.checkControlRateLimit moment peer with ⟨counted, limited⟩
  rw [limit] at noted handled
  refine noted.trans ?_
  cases held : counted.peers.lookup peer with
  | none =>
    rw [handle_of_absent limit held]
    exact .refl _
  | some entry =>
    generalize (state.handle args moment peer msg).state = after, (state.handle args moment peer msg).sent = sent at handled
    cases handled with
    | kept => exact .refl _
    | changed => exact sameKeys_insert held
    | replaced => exact (sameKeys_insert held).trans (sameKeys_maybeRequest args moment _)

end FanoutState

/-- A node with its connections. -/
structure ConnectedNode (PeerId : Type*) where
  fanout : FanoutState PeerId
  outboundTx : Finmap fun _ : PeerId => ℕ
  alive : Finmap fun _ : ℕ => PeerId
  created : ℕ

/-- What happens to a node and its connections. -/
inductive ConnectionEvent (PeerId : Type*)
  | created (peer : PeerId)
  | dropped (connection : ℕ)
  | trustResolved (peer : PeerId) (trusted : Bool)
  | sampled (peer : PeerId) (sample : ℤ)
  | message (peer : PeerId) (msg : ControlMsg)
  | tick

namespace ConnectedNode

def initial : ConnectedNode PeerId := ⟨.initial, ∅, ∅, 0⟩

section

variable (localId : PeerId) (args : FanoutArgs PeerId) (moment : Moment PeerId) (node : ConnectedNode PeerId)

def connect (peer : PeerId) : ConnectedNode PeerId where
  fanout := (node.fanout.onPeerConnected args moment peer localId).1
  outboundTx := if peer = localId then node.outboundTx else node.outboundTx.insert peer node.created
  alive := node.alive.insert node.created peer
  created := node.created + 1

def drop (connection : ℕ) (peer : PeerId) : ConnectedNode PeerId where
  fanout := (node.fanout.onPeerDisconnected args moment peer).1
  outboundTx := node.outboundTx.erase peer
  alive := node.alive.erase connection
  created := node.created

def exec : Moment PeerId × ConnectionEvent PeerId → Except Unit (ConnectedNode PeerId)
  | (moment, .created peer) => .ok (node.connect localId args moment peer)
  | (moment, .dropped connection) =>
    match node.alive.lookup connection with
    | some peer => .ok (node.drop args moment connection peer)
    | none => .error ()
  | (_, .trustResolved peer trusted) => .ok { node with fanout := node.fanout.setTrusted peer trusted }
  | (_, .sampled peer sample) => .ok { node with fanout := node.fanout.recordSample peer sample }
  | (moment, .message peer msg) => .ok { node with fanout := (node.fanout.handle args moment peer msg).state }
  | (moment, .tick) => .ok { node with fanout := (node.fanout.tick args moment).1 }

end

/-- A connection to the peer is alive. -/
def Reachable (node : ConnectedNode PeerId) (peer : PeerId) : Prop :=
  ∃ connection, node.alive.lookup connection = some peer

/-- There is an entry for the peer. -/
def Registered (node : ConnectedNode PeerId) (peer : PeerId) : Prop := (node.fanout.peers.lookup peer).isSome = true

/-- The peers with an entry are those with a connection that is alive, and each entry holds the channel of
such a connection. -/
structure Consistent (node : ConnectedNode PeerId) : Prop where
  registered : ∀ peer, node.Registered peer ↔ node.Reachable peer
  outbound : ∀ peer, node.Registered peer →
    ∃ connection, node.outboundTx.lookup peer = some connection ∧ node.alive.lookup connection = some peer

/-- The connection that an event creates is to another node, and the one that it drops is the only one that is
alive to its peer. -/
def Lone (localId : PeerId) (node : ConnectedNode PeerId) : ConnectionEvent PeerId → Prop
  | .created peer => peer ≠ localId
  | .dropped connection => ∀ peer other, node.alive.lookup connection = some peer →
      node.alive.lookup other = some peer → other = connection
  | _ => True

/-! ## What holds whatever is dropped -/

/-- The numbers of connections are not reused, and there is no entry for ourselves. -/
structure Orderly (localId : PeerId) (node : ConnectedNode PeerId) : Prop where
  numbered : ∀ connection peer, node.alive.lookup connection = some peer → connection < node.created
  foreign : ¬ node.Registered localId

variable {localId : PeerId} {args : FanoutArgs PeerId} {moment : Moment PeerId} {node after : ConnectedNode PeerId}
  {event : ConnectionEvent PeerId} {peer other : PeerId} {connection : ℕ}

theorem registered_connect_self (different : peer ≠ localId) : (node.connect localId args moment peer).Registered peer := by
  have kept := FanoutState.sameKeys_maybeRequest args moment ⟨node.fanout.peers.insert peer (.new moment.instant)⟩ peer
  rw [Finmap.lookup_insert] at kept
  rw [Registered, connect, FanoutState.onPeerConnected, if_neg different]
  exact kept

theorem registered_connect_of_ne (different : other ≠ peer) :
    (node.connect localId args moment peer).Registered other ↔ node.Registered other := by
  rw [Registered, connect, FanoutState.onPeerConnected]
  split
  · rfl
  · have kept := FanoutState.sameKeys_maybeRequest args moment ⟨node.fanout.peers.insert peer (.new moment.instant)⟩ other
    rw [Finmap.lookup_insert_of_ne _ different] at kept
    rw [kept]
    rfl

theorem not_registered_drop_self : ¬ (node.drop args moment connection peer).Registered peer := by
  have kept := FanoutState.sameKeys_maybeRequest args moment ⟨node.fanout.peers.erase peer⟩ peer
  rw [Finmap.lookup_erase] at kept
  rw [Registered, drop, FanoutState.onPeerDisconnected, kept]
  simp

theorem registered_drop_of_ne (different : other ≠ peer) :
    (node.drop args moment connection peer).Registered other ↔ node.Registered other := by
  have kept := FanoutState.sameKeys_maybeRequest args moment ⟨node.fanout.peers.erase peer⟩ other
  rw [Finmap.lookup_erase_ne different] at kept
  rw [Registered, drop, FanoutState.onPeerDisconnected, kept]
  rfl

theorem exec_cases (effective : node.exec localId args (moment, event) = .ok after) :
    (∃ peer, event = .created peer ∧ after = node.connect localId args moment peer) ∨
    (∃ connection peer, event = .dropped connection ∧ node.alive.lookup connection = some peer ∧
      after = node.drop args moment connection peer) ∨
    (node.Lone localId event ∧ (∀ peer, after.Registered peer ↔ node.Registered peer) ∧ after.outboundTx = node.outboundTx ∧
      after.alive = node.alive ∧ after.created = node.created) := by
  have kept : ∀ {peers : Finmap fun _ : PeerId => FlashblocksPeerState}, SameKeys node.fanout.peers peers →
      ∀ peer, ({ node with fanout := ⟨peers⟩ } : ConnectedNode PeerId).Registered peer ↔ node.Registered peer :=
    fun same peer => by rw [Registered, Registered, same peer]
  cases event with
  | created peer => exact .inl ⟨peer, rfl, (Except.ok.inj effective).symm⟩
  | dropped connection =>
    simp only [exec] at effective
    split at effective
    · next peer present => exact .inr (.inl ⟨connection, peer, rfl, present, (Except.ok.inj effective).symm⟩)
    · cases effective
  | trustResolved peer trusted =>
    obtain rfl := Except.ok.inj effective
    exact .inr (.inr ⟨trivial, kept (sameKeys_adjust _ _ _), rfl, rfl, rfl⟩)
  | sampled peer sample =>
    obtain rfl := Except.ok.inj effective
    exact .inr (.inr ⟨trivial, kept (sameKeys_adjust _ _ _), rfl, rfl, rfl⟩)
  | message peer msg =>
    obtain rfl := Except.ok.inj effective
    exact .inr (.inr ⟨trivial, kept (FanoutState.sameKeys_handle args moment node.fanout peer msg), rfl, rfl, rfl⟩)
  | tick =>
    obtain rfl := Except.ok.inj effective
    exact .inr (.inr ⟨trivial, kept (FanoutState.sameKeys_tick args moment node.fanout), rfl, rfl, rfl⟩)

theorem Orderly.initial : Orderly localId (initial : ConnectedNode PeerId) where
  numbered := fun _ _ present => by simp [ConnectedNode.initial] at present
  foreign := by simp [Registered, ConnectedNode.initial, FanoutState.initial]

theorem Orderly.step (orderly : Orderly localId node) (effective : node.exec localId args (moment, event) = .ok after) :
    Orderly localId after := by
  rcases exec_cases effective with ⟨peer, rfl, rfl⟩ | ⟨connection, peer, rfl, present, rfl⟩ | ⟨_, registered, _, alive, created⟩
  · refine ⟨fun connection held lookup => ?_, ?_⟩
    · by_cases newest : connection = node.created
      · rw [newest]
        exact Nat.lt_succ_self _
      · have earlier : node.alive.lookup connection = some held := by
          rwa [connect, Finmap.lookup_insert_of_ne _ newest] at lookup
        exact (orderly.numbered _ _ earlier).trans (Nat.lt_succ_self _)
    · by_cases same : localId = peer
      · rw [Registered, connect, FanoutState.onPeerConnected, if_pos same.symm]
        exact orderly.foreign
      · rw [registered_connect_of_ne same]
        exact orderly.foreign
  · refine ⟨fun other held lookup => ?_, ?_⟩
    · by_cases same : other = connection
      · rw [same, drop, Finmap.lookup_erase] at lookup
        cases lookup
      · rw [drop, Finmap.lookup_erase_ne same] at lookup
        exact orderly.numbered _ _ lookup
    · by_cases same : localId = peer
      · rw [same]
        exact not_registered_drop_self
      · rw [registered_drop_of_ne same]
        exact orderly.foreign
  · refine ⟨?_, ?_⟩
    · rw [alive, created]
      exact orderly.numbered
    · rw [registered]
      exact orderly.foreign

/-! ## Whole runs -/

theorem Consistent.initial : Consistent (initial : ConnectedNode PeerId) where
  registered := fun peer => by simp [Registered, Reachable, ConnectedNode.initial, FanoutState.initial]
  outbound := fun peer registered => by simp [Registered, ConnectedNode.initial, FanoutState.initial] at registered

theorem Consistent.connect (consistent : Consistent node) (orderly : Orderly localId node) (different : peer ≠ localId) :
    Consistent (node.connect localId args moment peer) := by
  have newest : (node.connect localId args moment peer).alive.lookup node.created = some peer := Finmap.lookup_insert _
  have earlier : ∀ {connection held}, node.alive.lookup connection = some held →
      (node.connect localId args moment peer).alive.lookup connection = some held := fun {connection held} present => by
    have older := orderly.numbered connection held present
    rw [ConnectedNode.connect, Finmap.lookup_insert_of_ne _ older.ne, present]
  refine ⟨fun other => ?_, fun other registered => ?_⟩
  · by_cases same : other = peer
    · rw [same]
      exact iff_of_true (registered_connect_self different) ⟨node.created, newest⟩
    · rw [registered_connect_of_ne same, consistent.registered]
      constructor
      · rintro ⟨connection, present⟩
        exact ⟨connection, earlier present⟩
      · rintro ⟨connection, present⟩
        by_cases last : connection = node.created
        · rw [last, newest] at present
          exact absurd (Option.some.inj present).symm same
        · rw [ConnectedNode.connect, Finmap.lookup_insert_of_ne _ last] at present
          exact ⟨connection, present⟩
  · by_cases same : other = peer
    · rw [same]
      refine ⟨node.created, ?_, newest⟩
      rw [ConnectedNode.connect, if_neg different, Finmap.lookup_insert]
    · obtain ⟨connection, held, present⟩ := consistent.outbound other ((registered_connect_of_ne same).mp registered)
      refine ⟨connection, ?_, earlier present⟩
      rw [ConnectedNode.connect, if_neg different, Finmap.lookup_insert_of_ne _ same, held]

theorem Consistent.drop (consistent : Consistent node) (present : node.alive.lookup connection = some peer)
    (lone : ∀ other, node.alive.lookup other = some peer → other = connection) :
    Consistent (node.drop args moment connection peer) := by
  have kept : ∀ {other held}, held ≠ peer → node.alive.lookup other = some held →
      (node.drop args moment connection peer).alive.lookup other = some held := fun {other held} different lookup => by
    rw [ConnectedNode.drop, Finmap.lookup_erase_ne, lookup]
    rintro rfl
    exact different (Option.some.inj (lookup.symm.trans present))
  have before : ∀ {other held}, (node.drop args moment connection peer).alive.lookup other = some held →
      other ≠ connection ∧ node.alive.lookup other = some held := fun {other held} lookup => by
    by_cases same : other = connection
    · rw [same, ConnectedNode.drop, Finmap.lookup_erase] at lookup
      cases lookup
    · rw [ConnectedNode.drop, Finmap.lookup_erase_ne same] at lookup
      exact ⟨same, lookup⟩
  refine ⟨fun other => ?_, fun other registered => ?_⟩
  · by_cases same : other = peer
    · rw [same]
      refine iff_of_false not_registered_drop_self ?_
      rintro ⟨remaining, lookup⟩
      obtain ⟨different, lookup⟩ := before lookup
      exact different (lone remaining lookup)
    · rw [registered_drop_of_ne same, consistent.registered]
      constructor
      · rintro ⟨remaining, lookup⟩
        exact ⟨remaining, kept same lookup⟩
      · rintro ⟨remaining, lookup⟩
        exact ⟨remaining, (before lookup).2⟩
  · have same : other ≠ peer := by
      rintro rfl
      exact not_registered_drop_self registered
    obtain ⟨remaining, held, lookup⟩ := consistent.outbound other ((registered_drop_of_ne same).mp registered)
    refine ⟨remaining, ?_, kept same lookup⟩
    rw [ConnectedNode.drop, Finmap.lookup_erase_ne same, held]

theorem Consistent.step (consistent : Consistent node) (orderly : Orderly localId node) (lone : node.Lone localId event)
    (effective : node.exec localId args (moment, event) = .ok after) : Consistent after := by
  rcases exec_cases effective with ⟨peer, rfl, rfl⟩ | ⟨connection, peer, rfl, present, rfl⟩ |
    ⟨_, registered, outbound, alive, _⟩
  · exact consistent.connect orderly lone
  · exact consistent.drop present fun other lookup => lone peer other present lookup
  · refine ⟨fun peer => ?_, fun peer held => ?_⟩
    · rw [registered, consistent.registered, Reachable, Reachable, alive]
    · rw [outbound, alive]
      exact consistent.outbound peer ((registered peer).mp held)

theorem inconsistent_of_not_lone (args : FanoutArgs PeerId) (moment : Moment PeerId) (orderly : Orderly localId node)
    (crowded : ¬ node.Lone localId event) :
    ∃ after, node.exec localId args (moment, event) = .ok after ∧ ¬ Consistent after := by
  cases event with
  | created peer =>
    obtain rfl : peer = localId := not_not.mp crowded
    refine ⟨_, rfl, fun consistent => orderly.foreign ?_⟩
    have registered := (consistent.registered peer).mpr ⟨node.created, Finmap.lookup_insert _⟩
    rwa [Registered, connect, FanoutState.onPeerConnected, if_pos rfl] at registered
  | dropped connection =>
    simp only [Lone, not_forall] at crowded
    obtain ⟨peer, other, present, remains, different⟩ := crowded
    refine ⟨node.drop args moment connection peer, by simp only [exec, present], fun consistent => ?_⟩
    refine not_registered_drop_self ((consistent.registered peer).mpr ⟨other, ?_⟩)
    rw [drop, Finmap.lookup_erase_ne different, remains]
  | _ => exact absurd trivial crowded

/-- The node after a sequence of events, all of which take effect. -/
def Leads (localId : PeerId) (args : FanoutArgs PeerId) (events : List (Moment PeerId × ConnectionEvent PeerId))
    (node : ConnectedNode PeerId) : Prop :=
  events.foldlM (fun node event => node.exec localId args event) initial = .ok node

theorem leads_append_singleton {events : List (Moment PeerId × ConnectionEvent PeerId)}
    {event : Moment PeerId × ConnectionEvent PeerId} : Leads localId args (events ++ [event]) after ↔
      ∃ node, Leads localId args events node ∧ node.exec localId args event = .ok after := by
  simp [Leads, List.foldlM_append]

theorem Leads.orderly {events : List (Moment PeerId × ConnectionEvent PeerId)} (leads : Leads localId args events node) :
    Orderly localId node := by
  induction events using List.reverseRecOn generalizing node with
  | nil =>
    obtain rfl := Except.ok.inj leads
    exact .initial
  | append_singleton events event ih =>
    obtain ⟨before, earlier, effective⟩ := leads_append_singleton.mp leads
    exact (ih earlier).step effective

/-- The entries agree with the connections exactly when none is created to ourselves and none is dropped while another
one to the same peer is alive. -/
theorem entries_consistent_iff_lone (localId : PeerId) (args : FanoutArgs PeerId)
    (events : List (Moment PeerId × ConnectionEvent PeerId)) :
    (∀ past node, past <+: events → Leads localId args past node → node.Consistent) ↔
    ∀ past event rest node, events = past ++ event :: rest → Leads localId args past node → node.Lone localId event.2 := by
  constructor
  · intro consistent past event rest node split leads
    by_contra crowded
    obtain ⟨after, effective, inconsistent⟩ := inconsistent_of_not_lone args event.1 leads.orderly crowded
    refine inconsistent (consistent (past ++ [event]) after ⟨rest, by simp [split]⟩ ?_)
    exact leads_append_singleton.mpr ⟨node, leads, effective⟩
  · intro lone past node initial
    obtain ⟨rest, split⟩ := initial
    induction past using List.reverseRecOn generalizing node rest with
    | nil =>
      intro leads
      obtain rfl := Except.ok.inj leads
      exact .initial
    | append_singleton past event ih =>
      intro leads
      obtain ⟨before, earlier, effective⟩ := leads_append_singleton.mp leads
      have consistent := ih before (event :: rest) (by simpa using split) earlier
      exact consistent.step earlier.orderly (lone past event rest before (by simpa using split.symm) earlier) effective

def reconnect : List (Moment ℕ × ConnectionEvent ℕ) :=
  [(FanoutState.sampleMoment 100 0, .created 1), (FanoutState.sampleMoment 101 0, .created 1),
    (FanoutState.sampleMoment 102 0, .dropped 0)]

theorem reconnect_loses_entry : ∃ node : ConnectedNode ℕ, Leads 9 FanoutState.oneSlot reconnect node ∧
    node.alive.lookup 1 = some 1 ∧ node.fanout.peers.lookup 1 = none ∧ ¬ node.Consistent := by
  refine ⟨Machine.Run.final (fun node event => node.exec 9 FanoutState.oneSlot event) initial reconnect,
    Machine.Run.foldlM_eq_final (by decide +kernel), ?_⟩
  have alive : (Machine.Run.final (fun node event => node.exec 9 FanoutState.oneSlot event) initial
      reconnect).alive.lookup 1 = some 1 := by decide +kernel
  have missing : (Machine.Run.final (fun node event => node.exec 9 FanoutState.oneSlot event) initial
      reconnect).fanout.peers.lookup 1 = none := by decide +kernel
  refine ⟨alive, missing, fun consistent => ?_⟩
  have registered := (consistent.registered 1).mpr ⟨1, alive⟩
  rw [Registered, missing] at registered
  cases registered

end ConnectedNode

end WorldChain.P2P
