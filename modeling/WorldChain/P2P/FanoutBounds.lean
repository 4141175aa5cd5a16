import WorldChain.P2P.FanoutSteps

/-! # How many peers a node receives from and sends to

A peer outside the list of forced peers is asked only while a slot is free, and rotation frees a slot before it fills
one, so the number of such peers never passes the limit.
-/

namespace WorldChain.P2P

open Table

variable {PeerId : Type*} [DecidableEq PeerId]

namespace FanoutState

variable {args : FanoutArgs PeerId} {moment : Moment PeerId} {state after : FanoutState PeerId} {peer : PeerId}
  {peerState : FlashblocksPeerState} {sent : List (PeerId × ControlMsg)}

/-! ## Receiving -/

def regularReceivePeers (args : FanoutArgs PeerId) (state : FanoutState PeerId) : ℕ :=
  count (fun peer peerState => peer ∉ args.forceReceivePeers ∧ peerState.isReceivingOrRequesting) state.peers

/-- The forced peers that are connected. -/
def connectedForcePeers (args : FanoutArgs PeerId) (state : FanoutState PeerId) : ℕ :=
  count (fun peer _ => peer ∈ args.forceReceivePeers) state.peers

theorem regularReceivePeers_le : state.regularReceivePeers args ≤ state.numReceiveOrRequestingPeers := by
  refine count_le_count fun peer peerState present regular => ⟨peerState, present, ?_⟩
  exact (of_decide_eq_true regular).2

theorem numReceiveOrRequestingPeers_le (args : FanoutArgs PeerId) (state : FanoutState PeerId) :
    state.numReceiveOrRequestingPeers ≤ state.regularReceivePeers args + state.connectedForcePeers args := by
  apply count_le_add
  intro peer peerState active
  by_cases force : peer ∈ args.forceReceivePeers
  · exact .inr (decide_eq_true force)
  · exact .inl (decide_eq_true ⟨force, active⟩)

/-- No peer is newly received from or asked. -/
def NoneStarts (before after : FanoutState PeerId) : Prop :=
  ∀ peer later, after.peers.lookup peer = some later → later.isReceivingOrRequesting = true →
    ∃ earlier, before.peers.lookup peer = some earlier ∧ earlier.isReceivingOrRequesting = true

theorem NoneStarts.regularReceivePeers_le (none : NoneStarts state after) :
    after.regularReceivePeers args ≤ state.regularReceivePeers args := by
  apply count_le_count
  intro peer later present regular
  obtain ⟨outside, active⟩ := of_decide_eq_true regular
  obtain ⟨earlier, before, activeBefore⟩ := none peer later present active
  exact ⟨earlier, before, decide_eq_true ⟨outside, activeBefore⟩⟩

theorem noneStarts_refl (state : FanoutState PeerId) : NoneStarts state state :=
  fun _ later present active => ⟨later, present, active⟩

theorem NoneStarts.trans {middle : FanoutState PeerId} (left : NoneStarts state middle) (right : NoneStarts middle after) :
    NoneStarts state after := by
  intro peer later present active
  obtain ⟨between, held, activeBetween⟩ := right peer later present active
  exact left peer between held activeBetween

theorem noneStarts_adjust {change : FlashblocksPeerState → FlashblocksPeerState} (state : FanoutState PeerId) (peer : PeerId)
    (keeps : ∀ peerState, (change peerState).isReceivingOrRequesting = true → peerState.isReceivingOrRequesting = true) :
    NoneStarts state ⟨adjust peer change state.peers⟩ := by
  intro other later present active
  by_cases same : other = peer
  · subst same
    rw [lookup_adjust_self] at present
    obtain ⟨earlier, held, rfl⟩ := Option.map_eq_some_iff.mp present
    exact ⟨earlier, held, keeps earlier active⟩
  · rw [lookup_adjust_of_ne same] at present
    exact ⟨later, present, active⟩

theorem noneStarts_insert (state : FanoutState PeerId) {entry : FlashblocksPeerState}
    (keeps : entry.isReceivingOrRequesting = true →
      ∃ earlier, state.peers.lookup peer = some earlier ∧ earlier.isReceivingOrRequesting = true) :
    NoneStarts state ⟨state.peers.insert peer entry⟩ := by
  intro other later present active
  by_cases same : other = peer
  · subst same
    rw [Finmap.lookup_insert] at present
    exact keeps (Option.some.inj present ▸ active)
  · rw [Finmap.lookup_insert_of_ne _ same] at present
    exact ⟨later, present, active⟩

theorem noneStarts_erase (state : FanoutState PeerId) (peer : PeerId) : NoneStarts state ⟨state.peers.erase peer⟩ := by
  intro other later present active
  by_cases same : other = peer
  · subst same
    rw [Finmap.lookup_erase] at present
    cases present
  · rw [Finmap.lookup_erase_ne same] at present
    exact ⟨later, present, active⟩

theorem numReceiveOrRequestingPeers_begin (moment : Moment PeerId) (present : state.peers.lookup peer = some peerState)
    (idle : peerState.receiveStatus = .notReceiving) :
    (state.beginRequestingPeer moment peer).1.numReceiveOrRequestingPeers = state.numReceiveOrRequestingPeers + 1 := by
  have changed := count_adjust (fun _ peerState => peerState.isReceivingOrRequesting) (·.beginRequesting moment.now) present
  rw [peerState.isReceivingOrRequesting_eq_false.mpr idle] at changed
  exact changed

theorem regularReceivePeers_begin (present : state.peers.lookup peer = some peerState) :
    (state.beginRequestingPeer moment peer).1.regularReceivePeers args ≤
      state.regularReceivePeers args + if peer ∈ args.forceReceivePeers then 0 else 1 := by
  have changed := count_adjust (fun peer peerState =>
    decide (peer ∉ args.forceReceivePeers ∧ peerState.isReceivingOrRequesting)) (·.beginRequesting moment.now) present
  change regularReceivePeers args (state.beginRequestingPeer moment peer).1 + _ = state.regularReceivePeers args + _ at changed
  split
  · next force =>
    simp only [force, not_true, false_and, decide_false, Bool.toNat_false] at changed
    exact changed.le
  · have one := Bool.toNat_le (decide (peer ∉ args.forceReceivePeers ∧
      (peerState.beginRequesting moment.now).isReceivingOrRequesting = true))
    omega

theorem Requesting.bounded (requesting : Requesting args moment state sent after)
    (bounded : state.regularReceivePeers args ≤ args.maxReceivePeers) :
    after.regularReceivePeers args ≤ args.maxReceivePeers := by
  induction requesting with
  | done => exact bounded
  | @next state after peer peerState sent present idle room _ ih =>
    apply ih
    have taken : (state.beginRequestingPeer moment peer).1.regularReceivePeers args ≤ _ := regularReceivePeers_begin present
    have part : state.regularReceivePeers args ≤ state.numReceiveOrRequestingPeers := state.regularReceivePeers_le
    rcases room with force | free
    · rw [if_pos force] at taken
      omega
    · have atMost : (if peer ∈ args.forceReceivePeers then 0 else 1) ≤ 1 := by split <;> omega
      omega

theorem numReceiveOrRequestingPeers_rotation (args : FanoutArgs PeerId) (moment : Moment PeerId) (state : FanoutState PeerId) :
    (state.maybeStartRotation args moment).1.numReceiveOrRequestingPeers = state.numReceiveOrRequestingPeers := by
  rcases state.maybeStartRotation_cases args moment with same | rotated
  · rw [same]
  · obtain ⟨evict, candidate, evicted, chosen, _, different, held, receiving, present, idle, result⟩ := rotated
    have cleared := count_adjust (fun _ peerState => peerState.isReceivingOrRequesting) (·.clearReceiveState moment.now) held
    have still : (adjust evict (·.clearReceiveState moment.now) state.peers).lookup candidate = some chosen := by
      rw [lookup_adjust_of_ne different.symm, present]
    have begun := count_adjust (fun _ peerState => peerState.isReceivingOrRequesting) (·.beginRequesting moment.now) still
    rw [FlashblocksPeerState.isReceivingOrRequesting_of_isReceiving receiving,
      FlashblocksPeerState.clearReceiveState_isReceivingOrRequesting, Bool.toNat_true, Bool.toNat_false] at cleared
    rw [chosen.isReceivingOrRequesting_eq_false.mpr idle,
      FlashblocksPeerState.beginRequesting_isReceivingOrRequesting, Bool.toNat_true, Bool.toNat_false] at begun
    rw [result, numReceiveOrRequestingPeers, numReceiveOrRequestingPeers]
    dsimp only
    omega

theorem regularReceivePeers_rotation (args : FanoutArgs PeerId) (moment : Moment PeerId) (state : FanoutState PeerId) :
    (state.maybeStartRotation args moment).1.regularReceivePeers args ≤ state.regularReceivePeers args := by
  rcases state.maybeStartRotation_cases args moment with same | rotated
  · rw [same]
  · obtain ⟨evict, candidate, evicted, chosen, regular, different, held, receiving, present, idle, result⟩ := rotated
    let cleared : FanoutState PeerId := ⟨adjust evict (·.clearReceiveState moment.now) state.peers⟩
    have freed := count_adjust (fun peer peerState =>
      decide (peer ∉ args.forceReceivePeers ∧ peerState.isReceivingOrRequesting)) (·.clearReceiveState moment.now) held
    simp only [regular, FlashblocksPeerState.isReceivingOrRequesting_of_isReceiving receiving, not_false_eq_true, and_self,
      decide_true, Bool.toNat_true, FlashblocksPeerState.clearReceiveState_isReceivingOrRequesting, Bool.false_eq_true,
      and_false, decide_false, Bool.toNat_false] at freed
    have still : cleared.peers.lookup candidate = some chosen := by
      rw [lookup_adjust_of_ne different.symm, present]
    have taken : (cleared.beginRequestingPeer moment candidate).1.regularReceivePeers args ≤ _ := regularReceivePeers_begin still
    have atMost : (if candidate ∈ args.forceReceivePeers then 0 else 1) ≤ 1 := by split <;> omega
    rw [result]
    change (cleared.beginRequestingPeer moment candidate).1.regularReceivePeers args ≤ _
    change cleared.regularReceivePeers args + 1 = state.regularReceivePeers args + 0 at freed
    omega

theorem force_of_rotation (force : peer ∈ args.forceReceivePeers) (present : state.peers.lookup peer = some peerState)
    (active : peerState.isReceivingOrRequesting = true) : ∃ later,
      (state.maybeStartRotation args moment).1.peers.lookup peer = some later ∧ later.isReceivingOrRequesting = true := by
  rcases state.maybeStartRotation_cases args moment with same | rotated
  · exact ⟨peerState, by rw [same, present], active⟩
  · obtain ⟨evict, candidate, evicted, chosen, regular, different, held, receiving, found, idle, result⟩ := rotated
    have kept : peer ≠ evict := fun same => regular (same ▸ force)
    rw [result]
    by_cases asked : peer = candidate
    · refine ⟨peerState.beginRequesting moment.now, ?_, rfl⟩
      rw [← asked, lookup_adjust_self, lookup_adjust_of_ne kept, present, Option.map_some]
    · exact ⟨peerState, by rw [lookup_adjust_of_ne asked, lookup_adjust_of_ne kept, present], active⟩

/-! ## The request loop ends -/

/-- The loop has no further turn: no slot is free or nobody is left to ask. -/
def LoopDone (args : FanoutArgs PeerId) (moment : Moment PeerId) (state : FanoutState PeerId) : Prop :=
  args.maxReceivePeers ≤ state.numReceiveOrRequestingPeers ∨ state.availableReceiveCandidates args moment = ∅

theorem requestLoop_done {fuel : ℕ} (enough : args.maxReceivePeers ≤ state.numReceiveOrRequestingPeers + fuel) (extra : ℕ) :
    LoopDone args moment (requestLoop args moment fuel state).1 ∧
      requestLoop args moment (fuel + extra) state = requestLoop args moment fuel state := by
  induction fuel generalizing state with
  | zero =>
    refine ⟨.inl enough, ?_⟩
    cases extra with
    | zero => rfl
    | succ extra =>
      rw [Nat.add_zero] at enough
      rw [Nat.zero_add, requestLoop.eq_def, requestLoop.eq_def]
      exact if_neg (Nat.not_lt.mpr enough)
  | succ fuel ih =>
    rw [Nat.add_right_comm, requestLoop, requestLoop]
    split
    · split
      · next none => exact ⟨.inr none, rfl⟩
      · next some =>
        obtain ⟨peerState, present, idle⟩ := pick_candidate some
        have taken := numReceiveOrRequestingPeers_begin moment present idle
        have covered : args.maxReceivePeers ≤ (state.beginRequestingPeer moment
            (moment.chooser.pick (state.availableReceiveCandidates args moment))).1.numReceiveOrRequestingPeers + fuel := by
          omega
        obtain ⟨done, same⟩ := ih covered
        exact ⟨done, by rw [andThen, andThen, same]⟩
    · next full => exact ⟨.inl (Nat.le_of_not_lt full), rfl⟩

/-! ## Whole runs -/

theorem noneStarts_checkControlRateLimit (state : FanoutState PeerId) (moment : Moment PeerId) (peer : PeerId) :
    NoneStarts state (state.checkControlRateLimit moment peer).1 := by
  rw [checkControlRateLimit_fst]
  apply noneStarts_adjust
  intro peerState active
  simpa [FlashblocksPeerState.isReceivingOrRequesting] using active

def Grows (args : FanoutArgs PeerId) (moment : Moment PeerId) (state after : FanoutState PeerId) : Prop :=
  ∃ middle sent, NoneStarts state middle ∧ Requesting args moment middle sent after

theorem Grows.bounded (grows : Grows args moment state after)
    (bounded : state.regularReceivePeers args ≤ args.maxReceivePeers) :
    after.regularReceivePeers args ≤ args.maxReceivePeers := by
  obtain ⟨middle, sent, none, requesting⟩ := grows
  exact requesting.bounded (none.regularReceivePeers_le.trans bounded)

theorem NoneStarts.grows (none : NoneStarts state after) : Grows args moment state after := ⟨after, [], none, .done after⟩

theorem grows_maybeRequest {middle : FanoutState PeerId} (none : NoneStarts state middle) :
    Grows args moment state (middle.maybeRequestReceivePeers args moment).1 :=
  ⟨middle, _, none, requesting_maybeRequest args moment middle⟩

theorem grows_handle (args : FanoutArgs PeerId) (moment : Moment PeerId) (state : FanoutState PeerId) (peer : PeerId)
    (msg : ControlMsg) : Grows args moment state (state.handle args moment peer msg).state := by
  have counted := noneStarts_checkControlRateLimit state moment peer
  have handled := handling args moment state peer msg
  generalize (state.handle args moment peer msg).sent = sent at handled
  generalize (state.handle args moment peer msg).state = after at handled ⊢
  cases handled with
  | kept => exact counted.grows
  | changed _ present starts => exact (counted.trans (noneStarts_insert _ fun active => ⟨_, present, starts active⟩)).grows
  | replaced idle =>
    refine grows_maybeRequest (counted.trans (noneStarts_insert _ fun active => ?_))
    rw [idle] at active
    cases active

theorem grows_expire (args : FanoutArgs PeerId) (moment : Moment PeerId) (state : FanoutState PeerId) :
    Grows args moment state (state.expireStaleReceiveRequests args moment).1 := by
  obtain ⟨cleared, lookup, requesting⟩ := requesting_expire args moment state
  refine ⟨cleared, _, fun peer later present active => ?_, requesting⟩
  rw [lookup] at present
  obtain ⟨earlier, held, result⟩ := Option.map_eq_some_iff.mp present
  refine ⟨earlier, held, ?_⟩
  split at result
  · rw [← result, FlashblocksPeerState.clearReceiveState_isReceivingOrRequesting] at active
    cases active
  · rw [result, active]

theorem react_bounded (localId : PeerId) (event : FanoutEvent PeerId)
    (bounded : state.regularReceivePeers args ≤ args.maxReceivePeers) :
    (state.react localId args moment event).state.regularReceivePeers args ≤ args.maxReceivePeers := by
  cases event with
  | connected peer =>
    simp only [react, onPeerConnected]
    split
    · exact bounded
    · exact (grows_maybeRequest (noneStarts_insert _ fun active => by cases active)).bounded bounded
  | disconnected peer => exact (grows_maybeRequest (noneStarts_erase state peer)).bounded bounded
  | trustResolved peer trusted =>
    have none : NoneStarts state (state.setTrusted peer trusted) := by
      apply noneStarts_adjust
      exact fun _ active => active
    exact none.regularReceivePeers_le.trans bounded
  | sampled peer sample =>
    refine (noneStarts_adjust state peer fun peerState active => ?_).regularReceivePeers_le.trans bounded
    rw [FlashblocksPeerState.recordSample] at active
    split at active
    · next score receiving => simp [FlashblocksPeerState.isReceivingOrRequesting, receiving]
    · exact active
  | message peer msg => exact (grows_handle args moment state peer msg).bounded bounded
  | tick =>
    refine (regularReceivePeers_rotation ..).trans ?_
    exact (grows_maybeRequest (noneStarts_refl _)).bounded ((grows_expire args moment state).bounded bounded)

/-- `maxReceivePeers` bounds the regular peers received from or asked. Rotation raises no number and gives up no forced
peer, and the request loop ends. -/
theorem receive_peers_bounded (localId : PeerId) (args : FanoutArgs PeerId)
    (events : List (Moment PeerId × FanoutEvent PeerId)) :
    (FanoutState.after localId args events).regularReceivePeers args ≤ args.maxReceivePeers ∧
    (FanoutState.after localId args events).numReceiveOrRequestingPeers ≤
      args.maxReceivePeers + (FanoutState.after localId args events).connectedForcePeers args ∧
    (∀ (state : FanoutState PeerId) (moment : Moment PeerId),
      (state.maybeStartRotation args moment).1.numReceiveOrRequestingPeers ≤ state.numReceiveOrRequestingPeers ∧
      (state.maybeStartRotation args moment).1.regularReceivePeers args ≤ state.regularReceivePeers args ∧
      ∀ peer ∈ args.forceReceivePeers, ∀ peerState, state.peers.lookup peer = some peerState →
        peerState.isReceivingOrRequesting = true → ∃ later,
          (state.maybeStartRotation args moment).1.peers.lookup peer = some later ∧
          later.isReceivingOrRequesting = true) ∧
    (∀ (state : FanoutState PeerId) (moment : Moment PeerId),
      LoopDone args moment (requestLoop args moment args.maxReceivePeers state).1 ∧
      ∀ extra, requestLoop args moment (args.maxReceivePeers + extra) state =
        requestLoop args moment args.maxReceivePeers state) := by
  have bounded : (FanoutState.after localId args events).regularReceivePeers args ≤ args.maxReceivePeers := by
    induction events using List.reverseRecOn with
    | nil => exact Nat.zero_le _
    | append_singleton events event ih =>
      rw [FanoutState.after, List.foldl_append]
      exact react_bounded localId event.2 ih
  refine ⟨bounded, ?_, fun state moment => ⟨?_, ?_, ?_⟩, fun state moment => ⟨?_, fun extra => ?_⟩⟩
  · exact (numReceiveOrRequestingPeers_le args _).trans (Nat.add_le_add_right bounded _)
  · exact (numReceiveOrRequestingPeers_rotation args moment state).le
  · exact regularReceivePeers_rotation args moment state
  · intro peer force peerState present active
    exact force_of_rotation force present active
  · exact (requestLoop_done (Nat.le_add_left ..) 0).1
  · exact (requestLoop_done (Nat.le_add_left ..) extra).2

/-! ## Sending -/

/-- The untrusted peers in the send set. -/
def untrustedSendCount (state : FanoutState PeerId) : ℕ :=
  count (fun _ peerState => peerState.sendEnabled ∧ ¬ peerState.trusted) state.peers

/-- A request of a peer is accepted: the peer is told so and enters the send set. -/
def Accepts (args : FanoutArgs PeerId) (moment : Moment PeerId) (state : FanoutState PeerId) (peer : PeerId) : Prop :=
  (state.handleRequest args moment peer).sent = [(peer, .acceptFlashblocks)] ∧
    ∃ later, (state.handleRequest args moment peer).state.peers.lookup peer = some later ∧ later.sendEnabled = true

theorem accepts_iff (present : state.peers.lookup peer = some peerState) (fresh : peerState.sendEnabled = false)
    (within : (state.checkControlRateLimit moment peer).2 = false) :
    state.Accepts args moment peer ↔ peerState.trusted = true ∨ state.sendCount < args.maxSendPeers := by
  rw [Accepts, handleRequest_eq present within args fresh]
  split
  · next refused =>
    constructor
    · rintro ⟨told, _⟩
      cases told
    · rintro (trusted | free)
      · exact absurd trusted refused.1
      · omega
  · next taken =>
    refine ⟨fun _ => ?_, fun _ => ⟨rfl, _, Finmap.lookup_insert _, rfl⟩⟩
    by_contra neither
    exact taken ⟨fun trusted => neither (.inl trusted), Nat.le_of_not_lt fun free => neither (.inr free)⟩

/-- A trusted peer is accepted, and an untrusted one exactly when fewer than `maxSendPeers` untrusted peers are in the
send set. -/
def AdmitsFairly (args : FanoutArgs PeerId) (moment : Moment PeerId) (state : FanoutState PeerId) (peer : PeerId)
    (trusted : Bool) : Prop :=
  (trusted = true → state.Accepts args moment peer) ∧
    (trusted = false → (state.Accepts args moment peer ↔ state.untrustedSendCount < args.maxSendPeers))

theorem untrustedSendCount_le (state : FanoutState PeerId) : state.untrustedSendCount ≤ state.sendCount :=
  count_le_count fun _ peerState present untrusted => ⟨peerState, present, (of_decide_eq_true untrusted).1⟩

/-- A request is treated by the protocol's rule exactly when the peer is trusted, or the send set is below the limit, or
the untrusted peers alone fill it. -/
theorem admits_fairly_iff (present : state.peers.lookup peer = some peerState) (fresh : peerState.sendEnabled = false)
    (within : (state.checkControlRateLimit moment peer).2 = false) :
    state.AdmitsFairly args moment peer peerState.trusted ↔
      peerState.trusted = true ∨ state.sendCount < args.maxSendPeers ∨ args.maxSendPeers ≤ state.untrustedSendCount := by
  have accepts : state.Accepts args moment peer ↔ _ := accepts_iff present fresh within
  have part := state.untrustedSendCount_le
  rw [AdmitsFairly, accepts]
  cases peerState.trusted with
  | true => simp
  | false =>
    simp only [Bool.false_eq_true, false_or, false_imp_iff, true_and, true_imp_iff]
    constructor
    · intro rule
      by_contra neither
      rw [not_or] at neither
      exact neither.1 (rule.mpr (Nat.lt_of_not_le neither.2))
    · rintro (free | filled)
      · exact ⟨fun _ => part.trans_lt free, fun _ => free⟩
      · constructor
        · intro free
          omega
        · intro room
          omega

def sampleMoment (now instant : ℕ) : Moment ℕ where
  now := now
  instant := instant
  chooser :=
    { pick := fun keys => if some : keys.Nonempty then keys.min' some else 0
      pick_mem := fun keys some => by
        rw [dif_pos some]
        exact Finset.min'_mem keys some }

def oneSlot : FanoutArgs ℕ := ⟨1, 0, 30, 16, []⟩

def trustedFirst : List (Moment ℕ × FanoutEvent ℕ) :=
  [(sampleMoment 100 0, .connected 1), (sampleMoment 100 0, .trustResolved 1 true),
    (sampleMoment 101 0, .message 1 .requestFlashblocks), (sampleMoment 102 0, .connected 2)]

def twoPeers : List (Moment ℕ × FanoutEvent ℕ) := trustedFirst.take 2 ++ [(sampleMoment 100 0, .connected 2)]

/-- Both a trusted peer and an untrusted one within the limit. -/
theorem admits_fairly_trusted_first :
    (FanoutState.after 9 oneSlot twoPeers).sendCount < oneSlot.maxSendPeers ∧
    (FanoutState.after 9 oneSlot twoPeers).AdmitsFairly oneSlot (sampleMoment 101 0) 1 true ∧
    (FanoutState.after 9 oneSlot twoPeers).AdmitsFairly oneSlot (sampleMoment 101 0) 2 false := by
  have trusted : (FanoutState.after 9 oneSlot twoPeers).peers.lookup 1 =
      some ⟨true, false, .notReceiving, 0, 0, 0⟩ := by decide +kernel
  have untrusted : (FanoutState.after 9 oneSlot twoPeers).peers.lookup 2 =
      some ⟨false, false, .notReceiving, 0, 0, 0⟩ := by decide +kernel
  have room : (FanoutState.after 9 oneSlot twoPeers).sendCount < oneSlot.maxSendPeers := by decide +kernel
  exact ⟨room, (admits_fairly_iff trusted rfl (by decide +kernel)).mpr (.inl rfl),
    (admits_fairly_iff untrusted rfl (by decide +kernel)).mpr (.inr (.inl room))⟩

theorem trusted_peer_takes_untrusted_slot :
    (FanoutState.after 9 oneSlot trustedFirst).untrustedSendCount = 0 ∧ oneSlot.maxSendPeers = 1 ∧
    ((FanoutState.after 9 oneSlot trustedFirst).peers.lookup 2).map (fun peerState => (peerState.trusted, peerState.sendEnabled)) =
      some (false, false) ∧
    ((FanoutState.after 9 oneSlot trustedFirst).checkControlRateLimit (sampleMoment 103 0) 2).2 = false ∧
    ((FanoutState.after 9 oneSlot trustedFirst).handleRequest oneSlot (sampleMoment 103 0) 2).sent = [(2, .rejectFlashblocks)] := by
  decide +kernel

end FanoutState

end WorldChain.P2P
