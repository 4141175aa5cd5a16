import WorldChain.P2P.Fanout

/-! # What the functions of the fanout do

Every function that asks for peers performs single requests, each to a peer that is not received from and each either
to a peer that is always to be received from or while a slot is free: `Requesting` says so once for all of them.
-/

namespace WorldChain.P2P

open Table

variable {PeerId : Type*} [DecidableEq PeerId]

namespace FlashblocksPeerState

variable (peerState : FlashblocksPeerState)

theorem isReceivingOrRequesting_eq_false : peerState.isReceivingOrRequesting = false ↔
    peerState.receiveStatus = .notReceiving := by
  simp [isReceivingOrRequesting]

theorem isReceivingOrRequesting_of_isReceiving {peerState : FlashblocksPeerState} (receiving : peerState.isReceiving = true) :
    peerState.isReceivingOrRequesting = true := by
  rw [isReceivingOrRequesting, decide_eq_true_eq]
  intro idle
  rw [isReceiving, idle] at receiving
  cases receiving

@[simp] theorem beginRequesting_isReceivingOrRequesting (now : ℕ) :
    (peerState.beginRequesting now).isReceivingOrRequesting = true := rfl

@[simp] theorem clearReceiveState_isReceivingOrRequesting (now : ℕ) :
    (peerState.clearReceiveState now).isReceivingOrRequesting = false := rfl

@[simp] theorem noteControlMsg_receiveStatus (instant : ℕ) :
    (peerState.noteControlMsg instant).receiveStatus = peerState.receiveStatus := by
  rw [noteControlMsg]
  split <;> rfl

@[simp] theorem noteControlMsg_sendEnabled (instant : ℕ) :
    (peerState.noteControlMsg instant).sendEnabled = peerState.sendEnabled := by
  rw [noteControlMsg]
  split <;> rfl

@[simp] theorem noteControlMsg_trusted (instant : ℕ) :
    (peerState.noteControlMsg instant).trusted = peerState.trusted := by
  rw [noteControlMsg]
  split <;> rfl

end FlashblocksPeerState

namespace FanoutState

variable {args : FanoutArgs PeerId} {moment : Moment PeerId} {state middle after : FanoutState PeerId} {peer : PeerId}
  {first second sent : List (PeerId × ControlMsg)}

/-- A sequence of requests, with the messages sent. -/
inductive Requesting (args : FanoutArgs PeerId) (moment : Moment PeerId) :
    FanoutState PeerId → List (PeerId × ControlMsg) → FanoutState PeerId → Prop
  | done (state : FanoutState PeerId) : Requesting args moment state [] state
  | next {state after : FanoutState PeerId} {peer : PeerId} {peerState : FlashblocksPeerState}
      {sent : List (PeerId × ControlMsg)} (present : state.peers.lookup peer = some peerState)
      (idle : peerState.receiveStatus = .notReceiving)
      (room : peer ∈ args.forceReceivePeers ∨ state.numReceiveOrRequestingPeers < args.maxReceivePeers)
      (rest : Requesting args moment (state.beginRequestingPeer moment peer).1 sent after) :
      Requesting args moment state ((peer, .requestFlashblocks) :: sent) after

theorem Requesting.trans (left : Requesting args moment state first middle)
    (right : Requesting args moment middle second after) : Requesting args moment state (first ++ second) after := by
  induction left with
  | done => exact right
  | next present idle room _ ih => exact .next present idle room (ih right)

theorem sendDirect_of_lookup {peerState : FlashblocksPeerState} (present : state.peers.lookup peer = some peerState)
    (msg : ControlMsg) : state.sendDirect peer msg = [(peer, msg)] :=
  if_pos (Finmap.mem_of_lookup_eq_some present)

@[simp] theorem sendDirect_insert (peers : Finmap fun _ : PeerId => FlashblocksPeerState) (peer : PeerId)
    (entry : FlashblocksPeerState) (msg : ControlMsg) :
    sendDirect (⟨peers.insert peer entry⟩ : FanoutState PeerId) peer msg = [(peer, msg)] :=
  if_pos (Finmap.mem_insert.mpr (.inl rfl))

theorem requesting_begin (moment : Moment PeerId) {peerState : FlashblocksPeerState} (present : state.peers.lookup peer = some peerState)
    (idle : peerState.receiveStatus = .notReceiving)
    (room : peer ∈ args.forceReceivePeers ∨ state.numReceiveOrRequestingPeers < args.maxReceivePeers) :
    Requesting args moment state (state.beginRequestingPeer moment peer).2 (state.beginRequestingPeer moment peer).1 := by
  rw [beginRequestingPeer, sendDirect_of_lookup present]
  exact .next present idle room (.done _)

theorem requesting_force (peers : List PeerId) (force : ∀ peer ∈ peers, peer ∈ args.forceReceivePeers)
    (state : FanoutState PeerId) :
    Requesting args moment state (requestForcePeers moment peers state).2 (requestForcePeers moment peers state).1 := by
  induction peers generalizing state with
  | nil => exact .done state
  | cons peer others ih =>
    have rest := fun state => ih (fun other member => force other (List.mem_cons_of_mem _ member)) state
    rw [requestForcePeers]
    split
    · next asks =>
      obtain ⟨peerState, present, idle⟩ := (Option.any_eq_true ..).mp asks
      have begun := requesting_begin moment present (of_decide_eq_true idle)
        (.inl (force peer List.mem_cons_self))
      exact begun.trans (rest _)
    · exact rest state

theorem mem_availableReceiveCandidates (member : peer ∈ state.availableReceiveCandidates args moment) :
    ∃ peerState, state.peers.lookup peer = some peerState ∧ peerState.receiveStatus = .notReceiving := by
  obtain ⟨peerState, present, available⟩ := mem_select.mp member
  exact ⟨peerState, present, (of_decide_eq_true available).1⟩

theorem pick_candidate (some : state.availableReceiveCandidates args moment ≠ ∅) :
    ∃ peerState, state.peers.lookup (moment.chooser.pick (state.availableReceiveCandidates args moment)) =
      .some peerState ∧ peerState.receiveStatus = .notReceiving :=
  mem_availableReceiveCandidates (moment.chooser.pick_mem _ (Finset.nonempty_iff_ne_empty.mpr some))

theorem requesting_loop (fuel : ℕ) (state : FanoutState PeerId) :
    Requesting args moment state (requestLoop args moment fuel state).2 (requestLoop args moment fuel state).1 := by
  induction fuel generalizing state with
  | zero => exact .done state
  | succ fuel ih =>
    rw [requestLoop]
    split
    · next room =>
      split
      · exact .done state
      · next some =>
        obtain ⟨peerState, present, idle⟩ := pick_candidate some
        exact (requesting_begin moment present idle (.inr room)).trans (ih _)
    · exact .done state

theorem requesting_maybeRequest (args : FanoutArgs PeerId) (moment : Moment PeerId) (state : FanoutState PeerId) :
    Requesting args moment state (state.maybeRequestReceivePeers args moment).2
      (state.maybeRequestReceivePeers args moment).1 :=
  (requesting_force _ (fun _ member => member) state).trans (requesting_loop _ _)

theorem requesting_expire (args : FanoutArgs PeerId) (moment : Moment PeerId) (state : FanoutState PeerId) :
    ∃ cleared : FanoutState PeerId,
      (∀ peer, cleared.peers.lookup peer = (state.peers.lookup peer).map fun peerState =>
        if peerState.isStale moment.now then peerState.clearReceiveState moment.now else peerState) ∧
      Requesting args moment cleared (state.expireStaleReceiveRequests args moment).2
        (state.expireStaleReceiveRequests args moment).1 := by
  refine ⟨⟨mapEntries (fun _ peerState =>
    if peerState.isStale moment.now then peerState.clearReceiveState moment.now else peerState) state.peers⟩,
    fun peer => lookup_mapEntries .., ?_⟩
  rw [expireStaleReceiveRequests]
  split
  · exact .done _
  · exact requesting_maybeRequest args moment _

theorem worstReceivePeer_spec {evict : PeerId} (worst : state.worstReceivePeer args moment = some evict) :
    evict ∉ args.forceReceivePeers ∧
      ∃ peerState, state.peers.lookup evict = some peerState ∧ peerState.isReceiving = true := by
  rw [worstReceivePeer] at worst
  split at worst
  · cases worst
  · next some =>
    obtain ⟨top, member, greatest⟩ := Finset.exists_max_image (state.rotatablePeers args) state.scoreOf
      (Finset.nonempty_iff_ne_empty.mpr some)
    have nonempty : ((state.rotatablePeers args).filter fun peer =>
        ∀ other ∈ state.rotatablePeers args, state.scoreOf other ≤ state.scoreOf peer).Nonempty :=
      ⟨top, Finset.mem_filter.mpr ⟨member, greatest⟩⟩
    have picked := moment.chooser.pick_mem _ nonempty
    rw [Option.some.inj worst] at picked
    obtain ⟨peerState, present, rotatable⟩ := mem_select.mp (Finset.mem_filter.mp picked).1
    obtain ⟨regular, receiving⟩ := of_decide_eq_true rotatable
    exact ⟨regular, peerState, present, receiving⟩

theorem maybeStartRotation_cases (args : FanoutArgs PeerId) (moment : Moment PeerId) (state : FanoutState PeerId) :
    state.maybeStartRotation args moment = (state, []) ∨
    ∃ evict candidate evicted chosen, evict ∉ args.forceReceivePeers ∧ evict ≠ candidate ∧
      state.peers.lookup evict = some evicted ∧ evicted.isReceiving = true ∧
      state.peers.lookup candidate = some chosen ∧ chosen.receiveStatus = .notReceiving ∧
      state.maybeStartRotation args moment =
        (⟨adjust candidate (·.beginRequesting moment.now) (adjust evict (·.clearReceiveState moment.now) state.peers)⟩,
          [(evict, .cancelFlashblocks), (candidate, .requestFlashblocks)]) := by
  rw [maybeStartRotation]
  split
  · exact .inl rfl
  · cases worst : state.worstReceivePeer args moment with
    | none => exact .inl rfl
    | some evict =>
      dsimp only
      split
      · exact .inl rfl
      · next some =>
        obtain ⟨regular, evicted, held, receiving⟩ := worstReceivePeer_spec worst
        obtain ⟨chosen, present, idle⟩ := pick_candidate some
        generalize moment.chooser.pick (state.availableReceiveCandidates args moment) = candidate at present
        have different : evict ≠ candidate := by
          rintro rfl
          obtain rfl : evicted = chosen := Option.some.inj (held.symm.trans present)
          rw [FlashblocksPeerState.isReceiving, idle] at receiving
          cases receiving
        refine .inr ⟨evict, candidate, evicted, chosen, regular, different, held, receiving, present, idle, ?_⟩
        have stillHeld : (adjust evict (·.clearReceiveState moment.now) state.peers).lookup evict =
            .some (evicted.clearReceiveState moment.now) := by
          rw [lookup_adjust_self, held, Option.map_some]
        have stillPresent : (adjust evict (·.clearReceiveState moment.now) state.peers).lookup candidate = .some chosen := by
          rw [lookup_adjust_of_ne different.symm, present]
        let cleared : FanoutState PeerId := ⟨adjust evict (·.clearReceiveState moment.now) state.peers⟩
        have cancels : cleared.sendDirect evict .cancelFlashblocks = [(evict, .cancelFlashblocks)] :=
          sendDirect_of_lookup stillHeld .cancelFlashblocks
        have requests : cleared.sendDirect candidate .requestFlashblocks = [(candidate, .requestFlashblocks)] :=
          sendDirect_of_lookup stillPresent .requestFlashblocks
        change andThen (cleared, cleared.sendDirect evict .cancelFlashblocks) _ = _
        rw [andThen, cancels]
        dsimp only
        rw [beginRequestingPeer, requests]
        rfl

theorem checkControlRateLimit_fst : (state.checkControlRateLimit moment peer).1 =
    ⟨adjust peer (·.noteControlMsg moment.instant) state.peers⟩ := by
  rw [checkControlRateLimit, adjust]
  cases state.peers.lookup peer <;> rfl

/-- What the message of a peer can do once it has been counted. -/
inductive Handling (args : FanoutArgs PeerId) (moment : Moment PeerId) (peer : PeerId) (state : FanoutState PeerId) :
    List (PeerId × ControlMsg) → FanoutState PeerId → Prop
  | kept {sent : List (PeerId × ControlMsg)} (towards : ∀ letter ∈ sent, letter.1 = peer) : Handling args moment peer state sent state
  | changed {sent : List (PeerId × ControlMsg)} {earlier entry : FlashblocksPeerState}
      (towards : ∀ letter ∈ sent, letter.1 = peer) (present : state.peers.lookup peer = some earlier)
      (starts : entry.isReceivingOrRequesting = true → earlier.isReceivingOrRequesting = true) :
      Handling args moment peer state sent ⟨state.peers.insert peer entry⟩
  | replaced {entry : FlashblocksPeerState} (idle : entry.isReceivingOrRequesting = false) :
      Handling args moment peer state (maybeRequestReceivePeers args moment ⟨state.peers.insert peer entry⟩).2
        (maybeRequestReceivePeers args moment ⟨state.peers.insert peer entry⟩).1

theorem sendDirect_towards (state : FanoutState PeerId) (peer : PeerId) (msg : ControlMsg) :
    ∀ letter ∈ state.sendDirect peer msg, letter.1 = peer := by
  intro letter member
  rw [sendDirect] at member
  split at member
  · rw [List.mem_singleton.mp member]
  · cases member

theorem handling (args : FanoutArgs PeerId) (moment : Moment PeerId) (state : FanoutState PeerId) (peer : PeerId) (msg : ControlMsg) :
    Handling args moment peer (state.checkControlRateLimit moment peer).1 (state.handle args moment peer msg).sent
      (state.handle args moment peer msg).state := by
  rcases limit : state.checkControlRateLimit moment peer with ⟨counted, limited⟩
  have ignored : Handling args moment peer counted [] counted := .kept (by simp)
  cases msg with
  | requestFlashblocks =>
    simp only [handle, handleRequest, limit]
    split
    · exact ignored
    · split
      · exact ignored
      · next peerState present =>
        split
        · exact ignored
        · split
          · exact .kept (sendDirect_towards _ _ _)
          · rw [adjust, present]
            exact .changed (sendDirect_towards _ _ _) present fun active => active
  | acceptFlashblocks =>
    simp only [handle, handleAccept, limit]
    split
    · exact ignored
    · split
      · exact ignored
      · next peerState present =>
        split
        · next requesting =>
          refine .changed (by simp) present fun _ => ?_
          simp [FlashblocksPeerState.isReceivingOrRequesting, requesting]
        · exact ignored
  | rejectFlashblocks =>
    simp only [handle, handleReject, limit]
    split
    · exact ignored
    · split
      · exact ignored
      · split
        · exact .replaced (FlashblocksPeerState.clearReceiveState_isReceivingOrRequesting ..)
        · exact ignored
  | cancelFlashblocks =>
    simp only [handle, handleCancel, limit]
    split
    · exact ignored
    · split
      · exact ignored
      · next peerState present =>
        split
        · exact .changed (by simp) present fun active => active
        · exact ignored

/-! ## Messages within the limit -/

def counted (moment : Moment PeerId) (state : FanoutState PeerId) (peer : PeerId) : FanoutState PeerId :=
  ⟨adjust peer (·.noteControlMsg moment.instant) state.peers⟩

section

variable {peerState : FlashblocksPeerState} (present : state.peers.lookup peer = some peerState)
  (within : (state.checkControlRateLimit moment peer).2 = false)

include within in
theorem checkControlRateLimit_eq : state.checkControlRateLimit moment peer = (state.counted moment peer, false) :=
  Prod.ext checkControlRateLimit_fst within

include present

theorem lookup_counted : (state.counted moment peer).peers.lookup peer = some (peerState.noteControlMsg moment.instant) := by
  rw [counted, lookup_adjust_self, present, Option.map_some]

theorem sendCount_counted : (state.counted moment peer).sendCount = state.sendCount := by
  have changed := count_adjust (fun _ peerState => peerState.sendEnabled) (·.noteControlMsg moment.instant) present
  rw [FlashblocksPeerState.noteControlMsg_sendEnabled] at changed
  exact Nat.add_right_cancel changed

include within

theorem handleRequest_eq (args : FanoutArgs PeerId) (fresh : peerState.sendEnabled = false) : state.handleRequest args moment peer =
    if ¬ peerState.trusted = true ∧ args.maxSendPeers ≤ state.sendCount then
      ⟨state.counted moment peer, [(peer, .rejectFlashblocks)], false⟩
    else ⟨⟨(state.counted moment peer).peers.insert peer
      { peerState.noteControlMsg moment.instant with sendEnabled := true }⟩, [(peer, .acceptFlashblocks)], false⟩ := by
  have held : (state.counted moment peer).peers.lookup peer = _ := lookup_counted present
  have entered : (adjust peer (fun peerState : FlashblocksPeerState => { peerState with sendEnabled := true })
      (state.counted moment peer).peers) = (state.counted moment peer).peers.insert peer
        { peerState.noteControlMsg moment.instant with sendEnabled := true } := by
    rw [adjust, held]
  simp only [handleRequest, checkControlRateLimit_eq within, held, FlashblocksPeerState.noteControlMsg_sendEnabled, fresh,
    FlashblocksPeerState.noteControlMsg_trusted, sendCount_counted present, Bool.false_eq_true, if_false, ge_iff_le,
    sendDirect_of_lookup held, entered, sendDirect_insert]

theorem handleAccept_eq (args : FanoutArgs PeerId) (requesting : peerState.receiveStatus = .requesting) : state.handleAccept args moment peer =
    ⟨⟨(state.counted moment peer).peers.insert peer { peerState.noteControlMsg moment.instant with
      receiveStatus := .receiving (.new args.scoreSamples) }⟩, [], false⟩ := by
  have held : (state.counted moment peer).peers.lookup peer = _ := lookup_counted present
  simp only [handleAccept, checkControlRateLimit_eq within, held, FlashblocksPeerState.noteControlMsg_receiveStatus,
    requesting, Bool.false_eq_true, if_false]

theorem handleReject_eq (args : FanoutArgs PeerId) (requesting : peerState.receiveStatus = .requesting) :
    ∃ cleared : FanoutState PeerId,
      cleared.peers.lookup peer = some ((peerState.noteControlMsg moment.instant).clearReceiveState moment.now) ∧
      state.handleReject args moment peer = ⟨(cleared.maybeRequestReceivePeers args moment).1,
        (cleared.maybeRequestReceivePeers args moment).2, false⟩ := by
  have held : (state.counted moment peer).peers.lookup peer = _ := lookup_counted present
  refine ⟨⟨(state.counted moment peer).peers.insert peer _⟩, Finmap.lookup_insert _, ?_⟩
  simp only [handleReject, checkControlRateLimit_eq within, held, FlashblocksPeerState.noteControlMsg_receiveStatus,
    requesting, Bool.false_eq_true, if_false]

theorem handleCancel_eq (sending : peerState.sendEnabled = true) : state.handleCancel moment peer =
    ⟨⟨(state.counted moment peer).peers.insert peer
      { peerState.noteControlMsg moment.instant with sendEnabled := false }⟩, [], false⟩ := by
  have held : (state.counted moment peer).peers.lookup peer = _ := lookup_counted present
  simp only [handleCancel, checkControlRateLimit_eq within, held, FlashblocksPeerState.noteControlMsg_sendEnabled,
    sending, Bool.false_eq_true, if_false, if_true]

end

end FanoutState

end WorldChain.P2P
