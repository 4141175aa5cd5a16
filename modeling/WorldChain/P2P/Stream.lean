import WorldChain.Machine.Run
import WorldChain.P2P.Publish

/-! # A stream of flashblocks beside the publisher

`flashblock_stream` clones the flashblocks that can be sent and then subscribes to the broadcast, and a publisher may take
the lock in between. The stream is exact if and only if what is published in between is what the clone held already.
-/

namespace WorldChain.P2P

open Machine Reorder

variable {Body : Type*}

/-- The stream that `flashblock_stream` returns: the clone that is left, the messages of the broadcast that are unread,
and what came out. -/
structure FlashblockStream (Body : Type*) where
  current : List (FlashblocksPayloadV1 Body)
  future : List (FlashblocksPayloadV1 Body)
  yielded : List (FlashblocksPayloadV1 Body)
deriving DecidableEq, Repr

namespace FlashblockStream

def poll : FlashblockStream Body → FlashblockStream Body
  | ⟨payload :: current, future, yielded⟩ => ⟨current, future, yielded ++ [payload]⟩
  | ⟨[], payload :: future, yielded⟩ => ⟨[], future, yielded ++ [payload]⟩
  | ⟨[], [], yielded⟩ => ⟨[], [], yielded⟩

/-- The next poll would wait. -/
def Waits (stream : FlashblockStream Body) : Prop := stream.current = [] ∧ stream.future = []

def contents (stream : FlashblockStream Body) : List (FlashblocksPayloadV1 Body) :=
  stream.yielded ++ stream.current ++ stream.future

@[simp] theorem contents_poll (stream : FlashblockStream Body) : stream.poll.contents = stream.contents := by
  rcases stream with ⟨_ | ⟨payload, current⟩, _ | ⟨other, future⟩, yielded⟩ <;> simp [poll, contents]

end FlashblockStream

/-- How far a call of `flashblock_stream` has come. -/
inductive Subscription (Body : Type*)
  | absent
  | cloned (flashblocks : List (FlashblocksPayloadV1 Body))
  | streaming (stream : FlashblockStream Body)
deriving DecidableEq, Repr

/-- Why a step cannot be taken now. -/
inductive Blocked
  | lockHeld
  | nothingToSend
  | outOfTurn
deriving DecidableEq, Repr

/-- The state, and what the publisher that holds its lock has still to send. -/
structure Publisher (Body : Type*) where
  state : FlashblocksP2PState Body
  sending : List (FlashblocksPayloadV1 Body)
deriving DecidableEq, Repr

namespace Publisher

variable (publisher : Publisher Body)

/-- The lock is free once everything of the call before is sent. -/
def publish (call : AuthorizedPayload Body) : Except Blocked (Publisher Body) :=
  if publisher.sending = [] then .ok ⟨(publisher.state.publish call).1, (publisher.state.publish call).2⟩
  else .error .lockHeld

def send : Except Blocked (FlashblocksPayloadV1 Body × Publisher Body) :=
  match publisher.sending with
  | [] => .error .nothingToSend
  | payload :: rest => .ok (payload, { publisher with sending := rest })

variable {publisher} {after : Publisher Body}

theorem publish_ok {call : AuthorizedPayload Body} (success : publisher.publish call = .ok after) :
    publisher.sending = [] ∧ after = ⟨(publisher.state.publish call).1, (publisher.state.publish call).2⟩ := by
  rw [publish] at success
  split at success
  · next free => exact ⟨free, (Except.ok.inj success).symm⟩
  · cases success

theorem send_ok {payload : FlashblocksPayloadV1 Body} (success : publisher.send = .ok (payload, after)) :
    publisher.sending = payload :: after.sending ∧ after.state = publisher.state := by
  rw [send] at success
  split at success
  · cases success
  · next pending =>
    cases success
    exact ⟨pending, rfl⟩

end Publisher

/-- `sent` is everything published so far and `payloadStart` where in it the current payload begins. -/
structure Node (Body : Type*) extends Publisher Body where
  sent : List (FlashblocksPayloadV1 Body)
  payloadStart : ℕ
  subscription : Subscription Body
deriving DecidableEq, Repr

/-- The steps that can be interleaved. -/
inductive NodeEvent (Body : Type*)
  | publish (call : AuthorizedPayload Body)
  | send
  | clone
  | subscribe
  | poll
deriving DecidableEq, Repr

/-- The call is for a later payload than the one in place. -/
def FlashblocksP2PState.Resets (state : FlashblocksP2PState Body) (call : AuthorizedPayload Body) : Prop :=
  Epoch.Consistent call ∧ state.payloadTimestamp < call.authorization.timestamp

instance (state : FlashblocksP2PState Body) (call : AuthorizedPayload Body) : Decidable (state.Resets call) :=
  inferInstanceAs (Decidable (_ ∧ _))

def Subscription.receive (payload : FlashblocksPayloadV1 Body) : Subscription Body → Subscription Body
  | .streaming stream => .streaming { stream with future := stream.future ++ [payload] }
  | other => other

namespace Node

def initial : Node Body := ⟨⟨.initial, []⟩, [], 0, .absent⟩

/-- What has been published of the payload in place. -/
def published (node : Node Body) : List (FlashblocksPayloadV1 Body) := node.sent.drop node.payloadStart

def step (node : Node Body) : NodeEvent Body → Except Blocked (Node Body)
  | .publish call => do
    let publisher ← node.toPublisher.publish call
    return { node with
      toPublisher := publisher
      payloadStart := if node.state.Resets call then node.sent.length else node.payloadStart }
  | .send => do
    let (payload, publisher) ← node.toPublisher.send
    return { node with
      toPublisher := publisher
      sent := node.sent ++ [payload]
      subscription := node.subscription.receive payload }
  | .clone =>
    if node.sending = [] then
      match node.subscription with
      | .absent => .ok { node with subscription := .cloned (contiguous node.state.flashblocks) }
      | _ => .error .outOfTurn
    else .error .lockHeld
  | .subscribe =>
    match node.subscription with
    | .cloned flashblocks => .ok { node with subscription := .streaming ⟨flashblocks, [], []⟩ }
    | _ => .error .outOfTurn
  | .poll =>
    match node.subscription with
    | .streaming stream => .ok { node with subscription := .streaming stream.poll }
    | _ => .error .outOfTurn

/-- The interleavings: any publisher may call at any time. -/
abbrev Runs : Node Body → List (NodeEvent Body) → Node Body → Prop :=
  Run step fun _ _ => True

variable {node after : Node Body}

/-! ## What each step does -/

theorem step_publish_ok {call : AuthorizedPayload Body} (success : node.step (.publish call) = .ok after) :
    node.sending = [] ∧ after = { node with
      state := (node.state.publish call).1
      sending := (node.state.publish call).2
      payloadStart := if node.state.Resets call then node.sent.length else node.payloadStart } := by
  obtain ⟨publisher, published, ends⟩ := bind_eq_ok.mp success
  obtain ⟨free, rfl⟩ := Publisher.publish_ok published
  exact ⟨free, (Except.ok.inj ends).symm⟩

theorem step_send_ok (success : node.step .send = .ok after) :
    ∃ payload rest, node.sending = payload :: rest ∧ after = { node with
      sending := rest, sent := node.sent ++ [payload], subscription := node.subscription.receive payload } := by
  obtain ⟨⟨payload, state, rest⟩, sends, ends⟩ := bind_eq_ok.mp success
  obtain ⟨pending, rfl⟩ := Publisher.send_ok sends
  exact ⟨payload, rest, pending, (Except.ok.inj ends).symm⟩

theorem step_clone_ok (success : node.step .clone = .ok after) :
    node.sending = [] ∧ node.subscription = .absent ∧
      after = { node with subscription := .cloned (contiguous node.state.flashblocks) } := by
  rw [step] at success
  split at success
  · next free =>
    split at success
    · next absent => exact ⟨free, absent, (Except.ok.inj success).symm⟩
    · cases success
  · cases success

theorem step_subscribe_ok (success : node.step .subscribe = .ok after) :
    ∃ flashblocks, node.subscription = .cloned flashblocks ∧
      after = { node with subscription := .streaming ⟨flashblocks, [], []⟩ } := by
  rw [step] at success
  split at success
  · next flashblocks cloned => exact ⟨flashblocks, cloned, (Except.ok.inj success).symm⟩
  · cases success

theorem step_poll_ok (success : node.step .poll = .ok after) :
    ∃ stream, node.subscription = .streaming stream ∧ after = { node with subscription := .streaming stream.poll } := by
  rw [step] at success
  split at success
  · next stream streaming => exact ⟨stream, streaming, (Except.ok.inj success).symm⟩
  · cases success

/-! ## What every interleaving keeps -/

variable {event : NodeEvent Body} {events : List (NodeEvent Body)} {position : ℕ}
  {snapshot : List (FlashblocksPayloadV1 Body)}

/-- The state follows an epoch of the flashblocks published of the payload in place and those about to be sent. -/
structure Sound (node : Node Body) : Prop where
  started : node.payloadStart ≤ node.sent.length
  tracks : ∃ epoch, Tracks node.state epoch (node.published ++ node.sending)

theorem Sound.publish {call : AuthorizedPayload Body} (sound : node.Sound)
    (success : node.step (.publish call) = .ok after) : after.Sound := by
  obtain ⟨free, rfl⟩ := step_publish_ok success
  obtain ⟨epoch, tracks⟩ := sound.tracks
  rw [free, List.append_nil] at tracks
  have followed := (tracks.publish call).1
  have ends : epoch.Ends call ↔ node.state.Resets call := by
    rw [Epoch.Ends, FlashblocksP2PState.Resets, tracks.timestamp]
  by_cases resets : node.state.Resets call
  · rw [if_pos (ends.mpr resets)] at followed
    refine ⟨?_, epoch.next call, ?_⟩
    · simp [resets]
    · simpa [published, resets] using followed
  · rw [if_neg (ends.not.mpr resets)] at followed
    refine ⟨?_, epoch.next call, ?_⟩
    · simpa [resets] using sound.started
    · simpa [published, resets] using followed

theorem Sound.send (sound : node.Sound) (success : node.step .send = .ok after) : after.Sound := by
  obtain ⟨payload, rest, pending, rfl⟩ := step_send_ok success
  obtain ⟨epoch, tracks⟩ := sound.tracks
  refine ⟨?_, epoch, ?_⟩
  · simpa using sound.started.trans (Nat.le_succ _)
  · -- the flashblock moves from what is to be sent to what is sent
    rw [pending] at tracks
    simpa [published, List.drop_append_of_le_length sound.started] using tracks

theorem Sound.step (sound : node.Sound) (success : node.step event = .ok after) : after.Sound := by
  cases event with
  | publish call => exact sound.publish success
  | send => exact sound.send success
  | clone =>
    obtain ⟨_, _, rfl⟩ := step_clone_ok success
    exact ⟨sound.started, sound.tracks⟩
  | subscribe =>
    obtain ⟨_, _, rfl⟩ := step_subscribe_ok success
    exact ⟨sound.started, sound.tracks⟩
  | poll =>
    obtain ⟨_, _, rfl⟩ := step_poll_ok success
    exact ⟨sound.started, sound.tracks⟩

theorem sound_of_run (run : Runs .initial events node) : node.Sound :=
  run.invariant ⟨Nat.le_refl _, .initial, Tracks.initial⟩ fun sound _ success => sound.step success

theorem sent_prefix_of_step (success : node.step event = .ok after) : node.sent <+: after.sent := by
  cases event with
  | publish call =>
    obtain ⟨_, rfl⟩ := step_publish_ok success
    exact List.prefix_rfl
  | send =>
    obtain ⟨_, _, _, rfl⟩ := step_send_ok success
    exact List.prefix_append ..
  | clone =>
    obtain ⟨_, _, rfl⟩ := step_clone_ok success
    exact List.prefix_rfl
  | subscribe =>
    obtain ⟨_, _, rfl⟩ := step_subscribe_ok success
    exact List.prefix_rfl
  | poll =>
    obtain ⟨_, _, rfl⟩ := step_poll_ok success
    exact List.prefix_rfl

theorem sent_prefix_of_run (run : Runs node events after) : node.sent <+: after.sent :=
  run.invariant (motive := fun reached => node.sent <+: reached.sent) List.prefix_rfl
    fun kept _ success => kept.trans (sent_prefix_of_step success)

/-- The clone stays as it was taken until it is subscribed with. -/
def Keeps (snapshot : List (FlashblocksPayloadV1 Body)) (node : Node Body) : Prop :=
  node.subscription = .cloned snapshot ∨ ∃ stream, node.subscription = .streaming stream

theorem Keeps.step (keeps : node.Keeps snapshot) (success : node.step event = .ok after) : after.Keeps snapshot := by
  cases event with
  | publish call =>
    obtain ⟨_, rfl⟩ := step_publish_ok success
    exact keeps
  | send =>
    obtain ⟨payload, _, _, rfl⟩ := step_send_ok success
    rcases keeps with cloned | ⟨stream, streaming⟩
    · exact .inl (by rw [cloned]; rfl)
    · exact .inr ⟨_, by rw [streaming]; rfl⟩
  | clone =>
    obtain ⟨_, absent, _⟩ := step_clone_ok success
    rcases keeps with cloned | ⟨_, streaming⟩
    · cases absent.symm.trans cloned
    · cases absent.symm.trans streaming
  | subscribe =>
    obtain ⟨_, _, rfl⟩ := step_subscribe_ok success
    exact .inr ⟨_, rfl⟩
  | poll =>
    obtain ⟨_, _, rfl⟩ := step_poll_ok success
    exact .inr ⟨_, rfl⟩

/-- The stream holds the clone it began with and then what was sent from `position` on. -/
structure Follows (snapshot : List (FlashblocksPayloadV1 Body)) (position : ℕ) (node : Node Body)
    (stream : FlashblockStream Body) : Prop where
  streaming : node.subscription = .streaming stream
  subscribed : position ≤ node.sent.length
  contents : stream.contents = snapshot ++ node.sent.drop position

theorem Follows.step {stream : FlashblockStream Body} (follows : Follows snapshot position node stream)
    (success : node.step event = .ok after) : ∃ stream, Follows snapshot position after stream := by
  cases event with
  | publish call =>
    obtain ⟨_, rfl⟩ := step_publish_ok success
    exact ⟨stream, follows.streaming, follows.subscribed, follows.contents⟩
  | send =>
    obtain ⟨payload, _, _, rfl⟩ := step_send_ok success
    refine ⟨{ stream with future := stream.future ++ [payload] }, ?_, ?_, ?_⟩
    · rw [follows.streaming]
      rfl
    · simpa using follows.subscribed.trans (Nat.le_succ _)
    · have extended := congrArg (· ++ [payload]) follows.contents
      simpa [FlashblockStream.contents, List.drop_append_of_le_length follows.subscribed] using extended
  | clone =>
    obtain ⟨_, absent, _⟩ := step_clone_ok success
    cases absent.symm.trans follows.streaming
  | subscribe =>
    obtain ⟨_, cloned, _⟩ := step_subscribe_ok success
    cases cloned.symm.trans follows.streaming
  | poll =>
    obtain ⟨polled, streaming, rfl⟩ := step_poll_ok success
    obtain rfl : polled = stream := Subscription.streaming.inj (streaming.symm.trans follows.streaming)
    exact ⟨polled.poll, rfl, follows.subscribed, polled.contents_poll.trans follows.contents⟩

/-! ## When a stream is exact -/

/-- However the node goes on, the stream yields what was published from `start` on, in order and once each. -/
def Exact (start : ℕ) (opened : Node Body) : Prop :=
  ∀ events node, Runs opened events node → ∃ stream, node.subscription = .streaming stream ∧
    stream.yielded <+: node.sent.drop start ∧ (stream.Waits → stream.yielded = node.sent.drop start)

theorem polled_out (node : Node Body) (stream : FlashblockStream Body)
    (streaming : node.subscription = .streaming stream) : ∃ events after polled, Runs node events after ∧
      after.subscription = .streaming polled ∧ polled.Waits ∧ after.sent = node.sent := by
  induction remaining : stream.current.length + stream.future.length generalizing node stream with
  | zero =>
    refine ⟨[], node, stream, .start _, streaming, ⟨?_, ?_⟩, rfl⟩ <;>
      exact List.length_eq_zero_iff.mp (by omega)
  | succ remaining ih =>
    have polls : node.step .poll = .ok { node with subscription := .streaming stream.poll } := by
      rw [step, streaming]
    obtain ⟨events, after, polled, run, rest⟩ :=
      ih { node with subscription := .streaming stream.poll } stream.poll rfl (by
        rcases stream with ⟨_ | ⟨payload, current⟩, _ | ⟨other, future⟩, yielded⟩ <;>
          simp only [FlashblockStream.poll, List.length_nil, List.length_cons] at remaining ⊢ <;> omega)
    exact ⟨_, after, polled, (Run.single trivial polls).append run, rest⟩

theorem Follows.exact {stream : FlashblockStream Body} {start : ℕ} (follows : Follows snapshot position node stream)
    (aligned : snapshot ++ node.sent.drop position = node.sent.drop start) :
    stream.yielded <+: node.sent.drop start ∧ (stream.Waits → stream.yielded = node.sent.drop start) := by
  rw [← aligned, ← follows.contents, FlashblockStream.contents, List.append_assoc]
  refine ⟨List.prefix_append .., ?_⟩
  intro waits
  rw [waits.1, waits.2, List.append_nil, List.append_nil]

theorem follows_of_run {during opened : Node Body} (cloned : during.subscription = .cloned snapshot)
    (subscribes : during.step .subscribe = .ok opened) (run : Runs opened events node) :
    ∃ stream, Follows snapshot during.sent.length node stream := by
  refine run.invariant (motive := fun reached => ∃ stream, Follows snapshot during.sent.length reached stream) ?_
    fun ⟨_, follows⟩ _ success => follows.step success
  obtain ⟨taken, held, rfl⟩ := step_subscribe_ok subscribes
  obtain rfl : taken = snapshot := Subscription.cloned.inj (held.symm.trans cloned)
  exact ⟨⟨taken, [], []⟩, rfl, Nat.le_refl _, by simp [FlashblockStream.contents]⟩

theorem Sound.clone (sound : node.Sound) (free : node.sending = []) : contiguous node.state.flashblocks =
    node.published ++ contiguous (node.state.flashblocks.drop node.state.flashblockIndex) := by
  obtain ⟨epoch, tracks⟩ := sound.tracks
  rw [free, List.append_nil] at tracks
  rw [tracks.sent]
  exact contiguous_eq_take_append _ tracks.bounded

theorem aligned_iff {before during : Node Body} {held : List (FlashblocksPayloadV1 Body)} (sound : before.Sound)
    (grown : before.sent <+: during.sent) (later : during.sent <+: node.sent) :
    (before.published ++ held) ++ node.sent.drop during.sent.length = node.sent.drop before.payloadStart ↔
      during.sent.drop before.sent.length = held := by
  obtain ⟨gap, split⟩ := grown
  obtain ⟨rest, split'⟩ := later
  have start : node.sent.drop before.payloadStart = before.published ++ (gap ++ rest) := by
    rw [← split', ← split, List.append_assoc, List.drop_append_of_le_length sound.started, published]
  rw [start, ← split', ← split, List.drop_left, List.drop_left, List.append_assoc, List.append_cancel_left_eq,
    List.append_cancel_right_eq]
  exact eq_comm

/-- A stream is exact if and only if what is published between the clone and the subscription is what the clone held and
had not been published. -/
theorem stream_exact_iff_gap {before cloned during opened : Node Body} {early meanwhile : List (NodeEvent Body)}
    (reached : Runs .initial early before) (clones : before.step .clone = .ok cloned)
    (continued : Runs cloned meanwhile during) (subscribes : during.step .subscribe = .ok opened) :
    opened.Exact before.payloadStart ↔ during.sent.drop before.sent.length =
      contiguous (before.state.flashblocks.drop before.state.flashblockIndex) := by
  have sound := sound_of_run reached
  have grown : before.sent <+: during.sent := (sent_prefix_of_step clones).trans (sent_prefix_of_run continued)
  obtain ⟨free, _, rfl⟩ := step_clone_ok clones
  have kept : during.subscription = .cloned (contiguous before.state.flashblocks) := by
    have keeps : during.Keeps (contiguous before.state.flashblocks) :=
      continued.invariant (.inl rfl) fun keeps _ success => keeps.step success
    obtain ⟨_, held, _⟩ := step_subscribe_ok subscribes
    rcases keeps with kept | ⟨_, streaming⟩
    · exact kept
    · cases held.symm.trans streaming
  have later {events : List (NodeEvent Body)} {node : Node Body} (run : Runs opened events node) :
      during.sent <+: node.sent := (sent_prefix_of_step subscribes).trans (sent_prefix_of_run run)
  rw [sound.clone free] at kept
  constructor
  · intro exact
    obtain ⟨_, subscribed⟩ := follows_of_run kept subscribes (.start opened)
    -- polling alone decides it: the stream then holds nothing but what it has yielded
    obtain ⟨events, node, stream, run, streaming, waits, _⟩ := polled_out opened _ subscribed.streaming
    obtain ⟨followed, follows⟩ := follows_of_run kept subscribes run
    obtain ⟨yielding, streams, _, all⟩ := exact events node run
    obtain rfl : stream = followed := Subscription.streaming.inj (streaming.symm.trans follows.streaming)
    obtain rfl : stream = yielding := Subscription.streaming.inj (streaming.symm.trans streams)
    refine (aligned_iff sound grown (later run)).mp (follows.contents.symm.trans ?_)
    rw [← all waits, FlashblockStream.contents, waits.1, waits.2, List.append_nil, List.append_nil]
  · intro gap events node run
    obtain ⟨stream, follows⟩ := follows_of_run kept subscribes run
    exact ⟨stream, follows.streaming, follows.exact ((aligned_iff sound grown (later run)).mpr gap)⟩

def sampleEvents : List (NodeEvent ℕ) :=
  [.publish (sampleCall 7 5 0 10), .send, .publish (sampleCall 8 6 1 12), .publish (sampleCall 8 6 0 11), .send, .send]

def sampleNode (events : List (NodeEvent ℕ)) : Node ℕ := Run.final step initial events

theorem sample_stream_exact : (sampleNode sampleEvents).payloadStart = 1 ∧
    (sampleNode (sampleEvents ++ [.clone, .subscribe])).Exact (sampleNode sampleEvents).payloadStart := by
  have clones : (sampleNode sampleEvents).step .clone = .ok (sampleNode (sampleEvents ++ [.clone])) := by
    decide +kernel
  refine ⟨by decide +kernel, ?_⟩
  exact (stream_exact_iff_gap (Run.run_final (by decide +kernel)) clones (.start _) (by decide +kernel)).mpr
    (by decide +kernel)

def sampleOutcome (events : List (NodeEvent ℕ)) : Except Blocked (List ℕ × List ℕ) :=
  (events.foldlM step initial).map fun node => (node.sent.map (·.body),
    match node.subscription with
    | .streaming stream => stream.yielded.map (·.body)
    | _ => [])

theorem stream_misses_and_repeats :
    sampleOutcome [.publish (sampleCall 7 5 0 10), .send, .clone, .publish (sampleCall 7 5 1 11), .send, .subscribe,
      .publish (sampleCall 7 5 2 12), .send, .poll, .poll, .poll] = .ok ([10, 11, 12], [10, 12]) ∧
    sampleOutcome [.publish { sampleCall 7 5 0 10 with encodedLength := maxFrame + 1 }, .clone, .subscribe,
      .publish (sampleCall 7 5 1 11), .send, .send, .poll, .poll, .poll, .poll] = .ok ([10, 11], [10, 10, 11]) := by
  decide +kernel

end Node

end WorldChain.P2P
