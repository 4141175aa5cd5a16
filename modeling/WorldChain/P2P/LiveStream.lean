import WorldChain.P2P.Stream

/-! # The live stream of flashblocks

`live_flashblock_stream` reads the flashblocks out of the state itself and takes each message of the broadcast only as a
sign to look again, so a lag loses nothing. Its cursor knows a payload by its id alone, and a message that does not fit a
frame is stored but not broadcast: these are the two ways in which the stream can fall behind.
-/

namespace WorldChain.P2P

open Machine Reorder

variable {Body : Type*}

/-- `awaiting` says that it is suspended in `recv`, `unread` how many results `recv` has ready, and `yielded` is what
came out, with the payload timestamp of that moment. -/
structure LiveStream (Body : Type*) where
  cursor : Option (PayloadId × ℕ)
  awaiting : Bool
  unread : ℕ
  yielded : List (ℕ × FlashblocksPayloadV1 Body)
deriving DecidableEq, Repr

def nextFlashblockFromState (state : FlashblocksP2PState Body) (cursor : Option (PayloadId × ℕ)) :
    Option (FlashblocksPayloadV1 Body) :=
  match cursor with
  | some (payloadId, nextIndex) =>
    if payloadId = state.payloadId then slot state.flashblocks nextIndex else slot state.flashblocks 0
  | none => slot state.flashblocks 0

namespace LiveStream

def initial : LiveStream Body := ⟨none, false, 0, []⟩

variable (state : FlashblocksP2PState Body)

def check (stream : LiveStream Body) : LiveStream Body × Option (FlashblocksPayloadV1 Body) :=
  match nextFlashblockFromState state stream.cursor with
  | some payload =>
    ({ stream with
        cursor := some (payload.payloadId, payload.index + 1)
        yielded := stream.yielded ++ [(state.payloadTimestamp, payload)] }, some payload)
  | none => ({ stream with awaiting := true }, none)

def resume : ℕ → LiveStream Body → LiveStream Body × Option (FlashblocksPayloadV1 Body)
  | 0, stream => (stream, none)
  | unread + 1, stream =>
    match ({ stream with awaiting := false, unread } : LiveStream Body).check state with
    | (checked, some payload) => (checked, some payload)
    | (checked, none) => resume unread checked

def poll (stream : LiveStream Body) : LiveStream Body × Option (FlashblocksPayloadV1 Body) :=
  if stream.awaiting then stream.resume state stream.unread
  else
    match stream.check state with
    | (checked, some payload) => (checked, some payload)
    | (checked, none) => checked.resume state checked.unread

end LiveStream

/-- The shared state, what the publisher that holds the lock has still to send, and one live stream. -/
structure LiveNode (Body : Type*) extends Publisher Body where
  stream : LiveStream Body
deriving DecidableEq, Repr

inductive LiveEvent (Body : Type*)
  | publish (call : AuthorizedPayload Body)
  | send
  | lag (skipped : ℕ)
  | check
  | recv
deriving DecidableEq, Repr

namespace LiveNode

def initial : LiveNode Body := ⟨⟨.initial, []⟩, .initial⟩

def step (node : LiveNode Body) : LiveEvent Body → Except Blocked (LiveNode Body)
  | .publish call => do
    let publisher ← node.toPublisher.publish call
    return { node with toPublisher := publisher }
  | .send => do
    let (_, publisher) ← node.toPublisher.send
    return { node with toPublisher := publisher, stream := { node.stream with unread := node.stream.unread + 1 } }
  | .lag skipped =>
    if 0 < skipped ∧ skipped ≤ node.stream.unread then
      .ok { node with stream := { node.stream with unread := node.stream.unread - skipped + 1 } }
    else .error .outOfTurn
  | .check =>
    if node.sending ≠ [] then .error .lockHeld
    else if node.stream.awaiting then .error .outOfTurn
    else .ok { node with stream := (node.stream.check node.state).1 }
  | .recv =>
    if node.stream.awaiting ∧ 0 < node.stream.unread then
      .ok { node with stream := { node.stream with awaiting := false, unread := node.stream.unread - 1 } }
    else .error .outOfTurn

/-- The interleavings. -/
abbrev Runs : LiveNode Body → List (LiveEvent Body) → LiveNode Body → Prop := Run step fun _ _ => True

/-- How much of the payload in place has been yielded. A payload is known by its id and its timestamp. -/
def position (node : LiveNode Body) : ℕ :=
  match node.stream.yielded.getLast? with
  | some (timestamp, last) =>
    if last.payloadId = node.state.payloadId ∧ timestamp = node.state.payloadTimestamp then last.index + 1 else 0
  | none => 0

/-- When the lock is free and something of the payload in place is not yielded yet, the next poll yields the next
flashblock. -/
def Prompt (node : LiveNode Body) : Prop :=
  node.sending = [] → ∀ payload, (contiguous node.state.flashblocks)[node.position]? = some payload →
    (node.stream.poll node.state).2 = some payload

end LiveNode

/-- A run opens with index zero, later than the run before it, and goes on with the next index of the same payload. Its
timestamps are related by `same`. -/
inductive InRuns (same : ℕ → ℕ → Prop) : List (ℕ × FlashblocksPayloadV1 Body) → Prop
  | nil : InRuns same []
  | opens {yielded : List (ℕ × FlashblocksPayloadV1 Body)} {timestamp : ℕ} {payload : FlashblocksPayloadV1 Body}
      (runs : InRuns same yielded) (first : payload.index = 0)
      (later : ∀ last ∈ yielded.getLast?, last.1 < timestamp) : InRuns same (yielded ++ [(timestamp, payload)])
  | continues {yielded : List (ℕ × FlashblocksPayloadV1 Body)} {last : ℕ × FlashblocksPayloadV1 Body} {timestamp : ℕ}
      {payload : FlashblocksPayloadV1 Body} (runs : InRuns same yielded) (previous : yielded.getLast? = some last)
      (own : payload.payloadId = last.2.payloadId) (next : payload.index = last.2.index + 1)
      (kept : same last.1 timestamp) : InRuns same (yielded ++ [(timestamp, payload)])

/-! ## A poll is a sequence of steps -/

namespace LiveNode

variable {node after : LiveNode Body} {event : LiveEvent Body} {events : List (LiveEvent Body)}

theorem runs_check (node : LiveNode Body) (free : node.sending = []) (active : node.stream.awaiting = false) :
    Runs node [.check] { node with stream := (node.stream.check node.state).1 } := by
  refine .single trivial ?_
  simp [step, free, active]

theorem runs_recv {unread : ℕ} (waits : node.stream.awaiting = true) (some : node.stream.unread = unread + 1) :
    Runs node [.recv] { node with stream := { node.stream with awaiting := false, unread } } := by
  refine .single trivial ?_
  simp [step, waits, some]

theorem check_eq_none {state : FlashblocksP2PState Body} {stream checked : LiveStream Body}
    (pending : stream.check state = (checked, none)) : checked.awaiting = true ∧ checked.unread = stream.unread := by
  rw [LiveStream.check] at pending
  split at pending
  · cases pending
  · obtain rfl := congrArg Prod.fst pending
    exact ⟨rfl, rfl⟩

theorem runs_resume (unread : ℕ) (node : LiveNode Body) (free : node.sending = []) (waits : node.stream.awaiting = true)
    (many : node.stream.unread = unread) :
    ∃ events, Runs node events { node with stream := (node.stream.resume node.state unread).1 } := by
  induction unread generalizing node with
  | zero => exact ⟨[], .start _⟩
  | succ unread ih =>
    have received := runs_recv waits many
    have checked := runs_check { node with stream := { node.stream with awaiting := false, unread } } free rfl
    rw [LiveStream.resume]
    split
    · next stream payload yields =>
      rw [yields] at checked
      exact ⟨_, received.append checked⟩
    · next stream pending =>
      rw [pending] at checked
      obtain ⟨suspended, left⟩ := check_eq_none pending
      obtain ⟨events, resumed⟩ := ih ⟨node.toPublisher, stream⟩ free suspended left
      exact ⟨_, (received.append checked).append resumed⟩

theorem runs_poll (free : node.sending = []) :
    ∃ events, Runs node events { node with stream := (node.stream.poll node.state).1 } := by
  rw [LiveStream.poll]
  split
  · next waits => exact runs_resume _ node free waits rfl
  · next active =>
    have checked := runs_check node free (Bool.eq_false_iff.mpr active)
    split
    · next stream payload yields =>
      rw [yields] at checked
      exact ⟨_, checked⟩
    · next stream pending =>
      rw [pending] at checked
      obtain ⟨events, resumed⟩ := runs_resume _ ⟨node.toPublisher, stream⟩ free (check_eq_none pending).1 rfl
      exact ⟨_, checked.append resumed⟩

/-- Three flashblocks are yielded before their messages are read, and the stream has lagged behind two of them. -/
def unreadEvents : List (LiveEvent Unit) :=
  [.publish ⟨⟨1, 5⟩, ⟨1, 0, none, ()⟩, 0⟩, .send, .publish ⟨⟨1, 5⟩, ⟨1, 1, none, ()⟩, 0⟩, .send,
    .publish ⟨⟨1, 5⟩, ⟨1, 2, none, ()⟩, 0⟩, .send, .lag 2, .check, .check, .check, .check]

theorem runs_poll_of_unread :
    (Run.final step initial unreadEvents).stream.unread = 2 ∧
    (contiguous (Run.final step initial unreadEvents).state.flashblocks).length = 3 ∧
    ((Run.final step initial unreadEvents).stream.poll (Run.final step initial unreadEvents).state).1.unread = 0 ∧
    ∃ events, Runs (Run.final step initial unreadEvents) events { Run.final step initial unreadEvents with
      stream := ((Run.final step initial unreadEvents).stream.poll (Run.final step initial unreadEvents).state).1 } :=
  ⟨by decide +kernel, by decide +kernel, by decide +kernel, runs_poll (by decide +kernel)⟩

/-! ## What each step does -/

theorem step_publish_ok {call : AuthorizedPayload Body} (success : node.step (.publish call) = .ok after) :
    node.sending = [] ∧
      after = { node with state := (node.state.publish call).1, sending := (node.state.publish call).2 } := by
  obtain ⟨publisher, published, ends⟩ := bind_eq_ok.mp success
  obtain ⟨free, rfl⟩ := Publisher.publish_ok published
  exact ⟨free, (Except.ok.inj ends).symm⟩

theorem step_send_ok (success : node.step .send = .ok after) : ∃ payload rest, node.sending = payload :: rest ∧
    after = { node with sending := rest, stream := { node.stream with unread := node.stream.unread + 1 } } := by
  obtain ⟨⟨payload, state, rest⟩, sends, ends⟩ := bind_eq_ok.mp success
  obtain ⟨pending, rfl⟩ := Publisher.send_ok sends
  exact ⟨payload, rest, pending, (Except.ok.inj ends).symm⟩

theorem step_lag_ok {skipped : ℕ} (success : node.step (.lag skipped) = .ok after) :
    after = { node with stream := { node.stream with unread := node.stream.unread - skipped + 1 } } := by
  rw [step] at success
  split at success
  · exact (Except.ok.inj success).symm
  · cases success

theorem step_check_ok (success : node.step .check = .ok after) : node.sending = [] ∧ node.stream.awaiting = false ∧
    after = { node with stream := (node.stream.check node.state).1 } := by
  rw [step] at success
  split at success
  · cases success
  · next free =>
    split at success
    · cases success
    · next active => exact ⟨not_not.mp free, Bool.eq_false_iff.mpr active, (Except.ok.inj success).symm⟩

theorem step_recv_ok (success : node.step .recv = .ok after) :
    after = { node with stream := { node.stream with awaiting := false, unread := node.stream.unread - 1 } } := by
  rw [step] at success
  split at success
  · exact (Except.ok.inj success).symm
  · cases success

end LiveNode

section

variable {state : FlashblocksP2PState Body} {epoch : Epoch Body} {sent : List (FlashblocksPayloadV1 Body)}
  (tracks : Tracks state epoch sent)

include tracks

theorem Tracks.publish_payload (call : AuthorizedPayload Body) :
    ((state.publish call).1.payloadId, (state.publish call).1.payloadTimestamp) =
      if state.Resets call then (call.authorization.payloadId, call.authorization.timestamp)
      else (state.payloadId, state.payloadTimestamp) := by
  have followed := (tracks.publish call).1
  have ends : epoch.Ends call ↔ state.Resets call := by
    rw [Epoch.Ends, FlashblocksP2PState.Resets, tracks.timestamp]
  rw [followed.payloadId, followed.timestamp, Epoch.next_payload, tracks.payloadId, tracks.timestamp]
  by_cases resets : state.Resets call
  · rw [if_pos (ends.mpr resets), if_pos resets]
  · rw [if_neg (ends.not.mpr resets), if_neg resets]

theorem Tracks.slot_some {index : ℕ} {payload : FlashblocksPayloadV1 Body}
    (filled : slot state.flashblocks index = some payload) :
    payload.payloadId = state.payloadId ∧ payload.index = index := by
  rw [tracks.holds] at filled
  refine ⟨?_, position_of_firstAt filled⟩
  rw [tracks.payloadId]
  exact tracks.own payload (mem_of_firstAt filled)

theorem Tracks.contiguous_publish (drained : Drained state) {call : AuthorizedPayload Body}
    (small : call.encodedLength ≤ maxFrame) :
    contiguous (state.publish call).1.flashblocks =
      (if state.Resets call then [] else contiguous state.flashblocks) ++ (state.publish call).2 := by
  obtain ⟨followed, drains⟩ := tracks.publish call
  have ends : epoch.Ends call ↔ state.Resets call := by
    rw [Epoch.Ends, FlashblocksP2PState.Resets, tracks.timestamp]
  have before : sent = contiguous state.flashblocks := by
    rw [tracks.sent, drained, List.take_length]
  have later := followed.sent
  rw [drains small drained, List.take_length, before] at later
  rw [← later]
  by_cases resets : state.Resets call
  · rw [if_pos (ends.mpr resets), if_pos resets]
  · rw [if_neg (ends.not.mpr resets), if_neg resets]

end

/-! ## Runs of indices -/

namespace LiveNode

variable {node after : LiveNode Body} {event : LiveEvent Body} {events : List (LiveEvent Body)} {same : ℕ → ℕ → Prop}

def cursorAfter (yielded : List (ℕ × FlashblocksPayloadV1 Body)) : Option (PayloadId × ℕ) :=
  yielded.getLast?.map fun last => (last.2.payloadId, last.2.index + 1)

structure Ordered (same : ℕ → ℕ → Prop) (node : LiveNode Body) : Prop where
  tracks : ∃ epoch sent, Tracks node.state epoch sent
  runs : InRuns same node.stream.yielded
  cursor : node.stream.cursor = cursorAfter node.stream.yielded
  recent : ∀ last ∈ node.stream.yielded.getLast?,
    if last.2.payloadId = node.state.payloadId then last.1 ≤ node.state.payloadTimestamp ∧ same last.1 node.state.payloadTimestamp
    else last.1 < node.state.payloadTimestamp

/-- The index at which the stream looks next. -/
def lookedUp (node : LiveNode Body) : ℕ :=
  match node.stream.yielded.getLast? with
  | some (_, last) => if last.payloadId = node.state.payloadId then last.index + 1 else 0
  | none => 0

theorem next_eq_slot (cursor : node.stream.cursor = cursorAfter node.stream.yielded) :
    nextFlashblockFromState node.state node.stream.cursor = slot node.state.flashblocks node.lookedUp := by
  rw [cursor, cursorAfter, lookedUp]
  cases node.stream.yielded.getLast? with
  | none => rfl
  | some last =>
    obtain ⟨timestamp, payload⟩ := last
    simp only [nextFlashblockFromState, Option.map_some]
    split <;> rfl

theorem Ordered.publish {call : AuthorizedPayload Body} (ordered : Ordered same node)
    (renewal : node.state.Resets call → ∀ last ∈ node.stream.yielded.getLast?,
      last.2.payloadId = call.authorization.payloadId → same last.1 call.authorization.timestamp)
    (success : node.step (.publish call) = .ok after) : Ordered same after := by
  obtain ⟨_, rfl⟩ := step_publish_ok success
  obtain ⟨epoch, sent, tracks⟩ := ordered.tracks
  refine ⟨⟨_, _, (tracks.publish call).1⟩, ordered.runs, ordered.cursor, fun last isLast => ?_⟩
  have payload := tracks.publish_payload call
  have before := ordered.recent last isLast
  by_cases resets : node.state.Resets call
  · rw [if_pos resets] at payload
    obtain ⟨id, timestamp⟩ := Prod.mk.inj payload
    have earlier : last.1 < call.authorization.timestamp := by
      have newer := resets.2
      split at before
      · omega
      · omega
    simp only [id, timestamp]
    split
    · next again => exact ⟨earlier.le, renewal resets last isLast again⟩
    · exact earlier
  · rw [if_neg resets] at payload
    obtain ⟨id, timestamp⟩ := Prod.mk.inj payload
    simp only [id, timestamp]
    exact before

theorem Ordered.check (reflexive : ∀ timestamp, same timestamp timestamp) (ordered : Ordered same node)
    (success : node.step .check = .ok after) : Ordered same after := by
  obtain ⟨_, _, rfl⟩ := step_check_ok success
  have next := next_eq_slot ordered.cursor
  rw [LiveStream.check]
  split
  · next payload found =>
    rw [next] at found
    obtain ⟨epoch, sent, tracks⟩ := ordered.tracks
    obtain ⟨own, index⟩ := tracks.slot_some found
    refine ⟨ordered.tracks, ?_, ?_, fun last isLast => ?_⟩
    · -- the flashblock opens a run, or continues the one of the payload in place
      rw [lookedUp] at index
      cases previous : node.stream.yielded.getLast? with
      | none =>
        rw [previous] at index
        exact .opens ordered.runs index fun last isLast => by rw [previous] at isLast; cases isLast
      | some last =>
        rw [previous] at index
        have recent := ordered.recent last previous
        by_cases again : last.2.payloadId = node.state.payloadId
        · rw [if_pos again] at recent
          simp only [if_pos again] at index
          exact .continues ordered.runs previous (own.trans again.symm) index recent.2
        · rw [if_neg again] at recent
          simp only [if_neg again] at index
          refine .opens ordered.runs index fun other isLast => ?_
          obtain rfl := Option.some.inj (previous.symm.trans isLast)
          exact recent
    · simp [cursorAfter]
    · obtain rfl : (node.state.payloadTimestamp, payload) = last := by simpa using isLast
      simp [own, reflexive]
  · exact ⟨ordered.tracks, ordered.runs, ordered.cursor, ordered.recent⟩

/-- A call that replaces the payload in place names another payload than the one the stream yielded last. -/
def NamesAnother (node : LiveNode Body) : LiveEvent Body → Prop
  | .publish call => node.state.Resets call →
      ∀ last ∈ node.stream.yielded.getLast?, last.2.payloadId ≠ call.authorization.payloadId
  | _ => True

theorem Ordered.step (reflexive : ∀ timestamp, same timestamp timestamp) (ordered : Ordered same node)
    (renewal : ∀ call, event = .publish call → node.state.Resets call → ∀ last ∈ node.stream.yielded.getLast?,
      last.2.payloadId = call.authorization.payloadId → same last.1 call.authorization.timestamp)
    (success : node.step event = .ok after) : Ordered same after := by
  cases event with
  | publish call => exact ordered.publish (renewal call rfl) success
  | send =>
    obtain ⟨_, _, _, rfl⟩ := step_send_ok success
    exact ⟨ordered.tracks, ordered.runs, ordered.cursor, ordered.recent⟩
  | lag skipped =>
    obtain rfl := step_lag_ok success
    exact ⟨ordered.tracks, ordered.runs, ordered.cursor, ordered.recent⟩
  | check => exact ordered.check reflexive success
  | recv =>
    obtain rfl := step_recv_ok success
    exact ⟨ordered.tracks, ordered.runs, ordered.cursor, ordered.recent⟩

theorem Ordered.initial : Ordered same (initial : LiveNode Body) where
  tracks := ⟨_, _, Tracks.initial⟩
  runs := .nil
  cursor := rfl
  recent := fun _ isLast => by cases isLast

theorem ordered_of_runs (run : Runs .initial events node) : Ordered (· ≤ ·) node :=
  run.invariant .initial fun {before _ _} ordered _ success =>
    ordered.step (fun _ => le_rfl) (fun call _ resets last isLast _ => by
      have recent := ordered.recent last isLast
      have newer := resets.2
      split at recent
      · omega
      · omega) success

theorem ordered_of_namesAnother (run : Run step NamesAnother .initial events node) : Ordered (· = ·) node :=
  run.invariant .initial fun ordered another success =>
    ordered.step (fun _ => rfl) (fun call isCall resets last isLast again => by
      subst isCall
      exact absurd again (another resets last isLast)) success

theorem Ordered.lookedUp_eq (ordered : Ordered (· = ·) node) : node.lookedUp = node.position := by
  rw [lookedUp, position]
  cases previous : node.stream.yielded.getLast? with
  | none => rfl
  | some last =>
    have recent := ordered.recent last previous
    by_cases own : last.2.payloadId = node.state.payloadId
    · rw [if_pos own] at recent
      simp only [own, recent.2, and_self, if_true]
    · simp only [own, false_and, if_false]

/-! ## Promptness -/

/-- A call whose message fits a frame. -/
def FitsFrame : LiveEvent Body → Prop
  | .publish call => call.encodedLength ≤ maxFrame
  | _ => True

/-- A stream that is suspended with nothing to read has yielded the whole run. -/
structure Attentive (node : LiveNode Body) : Prop where
  ordered : Ordered (· = ·) node
  drained : Drained node.state
  woken : node.stream.awaiting = true → node.stream.unread = 0 → node.sending = [] →
    (contiguous node.state.flashblocks).length ≤ node.lookedUp

theorem length_le_of_slot_none {slots : List (Option (FlashblocksPayloadV1 Body))} {index : ℕ}
    (empty : slot slots index = none) : (contiguous slots).length ≤ index := by
  by_contra within
  have present := List.getElem?_eq_getElem (Nat.lt_of_not_le within)
  rw [(contiguous_getElem?_eq_some.mp present).1] at empty
  cases empty

theorem Attentive.publish {call : AuthorizedPayload Body} (attentive : Attentive node) (small : call.encodedLength ≤ maxFrame)
    (success : node.step (.publish call) = .ok after) (ordered : Ordered (· = ·) after) : Attentive after := by
  obtain ⟨free, rfl⟩ := step_publish_ok success
  obtain ⟨epoch, sent, tracks⟩ := attentive.ordered.tracks
  refine ⟨ordered, (tracks.publish call).2 small attentive.drained, fun waits silent quiet => ?_⟩
  -- a call that sends nothing leaves the run as it is, or empties it
  have run := tracks.contiguous_publish attentive.drained small
  change (node.state.publish call).2 = [] at quiet
  have payload := tracks.publish_payload call
  rw [quiet, List.append_nil] at run
  by_cases resets : node.state.Resets call
  · rw [if_pos resets] at run
    change (contiguous (node.state.publish call).1.flashblocks).length ≤ _
    rw [run]
    exact Nat.zero_le _
  · rw [if_neg resets] at run payload
    have before := attentive.woken waits silent free
    change (contiguous (node.state.publish call).1.flashblocks).length ≤ _
    rw [run]
    refine before.trans (le_of_eq ?_)
    simp only [lookedUp, (Prod.mk.inj payload).1]

theorem Attentive.step (attentive : Attentive node) (fits : FitsFrame event) (success : node.step event = .ok after)
    (ordered : Ordered (· = ·) after) : Attentive after := by
  cases event with
  | publish call => exact attentive.publish fits success ordered
  | send =>
    obtain ⟨_, _, _, rfl⟩ := step_send_ok success
    exact ⟨ordered, attentive.drained, fun _ silent => by cases silent⟩
  | lag skipped =>
    obtain rfl := step_lag_ok success
    exact ⟨ordered, attentive.drained, fun _ silent => by cases silent⟩
  | check =>
    obtain ⟨_, active, rfl⟩ := step_check_ok success
    refine ⟨ordered, attentive.drained, fun waits _ _ => ?_⟩
    have pending : nextFlashblockFromState node.state node.stream.cursor = none := by
      cases found : nextFlashblockFromState node.state node.stream.cursor with
      | none => rfl
      | some payload =>
        rw [LiveStream.check, found] at waits
        cases active.symm.trans waits
    have unchanged : (node.stream.check node.state).1.yielded = node.stream.yielded := by rw [LiveStream.check, pending]
    rw [lookedUp, unchanged]
    exact length_le_of_slot_none ((next_eq_slot attentive.ordered.cursor).symm.trans pending)
  | recv =>
    obtain rfl := step_recv_ok success
    exact ⟨ordered, attentive.drained, fun waits => by cases waits⟩

theorem attentive_of_run (run : Run step (fun node event => FitsFrame event ∧ node.NamesAnother event) .initial events node) :
    Attentive node := by
  refine run.history (motive := fun _ reached => Attentive reached) ⟨.initial, rfl, fun waits => by cases waits⟩ ?_
  intro past before after call earlier attentive fits success
  have reached : Run step NamesAnother .initial (past ++ [call]) after :=
    (earlier.weaken fun _ _ both => both.2).append (.single fits.2 success)
  exact attentive.step fits.1 success (ordered_of_namesAnother reached)

theorem check_of_slot (cursor : node.stream.cursor = cursorAfter node.stream.yielded) {payload : FlashblocksPayloadV1 Body}
    (filled : slot node.state.flashblocks node.lookedUp = some payload) (awaiting : Bool) (unread : ℕ) :
    (({ node.stream with awaiting, unread } : LiveStream Body).check node.state).2 = some payload := by
  rw [← next_eq_slot cursor] at filled
  simp only [LiveStream.check, filled]

theorem Attentive.prompt (attentive : Attentive node) : node.Prompt := by
  intro free payload deliverable
  rw [← attentive.ordered.lookedUp_eq] at deliverable
  have filled := (contiguous_getElem?_eq_some.mp deliverable).1
  have within := (List.getElem?_eq_some_iff.mp deliverable).1
  have yields := check_of_slot attentive.ordered.cursor filled
  rw [LiveStream.poll]
  split
  · next waits =>
    -- the stream is suspended, so it has something to read
    cases many : node.stream.unread with
    | zero => exact absurd (attentive.woken waits many free) (Nat.not_le.mpr within)
    | succ unread =>
      have looks := yields false unread
      rw [LiveStream.resume]
      split
      · next checked found result => rw [result] at looks; exact looks
      · next checked result => rw [result] at looks; cases looks
  · have looks := yields node.stream.awaiting node.stream.unread
    split
    · next checked found result => rw [result] at looks; exact looks
    · next checked result => rw [result] at looks; cases looks

/-- What is yielded is in runs of indices from zero up, one payload each, one run later than the other. The stream is
prompt if every message fits a frame and no payload id comes again with a later timestamp. -/
theorem live_stream_in_runs (events : List (LiveEvent Body)) (node : LiveNode Body) :
    (Runs .initial events node → InRuns (· ≤ ·) node.stream.yielded) ∧
    (Run step NamesAnother .initial events node → InRuns (· = ·) node.stream.yielded) ∧
    (Run step (fun node event => FitsFrame event ∧ node.NamesAnother event) .initial events node → node.Prompt) := by
  refine ⟨fun run => (ordered_of_runs run).runs, fun run => (ordered_of_namesAnother run).runs, fun run => ?_⟩
  exact (attentive_of_run run).prompt

def sampleLive : List (LiveEvent Unit) :=
  [.check, .publish ⟨⟨1, 5⟩, ⟨1, 1, none, ()⟩, 0⟩, .publish ⟨⟨1, 5⟩, ⟨1, 0, none, ()⟩, 0⟩, .send, .send, .lag 2, .recv, .check]

instance (node : LiveNode Body) (event : LiveEvent Body) : Decidable (node.NamesAnother event) :=
  match event with
  | .publish call => inferInstanceAs (Decidable (node.state.Resets call →
      ∀ last ∈ node.stream.yielded.getLast?, last.2.payloadId ≠ call.authorization.payloadId))
  | .send => .isTrue trivial
  | .lag _ => .isTrue trivial
  | .check => .isTrue trivial
  | .recv => .isTrue trivial

instance (event : LiveEvent Body) : Decidable (FitsFrame event) :=
  match event with
  | .publish call => inferInstanceAs (Decidable (call.encodedLength ≤ maxFrame))
  | .send => .isTrue trivial
  | .lag _ => .isTrue trivial
  | .check => .isTrue trivial
  | .recv => .isTrue trivial

theorem sample_live_in_runs :
    InRuns (· ≤ ·) (Run.final step initial sampleLive).stream.yielded ∧
    InRuns (· = ·) (Run.final step initial sampleLive).stream.yielded ∧ (Run.final step initial sampleLive).Prompt := by
  obtain ⟨runs, strict, prompt⟩ := live_stream_in_runs sampleLive (Run.final step initial sampleLive)
  exact ⟨runs (Run.run_final (by decide +kernel)), strict (Run.run_final_of_permitted (by decide +kernel)),
    prompt (Run.run_final_of_permitted (by decide +kernel))⟩

def oversizedEvents : List (LiveEvent Unit) := [.check, .publish ⟨⟨1, 5⟩, ⟨1, 0, none, ()⟩, maxFrame + 1⟩]

def reannouncedEvents : List (LiveEvent Unit) :=
  [.publish ⟨⟨1, 5⟩, ⟨1, 0, none, ()⟩, 0⟩, .send, .check, .publish ⟨⟨1, 6⟩, ⟨1, 0, none, ()⟩, 0⟩, .send,
    .publish ⟨⟨1, 6⟩, ⟨1, 1, none, ()⟩, 0⟩, .send, .check]

theorem live_stream_stalls_and_skips :
    (∃ node, Runs initial oversizedEvents node ∧ node.sending = [] ∧ node.position = 0 ∧
      contiguous node.state.flashblocks = [⟨1, 0, none, ()⟩] ∧ (node.stream.poll node.state).2 = none ∧ ¬ node.Prompt) ∧
    (∃ node, Runs initial (reannouncedEvents.take 5) node ∧ node.sending = [] ∧ node.position = 0 ∧
      contiguous node.state.flashblocks = [⟨1, 0, none, ()⟩] ∧ (node.stream.poll node.state).2 = none ∧ ¬ node.Prompt) ∧
    ∃ node, Runs initial reannouncedEvents node ∧
      node.stream.yielded = [(5, ⟨1, 0, none, ()⟩), (6, ⟨1, 1, none, ()⟩)] := by
  refine ⟨⟨Run.final step initial oversizedEvents, Run.run_final (by decide +kernel), by decide +kernel, by decide +kernel,
    by decide +kernel, by decide +kernel, fun prompt => ?_⟩,
    ⟨Run.final step initial (reannouncedEvents.take 5), Run.run_final (by decide +kernel), by decide +kernel,
      by decide +kernel, by decide +kernel, by decide +kernel, fun prompt => ?_⟩,
    ⟨Run.final step initial reannouncedEvents, Run.run_final (by decide +kernel), by decide +kernel⟩⟩
  · have yields := prompt (by decide +kernel) ⟨1, 0, none, ()⟩ (by decide +kernel)
    exact absurd yields (by decide +kernel)
  · have yields := prompt (by decide +kernel) ⟨1, 0, none, ()⟩ (by decide +kernel)
    exact absurd yields (by decide +kernel)

end LiveNode

end WorldChain.P2P
