import WorldChain.Lib.Duplex
import WorldChain.P2P.PublishingStatus

/-! # Two builders

A node that is active although it has heard the other one began after hearing it, and its start is still on its way.
-/

namespace WorldChain.P2P

open Duplex Machine

variable {Body Key : Type*}

namespace PublishingStatus

/-- The node publishes or waits to publish. -/
def active (status : PublishingStatus Key) : Bool := status.held.isSome

end PublishingStatus

def Alternates (heard : Bool) : List (PublishNotice Key) → Bool → Prop
  | [], last => heard = last
  | .startPublish _ :: rest, last => heard = false ∧ Alternates true rest last
  | .stopPublish _ :: rest, last => heard = true ∧ Alternates false rest last

theorem Alternates.append {heard middle last : Bool} {first second : List (PublishNotice Key)}
    (before : Alternates heard first middle) (after : Alternates middle second last) :
    Alternates heard (first ++ second) last := by
  induction first generalizing heard with
  | nil =>
    obtain rfl : heard = middle := before
    exact after
  | cons notice rest ih =>
    cases notice with
    | startPublish => exact ⟨before.1, ih before.2⟩
    | stopPublish => exact ⟨before.1, ih before.2⟩

def PublishNotice.authorization : PublishNotice Key → BuilderAuthorization Key
  | startPublish authorization => authorization
  | stopPublish authorization => authorization

/-- An authorization for a key, not from before a time. -/
def BuilderAuthorization.IsFor (own : Key) (since : ℕ) (authorization : BuilderAuthorization Key) : Prop :=
  authorization.builderVk = own ∧ since ≤ authorization.timestamp

def Knows (peer : Key) (heard : Bool) : PublishingStatus Key → Prop
  | .publishing _ => True
  | .waitingToPublish _ activePublishers => heard = true ∧ ∃ timestamp, activePublishers = [(peer, timestamp)]
  | .notPublishing activePublishers =>
    activePublishers = [] ∨ heard = true ∧ ∃ timestamp, activePublishers = [(peer, timestamp)]

def Signs (own : Key) (since : ℕ) (status : PublishingStatus Key) (sent : List (PublishNotice Key)) : Prop :=
  (∀ authorization, status.held = some authorization → authorization.IsFor own since) ∧
    ∀ notice ∈ sent, notice.authorization.IsFor own since

namespace PublishingStatus

variable {status : PublishingStatus Key} {own peer : Key} {since : ℕ} {heard : Bool}
  {authorization : BuilderAuthorization Key}

theorem alternates_start (status : PublishingStatus Key) (authorization : BuilderAuthorization Key) :
    Alternates status.active (status.start authorization).2 (status.start authorization).1.active := by
  cases status with
  | publishing ours =>
    simp only [start]
    split <;> rfl
  | waitingToPublish ours activePublishers =>
    simp only [start]
    split <;> rfl
  | notPublishing activePublishers =>
    refine ⟨rfl, ?_⟩
    simp only [start]
    split <;> rfl

theorem knows_start (knows : Knows peer heard status) (authorization : BuilderAuthorization Key) :
    Knows peer heard (status.start authorization).1 := by
  cases status with
  | publishing ours =>
    simp only [start]
    split <;> trivial
  | waitingToPublish ours activePublishers =>
    simp only [start]
    split
    · trivial
    · exact knows
  | notPublishing activePublishers =>
    simp only [start]
    split
    · trivial
    · next some =>
      rcases knows with rfl | knows
      · exact absurd rfl some
      · exact knows

theorem signs_start (signs : Signs own since status []) (mine : authorization.IsFor own since) :
    Signs own since (status.start authorization).1 (status.start authorization).2 := by
  cases status with
  | publishing ours =>
    refine ⟨fun held holds => ?_, fun _ none => (by cases none)⟩
    simp only [start] at holds
    split at holds
    · exact Option.some.inj holds ▸ mine
    · exact signs.1 held holds
  | waitingToPublish ours activePublishers =>
    refine ⟨fun held holds => ?_, fun _ none => (by cases none)⟩
    rw [held_start_waiting] at holds
    exact Option.some.inj holds ▸ mine
  | notPublishing activePublishers =>
    refine ⟨fun held holds => ?_, fun notice only => ?_⟩
    · simp only [start] at holds
      split at holds
      · exact Option.some.inj holds ▸ mine
      · exact Option.some.inj holds ▸ mine
    · rw [List.mem_singleton.mp only]
      exact mine

theorem alternates_stop (status : PublishingStatus Key) :
    Alternates status.active status.stop.2 status.stop.1.active := by
  cases status with
  | publishing => exact ⟨rfl, rfl⟩
  | waitingToPublish => exact ⟨rfl, rfl⟩
  | notPublishing => rfl

theorem knows_stop (knows : Knows peer heard status) : Knows peer heard status.stop.1 := by
  cases status with
  | publishing => exact .inl rfl
  | waitingToPublish => exact .inr knows
  | notPublishing => exact knows

theorem signs_stop (signs : Signs own since status []) : Signs own since status.stop.1 status.stop.2 := by
  refine ⟨fun held holds => ?_, fun notice sent => ?_⟩
  · rw [held_stop] at holds
    cases holds
  · cases status with
    | publishing ours => exact List.mem_singleton.mp sent ▸ signs.1 ours rfl
    | waitingToPublish ours => exact List.mem_singleton.mp sent ▸ signs.1 ours rfl
    | notPublishing => cases sent

variable [DecidableEq Key]

theorem startReceived_spec (knows : Knows peer false status) (theirs : authorization.builderVk = peer) :
    (status.startReceived authorization).1 = .notPublishing [(peer, authorization.timestamp)] ∧
      Alternates status.active (status.startReceived authorization).2 false ∧
      ((status.startReceived authorization).2 = [] → status.active = false) := by
  cases status with
  | publishing => exact ⟨by rw [← theirs]; rfl, ⟨rfl, rfl⟩, fun none => by cases none⟩
  | waitingToPublish => exact absurd knows.1 (by decide)
  | notPublishing activePublishers =>
    obtain rfl : activePublishers = [] := by
      rcases knows with none | ⟨never, _⟩
      · exact none
      · exact absurd never (by decide)
    exact ⟨by rw [← theirs]; rfl, rfl, fun _ => rfl⟩

theorem signs_startReceived (signs : Signs own since status []) (knows : Knows peer false status)
    (theirs : authorization.builderVk = peer) :
    Signs own since (status.startReceived authorization).1 (status.startReceived authorization).2 := by
  rw [(startReceived_spec knows theirs).1]
  refine ⟨fun held holds => (by cases holds), fun notice sent => ?_⟩
  cases status with
  | publishing ours => exact List.mem_singleton.mp sent ▸ signs.1 ours rfl
  | waitingToPublish => cases sent
  | notPublishing => cases sent

theorem knows_stopReceived (knows : Knows peer true status) (theirs : authorization.builderVk = peer) :
    Knows peer false (status.stopReceived authorization) := by
  cases status with
  | publishing => trivial
  | waitingToPublish ours activePublishers =>
    obtain ⟨_, timestamp, rfl⟩ := knows
    simp [stopReceived, removePublisher, theirs, Knows]
  | notPublishing activePublishers =>
    rcases knows with rfl | ⟨_, timestamp, rfl⟩
    · exact .inl rfl
    · simp [stopReceived, removePublisher, theirs, Knows]

end PublishingStatus

namespace PublisherNode

/-- What a node does by itself. -/
inductive Action (Key : Type*)
  | startPublishing (newAuthorization : BuilderAuthorization Key)
  | stopPublishing
deriving DecidableEq, Repr

def act (node : PublisherNode Body Key) : Action Key → PublisherNode Body Key × List (PublishNotice Key)
  | .startPublishing newAuthorization => (node.startPublishing newAuthorization).toOption.getD (node, [])
  | .stopPublishing => node.stopPublishing.toOption.getD (node, [])

/-! ## What one event keeps -/

/-- `heard` is, for each side, whether that side last heard the other one start. -/
structure Coordinated (key : Side → Key) (since : ℕ) (heard : Side → Bool)
    (link : Link (PublisherNode Body Key) (PublishNotice Key)) : Prop where
  ready : ∀ side, (link.node side).builderVk = some (key side) ∧ (link.node side).p2p.payloadTimestamp ≤ since
  signs : ∀ side, Signs (key side) since (link.node side).status (link.inbox side.other)
  knows : ∀ side, Knows (key side.other) (heard side) (link.node side).status
  channel : ∀ side, Alternates (heard side) (link.inbox side) (link.node side.other).status.active
  late : ∀ side, (link.node side).status.active = true → heard side = true → link.inbox side = [] →
    link.inbox side.other ≠ []

variable {key : Side → Key} {since : ℕ} {heard : Side → Bool} {link : Link (PublisherNode Body Key) (PublishNotice Key)}

theorem Coordinated.next (coordinated : Coordinated key since heard link) (side : Side)
    (rest : List (PublishNotice Key)) {sent : List (PublishNotice Key)} {now : Bool} {status : PublishingStatus Key}
    (left : ∀ notice ∈ rest, notice ∈ link.inbox side)
    (channel : Alternates now rest (link.node side.other).status.active)
    (alternates : Alternates (link.node side).status.active sent status.active)
    (knows : Knows (key side.other) now status) (signs : Signs (key side) since status sent)
    (late : status.active = true → now = true → rest = [] → link.inbox side.other ++ sent ≠ [])
    (lateOther : (link.node side.other).status.active = true → heard side.other = true →
      link.inbox side.other ++ sent = [] → rest ≠ []) :
    Coordinated key since (Function.update heard side now)
      ((link.taken side rest).moved side ({ link.node side with status }, sent)) := by
  constructor
  · refine Side.forall_of side ?_ ?_
    · simpa using coordinated.ready side
    · simpa using coordinated.ready side.other
  · refine Side.forall_of side ?_ ?_
    · refine ⟨by simpa using signs.1, fun notice member => ?_⟩
      simp only [Link.moved_inbox_other, Link.taken_inbox_other, List.mem_append] at member
      rcases member with earlier | new
      · exact (coordinated.signs side).2 notice earlier
      · exact signs.2 notice new
    · have other := coordinated.signs side.other
      rw [Side.other_other] at other
      refine ⟨by simpa using other.1, fun notice member => ?_⟩
      rw [Side.other_other, Link.moved_inbox, Link.taken_inbox] at member
      exact other.2 notice (left notice member)
  · refine Side.forall_of side ?_ ?_
    · simpa using knows
    · simpa using coordinated.knows side.other
  · refine Side.forall_of side ?_ ?_
    · simpa using channel
    · have other := coordinated.channel side.other
      rw [Side.other_other] at other
      simpa using other.append alternates
  · refine Side.forall_of side ?_ ?_
    · simpa using late
    · simpa using lateOther

theorem Coordinated.mine (coordinated : Coordinated key since heard link) (side : Side) :
    Signs (key side) since (link.node side).status [] :=
  ⟨(coordinated.signs side).1, fun _ none => by cases none⟩

theorem Coordinated.theirs (coordinated : Coordinated key since heard link) {side : Side} {notice : PublishNotice Key}
    {rest : List (PublishNotice Key)} (waiting : link.inbox side = notice :: rest) :
    notice.authorization.IsFor (key side.other) since := by
  apply (coordinated.signs side.other).2
  rw [Side.other_other, waiting]
  exact List.mem_cons_self

/-- A node is given authorizations for its own key, and not from before a time. -/
def OwnAuthorization (key : Side → Key) (since : ℕ) (_ : Link (PublisherNode Body Key) (PublishNotice Key)) :
    Duplex.Event (Action Key) Unit → Prop
  | .act side (.startPublishing newAuthorization) => newAuthorization.IsFor (key side) since
  | _ => True

theorem Coordinated.act (coordinated : Coordinated key since heard link) {side : Side} {action : Action Key}
    (own : OwnAuthorization key since link (.act side action)) :
    Coordinated key since heard (link.moved side ((link.node side).act action)) := by
  obtain ⟨status, sent, result, alternates, knows, signs⟩ : ∃ status sent,
      (link.node side).act action = ({ link.node side with status }, sent) ∧
      Alternates (link.node side).status.active sent status.active ∧ Knows (key side.other) (heard side) status ∧
      Signs (key side) since status sent := by
    have ready := (coordinated.ready side).1
    have mine := coordinated.mine side
    cases action with
    | startPublishing newAuthorization =>
      refine ⟨_, _, ?_, PublishingStatus.alternates_start _ newAuthorization,
        PublishingStatus.knows_start (coordinated.knows side) newAuthorization, PublishingStatus.signs_start mine own⟩
      simp [PublisherNode.act, startPublishing, ready, Except.toOption]
    | stopPublishing =>
      refine ⟨_, _, ?_, PublishingStatus.alternates_stop _, PublishingStatus.knows_stop (coordinated.knows side),
        PublishingStatus.signs_stop mine⟩
      simp [PublisherNode.act, stopPublishing, ready, Except.toOption]
  have kept := coordinated.next side (link.inbox side) (fun _ member => member)
    (coordinated.channel side) alternates knows signs
    (fun active heardStart none => by
      cases sent with
      | cons => simp
      | nil =>
        have same : (link.node side).status.active = status.active := alternates
        simpa using coordinated.late side (same.trans active) heardStart none)
    (fun active heardStart none => by
      have late := coordinated.late side.other active heardStart (List.append_eq_nil_iff.mp none).1
      rwa [Side.other_other] at late)
  rw [Function.update_eq_self, Link.taken_self, ← result] at kept
  exact kept

variable [DecidableEq Key]

def coordination : Protocol (PublisherNode Body Key) (Action Key) Unit (PublishNotice Key) where
  act := act
  handle := fun node _ notice => ((node.receive notice).node, (node.receive notice).sent)

def fresh (key : Side → Key) (p2p : Side → FlashblocksP2PState Body) :
    Link (PublisherNode Body Key) (PublishNotice Key) where
  node := fun side => ⟨some (key side), .notPublishing [], p2p side⟩
  inbox := fun _ => []

section

variable {node : PublisherNode Body Key} {own : Key} {authorization : BuilderAuthorization Key}

section

variable (ready : node.builderVk = some own) (foreign : authorization.builderVk ≠ own)
  (recent : node.p2p.payloadTimestamp ≤ authorization.timestamp)

include ready foreign recent

theorem handle_startPublish : coordination.handle node () (.startPublish authorization) =
      ({ node with status := (node.status.startReceived authorization).1 },
        (node.status.startReceived authorization).2) := by
  rcases node with ⟨builderVk, status, p2p⟩
  obtain rfl : builderVk = some own := ready
  simp [coordination, receive, foreign, handleStartPublish, Nat.not_lt.mpr recent]

theorem handle_stopPublish : coordination.handle node () (.stopPublish authorization) =
      ({ node with status := node.status.stopReceived authorization }, []) := by
  rcases node with ⟨builderVk, status, p2p⟩
  obtain rfl : builderVk = some own := ready
  simp [coordination, receive, foreign, handleStopPublish, Nat.not_lt.mpr recent]

end

end

section

variable (coordinated : Coordinated key since heard link) (distinct : ∀ side, key side.other ≠ key side) {side : Side}
  {authorization : BuilderAuthorization Key} {rest : List (PublishNotice Key)}

include coordinated distinct

theorem Coordinated.startDelivered (waiting : link.inbox side = .startPublish authorization :: rest) :
    Coordinated key since (Function.update heard side true)
      ((link.taken side rest).moved side (coordination.handle (link.node side) () (.startPublish authorization))) := by
  obtain ⟨ready, passed⟩ := coordinated.ready side
  obtain ⟨theirs, recent⟩ : authorization.IsFor (key side.other) since := coordinated.theirs waiting
  have channel := coordinated.channel side
  rw [waiting] at channel
  obtain ⟨unheard, channel⟩ := channel
  have knows := coordinated.knows side
  rw [unheard] at knows
  obtain ⟨status, alternates, gaveWay⟩ := PublishingStatus.startReceived_spec knows theirs
  have signs := PublishingStatus.signs_startReceived (coordinated.mine side) knows theirs
  rw [handle_startPublish ready (theirs ▸ distinct side) (passed.trans recent)]
  refine coordinated.next side rest ?_ channel ?_ ?_ signs ?_ ?_
  · intro other member
    rw [waiting]
    exact List.mem_cons_of_mem _ member
  · rw [status]
    exact alternates
  · rw [status]
    exact .inr ⟨rfl, _, rfl⟩
  · rw [status]
    intro active
    cases active
  · -- the other side has heard that this one is active, so this one publishes and sends a stop
    intro _ heardOther none
    obtain ⟨empty, unsent⟩ := List.append_eq_nil_iff.mp none
    have agreed := coordinated.channel side.other
    rw [empty, Side.other_other] at agreed
    have idle := gaveWay unsent
    rw [← agreed, heardOther] at idle
    cases idle

theorem Coordinated.stopDelivered (waiting : link.inbox side = .stopPublish authorization :: rest) :
    Coordinated key since (Function.update heard side false)
      ((link.taken side rest).moved side (coordination.handle (link.node side) () (.stopPublish authorization))) := by
  obtain ⟨ready, passed⟩ := coordinated.ready side
  obtain ⟨theirs, recent⟩ : authorization.IsFor (key side.other) since := coordinated.theirs waiting
  have channel := coordinated.channel side
  rw [waiting] at channel
  obtain ⟨heardStart, channel⟩ := channel
  have knows := coordinated.knows side
  rw [heardStart] at knows
  have activity : ((link.node side).status.stopReceived authorization).active = (link.node side).status.active := by
    rw [PublishingStatus.active, PublishingStatus.held_stopReceived, PublishingStatus.active]
  have mine := coordinated.mine side
  rw [handle_stopPublish ready (theirs ▸ distinct side) (passed.trans recent)]
  refine coordinated.next side rest ?_ channel activity.symm (PublishingStatus.knows_stopReceived knows theirs) ?_ ?_ ?_
  · intro other member
    rw [waiting]
    exact List.mem_cons_of_mem _ member
  · exact ⟨by simpa using mine.1, mine.2⟩
  · intro _ never
    cases never
  · -- the other side is active, so its latest message is a start, which is still on its way
    rintro active _ _ rfl
    rw [active] at channel
    cases channel

theorem Coordinated.delivered {notice : PublishNotice Key} (waiting : link.inbox side = notice :: rest) :
    ∃ heard, Coordinated key since heard
      ((link.taken side rest).moved side (coordination.handle (link.node side) () notice)) := by
  cases notice with
  | startPublish => exact ⟨_, coordinated.startDelivered distinct waiting⟩
  | stopPublish => exact ⟨_, coordinated.stopDelivered distinct waiting⟩

end

/-- Two nodes with builder keys of their own, which have seen no payload later than the authorizations, in any
interleaving of calls and deliveries: once no message is on its way, at most one of them publishes. -/
theorem at_most_one_publishes (key : Side → Key) (distinct : key .left ≠ key .right) (since : ℕ)
    (p2p : Side → FlashblocksP2PState Body) (passed : ∀ side, (p2p side).payloadTimestamp ≤ since)
    {log : List (Duplex.Event (Action Key) Unit)} {link : Link (PublisherNode Body Key) (PublishNotice Key)}
    (run : Run (Link.exec · coordination) (OwnAuthorization key since) (fresh key p2p) log link)
    (quiescent : ∀ side, link.inbox side = []) :
    ¬ ((link.node .left).status.isPublishing = true ∧ (link.node .right).status.isPublishing = true) := by
  have apart : ∀ side : Side, key side.other ≠ key side := by
    intro side
    cases side with
    | left => exact distinct.symm
    | right => exact distinct
  obtain ⟨heard, coordinated⟩ : ∃ heard, Coordinated key since heard link := by
    refine Link.invariant (motive := fun link => ∃ heard, Coordinated key since heard link) run ?_ ?_ ?_
    · refine ⟨fun _ => false, fun side => ⟨rfl, passed side⟩,
        fun _ => ⟨fun _ none => (by cases none), fun _ none => (by cases none)⟩,
        fun _ => .inl rfl, fun _ => rfl, fun _ active => by cases active⟩
    · rintro before side action ⟨heard, coordinated⟩ own
      exact ⟨heard, coordinated.act own⟩
    · rintro before side _ message rest ⟨heard, coordinated⟩ _ waiting
      exact coordinated.delivered apart waiting
  rintro ⟨left, right⟩
  have active : ∀ {status : PublishingStatus Key}, status.isPublishing = true → status.active = true := by
    intro status publishing
    cases status with
    | publishing => rfl
    | waitingToPublish => cases publishing
    | notPublishing => cases publishing
  -- nothing is on its way, so the left side has heard the right one start
  have agreed := coordinated.channel .left
  rw [quiescent] at agreed
  exact coordinated.late .left (active left) (agreed.trans (active right)) (quiescent .left) (quiescent _)

def sampleHandover : List (Duplex.Event (Action ℕ) Unit) :=
  [.act .left (.startPublishing ⟨⟨1, 10⟩, 1⟩), .deliver .right (), .act .right (.startPublishing ⟨⟨2, 11⟩, 2⟩),
    .deliver .left (), .deliver .right ()]

def sampleKey : Side → ℕ
  | .left => 1
  | .right => 2

def sampleP2P (_ : Side) : FlashblocksP2PState Unit := { FlashblocksP2PState.initial with payloadTimestamp := 10 }

def sampleLink : Link (PublisherNode Unit ℕ) (PublishNotice ℕ) :=
  Run.final (Link.exec · coordination) (fresh sampleKey sampleP2P) sampleHandover

theorem at_most_one_publishes_after_handover :
    (sampleLink.node .right).status = .publishing ⟨⟨2, 11⟩, 2⟩ ∧
    ¬ ((sampleLink.node .left).status.isPublishing = true ∧ (sampleLink.node .right).status.isPublishing = true) := by
  have run : Run (Link.exec · coordination) (OwnAuthorization sampleKey 10) (fresh sampleKey sampleP2P) sampleHandover
      sampleLink := by
    apply Run.run_final_of_forall
    · decide
    · simp [sampleHandover, OwnAuthorization, BuilderAuthorization.IsFor, sampleKey]
  refine ⟨by decide, at_most_one_publishes sampleKey (by decide) 10 sampleP2P (fun _ => le_rfl) run fun side => ?_⟩
  cases side with
  | left => decide
  | right => decide

end PublisherNode

end WorldChain.P2P
