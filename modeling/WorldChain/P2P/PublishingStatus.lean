import WorldChain.P2P.Publish

/-! # Who publishes

A node holds an authorization while it publishes or waits to publish, and otherwise remembers which other builders are
active.
-/

namespace WorldChain.P2P

/-- An authorization together with the builder it is for. -/
structure BuilderAuthorization (Key : Type*) extends Authorization where
  builderVk : Key
deriving DecidableEq, Repr

/-- The messages by which builders coordinate, under the authorization of their sender. -/
inductive PublishNotice (Key : Type*)
  | startPublish (authorization : BuilderAuthorization Key)
  | stopPublish (authorization : BuilderAuthorization Key)
deriving DecidableEq, Repr

inductive ReputationChangeKind
  | badMessage
  | alreadySeenTransaction
deriving DecidableEq, Repr

inductive FlashblocksP2PError
  | missingBuilderSk
  | notClearedToPublish
  | expiredAuthorization
deriving DecidableEq, Repr

inductive PublishingStatus (Key : Type*)
  | publishing (authorization : BuilderAuthorization Key)
  | waitingToPublish (authorization : BuilderAuthorization Key) (activePublishers : List (Key × ℕ))
  | notPublishing (activePublishers : List (Key × ℕ))
deriving DecidableEq, Repr

def maxPublishWaitSec : ℕ := 2

def authorizationTimestampGraceSec : ℕ := 10

variable {Body Key : Type*}

section

variable [DecidableEq Key]

def notePublisher (authorization : BuilderAuthorization Key) : List (Key × ℕ) → List (Key × ℕ)
  | [] => [(authorization.builderVk, authorization.timestamp)]
  | (publisher, timestamp) :: others =>
    if publisher = authorization.builderVk then (publisher, authorization.timestamp) :: others
    else (publisher, timestamp) :: notePublisher authorization others

/-- Remove the first entry of a publisher. -/
def removePublisher (builderVk : Key) (activePublishers : List (Key × ℕ)) : List (Key × ℕ) :=
  activePublishers.eraseP fun entry => entry.1 = builderVk

end

namespace PublishingStatus

/-- The authorization in use or to be used. -/
def held : PublishingStatus Key → Option (BuilderAuthorization Key)
  | publishing authorization => some authorization
  | waitingToPublish authorization _ => some authorization
  | notPublishing _ => none

def start (status : PublishingStatus Key) (newAuthorization : BuilderAuthorization Key) :
    PublishingStatus Key × List (PublishNotice Key) :=
  match status with
  | publishing authorization =>
    (if newAuthorization.timestamp > authorization.timestamp then publishing newAuthorization else status, [])
  | waitingToPublish _ activePublishers =>
    let mostRecentPublisher := (activePublishers.map Prod.snd).foldl max 0
    (if newAuthorization.timestamp ≥ mostRecentPublisher + maxPublishWaitSec then publishing newAuthorization
      else waitingToPublish newAuthorization activePublishers, [])
  | notPublishing activePublishers =>
    (if activePublishers.isEmpty then publishing newAuthorization
      else waitingToPublish newAuthorization activePublishers, [.startPublish newAuthorization])

def stop : PublishingStatus Key → PublishingStatus Key × List (PublishNotice Key)
  | publishing authorization => (notPublishing [], [.stopPublish authorization])
  | waitingToPublish authorization activePublishers => (notPublishing activePublishers, [.stopPublish authorization])
  | notPublishing activePublishers => (notPublishing activePublishers, [])

variable [DecidableEq Key]

def note (status : PublishingStatus Key) (authorization : BuilderAuthorization Key) : PublishingStatus Key :=
  match status with
  | publishing ours => publishing ours
  | waitingToPublish ours activePublishers => waitingToPublish ours (notePublisher authorization activePublishers)
  | notPublishing activePublishers => notPublishing (notePublisher authorization activePublishers)

def startReceived (status : PublishingStatus Key) (authorization : BuilderAuthorization Key) :
    PublishingStatus Key × List (PublishNotice Key) :=
  match status with
  | publishing ours =>
    (notPublishing [(authorization.builderVk, authorization.timestamp)], [.stopPublish ours])
  | _ => (status.note authorization, [])

def stopReceived (status : PublishingStatus Key) (authorization : BuilderAuthorization Key) : PublishingStatus Key :=
  match status with
  | publishing ours => publishing ours
  | waitingToPublish ours activePublishers =>
    let others := removePublisher authorization.builderVk activePublishers
    if others.isEmpty then publishing ours else waitingToPublish ours others
  | notPublishing activePublishers => notPublishing (removePublisher authorization.builderVk activePublishers)

/-- The node publishes. -/
def isPublishing : PublishingStatus Key → Bool
  | publishing _ => true
  | _ => false

end PublishingStatus

/-- A node: its builder key if it has one, its publishing status and the state that publishing works on. -/
structure PublisherNode (Body Key : Type*) where
  builderVk : Option Key
  status : PublishingStatus Key
  p2p : FlashblocksP2PState Body

/-- What handling a message comes to. -/
structure Reaction (Body Key : Type*) where
  node : PublisherNode Body Key
  sent : List (PublishNotice Key)
  reputation : Option ReputationChangeKind

/-- How a peer's flashblock stands with the receive status of that peer. -/
inductive Reception
  | unknownPeer
  | requesting
  | notReceiving (late : Bool)
  | repeated
  | first
deriving DecidableEq, Repr

namespace PublisherNode

/-- The default state of a node. -/
def initial (builderVk : Option Key) : PublisherNode Body Key := ⟨builderVk, .notPublishing [], .initial⟩

section

variable (node : PublisherNode Body Key)

def startPublishing (newAuthorization : BuilderAuthorization Key) :
    Except FlashblocksP2PError (PublisherNode Body Key × List (PublishNotice Key)) :=
  match node.builderVk with
  | none => .error .missingBuilderSk
  | some _ =>
    let (status, sent) := node.status.start newAuthorization
    .ok ({ node with status }, sent)

def stopPublishing : Except FlashblocksP2PError (PublisherNode Body Key × List (PublishNotice Key)) :=
  match node.builderVk with
  | none => .error .missingBuilderSk
  | some _ =>
    let (status, sent) := node.status.stop
    .ok ({ node with status }, sent)

end

variable [DecidableEq Key] (node : PublisherNode Body Key)

def publishNew (authorization : BuilderAuthorization Key) (authorizedPayload : AuthorizedPayload Body) :
    Except FlashblocksP2PError (PublisherNode Body Key) :=
  match node.status with
  | .publishing ours =>
    if ours = authorization then .ok { node with p2p := (node.p2p.publish authorizedPayload).1 }
    else .error .expiredAuthorization
  | _ => .error .notClearedToPublish

def handleStartPublish (authorization : BuilderAuthorization Key) : Reaction Body Key :=
  match node.builderVk with
  | none => ⟨node, [], none⟩
  | some _ =>
    if node.p2p.payloadTimestamp > authorization.timestamp then ⟨node, [], some .badMessage⟩
    else
      let (status, sent) := node.status.startReceived authorization
      ⟨{ node with status }, sent, none⟩

def handleStopPublish (authorization : BuilderAuthorization Key) : Reaction Body Key :=
  if node.p2p.payloadTimestamp > authorization.timestamp then ⟨node, [], some .badMessage⟩
  else ⟨{ node with status := node.status.stopReceived authorization }, [], none⟩

def handleFlashblocksPayloadV1 (authorizedPayload : AuthorizedPayload Body) (builderVk : Key) (reception : Reception) :
    Reaction Body Key :=
  let authorization := authorizedPayload.authorization
  if authorization.timestamp < node.p2p.payloadTimestamp - authorizationTimestampGraceSec then
    ⟨node, [], some .badMessage⟩
  else if authorizedPayload.msg.index > maxFlashblockIndex then ⟨node, [], none⟩
  else
    match reception with
    | .unknownPeer => ⟨node, [], none⟩
    | .requesting => ⟨node, [], some .badMessage⟩
    | .notReceiving late => ⟨node, [], if late then some .badMessage else none⟩
    | .repeated => ⟨node, [], some .alreadySeenTransaction⟩
    | .first =>
      ⟨{ node with
          status := node.status.note ⟨authorization, builderVk⟩
          p2p := (node.p2p.publish authorizedPayload).1 }, [], none⟩

def receive (notice : PublishNotice Key) : Reaction Body Key :=
  match notice with
  | .startPublish authorization =>
    if some authorization.builderVk = node.builderVk then ⟨node, [], none⟩ else node.handleStartPublish authorization
  | .stopPublish authorization =>
    if some authorization.builderVk = node.builderVk then ⟨node, [], none⟩ else node.handleStopPublish authorization

/-- What happens to a node. -/
inductive Event (Body Key : Type*)
  | startPublishing (newAuthorization : BuilderAuthorization Key)
  | stopPublishing
  | publishNew (authorization : BuilderAuthorization Key) (authorizedPayload : AuthorizedPayload Body)
  | notice (notice : PublishNotice Key)
  | flashblock (authorizedPayload : AuthorizedPayload Body) (builderVk : Key) (reception : Reception)

def step : Event Body Key → PublisherNode Body Key
  | .startPublishing newAuthorization => ((node.startPublishing newAuthorization).toOption.map Prod.fst).getD node
  | .stopPublishing => (node.stopPublishing.toOption.map Prod.fst).getD node
  | .publishNew authorization authorizedPayload => (node.publishNew authorization authorizedPayload).toOption.getD node
  | .notice notice => (node.receive notice).node
  | .flashblock authorizedPayload builderVk reception =>
    if some builderVk = node.builderVk then node
    else (node.handleFlashblocksPayloadV1 authorizedPayload builderVk reception).node

/-- The node after a sequence of events. -/
def after (events : List (Event Body Key)) : PublisherNode Body Key := events.foldl step node

end PublisherNode

/-! ## What one event does to the authorization held -/

namespace PublishingStatus

variable (status : PublishingStatus Key) (authorization : BuilderAuthorization Key)

theorem held_stop : status.stop.1.held = none := by
  cases status <;> rfl

theorem held_start_waiting (ours newAuthorization : BuilderAuthorization Key) (activePublishers : List (Key × ℕ)) :
    ((waitingToPublish ours activePublishers).start newAuthorization).1.held = some newAuthorization := by
  simp only [start]
  split <;> rfl

theorem timestamp_start_publishing {ours newAuthorization later : BuilderAuthorization Key}
    (holds : ((publishing ours).start newAuthorization).1.held = some later) : ours.timestamp ≤ later.timestamp := by
  simp only [start] at holds
  split at holds
  · next newer =>
    obtain rfl : newAuthorization = later := Option.some.inj holds
    exact newer.le
  · obtain rfl : ours = later := Option.some.inj holds
    exact le_rfl

variable [DecidableEq Key]

@[simp] theorem held_note : (status.note authorization).held = status.held := by
  cases status <;> rfl

theorem held_startReceived {later : BuilderAuthorization Key}
    (holds : (status.startReceived authorization).1.held = some later) : status.held = some later := by
  cases status with
  | publishing => cases holds
  | waitingToPublish => exact holds
  | notPublishing => exact holds

@[simp] theorem held_stopReceived : (status.stopReceived authorization).held = status.held := by
  cases status with
  | publishing => rfl
  | waitingToPublish ours activePublishers =>
    simp only [stopReceived]
    split <;> rfl
  | notPublishing => rfl

end PublishingStatus

namespace PublisherNode

variable [DecidableEq Key] {node : PublisherNode Body Key} {event : Event Body Key}
  {earlier later : BuilderAuthorization Key}

theorem step_startPublishing (key : node.builderVk.isSome) (newAuthorization : BuilderAuthorization Key) :
    (node.step (.startPublishing newAuthorization)).status = (node.status.start newAuthorization).1 := by
  obtain ⟨builderVk, present⟩ := Option.isSome_iff_exists.mp key
  simp [step, startPublishing, present, Except.toOption]

theorem held_of_step (holds : (node.step event).status.held = some later)
    (other : ∀ newAuthorization, event ≠ .startPublishing newAuthorization) : node.status.held = some later := by
  cases event with
  | startPublishing newAuthorization => exact absurd rfl (other newAuthorization)
  | stopPublishing =>
    cases key : node.builderVk with
    | none => simpa [step, stopPublishing, key, Except.toOption] using holds
    | some builderVk =>
      simp [step, stopPublishing, key, Except.toOption, PublishingStatus.held_stop] at holds
  | publishNew authorization authorizedPayload =>
    have same : (node.step (.publishNew authorization authorizedPayload)).status = node.status := by
      simp only [step, publishNew]
      split
      · split <;> rfl
      · rfl
    rwa [same] at holds
  | notice notice =>
    cases notice with
    | startPublish authorization =>
      simp only [step, receive, handleStartPublish] at holds
      split at holds
      · exact holds
      · split at holds
        · exact holds
        · split at holds
          · exact holds
          · exact node.status.held_startReceived authorization holds
    | stopPublish authorization =>
      simp only [step, receive, handleStopPublish] at holds
      split at holds
      · exact holds
      · split at holds
        · exact holds
        · rwa [PublishingStatus.held_stopReceived] at holds
  | flashblock authorizedPayload builderVk reception =>
    simp only [step, handleFlashblocksPayloadV1] at holds
    split at holds
    · exact holds
    · split at holds
      · exact holds
      · split at holds
        · exact holds
        · cases reception <;> simpa using holds

/-- A call to `start_publishing` while waiting brings an authorization no older than the one held. -/
def Renews (node : PublisherNode Body Key) : Event Body Key → Prop
  | .startPublishing newAuthorization => node.builderVk.isSome → ∀ authorization activePublishers,
      node.status = .waitingToPublish authorization activePublishers → authorization.timestamp ≤ newAuthorization.timestamp
  | _ => True

theorem timestamp_of_step (renews : node.Renews event) (before : node.status.held = some earlier)
    (holds : (node.step event).status.held = some later) : earlier.timestamp ≤ later.timestamp := by
  by_cases other : ∀ newAuthorization, event ≠ .startPublishing newAuthorization
  · obtain rfl : earlier = later := Option.some.inj (before.symm.trans (held_of_step holds other))
    exact le_rfl
  · push Not at other
    obtain ⟨newAuthorization, rfl⟩ := other
    cases key : node.builderVk with
    | none =>
      have same : (node.step (.startPublishing newAuthorization)) = node := by
        simp [step, startPublishing, key, Except.toOption]
      rw [same, before] at holds
      exact (congrArg (·.timestamp) (Option.some.inj holds)).le
    | some builderVk =>
      rw [step_startPublishing (by simp [key])] at holds
      cases status : node.status with
      | publishing ours =>
        rw [status] at before holds
        obtain rfl : ours = earlier := Option.some.inj before
        exact PublishingStatus.timestamp_start_publishing holds
      | waitingToPublish ours activePublishers =>
        rw [status] at before holds
        rw [PublishingStatus.held_start_waiting] at holds
        obtain rfl : ours = earlier := Option.some.inj before
        obtain rfl : newAuthorization = later := Option.some.inj holds
        exact renews (by simp [key]) ours activePublishers status
      | notPublishing => rw [status] at before; cases before

theorem older_of_step (outdated : ¬ node.Renews event) : ∃ earlier later, node.status.held = some earlier ∧
    (node.step event).status.held = some later ∧ later.timestamp < earlier.timestamp := by
  cases event with
  | startPublishing newAuthorization =>
    simp only [Renews] at outdated
    push Not at outdated
    obtain ⟨key, ours, activePublishers, status, older⟩ := outdated
    refine ⟨ours, newAuthorization, by rw [status]; rfl, ?_, older⟩
    rw [step_startPublishing key, status, PublishingStatus.held_start_waiting]
  | _ => exact absurd trivial outdated

/-! ## Whole runs -/

/-- Within every stretch of waiting and publishing, the authorization held at the end is no older than the one at the
beginning. -/
def NeverOutdated (source : PublisherNode Body Key) (events : List (Event Body Key)) : Prop :=
  ∀ past stretch rest, events = past ++ stretch ++ rest →
    (∀ front, front <+: stretch → (source.after (past ++ front)).status.held.isSome) →
    ∀ earlier later, (source.after past).status.held = some earlier →
      (source.after (past ++ stretch)).status.held = some later → earlier.timestamp ≤ later.timestamp

theorem after_append_singleton (source : PublisherNode Body Key) (events : List (Event Body Key)) (event : Event Body Key) :
    source.after (events ++ [event]) = (source.after events).step event := by
  simp [after]

/-- The authorization held never becomes older exactly when every `start_publishing` made while waiting brings one at
least as recent. -/
theorem never_outdated_iff_renews (source : PublisherNode Body Key) (events : List (Event Body Key)) :
    source.NeverOutdated events ↔
      ∀ past event rest, events = past ++ event :: rest → (source.after past).Renews event := by
  constructor
  · intro never past event rest split
    by_contra outdated
    -- the event by itself is a stretch over which the timestamp falls
    obtain ⟨earlier, later, before, holds, older⟩ := older_of_step outdated
    rw [← after_append_singleton] at holds
    have kept := never past [event] rest (by simp [split]) ?_ earlier later before holds
    · omega
    · intro front initial
      rcases List.prefix_cons_iff.mp initial with rfl | ⟨none, rfl, isNil⟩
      · simp [before]
      · rw [List.prefix_nil.mp isNil, holds]
        rfl
  · intro renews past stretch rest split held
    induction stretch using List.reverseRecOn generalizing rest with
    | nil =>
      intro earlier later before holds
      rw [List.append_nil, before] at holds
      exact (congrArg (·.timestamp) (Option.some.inj holds)).le
    | append_singleton stretch event ih =>
      intro earlier later before holds
      obtain ⟨middle, between⟩ := Option.isSome_iff_exists.mp (held stretch (List.prefix_append ..))
      have first := ih (event :: rest) (by simp [split]) (fun front initial => held front (initial.trans (List.prefix_append ..)))
        earlier middle before between
      have step := renews (past ++ stretch) event rest (by simp [split])
      rw [← List.append_assoc, after_append_singleton] at holds
      exact first.trans (timestamp_of_step step between holds)

def outdatedEvents : List (Event Unit ℕ) :=
  [.notice (.startPublish ⟨⟨1, 9⟩, 2⟩), .startPublishing ⟨⟨1, 10⟩, 1⟩, .startPublishing ⟨⟨1, 5⟩, 1⟩,
    .notice (.stopPublish ⟨⟨1, 9⟩, 2⟩)]

theorem outdated_authorization_reused :
    ((initial (some 1)).after (outdatedEvents.take 2)).status = .waitingToPublish ⟨⟨1, 10⟩, 1⟩ [(2, 9)] ∧
    ((initial (some 1)).after (outdatedEvents.take 3)).status = .waitingToPublish ⟨⟨1, 5⟩, 1⟩ [(2, 9)] ∧
    ((initial (some 1)).after outdatedEvents).status = .publishing ⟨⟨1, 5⟩, 1⟩ := by
  decide

end PublisherNode

end WorldChain.P2P
