import WorldChain.P2P.PublishingStatus

/-! # The publishers known to be active

Three handlers write the list of active publishers, and none of them compares its timestamp with the one in the list or
with that of an earlier stop.
-/

namespace WorldChain.P2P

variable {Body Key : Type*}

/-- Each publisher is listed once. -/
def ListedOnce (publishers : List (Key × ℕ)) : Prop := (publishers.map Prod.fst).Nodup

theorem ListedOnce.timestamp_eq {publishers : List (Key × ℕ)} (once : ListedOnce publishers) {publisher : Key}
    {first second : ℕ} (left : (publisher, first) ∈ publishers) (right : (publisher, second) ∈ publishers) :
    first = second :=
  congrArg Prod.snd (List.inj_on_of_nodup_map once left right rfl)

section

variable [DecidableEq Key] {authorization : BuilderAuthorization Key} {publishers : List (Key × ℕ)}

theorem mem_notePublisher_self :
    (authorization.builderVk, authorization.timestamp) ∈ notePublisher authorization publishers := by
  induction publishers with
  | nil => simp [notePublisher]
  | cons entry others ih =>
    obtain ⟨publisher, timestamp⟩ := entry
    simp only [notePublisher]
    split
    · next same => simp [same]
    · exact List.mem_cons_of_mem _ ih

theorem mem_of_mem_notePublisher {entry : Key × ℕ} (member : entry ∈ notePublisher authorization publishers) :
    entry = (authorization.builderVk, authorization.timestamp) ∨ entry ∈ publishers := by
  induction publishers with
  | nil => simpa [notePublisher] using member
  | cons head others ih =>
    obtain ⟨publisher, timestamp⟩ := head
    simp only [notePublisher] at member
    split at member
    · next same =>
      rcases List.mem_cons.mp member with rfl | later
      · exact .inl (by rw [same])
      · exact .inr (List.mem_cons_of_mem _ later)
    · rcases List.mem_cons.mp member with rfl | later
      · exact .inr List.mem_cons_self
      · exact (ih later).imp_right (List.mem_cons_of_mem _)

theorem ListedOnce.note (once : ListedOnce publishers) : ListedOnce (notePublisher authorization publishers) := by
  induction publishers with
  | nil => simp [ListedOnce, notePublisher]
  | cons head others ih =>
    obtain ⟨publisher, timestamp⟩ := head
    obtain ⟨absent, rest⟩ := List.nodup_cons.mp once
    simp only [notePublisher]
    split
    · exact List.nodup_cons.mpr ⟨absent, rest⟩
    · next other =>
      refine List.nodup_cons.mpr ⟨fun listed => absent ?_, ih rest⟩
      obtain ⟨entry, member, same⟩ := List.mem_map.mp listed
      rcases mem_of_mem_notePublisher member with rfl | earlier
      · exact absurd same.symm other
      · exact List.mem_map.mpr ⟨entry, earlier, same⟩

theorem ListedOnce.remove (once : ListedOnce publishers) (builderVk : Key) :
    ListedOnce (removePublisher builderVk publishers) :=
  once.sublist (List.eraseP_sublist.map _)

theorem ListedOnce.not_mem_remove (once : ListedOnce publishers) (builderVk : Key) (timestamp : ℕ) :
    (builderVk, timestamp) ∉ removePublisher builderVk publishers := by
  induction publishers with
  | nil => simp [removePublisher]
  | cons head others ih =>
    obtain ⟨absent, rest⟩ := List.nodup_cons.mp once
    by_cases same : head.1 = builderVk
    · rw [removePublisher, List.eraseP_cons_of_pos (by simpa using same)]
      intro listed
      exact absent (same ▸ List.mem_map_of_mem listed)
    · rw [removePublisher, List.eraseP_cons_of_neg (by simpa using same)]
      intro listed
      rcases List.mem_cons.mp listed with rfl | later
      · exact same rfl
      · exact ih rest later

end

namespace PublishingStatus

/-- A node that publishes keeps no list of others. -/
def activePublishers : PublishingStatus Key → List (Key × ℕ)
  | publishing _ => []
  | waitingToPublish _ activePublishers => activePublishers
  | notPublishing activePublishers => activePublishers

variable (status : PublishingStatus Key) (authorization : BuilderAuthorization Key)

theorem activePublishers_start : (status.start authorization).1.activePublishers = status.activePublishers ∨
    (status.start authorization).1.activePublishers = [] := by
  cases status with
  | publishing ours => simp only [start]; split <;> exact .inr rfl
  | waitingToPublish ours others => simp only [start]; split <;> simp [activePublishers]
  | notPublishing others => simp only [start]; split <;> simp [activePublishers]

theorem activePublishers_stop : status.stop.1.activePublishers = status.activePublishers := by
  cases status <;> rfl

variable [DecidableEq Key]

theorem activePublishers_note (listing : ¬ status.isPublishing) :
    (status.note authorization).activePublishers = notePublisher authorization status.activePublishers := by
  cases status with
  | publishing => exact absurd rfl listing
  | waitingToPublish => rfl
  | notPublishing => rfl

theorem note_of_isPublishing (publishes : status.isPublishing) : status.note authorization = status := by
  cases status with
  | publishing => rfl
  | waitingToPublish => cases publishes
  | notPublishing => cases publishes

theorem activePublishers_startReceived : (status.startReceived authorization).1.activePublishers =
    notePublisher authorization status.activePublishers := by
  cases status <;> rfl

theorem activePublishers_stopReceived (listing : ¬ status.isPublishing) :
    (status.stopReceived authorization).activePublishers =
      removePublisher authorization.builderVk status.activePublishers := by
  cases status with
  | publishing => exact absurd rfl listing
  | waitingToPublish ours others =>
    simp only [stopReceived]
    split
    · next empty => exact (List.isEmpty_iff.mp empty).symm
    · rfl
  | notPublishing => rfl

theorem stopReceived_of_isPublishing (publishes : status.isPublishing) : status.stopReceived authorization = status := by
  cases status with
  | publishing => rfl
  | waitingToPublish => cases publishes
  | notPublishing => cases publishes

end PublishingStatus

namespace PublisherNode

variable [DecidableEq Key]

def listed (node : PublisherNode Body Key) : Event Body Key → Option (BuilderAuthorization Key)
  | .notice (.startPublish authorization) =>
    if some authorization.builderVk ≠ node.builderVk ∧ node.builderVk.isSome ∧
      node.p2p.payloadTimestamp ≤ authorization.timestamp then some authorization else none
  | .flashblock authorizedPayload builderVk .first =>
    if some builderVk ≠ node.builderVk ∧
      node.p2p.payloadTimestamp - authorizationTimestampGraceSec ≤ authorizedPayload.authorization.timestamp ∧
      authorizedPayload.msg.index ≤ maxFlashblockIndex ∧ ¬ node.status.isPublishing then
      some ⟨authorizedPayload.authorization, builderVk⟩
    else none
  | _ => none

def stopped (node : PublisherNode Body Key) : Event Body Key → Option (BuilderAuthorization Key)
  | .notice (.stopPublish authorization) =>
    if some authorization.builderVk ≠ node.builderVk ∧ node.p2p.payloadTimestamp ≤ authorization.timestamp ∧
      ¬ node.status.isPublishing then some authorization else none
  | _ => none

variable {node : PublisherNode Body Key} {event : Event Body Key} {authorization : BuilderAuthorization Key}

theorem activePublishers_of_listed (enters : node.listed event = some authorization) :
    (node.step event).status.activePublishers = notePublisher authorization node.status.activePublishers := by
  cases event with
  | notice notice =>
    cases notice with
    | startPublish theirs =>
      obtain ⟨⟨foreign, able, recent⟩, ⟨⟩⟩ := Option.ite_none_right_eq_some.mp enters
      obtain ⟨ours, key⟩ := Option.isSome_iff_exists.mp able
      simp only [step, receive, if_neg foreign, handleStartPublish]
      rw [key]
      simp only [if_neg recent.not_gt, PublishingStatus.activePublishers_startReceived]
    | stopPublish => cases enters
  | flashblock authorizedPayload builderVk reception =>
    cases reception with
    | first =>
      obtain ⟨⟨foreign, recent, within, listing⟩, ⟨⟩⟩ := Option.ite_none_right_eq_some.mp enters
      simp only [step, if_neg foreign, handleFlashblocksPayloadV1, if_neg recent.not_gt, if_neg within.not_gt]
      exact node.status.activePublishers_note _ listing
    | _ => cases enters
  | _ => cases enters

theorem activePublishers_of_stopped (stops : node.stopped event = some authorization) :
    (node.step event).status.activePublishers =
      removePublisher authorization.builderVk node.status.activePublishers := by
  cases event with
  | notice notice =>
    cases notice with
    | startPublish => cases stops
    | stopPublish theirs =>
      obtain ⟨⟨foreign, recent, listing⟩, ⟨⟩⟩ := Option.ite_none_right_eq_some.mp stops
      simp only [step, receive, if_neg foreign, handleStopPublish, if_neg recent.not_gt]
      exact node.status.activePublishers_stopReceived _ listing
  | _ => cases stops

theorem activePublishers_of_unlisted_start {theirs : BuilderAuthorization Key}
    (lists : node.listed (.notice (.startPublish theirs)) = none) :
    (node.step (.notice (.startPublish theirs))).status.activePublishers = node.status.activePublishers := by
  simp only [step, receive, handleStartPublish]
  split
  · rfl
  · next foreign =>
    split
    · rfl
    · next ours key =>
      split
      · rfl
      · next recent =>
        have enters : node.listed (.notice (.startPublish theirs)) = some theirs :=
          if_pos ⟨foreign, by simp [key], not_lt.mp recent⟩
        cases lists.symm.trans enters

theorem activePublishers_of_unstopped {theirs : BuilderAuthorization Key}
    (stops : node.stopped (.notice (.stopPublish theirs)) = none) :
    (node.step (.notice (.stopPublish theirs))).status.activePublishers = node.status.activePublishers := by
  simp only [step, receive, handleStopPublish]
  split
  · rfl
  · next foreign =>
    split
    · rfl
    · next recent =>
      by_cases listing : node.status.isPublishing
      · rw [PublishingStatus.stopReceived_of_isPublishing _ _ listing]
      · have leaves : node.stopped (.notice (.stopPublish theirs)) = some theirs :=
          if_pos ⟨foreign, not_lt.mp recent, listing⟩
        cases stops.symm.trans leaves

theorem activePublishers_of_unlisted_flashblock {authorizedPayload : AuthorizedPayload Body} {builderVk : Key}
    {reception : Reception} (lists : node.listed (.flashblock authorizedPayload builderVk reception) = none) :
    (node.step (.flashblock authorizedPayload builderVk reception)).status.activePublishers =
      node.status.activePublishers := by
  simp only [step, handleFlashblocksPayloadV1]
  split
  · rfl
  · next foreign =>
    split
    · rfl
    · next recent =>
      split
      · rfl
      · next within =>
        cases reception with
        | first =>
          by_cases listing : node.status.isPublishing
          · rw [PublishingStatus.note_of_isPublishing _ _ listing]
          · have enters : node.listed (.flashblock authorizedPayload builderVk .first) =
                some ⟨authorizedPayload.authorization, builderVk⟩ :=
              if_pos ⟨foreign, not_lt.mp recent, not_lt.mp within, listing⟩
            cases lists.symm.trans enters
        | _ => rfl

theorem activePublishers_of_neither (lists : node.listed event = none) (stops : node.stopped event = none) :
    (node.step event).status.activePublishers = node.status.activePublishers ∨
      (node.step event).status.activePublishers = [] := by
  cases event with
  | startPublishing newAuthorization =>
    cases key : node.builderVk with
    | none => exact .inl (by simp [step, startPublishing, key, Except.toOption])
    | some builderVk =>
      rw [step_startPublishing (by simp [key])]
      exact node.status.activePublishers_start newAuthorization
  | stopPublishing =>
    refine .inl ?_
    cases key : node.builderVk with
    | none => simp [step, stopPublishing, key, Except.toOption]
    | some builderVk =>
      simp [step, stopPublishing, key, Except.toOption, PublishingStatus.activePublishers_stop]
  | publishNew ours authorizedPayload =>
    refine .inl ?_
    simp only [step, publishNew]
    split
    · split <;> rfl
    · rfl
  | notice notice =>
    cases notice with
    | startPublish theirs => exact .inl (activePublishers_of_unlisted_start lists)
    | stopPublish theirs => exact .inl (activePublishers_of_unstopped stops)
  | flashblock authorizedPayload builderVk reception => exact .inl (activePublishers_of_unlisted_flashblock lists)

theorem mem_activePublishers_step {entry : Key × ℕ} (member : entry ∈ (node.step event).status.activePublishers) :
    entry ∈ node.status.activePublishers ∨
      ∃ authorization, node.listed event = some authorization ∧ entry = (authorization.builderVk, authorization.timestamp) := by
  cases lists : node.listed event with
  | some authorization =>
    rw [activePublishers_of_listed lists] at member
    exact (mem_of_mem_notePublisher member).symm.imp_right fun same => ⟨authorization, rfl, same⟩
  | none =>
    refine .inl ?_
    cases stops : node.stopped event with
    | some authorization =>
      rw [activePublishers_of_stopped stops] at member
      exact List.mem_of_mem_eraseP member
    | none =>
      rcases activePublishers_of_neither lists stops with same | empty
      · rwa [same] at member
      · rw [empty] at member
        cases member

theorem listedOnce_step (once : ListedOnce node.status.activePublishers) :
    ListedOnce (node.step event).status.activePublishers := by
  cases lists : node.listed event with
  | some authorization => rw [activePublishers_of_listed lists]; exact once.note
  | none =>
    cases stops : node.stopped event with
    | some authorization => rw [activePublishers_of_stopped stops]; exact once.remove _
    | none =>
      rcases activePublishers_of_neither lists stops with same | empty
      · rwa [same]
      · rw [empty]; exact List.nodup_nil

/-! ## Runs -/

variable {source : PublisherNode Body Key} {events past between : List (Event Body Key)} {builderVk : Option Key}

theorem listedOnce_after (once : ListedOnce source.status.activePublishers) (events : List (Event Body Key)) :
    ListedOnce (source.after events).status.activePublishers := by
  induction events using List.reverseRecOn with
  | nil => exact once
  | append_singleton events event ih => rw [after_append_singleton]; exact listedOnce_step ih

def Refreshed (source : PublisherNode Body Key) (past between : List (Event Body Key)) (publisher : Key)
    (timestamp : ℕ) : Prop :=
  ∃ front event rest authorization, between = front ++ event :: rest ∧
    (source.after (past ++ front)).listed event = some authorization ∧ authorization.builderVk = publisher ∧
    timestamp < authorization.timestamp

/-- A stop lasts: a publisher is not listed after its stop until an event lists it with a later timestamp. -/
def StopsLast (source : PublisherNode Body Key) (events : List (Event Body Key)) : Prop :=
  ∀ past stop between rest authorization, events = past ++ stop :: between ++ rest →
    (source.after past).stopped stop = some authorization →
    authorization.builderVk ∈ (source.after (past ++ stop :: between)).status.activePublishers.map Prod.fst →
    source.Refreshed (past ++ [stop]) between authorization.builderVk authorization.timestamp

/-- The timestamp of a publisher that stays listed through an event does not decrease. -/
def TimestampsGrow (source : PublisherNode Body Key) (events : List (Event Body Key)) : Prop :=
  ∀ past event rest publisher earlier later, events = past ++ event :: rest →
    (publisher, earlier) ∈ (source.after past).status.activePublishers →
    (publisher, later) ∈ ((source.after past).step event).status.activePublishers → earlier ≤ later

/-- No event lists a timestamp older than the one in the list, or not later than that of a stop that still stands. -/
def ListsFresh (source : PublisherNode Body Key) (events : List (Event Body Key)) : Prop :=
  ∀ past event rest authorization, events = past ++ event :: rest →
    (source.after past).listed event = some authorization →
    (∀ timestamp, (authorization.builderVk, timestamp) ∈ (source.after past).status.activePublishers →
      timestamp ≤ authorization.timestamp) ∧
    ∀ front stop between stopping, past = front ++ stop :: between →
      (source.after front).stopped stop = some stopping → stopping.builderVk = authorization.builderVk →
      ¬ source.Refreshed (front ++ [stop]) between stopping.builderVk stopping.timestamp →
      stopping.timestamp < authorization.timestamp

theorem Refreshed.extend {publisher : Key} {timestamp : ℕ} (refreshed : source.Refreshed past between publisher timestamp)
    (event : Event Body Key) : source.Refreshed past (between ++ [event]) publisher timestamp := by
  obtain ⟨front, listing, rest, authorization, rfl, lists⟩ := refreshed
  exact ⟨front, listing, rest ++ [event], authorization, by simp, lists⟩

theorem Refreshed.of_append_singleton {publisher : Key} {timestamp : ℕ}
    (refreshed : source.Refreshed past (between ++ [event]) publisher timestamp) :
    source.Refreshed past between publisher timestamp ∨
      ∃ authorization, (source.after (past ++ between)).listed event = some authorization ∧
        timestamp < authorization.timestamp := by
  obtain ⟨front, listing, rest, authorization, split, lists, same, later⟩ := refreshed
  rcases List.eq_nil_or_concat rest with rfl | ⟨others, last, rfl⟩
  · obtain ⟨rfl, ends⟩ := List.append_inj' split rfl
    obtain rfl := List.singleton_inj.mp ends
    exact .inr ⟨authorization, lists, later⟩
  · have shifted : between ++ [event] = (front ++ listing :: others) ++ [last] := by simpa using split
    exact .inl ⟨front, listing, others, authorization, (List.append_inj' shifted rfl).1, lists, same, later⟩

theorem timestampsGrow_of_listsFresh (once : ListedOnce source.status.activePublishers)
    (fresh : source.ListsFresh events) : source.TimestampsGrow events := by
  intro past event rest publisher earlier later split before holds
  rcases mem_activePublishers_step holds with kept | ⟨authorization, lists, entered⟩
  · exact ((listedOnce_after once past).timestamp_eq before kept).le
  · obtain ⟨rfl, rfl⟩ := Prod.mk.inj entered
    exact (fresh past event rest authorization split lists).1 earlier before

theorem stopsLast_of_listsFresh (once : ListedOnce source.status.activePublishers) (fresh : source.ListsFresh events) :
    source.StopsLast events := by
  intro past stop between rest authorization split stops
  -- the publisher is gone right after its stop, and each later event either leaves it out or lists it
  induction between using List.reverseRecOn generalizing rest with
  | nil =>
    intro present
    obtain ⟨⟨publisher, timestamp⟩, member, rfl⟩ := List.mem_map.mp present
    rw [after_append_singleton, activePublishers_of_stopped stops] at member
    exact absurd member ((listedOnce_after once past).not_mem_remove _ _)
  | append_singleton between event ih =>
    intro present
    have earlier := ih (event :: rest) (by simp [split])
    obtain ⟨⟨publisher, timestamp⟩, member, rfl⟩ := List.mem_map.mp present
    rw [← List.cons_append, ← List.append_assoc, after_append_singleton] at member
    rcases mem_activePublishers_step member with kept | ⟨entering, lists, entered⟩
    · exact (earlier (List.mem_map_of_mem kept)).extend event
    · by_cases refreshed : source.Refreshed (past ++ [stop]) between authorization.builderVk authorization.timestamp
      · exact refreshed.extend event
      · have later := (fresh (past ++ stop :: between) event rest entering (by simp [split]) lists).2 past stop between
          authorization rfl stops (congrArg Prod.fst entered) refreshed
        exact ⟨between, event, [], entering, rfl, by simpa using lists, (congrArg Prod.fst entered).symm, later⟩

theorem listsFresh_of_stopsLast (last : source.StopsLast events) (grow : source.TimestampsGrow events) :
    source.ListsFresh events := by
  intro past event rest authorization split lists
  have enters := activePublishers_of_listed lists
  constructor
  · intro timestamp member
    exact grow past event rest _ _ _ split member (enters ▸ mem_notePublisher_self)
  · rintro front stop between stopping rfl stops same standing
    have present : stopping.builderVk ∈
        (source.after (front ++ stop :: (between ++ [event]))).status.activePublishers.map Prod.fst := by
      rw [← List.cons_append, ← List.append_assoc, after_append_singleton, enters, same]
      exact List.mem_map_of_mem mem_notePublisher_self
    have refreshed := last front stop (between ++ [event]) rest stopping (by simp [split]) stops present
    rcases refreshed.of_append_singleton with before | ⟨entering, enter, later⟩
    · exact absurd before standing
    · rw [List.append_assoc, List.singleton_append, lists] at enter
      cases enter
      exact later

/-- Stops last and timestamps never decrease exactly when no event lists a publisher under one older than its entry or
not later than a stop that still stands. -/
theorem stops_last_iff_lists_fresh (builderVk : Option Key) (events : List (Event Body Key)) :
    ((initial builderVk : PublisherNode Body Key).StopsLast events ∧
      (initial builderVk : PublisherNode Body Key).TimestampsGrow events) ↔
    (initial builderVk : PublisherNode Body Key).ListsFresh events := by
  have once : ListedOnce (initial builderVk : PublisherNode Body Key).status.activePublishers := List.nodup_nil
  constructor
  · rintro ⟨last, grow⟩
    exact listsFresh_of_stopsLast last grow
  · intro fresh
    exact ⟨stopsLast_of_listsFresh once fresh, timestampsGrow_of_listsFresh once fresh⟩

def lateFlashblocks : List (Event Unit ℕ) :=
  [.flashblock ⟨⟨1, 10⟩, ⟨1, 0, none, ()⟩, 0⟩ 2 .first, .flashblock ⟨⟨7, 9⟩, ⟨7, 3, none, ()⟩, 0⟩ 2 .first,
    .notice (.stopPublish ⟨⟨1, 10⟩, 2⟩), .flashblock ⟨⟨7, 9⟩, ⟨7, 4, none, ()⟩, 0⟩ 2 .first]

theorem late_flashblock_revives :
    ¬ (initial none : PublisherNode Unit ℕ).StopsLast lateFlashblocks ∧
    ¬ (initial none : PublisherNode Unit ℕ).TimestampsGrow lateFlashblocks ∧
    ((initial none).after (lateFlashblocks.take 1)).status = .notPublishing [(2, 10)] ∧
    ((initial none).after (lateFlashblocks.take 2)).status = .notPublishing [(2, 9)] ∧
    ((initial none).after (lateFlashblocks.take 3)).status = .notPublishing [] ∧
    ((initial none).after lateFlashblocks).status = .notPublishing [(2, 9)] := by
  refine ⟨fun last => ?_, fun grow => ?_, by decide⟩
  · have refreshed := last (lateFlashblocks.take 2) (.notice (.stopPublish ⟨⟨1, 10⟩, 2⟩)) (lateFlashblocks.drop 3) []
      ⟨⟨1, 10⟩, 2⟩ rfl (by decide) (by decide)
    -- the only event after the stop lists time nine
    obtain ⟨front, event, rest, authorization, split, lists, _, later⟩ := refreshed
    obtain ⟨rfl, isLast⟩ : front = [] ∧ event :: rest = lateFlashblocks.drop 3 := by
      rcases List.append_eq_singleton_iff.mp split.symm with ⟨isNil, one⟩ | ⟨_, none⟩
      · exact ⟨isNil, one⟩
      · cases none
    cases isLast
    obtain rfl : ⟨⟨7, 9⟩, 2⟩ = authorization := Option.some.inj lists
    exact absurd later (by decide)
  · have kept := grow (lateFlashblocks.take 1) _ (lateFlashblocks.drop 2) 2 10 9 rfl (by decide) (by decide)
    omega

end PublisherNode

end WorldChain.P2P
