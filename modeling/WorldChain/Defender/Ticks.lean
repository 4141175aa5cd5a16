import WorldChain.Defender.Lanes

/-! # The ticks of the defender

In each tick the defender reads the selected lineage, forgets the games that have left it, starts a defense for each
game that needs one, and advances all defenses.
-/

namespace WorldChain.Defender

open Dispute (Address ProofLane)
open Machine

structure DefenderConfig where
  pollInterval : ℕ
  maxGameConcurrency : ℕ
deriving DecidableEq

def DefenderConfig.validate (config : DefenderConfig) : Except DefenderError Unit :=
  if config.pollInterval = 0 then .error (.invalidConfig "poll_interval must be greater than zero")
  else if config.maxGameConcurrency = 0 then .error (.invalidConfig "max_game_concurrency must be greater than zero")
  else .ok ()

/-- An active defense with its record. -/
structure Tracked (ProofId : Type) where
  defense : ActiveDefense ProofId
  record : List (Action ProofId)

abbrev Tracked.address {ProofId : Type} (tracked : Tracked ProofId) : Address := tracked.defense.game.address

abbrev Scanned (ProofId : Type) :=
  Tracked ProofId × Except DefenderError (DefenseProgress ProofId × List (Action ProofId))

structure Tick (ProofId : Type) where
  now : ℕ
  selectLineage : Except DefenderError (List Address)
  gameMetadata : Address → Except DefenderError GameMetadata
  answers : Answers ProofId
  arrival : List (Scanned ProofId) → List (Scanned ProofId)
  arrival_perm : ∀ results, (arrival results).Perm results

/-- The state of the defender. The last field is for the record: the defenses that have ended, the latest first. -/
structure WorldChainDefender (ProofId : Type) where
  config : DefenderConfig
  activeDefenses : List (Tracked ProofId)
  abandonedDefenses : List (Address × ℕ)
  ended : List (Address × List (Action ProofId))

variable {ProofId : Type}

/-- The games of the selected lineage. -/
def Tick.selectedLineage (tick : Tick ProofId) : Except DefenderError (List GameMetadata) := do
  (← tick.selectLineage).mapM tick.gameMetadata

namespace WorldChainDefender

def new (config : DefenderConfig) : WorldChainDefender ProofId := ⟨config, [], [], []⟩

section

variable (defender : WorldChainDefender ProofId) (tick : Tick ProofId)

def records (game : Address) : List (List (Action ProofId)) :=
  (defender.activeDefenses.filter fun tracked => tracked.address = game).map (·.record) ++
    (defender.ended.filter fun entry => entry.1 = game).map (·.2)

/-- Remove a defense. -/
def remove (game : Address) (record : List (Action ProofId)) : WorldChainDefender ProofId :=
  { defender with
    activeDefenses := defender.activeDefenses.filter fun tracked => tracked.address ≠ game
    ended := (game, record) :: defender.ended }

/-- Store the lanes of a defense. -/
def update (game : Address) (lanes : Fin 2 → LaneState ProofId) (record : List (Action ProofId)) :
    WorldChainDefender ProofId :=
  { defender with
    activeDefenses := defender.activeDefenses.map fun tracked =>
      if tracked.address = game then ⟨{ tracked.defense with lanes := lanes }, record⟩ else tracked }

/-- Give a defense up. -/
def abandon (game : GameMetadata) (record : List (Action ProofId)) : WorldChainDefender ProofId :=
  let removed := defender.remove game.address (.abandoned game.proofDeadline :: record)
  { removed with
    abandonedDefenses :=
      (game.address, game.proofDeadline) :: removed.abandonedDefenses.filter fun entry => entry.1 ≠ game.address }

local instance lawfulAddress : LawfulBEq Address := inferInstance

def retain (selected : List GameMetadata) : WorldChainDefender ProofId :=
  let (kept, left) := defender.activeDefenses.partition fun tracked => tracked.address ∈ selected.map (·.address)
  { defender with
    activeDefenses := kept
    abandonedDefenses := defender.abandonedDefenses.filter fun entry =>
      entry.1 ∈ selected.map (·.address) ∧ tick.now < entry.2
    ended := left.map (fun tracked => (tracked.address, tracked.record)) ++ defender.ended }

def start (game : GameMetadata) : WorldChainDefender ProofId :=
  { defender with activeDefenses := ⟨.new game, []⟩ :: defender.activeDefenses }

def startDefenses : List GameMetadata → WorldChainDefender ProofId →
    WorldChainDefender ProofId × Except DefenderError Unit
  | [], defender => (defender, .ok ())
  | game :: games, defender =>
    if (defender.activeDefenses.any fun tracked => tracked.address = game.address) ||
        defender.abandonedDefenses.any fun entry => entry.1 = game.address then
      startDefenses games defender
    else
      match needsDefense tick.answers game tick.now with
      | .error error => (defender, .error error)
      | .ok true => startDefenses games (defender.start game)
      | .ok false => startDefenses games defender

def syncDefensesWithSelectedLineage (selected : List GameMetadata) :
    WorldChainDefender ProofId × Except DefenderError Unit :=
  startDefenses tick selected (defender.retain tick selected)

end

variable [DecidableEq ProofId] (defender : WorldChainDefender ProofId) (tick : Tick ProofId)

def scanActiveDefenses : List (Scanned ProofId) :=
  tick.arrival (defender.activeDefenses.map fun tracked =>
    (tracked, advanceDefense tick.answers tracked.defense tick.now))

/-- Enter the result of a scan. -/
def enterProgress (scanned : Scanned ProofId) : WorldChainDefender ProofId :=
  let (tracked, result) := scanned
  match result with
  | .error _ => defender
  | .ok (.closed, actions) | .ok (.complete, actions) | .ok (.deadlineElapsed, actions) =>
    defender.remove tracked.address (actions ++ tracked.record)
  | .ok (.lanes lanes sufficientSupportSubmitted, actions) =>
    if ∀ slot, lanes slot = .proven then defender.remove tracked.address (actions ++ tracked.record)
    else if sufficientSupportSubmitted then defender.update tracked.address lanes (actions ++ tracked.record)
    else if ∀ slot, (lanes slot).isTerminal then defender.abandon tracked.defense.game (actions ++ tracked.record)
    else defender.update tracked.address lanes (actions ++ tracked.record)

def handleDefenseProgress (results : List (Scanned ProofId)) : WorldChainDefender ProofId :=
  results.foldl enterProgress defender

def tickAt : WorldChainDefender ProofId × Except DefenderError Unit :=
  match defender.config.validate with
  | .error error => (defender, .error error)
  | .ok () =>
    match tick.selectedLineage with
    | .error error => (defender, .error error)
    | .ok selected =>
      match defender.syncDefensesWithSelectedLineage tick selected with
      | (synced, .error error) => (synced, .error error)
      | (synced, .ok ()) => (synced.handleDefenseProgress (synced.scanActiveDefenses tick), .ok ())

def exec : Except Empty (WorldChainDefender ProofId) := .ok (defender.tickAt tick).1

end WorldChainDefender

/-! ## Sound records -/

/-- The record of a defense is sound and gives the states of its lanes. -/
structure Tracked.Kept (tracked : Tracked ProofId) : Prop where
  sound : Sound tracked.record
  agrees : ∀ slot, Agrees tracked.record slot (tracked.defense.lanes slot)
  games : ∀ seen, .observed seen ∈ tracked.record → seen.game.address = tracked.address

theorem Tracked.Kept.new (game : GameMetadata) : (⟨.new game, []⟩ : Tracked ProofId).Kept where
  sound := trivial
  agrees := fun slot => by constructor <;> simp [ActiveDefense.new]
  games := fun _ member => absurd member List.not_mem_nil

namespace WorldChainDefender

theorem startDefenses_invariant {motive : WorldChainDefender ProofId → Prop} (tick : Tick ProofId)
    (start : ∀ defender metadata, motive defender →
      (∀ entry ∈ defender.abandonedDefenses, entry.1 ≠ metadata.address) → motive (defender.start metadata))
    (games : List GameMetadata) (defender : WorldChainDefender ProofId) (initial : motive defender) :
    motive (startDefenses tick games defender).1 := by
  induction games generalizing defender with
  | nil => exact initial
  | cons game games inductive_hypothesis =>
    rw [startDefenses]
    split
    · exact inductive_hypothesis defender initial
    · next untracked =>
      split
      · exact initial
      · refine inductive_hypothesis _ (start defender game initial fun entry member same => untracked ?_)
        exact Bool.or_eq_true_iff.mpr (.inr (List.any_eq_true.mpr ⟨entry, member, decide_eq_true same⟩))
      · exact inductive_hypothesis defender initial

section

variable [DecidableEq ProofId] (defender : WorldChainDefender ProofId) (tick : Tick ProofId)

theorem mem_scanActiveDefenses {scanned : Scanned ProofId} : scanned ∈ defender.scanActiveDefenses tick ↔
    ∃ tracked ∈ defender.activeDefenses, (tracked, advanceDefense tick.answers tracked.defense tick.now) = scanned := by
  rw [scanActiveDefenses, (tick.arrival_perm _).mem_iff, List.mem_map]

theorem tickAt_invariant {motive : WorldChainDefender ProofId → Prop} (initial : motive defender)
    (retain : ∀ selected, tick.selectedLineage = .ok selected → motive (defender.retain tick selected))
    (start : ∀ defender metadata, motive defender →
      (∀ entry ∈ defender.abandonedDefenses, entry.1 ≠ metadata.address) → motive (defender.start metadata))
    (enter : ∀ synced, motive synced → ∀ tracked ∈ synced.activeDefenses, ∀ before, motive before →
      motive (before.enterProgress (tracked, advanceDefense tick.answers tracked.defense tick.now))) :
    motive (defender.tickAt tick).1 := by
  have handle : ∀ synced, motive synced → motive (synced.handleDefenseProgress (synced.scanActiveDefenses tick)) := by
    intro synced holds
    rw [handleDefenseProgress]
    refine List.foldlRecOn _ _ holds fun before kept scanned member => ?_
    obtain ⟨tracked, active, rfl⟩ := (mem_scanActiveDefenses _ _).mp member
    exact enter synced holds tracked active before kept
  rw [tickAt]
  cases defender.config.validate with
  | error error => exact initial
  | ok _ =>
    cases read : tick.selectedLineage with
    | error error => exact initial
    | ok selected =>
      have synced := startDefenses_invariant tick start selected _ (retain selected read)
      rw [← syncDefensesWithSelectedLineage] at synced
      cases is : defender.syncDefensesWithSelectedLineage tick selected with
      | mk after result =>
        rw [is] at synced
        simp only [is]
        cases result with
        | error error => exact synced
        | ok _ => exact handle after synced

end

/-- All records are sound, and a game is kept aside only if its defense was given up and no other is active. -/
structure Recorded (defender : WorldChainDefender ProofId) : Prop where
  active : ∀ tracked ∈ defender.activeDefenses, tracked.Kept
  ended : ∀ entry ∈ defender.ended, Sound entry.2 ∧ ∀ seen, .observed seen ∈ entry.2 → seen.game.address = entry.1
  abandoned : ∀ entry ∈ defender.abandonedDefenses, ∃ older, (entry.1, .abandoned entry.2 :: older) ∈ defender.ended
  apart : ∀ entry ∈ defender.abandonedDefenses, ∀ tracked ∈ defender.activeDefenses, tracked.address ≠ entry.1

namespace Recorded

variable {defender : WorldChainDefender ProofId} {tick : Tick ProofId} {game : Address} {record : List (Action ProofId)}

theorem new (config : DefenderConfig) : Recorded (.new config : WorldChainDefender ProofId) := by
  constructor <;> simp [WorldChainDefender.new]

theorem remove (recorded : Recorded defender) (sound : Sound record)
    (games : ∀ seen, .observed seen ∈ record → seen.game.address = game) : Recorded (defender.remove game record) where
  active := fun tracked member => recorded.active tracked (List.mem_of_mem_filter member)
  ended := fun entry member => by
    rcases List.mem_cons.mp member with rfl | earlier
    · exact ⟨sound, games⟩
    · exact recorded.ended entry earlier
  abandoned := fun entry member => by
    obtain ⟨older, ended⟩ := recorded.abandoned entry member
    exact ⟨older, List.mem_cons_of_mem _ ended⟩
  apart := fun entry member tracked active => recorded.apart entry member tracked (List.mem_of_mem_filter active)

theorem update {lanes : Fin 2 → LaneState ProofId} (recorded : Recorded defender) (sound : Sound record)
    (agrees : ∀ slot, Agrees record slot (lanes slot))
    (games : ∀ seen, .observed seen ∈ record → seen.game.address = game) :
    Recorded (defender.update game lanes record) where
  active := fun tracked member => by
    obtain ⟨before, active, rfl⟩ := List.mem_map.mp member
    split
    · next same => exact ⟨sound, agrees, fun seen observed => (games seen observed).trans same.symm⟩
    · exact recorded.active before active
  ended := recorded.ended
  abandoned := recorded.abandoned
  apart := fun entry aside tracked member => by
    obtain ⟨before, active, rfl⟩ := List.mem_map.mp member
    have different := recorded.apart entry aside before active
    split <;> exact different

theorem abandon {metadata : GameMetadata} (recorded : Recorded defender)
    (sound : Sound (.abandoned metadata.proofDeadline :: record))
    (games : ∀ seen, .observed seen ∈ record → seen.game.address = metadata.address) :
    Recorded (defender.abandon metadata record) := by
  have removed : Recorded (defender.remove metadata.address (.abandoned metadata.proofDeadline :: record)) := by
    refine recorded.remove sound fun seen member => ?_
    rcases List.mem_cons.mp member with is | earlier
    · cases is
    · exact games seen earlier
  refine ⟨removed.active, removed.ended, fun entry member => ?_, fun entry member tracked active => ?_⟩
  · rcases List.mem_cons.mp member with rfl | earlier
    · exact ⟨record, List.mem_cons_self⟩
    · exact removed.abandoned entry (List.mem_of_mem_filter earlier)
  · rcases List.mem_cons.mp member with rfl | earlier
    · simpa using List.of_mem_filter active
    · exact removed.apart entry (List.mem_of_mem_filter earlier) tracked active

theorem retain (selected : List GameMetadata) (recorded : Recorded defender) :
    Recorded (defender.retain tick selected) := by
  simp only [WorldChainDefender.retain, List.partition_eq_filter_filter]
  refine ⟨fun tracked member => recorded.active tracked (List.mem_of_mem_filter member), fun entry member => ?_,
    fun entry member => ?_, fun entry member tracked active => recorded.apart entry (List.mem_of_mem_filter member)
      tracked (List.mem_of_mem_filter active)⟩
  · rcases List.mem_append.mp member with left | earlier
    · obtain ⟨tracked, active, rfl⟩ := List.mem_map.mp left
      have kept := recorded.active tracked (List.mem_of_mem_filter active)
      exact ⟨kept.sound, kept.games⟩
    · exact recorded.ended entry earlier
  · obtain ⟨older, ended⟩ := recorded.abandoned entry (List.mem_of_mem_filter member)
    exact ⟨older, List.mem_append_right _ ended⟩

theorem start {metadata : GameMetadata} (recorded : Recorded defender)
    (fresh : ∀ entry ∈ defender.abandonedDefenses, entry.1 ≠ metadata.address) :
    Recorded (defender.start metadata) where
  active := fun tracked member => by
    rcases List.mem_cons.mp member with rfl | earlier
    · exact .new metadata
    · exact recorded.active tracked earlier
  ended := recorded.ended
  abandoned := recorded.abandoned
  apart := fun entry aside tracked member => by
    rcases List.mem_cons.mp member with rfl | earlier
    · exact (fresh entry aside).symm
    · exact recorded.apart entry aside tracked earlier

theorem records (recorded : Recorded defender) (member : record ∈ defender.records game) :
    Sound record ∧ ∀ seen, .observed seen ∈ record → seen.game.address = game := by
  rcases List.mem_append.mp member with active | ended
  · obtain ⟨tracked, found, rfl⟩ := List.mem_map.mp active
    obtain ⟨active, same⟩ := List.mem_filter.mp found
    have kept := recorded.active tracked active
    exact ⟨kept.sound, fun seen observed => (kept.games seen observed).trans (of_decide_eq_true same)⟩
  · obtain ⟨entry, found, rfl⟩ := List.mem_map.mp ended
    obtain ⟨ended, same⟩ := List.mem_filter.mp found
    obtain ⟨sound, games⟩ := recorded.ended entry ended
    exact ⟨sound, fun seen observed => (games seen observed).trans (of_decide_eq_true same)⟩

variable [DecidableEq ProofId]

theorem enterProgress {tracked : Tracked ProofId} {answers : Answers ProofId} {now : ℕ} (recorded : Recorded defender)
    (kept : tracked.Kept) :
    Recorded (defender.enterProgress (tracked, advanceDefense answers tracked.defense now)) := by
  cases advanced : advanceDefense answers tracked.defense now with
  | error error => exact recorded
  | ok result =>
    obtain ⟨progress, actions⟩ := result
    cases progresses_advanceDefense answers now kept.sound kept.agrees advanced with
    | closed => exact recorded.remove kept.sound kept.games
    | complete => exact recorded.remove kept.sound kept.games
    | deadlineElapsed => exact recorded.remove kept.sound kept.games
    | @lanes lanes sufficientSupportSubmitted _ advanced =>
      have games : ∀ seen, .observed seen ∈ actions ++ tracked.record → seen.game.address = tracked.address := by
        intro seen member
        rcases List.mem_append.mp member with now | earlier
        · rw [advanced.games seen now]
        · exact kept.games seen earlier
      simp only [WorldChainDefender.enterProgress]
      split
      · exact recorded.remove advanced.sound games
      · split
        · exact recorded.update advanced.sound advanced.agrees games
        · next insufficient =>
          obtain rfl : sufficientSupportSubmitted = false := by simpa using insufficient
          split
          · next terminal => exact recorded.abandon (advanced.sound_abandoned terminal) games
          · exact recorded.update advanced.sound advanced.agrees games

theorem tickAt (recorded : Recorded defender) : Recorded (defender.tickAt tick).1 :=
  tickAt_invariant defender tick recorded (fun selected _ => recorded.retain selected) (fun _ _ => start)
    fun _ synced tracked active _ recorded => recorded.enterProgress (synced.active tracked active)

end Recorded

/-! ## Games kept aside -/

/-- A game is kept aside, with the records that it has. -/
structure Aside (entry : Address × ℕ) (records : List (List (Action ProofId)))
    (defender : WorldChainDefender ProofId) : Prop where
  member : entry ∈ defender.abandonedDefenses
  inactive : ∀ tracked ∈ defender.activeDefenses, tracked.address ≠ entry.1
  ended : (defender.ended.filter fun other => other.1 = entry.1).map (·.2) = records

namespace Aside

variable {entry : Address × ℕ} {records : List (List (Action ProofId))} {defender : WorldChainDefender ProofId}
  {tick : Tick ProofId} {game : Address} {record : List (Action ProofId)}

theorem records_eq (aside : Aside entry records defender) : defender.records entry.1 = records := by
  have none : (defender.activeDefenses.filter fun tracked => tracked.address = entry.1) = [] :=
    List.filter_eq_nil_iff.mpr fun tracked active => by simpa using aside.inactive tracked active
  rw [WorldChainDefender.records, none, List.map_nil, List.nil_append, aside.ended]

theorem remove (aside : Aside entry records defender) (different : game ≠ entry.1) :
    Aside entry records (defender.remove game record) where
  member := aside.member
  inactive := fun tracked active => aside.inactive tracked (List.mem_of_mem_filter active)
  ended := by simpa [WorldChainDefender.remove, different] using aside.ended

theorem update {lanes : Fin 2 → LaneState ProofId} (aside : Aside entry records defender) :
    Aside entry records (defender.update game lanes record) where
  member := aside.member
  inactive := fun tracked member => by
    obtain ⟨before, active, rfl⟩ := List.mem_map.mp member
    have different := aside.inactive before active
    split <;> exact different
  ended := aside.ended

theorem abandon {metadata : GameMetadata} (aside : Aside entry records defender)
    (different : metadata.address ≠ entry.1) :
    Aside entry records (defender.abandon metadata record) where
  member := List.mem_cons_of_mem _ (List.mem_filter.mpr ⟨aside.member, decide_eq_true different.symm⟩)
  inactive := fun tracked active => aside.inactive tracked (List.mem_of_mem_filter active)
  ended := by simpa [WorldChainDefender.abandon, WorldChainDefender.remove, different] using aside.ended

theorem retain {selected : List GameMetadata} (aside : Aside entry records defender) (early : tick.now < entry.2)
    (member : entry.1 ∈ selected.map (·.address)) : Aside entry records (defender.retain tick selected) := by
  simp only [WorldChainDefender.retain, List.partition_eq_filter_filter]
  refine ⟨List.mem_filter.mpr ⟨aside.member, by simpa [early] using member⟩,
    fun tracked active => aside.inactive tracked (List.mem_of_mem_filter active), ?_⟩
  rw [List.filter_append, List.map_append, aside.ended, List.append_left_eq_self, List.map_eq_nil_iff,
    List.filter_eq_nil_iff]
  intro other left
  obtain ⟨tracked, active, rfl⟩ := List.mem_map.mp left
  simpa using aside.inactive tracked (List.mem_of_mem_filter active)

theorem start {metadata : GameMetadata} (aside : Aside entry records defender)
    (fresh : ∀ entry ∈ defender.abandonedDefenses, entry.1 ≠ metadata.address) :
    Aside entry records (defender.start metadata) where
  member := aside.member
  inactive := fun tracked active => by
    rcases List.mem_cons.mp active with rfl | earlier
    · exact (fresh entry aside.member).symm
    · exact aside.inactive tracked earlier
  ended := aside.ended

variable [DecidableEq ProofId]

theorem enterProgress {scanned : Scanned ProofId} (aside : Aside entry records defender)
    (different : scanned.1.address ≠ entry.1) : Aside entry records (defender.enterProgress scanned) := by
  obtain ⟨tracked, result⟩ := scanned
  simp only [WorldChainDefender.enterProgress]
  split
  · exact aside
  · exact aside.remove different
  · exact aside.remove different
  · exact aside.remove different
  · split
    · exact aside.remove different
    · split
      · exact aside.update
      · split
        · exact aside.abandon different
        · exact aside.update

theorem tickAt (aside : Aside entry records defender) (early : tick.now < entry.2)
    (stays : ∀ selected, tick.selectedLineage = .ok selected → entry.1 ∈ selected.map (·.address)) :
    Aside entry records (defender.tickAt tick).1 :=
  tickAt_invariant defender tick aside (fun selected read => aside.retain early (stays selected read))
    (fun _ _ => start)
    fun _ synced tracked active _ aside => aside.enterProgress (synced.inactive tracked active)

end Aside

theorem Recorded.aside {defender : WorldChainDefender ProofId} (recorded : Recorded defender) {entry : Address × ℕ}
    (member : entry ∈ defender.abandonedDefenses) : Aside entry (defender.records entry.1) defender := by
  have inactive := recorded.apart entry member
  have aside : Aside entry _ defender := ⟨member, inactive, rfl⟩
  rw [aside.records_eq]
  exact aside

/-! ## Runs of ticks -/

section

variable [DecidableEq ProofId]

/-- A tick comes before the deadline of a game kept aside, and finds the game in the selected lineage. -/
def Awaits (entry : Address × ℕ) (_ : WorldChainDefender ProofId) (tick : Tick ProofId) : Prop :=
  tick.now < entry.2 ∧ ∀ selected, tick.selectedLineage = .ok selected → entry.1 ∈ selected.map (·.address)

theorem Recorded.of_run {config : DefenderConfig} {log : List (Tick ProofId)} {defender : WorldChainDefender ProofId}
    (run : Run exec (fun _ _ => True) (.new config) log defender) : Recorded defender := by
  refine run.invariant (.new config) fun recorded _ success => ?_
  cases success
  exact recorded.tickAt

theorem Aside.of_run {entry : Address × ℕ} {records : List (List (Action ProofId))} {log : List (Tick ProofId)}
    {defender later : WorldChainDefender ProofId} (aside : Aside entry records defender)
    (run : Run exec (Awaits entry) defender log later) : Aside entry records later := by
  refine run.invariant aside fun aside awaits success => ?_
  cases success
  exact aside.tickAt awaits.1 awaits.2

/-- Each entry of a record is justified: proofs are requested only while support is short, and a defense is given up
only when support has become impossible. -/
theorem proofs_requested_when_needed {config : DefenderConfig} {log : List (Tick ProofId)}
    {defender : WorldChainDefender ProofId} (run : Run exec (fun _ _ => True) (.new config) log defender) :
    (∀ game, ∀ record ∈ defender.records game, (∀ seen, .observed seen ∈ record → seen.game.address = game) ∧
      ∀ newer action older, record = newer ++ action :: older → Justified older action) ∧
    ∀ entry ∈ defender.abandonedDefenses, (∃ older, .abandoned entry.2 :: older ∈ defender.records entry.1) ∧
      ∀ rest later, Run exec (Awaits entry) defender rest later →
        entry ∈ later.abandonedDefenses ∧ later.records entry.1 = defender.records entry.1 := by
  have recorded := Recorded.of_run run
  refine ⟨fun game record member => ?_, fun entry member => ⟨?_, fun rest later run => ?_⟩⟩
  · obtain ⟨sound, games⟩ := recorded.records member
    refine ⟨games, ?_⟩
    rintro newer action older rfl
    exact sound.split
  · obtain ⟨older, ended⟩ := recorded.abandoned entry member
    refine ⟨older, List.mem_append_right _ (List.mem_map.mpr ⟨_, List.mem_filter.mpr ⟨ended, ?_⟩, rfl⟩)⟩
    exact decide_eq_true rfl
  · have aside := (recorded.aside member).of_run run
    exact ⟨aside.member, aside.records_eq⟩

end

/-! ## A challenged game that is not seen to be supported -/

def sampleGame : GameMetadata where
  address := 7
  aggregationVkey := 1
  rangeVkeyCommitment := 2
  teeImageId := 3
  rootClaim := 4
  l2BlockNumber := 300
  l1OriginHash := 5
  challengeDeadline := 50
  proofDeadline := 100
  proofThreshold := 2

def sampleAnswers : Answers ℕ where
  lineageResolutionStatus := fun _ _ => .ok ⟨.inProgress, false, .inProgress, .none⟩
  claimData := fun _ _ => .ok ⟨.challenged, 9, 100, 0, .none⟩
  requestProof := fun _ lane => .ok lane.toNat
  proofStatus := fun _ _ => .ok .succeeded
  getProof := fun _ lane => .ok (.succeeded lane.toNat (.sp1 [1] [2]))
  submitProof := fun _ _ => .ok ⟨11⟩

def sampleTick (answers : Answers ℕ) : Tick ℕ where
  now := 60
  selectLineage := .ok [7]
  gameMetadata := fun _ => .ok sampleGame
  answers := answers
  arrival := id
  arrival_perm := List.Perm.refl

def refusingAnswers : Answers ℕ :=
  { sampleAnswers with requestProof := fun _ lane => .error (.service (.tooManyRetries lane.toNat 3)) }

def sampleObserved : Observed := ⟨sampleGame, 0, true⟩

def sampleRequests : List (Action ℕ) :=
  [.requested .validityProof (proofRequest sampleGame .sp1) (.ok 0),
    .requested .teeAttestation (proofRequest sampleGame .nitro) (.ok 1), .observed sampleObserved]

def sampleSubmissions : List (Action ℕ) :=
  [.submitted .validityProof [1] (.ok ⟨11⟩), .submitted .teeAttestation [1] (.ok ⟨11⟩), .observed sampleObserved]

theorem refused_game_is_left_alone : ∃ defender later : WorldChainDefender ℕ,
    Run exec (fun _ _ => True) (.new ⟨60, 10⟩) [sampleTick refusingAnswers] defender ∧
      (7, 100) ∈ defender.abandonedDefenses ∧ (∃ older, .abandoned 100 :: older ∈ defender.records 7) ∧
      Run exec (Awaits (7, 100)) defender [sampleTick sampleAnswers] later ∧ later.records 7 = defender.records 7 := by
  have run : Run exec (fun _ _ => True) (.new ⟨60, 10⟩) [sampleTick refusingAnswers] _ :=
    Run.run_final (by decide +kernel)
  have aside : (7, 100) ∈ (Run.final exec (.new ⟨60, 10⟩) [sampleTick refusingAnswers]).abandonedDefenses := by
    decide +kernel
  generalize Run.final exec (.new ⟨60, 10⟩) [sampleTick refusingAnswers] = defender at run aside
  have awaits : Awaits (7, 100) defender (sampleTick sampleAnswers) := by
    refine ⟨by decide, fun selected read => ?_⟩
    obtain rfl : [sampleGame] = selected := Except.ok.inj read
    decide
  have next : Run exec (Awaits (7, 100)) defender [sampleTick sampleAnswers]
      (defender.tickAt (sampleTick sampleAnswers)).1 :=
    Run.single awaits rfl
  obtain ⟨given, left⟩ := (proofs_requested_when_needed run).2 (7, 100) aside
  exact ⟨defender, _, run, aside, given, next, (left _ _ next).2⟩

theorem submitted_lanes_are_requested_again : ∃ (defender : WorldChainDefender ℕ) (active ended : List (Action ℕ)),
    Run exec (fun _ _ => True) (.new ⟨60, 10⟩) (List.replicate 3 (sampleTick sampleAnswers)) defender ∧
      defender.records 7 = [active, ended] ∧ ∃ newer request answer older observed,
        active = newer ++ .requested .teeAttestation request answer :: older ∧ latest (older ++ ended) = some observed ∧
          observed.requiredSupport ≤ provenCount (older ++ ended) observed := by
  have submitted : sampleObserved.requiredSupport ≤
      provenCount ([.observed sampleObserved] ++ (sampleSubmissions ++ sampleRequests)) sampleObserved := by
    decide +kernel
  exact ⟨_, sampleRequests, sampleSubmissions ++ sampleRequests, Run.run_final (by decide +kernel), rfl,
    [.requested .validityProof (proofRequest sampleGame .sp1) (.ok 0)], _, _, _, sampleObserved, rfl, rfl, submitted⟩

end WorldChainDefender

end WorldChain.Defender
