import WorldChain.Challenger.Search

/-! # No game is forgotten before its deadline

The record says for each game what the challenger did about it last. A game is queued exactly if this leaves it open: a
scan that failed or found a wrong root, or a challenge that could not be submitted.
-/

namespace WorldChain.Challenger

open Machine

variable {Address Root Error : Type}

def Tick.Settles (tick : Tick Address Root Error) (games : Games Address Root) (phase : Phase)
    (game : GameMetadata Address Root) : Prop :=
  tick.failure (.proposalStatus phase game.address) = none ∧
      isChallengeable (tick.proposalStatus phase game.address) = false ∨
    games.challengeDeadline game.address ≤ tick.now ∨
    tick.failure (.outputRootAtBlock phase game.l2BlockNumber) = none ∧
      tick.outputRootAtBlock phase game.l2BlockNumber = game.rootClaim

theorem Tick.ask_eq_ok {α : Type} {tick : Tick Address Root Error} {call : Call Address} {answer value : α} :
    tick.ask call answer = .ok value ↔ tick.failure call = none ∧ answer = value := by
  unfold Tick.ask
  cases tick.failure call <;> simp

/-- After this there is something left to do about the game. -/
def Action.LeavesOpen : Action Address Root Error → Prop
  | .scanned _ _ _ (.error _) | .scanned _ _ _ (.ok (.needsChallenge _)) | .submissionFailed _ => True
  | .scanned _ _ _ (.ok .valid) | .scanned _ _ _ (.ok .skip) | .submitted _ | .dropped _ _ => False

namespace WorldChainChallenger

variable {games : Games Address Root} {tick : Tick Address Root Error} {phase : Phase} {block : ℕ}
  {game : GameMetadata Address Root} {challenger : WorldChainChallenger Address Root Error} {address other : Address}

def Holds (challenger : WorldChainChallenger Address Root Error) (address : Address) : Prop :=
  ∃ retry ∈ challenger.retryGames, retry.game.address = address

def Knows (challenger : WorldChainChallenger Address Root Error) (address : Address) : Prop :=
  ∃ action ∈ challenger.history, action.address = address

section

variable [DecidableEq Root]

theorem processGame_cases :
    (∃ error, processGame games tick phase block game = .error error ∧
      ∀ deadline ∈ error.challengeDeadline, deadline = games.challengeDeadline game.address) ∨
    processGame games tick phase block game = .ok (.needsChallenge (games.challengeDeadline game.address)) ∨
    (processGame games tick phase block game = .ok .valid ∨ processGame games tick phase block game = .ok .skip) ∧
      tick.Settles games phase game := by
  unfold processGame Tick.ask Tick.Settles
  cases asked : tick.failure (.proposalStatus phase game.address) with
  | some error => exact .inl ⟨_, rfl, nofun⟩
  | none =>
    dsimp only
    cases challengeable : isChallengeable (tick.proposalStatus phase game.address) with
    | false => exact .inr (.inr ⟨.inr rfl, .inl ⟨rfl, rfl⟩⟩)
    | true =>
      cases tick.failure (.challengeDeadline phase game.address) with
      | some error => exact .inl ⟨_, rfl, nofun⟩
      | none =>
        dsimp only
        simp only [Bool.not_true, Bool.false_eq_true, ↓reduceIte]
        split
        · next late => exact .inr (.inr ⟨.inr rfl, .inr (.inl late)⟩)
        · split
          · exact .inl ⟨_, rfl, by simp⟩
          · cases tick.failure (.outputRootAtBlock phase game.l2BlockNumber) with
            | some error => exact .inl ⟨_, rfl, by simp⟩
            | none =>
              dsimp only
              split
              · exact .inr (.inl rfl)
              · next same => exact .inr (.inr ⟨.inl rfl, .inr (.inr ⟨rfl, by simpa using same⟩)⟩)

theorem scanned_processGames (toScan : List (GameMetadata Address Root)) :
    ∀ result ∈ processGames games tick phase block toScan, result.2 = processGame games tick phase block result.1 := by
  intro result member
  obtain ⟨game, _, rfl⟩ := List.mem_map.mp ((tick.arrival_perm phase _).mem_iff.mp member)
  rfl

end

variable [DecidableEq Address]

/-- What has been done last about a game. -/
def lastAction (challenger : WorldChainChallenger Address Root Error) (address : Address) :
    Option (Action Address Root Error) :=
  challenger.history.find? fun action => action.address = address

def Synced (challenger : WorldChainChallenger Address Root Error) (address : Address) : Prop :=
  challenger.Holds address ↔ ∃ action ∈ challenger.lastAction address, action.LeavesOpen

theorem holds_removeRetryGame : (challenger.removeRetryGame address).Holds other ↔ challenger.Holds other ∧ other ≠ address := by
  simp only [Holds, removeRetryGame, List.mem_filter, decide_eq_true_eq]
  constructor
  · rintro ⟨retry, ⟨member, different⟩, rfl⟩
    exact ⟨⟨retry, member, rfl⟩, different⟩
  · rintro ⟨⟨retry, member, rfl⟩, different⟩
    exact ⟨retry, ⟨member, different⟩, rfl⟩

theorem holds_queueRetryGame {deadline : Option ℕ} :
    (challenger.queueRetryGame game deadline).Holds other ↔ challenger.Holds other ∨ other = game.address := by
  have queued : (challenger.queueRetryGame game deadline).Holds other ↔
      game.address = other ∨ (challenger.removeRetryGame game.address).Holds other := by
    simp [Holds, queueRetryGame]
  rw [queued, holds_removeRetryGame]
  by_cases same : other = game.address
  · simp [same]
  · simp [same, Ne.symm same]

theorem lastAction_record (action : Action Address Root Error) :
    (challenger.record action).lastAction address =
      if action.address = address then some action else challenger.lastAction address := by
  rw [lastAction, record, List.find?_cons]
  by_cases same : action.address = address
  · simp [same]
  · simp [same, lastAction]

theorem lastAction_eq_some_iff_knows : (∃ action, challenger.lastAction address = some action) ↔ challenger.Knows address := by
  rw [← Option.isSome_iff_exists, lastAction, List.find?_isSome]
  simp [Knows]

def KnowsDeadlines (games : Games Address Root) (challenger : WorldChainChallenger Address Root Error) : Prop :=
  ∀ retry ∈ challenger.retryGames, ∀ deadline ∈ retry.challengeDeadline,
    deadline = games.challengeDeadline retry.game.address

theorem KnowsDeadlines.removeRetryGame (knows : challenger.KnowsDeadlines games) (address : Address) :
    (challenger.removeRetryGame address).KnowsDeadlines games :=
  fun retry member => knows retry (List.mem_filter.mp member).1

theorem KnowsDeadlines.queueRetryGame (knows : challenger.KnowsDeadlines games) {deadline : Option ℕ}
    (correct : ∀ given ∈ deadline, given = games.challengeDeadline game.address) :
    (challenger.queueRetryGame game deadline).KnowsDeadlines games := by
  intro retry member
  rcases List.mem_cons.mp member with rfl | other
  · intro known held
    rcases Option.or_eq_some_iff.mp held with given | ⟨_, before⟩
    · exact correct known given
    · obtain ⟨existing, found, held⟩ := Option.bind_eq_some_iff.mp before
      rw [knows existing (List.mem_of_find?_eq_some found) known held]
      exact congrArg games.challengeDeadline (by simpa using List.find?_some found)
  · exact knows.removeRetryGame game.address retry other

variable [DecidableEq Root]

/-- An action is as the record says. -/
def IsTrue (games : Games Address Root) : Action Address Root Error → Prop
  | .scanned tick phase game result => ∃ block, processGame games tick phase block game = result
  | .dropped address now => games.challengeDeadline address ≤ now
  | .submitted _ | .submissionFailed _ => True

/-- The record is right: a game that is not put aside is queued exactly if there is something left to do about it. -/
structure Recorded (games : Games Address Root) (aside : List (GameMetadata Address Root × ℕ))
    (challenger : WorldChainChallenger Address Root Error) : Prop where
  synced : ∀ address, address ∉ aside.map (·.1.address) → challenger.Synced address
  aside : ∀ entry ∈ aside, entry.2 = games.challengeDeadline entry.1.address
  deadlines : challenger.KnowsDeadlines games
  history : ∀ action ∈ challenger.history, IsTrue games action

variable {aside rest : List (GameMetadata Address Root × ℕ)} {after : WorldChainChallenger Address Root Error}

section

variable {action : Action Address Root Error} (recorded : Recorded games aside challenger)
  (isTrue : IsTrue games action)

include recorded isTrue

theorem Recorded.act (done : after.history = action :: challenger.history)
    (elsewhere : ∀ other, other ≠ action.address → (after.Holds other ↔ challenger.Holds other))
    (here : action.address ∉ rest.map (·.1.address) → (after.Holds action.address ↔ action.LeavesOpen))
    (fewer : ∀ other, other ≠ action.address → other ∉ rest.map (·.1.address) → other ∉ aside.map (·.1.address))
    (left : ∀ entry ∈ rest, entry.2 = games.challengeDeadline entry.1.address)
    (deadlines : after.KnowsDeadlines games) :
    Recorded games rest after where
  synced := by
    intro other free
    have last : after.lastAction other = (challenger.record action).lastAction other := by
      rw [lastAction, done]
      rfl
    rw [Synced, last, lastAction_record]
    by_cases same : action.address = other
    · subst same
      rw [here free, if_pos rfl]
      simp
    · rw [elsewhere other (Ne.symm same), if_neg same]
      exact recorded.synced other (fewer other (Ne.symm same) free)
  aside := left
  deadlines := deadlines
  history := by
    rw [done]
    intro past member
    rcases List.mem_cons.mp member with rfl | earlier
    · exact isTrue
    · exact recorded.history past earlier

theorem Recorded.remove (settles : ¬ action.LeavesOpen)
    (fewer : ∀ other, other ≠ action.address → other ∉ rest.map (·.1.address) → other ∉ aside.map (·.1.address))
    (left : ∀ entry ∈ rest, entry.2 = games.challengeDeadline entry.1.address) :
    Recorded games rest ((challenger.record action).removeRetryGame action.address) := by
  refine recorded.act isTrue rfl ?_ ?_ fewer left (KnowsDeadlines.removeRetryGame recorded.deadlines _)
  · intro other different
    rw [holds_removeRetryGame, and_iff_left different]
    rfl
  · intro _
    rw [holds_removeRetryGame]
    simp [settles]

theorem Recorded.queue (opens : action.LeavesOpen) (about : action.address = game.address) {deadline : Option ℕ}
    (known : ∀ given ∈ deadline, given = games.challengeDeadline game.address)
    (fewer : ∀ other, other ≠ action.address → other ∉ rest.map (·.1.address) → other ∉ aside.map (·.1.address))
    (left : ∀ entry ∈ rest, entry.2 = games.challengeDeadline entry.1.address) :
    Recorded games rest ((challenger.record action).queueRetryGame game deadline) := by
  refine recorded.act isTrue rfl ?_ ?_ fewer left (KnowsDeadlines.queueRetryGame recorded.deadlines known)
  · intro other different
    rw [holds_queueRetryGame, or_iff_left (about ▸ different)]
    rfl
  · intro _
    rw [holds_queueRetryGame]
    simp [opens, about]

end

theorem Recorded.enterResult (recorded : Recorded games aside challenger)
    {result : GameMetadata Address Root × ScanResult Address Error}
    (scanned : result.2 = processGame games tick phase block result.1) :
    Recorded games (enterResult tick phase (challenger, aside) result).2
      (enterResult tick phase (challenger, aside) result).1 := by
  obtain ⟨game, outcome⟩ := result
  have isTrue : IsTrue games (.scanned tick phase game outcome) := ⟨block, scanned.symm⟩
  rcases @processGame_cases _ _ _ games tick phase block game _ with ⟨error, failed, known⟩ | wrong | ⟨valid | skip, _⟩
  · obtain rfl : outcome = .error error := scanned.trans failed
    exact recorded.queue isTrue trivial rfl known (fun _ _ free => free) recorded.aside
  · obtain rfl : outcome = .ok (.needsChallenge (games.challengeDeadline game.address)) := scanned.trans wrong
    -- The game is put aside, and whether it is queued does not count until its challenge has been handled.
    refine recorded.act isTrue rfl (fun _ _ => Iff.rfl) ?_ ?_ ?_ recorded.deadlines
    · intro free
      exact absurd (by simp [WorldChainChallenger.enterResult, Action.address]) free
    · intro other _ free
      exact fun member => free (by simp [WorldChainChallenger.enterResult, member])
    · intro entry member
      rcases List.mem_append.mp member with earlier | last
      · exact recorded.aside entry earlier
      · rw [List.mem_singleton.mp last]
  · obtain rfl : outcome = .ok .valid := scanned.trans valid
    exact recorded.remove isTrue id (fun _ _ free => free) recorded.aside
  · obtain rfl : outcome = .ok .skip := scanned.trans skip
    exact recorded.remove isTrue id (fun _ _ free => free) recorded.aside

theorem Recorded.submitChallenge {challenge : GameMetadata Address Root × ℕ}
    (recorded : Recorded games (challenge :: rest) challenger) :
    Recorded games rest (challenger.submitChallenge tick phase challenge) := by
  obtain ⟨game, deadline⟩ := challenge
  have fewer : ∀ other, other ≠ game.address → other ∉ rest.map (·.1.address) →
      other ∉ ((game, deadline) :: rest).map (·.1.address) := by
    intro other different free
    rw [List.map_cons, List.mem_cons]
    exact fun either => either.elim different free
  have left : ∀ entry ∈ rest, entry.2 = games.challengeDeadline entry.1.address :=
    fun entry member => recorded.aside entry (List.mem_cons_of_mem _ member)
  unfold WorldChainChallenger.submitChallenge
  dsimp only
  split
  · have isTrue : IsTrue games (.submitted game.address : Action Address Root Error) := trivial
    have removed := recorded.remove isTrue id fewer left
    exact ⟨removed.synced, removed.aside, removed.deadlines, removed.history⟩
  · have isTrue : IsTrue games (.submissionFailed game.address : Action Address Root Error) := trivial
    refine recorded.queue isTrue trivial rfl ?_ fewer left
    intro given held
    rw [← Option.some.inj held]
    exact recorded.aside (game, deadline) List.mem_cons_self

theorem Recorded.perm (recorded : Recorded games aside challenger) (same : rest.Perm aside) :
    Recorded games rest challenger where
  synced address free := recorded.synced address fun member => free ((same.map _).mem_iff.mpr member)
  aside entry member := recorded.aside entry (same.mem_iff.mp member)
  deadlines := recorded.deadlines
  history := recorded.history

section

variable (recorded : Recorded games [] challenger)

include recorded

theorem Recorded.handleGameResults {results : List (GameMetadata Address Root × ScanResult Address Error)}
    (scanned : ∀ result ∈ results, result.2 = processGame games tick phase block result.1) :
    Recorded games [] (challenger.handleGameResults tick phase results) := by
  have entered : ∀ (results : List (GameMetadata Address Root × ScanResult Address Error))
      (entered : WorldChainChallenger Address Root Error × List (GameMetadata Address Root × ℕ)),
      Recorded games entered.2 entered.1 →
      (∀ result ∈ results, result.2 = processGame games tick phase block result.1) →
      Recorded games (results.foldl (WorldChainChallenger.enterResult tick phase) entered).2
        (results.foldl (WorldChainChallenger.enterResult tick phase) entered).1 := by
    intro results
    induction results with
    | nil => exact fun _ recorded _ => recorded
    | cons result results ih =>
      intro entered recorded scanned
      exact ih _ (recorded.enterResult (scanned result List.mem_cons_self))
        fun later member => scanned later (List.mem_cons_of_mem _ member)
  have submitted : ∀ (aside : List (GameMetadata Address Root × ℕ)) (challenger : WorldChainChallenger Address Root Error),
      Recorded games aside challenger →
      Recorded games [] (aside.foldl (fun challenger => challenger.submitChallenge tick phase) challenger) := by
    intro aside
    induction aside with
    | nil => exact fun _ recorded => recorded
    | cons challenge aside ih => exact fun challenger recorded => ih _ recorded.submitChallenge
  exact submitted _ _ ((entered results (challenger, []) recorded scanned).perm (List.perm_insertionSort _ _))

theorem Recorded.dropExpired {retry : RetryGame Address Root}
    (known : ∀ deadline ∈ retry.challengeDeadline, deadline = games.challengeDeadline retry.game.address) :
    Recorded games [] (WorldChainChallenger.dropExpired tick challenger retry) := by
  unfold WorldChainChallenger.dropExpired
  split
  · next expired =>
    obtain ⟨deadline, held, late⟩ := (Option.any_eq_true ..).mp expired
    have isTrue : IsTrue games (.dropped retry.game.address tick.now : Action Address Root Error) :=
      (known deadline held).ge.trans (of_decide_eq_true late)
    exact recorded.remove isTrue id (fun _ _ free => free) nofun
  · exact recorded

theorem Recorded.handleRetryGames (block : ℕ) :
    Recorded games [] (challenger.handleRetryGames games tick block) := by
  have dropped : ∀ (retryGames : List (RetryGame Address Root)) (challenger : WorldChainChallenger Address Root Error),
      Recorded games [] challenger →
      (∀ retry ∈ retryGames, ∀ deadline ∈ retry.challengeDeadline, deadline = games.challengeDeadline retry.game.address) →
      Recorded games [] (retryGames.foldl (WorldChainChallenger.dropExpired tick) challenger) := by
    intro retryGames
    induction retryGames with
    | nil => exact fun _ recorded _ => recorded
    | cons retry retryGames ih =>
      intro challenger recorded known
      exact ih _ (recorded.dropExpired (known retry List.mem_cons_self))
        fun later member => known later (List.mem_cons_of_mem _ member)
  refine (dropped _ _ recorded ?_).handleGameResults (scanned_processGames _)
  intro retry member
  exact recorded.deadlines retry ((List.perm_insertionSort _ _).mem_iff.mp member)

theorem Recorded.handleNewGames (newGames : List (GameMetadata Address Root)) (block : ℕ) :
    Recorded games [] (challenger.handleNewGames games tick newGames block) :=
  recorded.handleGameResults (scanned_processGames _)

end

/-! ## The cursor -/

/-- The record goes on, and the cursor stays where it is. -/
structure Follows (before after : WorldChainChallenger Address Root Error) : Prop where
  history : before.history <:+ after.history
  nextGameIndex : after.nextGameIndex = before.nextGameIndex
  initialCursor : after.initialCursor = before.initialCursor

omit [DecidableEq Address] [DecidableEq Root]

theorem Follows.refl (challenger : WorldChainChallenger Address Root Error) : Follows challenger challenger :=
  ⟨List.suffix_refl _, rfl, rfl⟩

theorem Follows.trans {middle : WorldChainChallenger Address Root Error} (first : Follows challenger middle)
    (second : Follows middle after) : Follows challenger after :=
  ⟨first.history.trans second.history, second.nextGameIndex.trans first.nextGameIndex,
    second.initialCursor.trans first.initialCursor⟩

theorem Follows.of_record {action : Action Address Root Error} (follows : Follows (challenger.record action) after) :
    Follows challenger after :=
  ⟨(List.suffix_cons _ _).trans follows.history, follows.nextGameIndex, follows.initialCursor⟩

theorem Follows.foldl {ι : Type} {body : WorldChainChallenger Address Root Error → ι → WorldChainChallenger Address Root Error}
    (step : ∀ challenger entry, Follows challenger (body challenger entry)) (entries : List ι)
    (challenger : WorldChainChallenger Address Root Error) : Follows challenger (entries.foldl body challenger) := by
  induction entries generalizing challenger with
  | nil => exact .refl _
  | cons entry entries ih => exact (step challenger entry).trans (ih _)

theorem Knows.follows (knows : challenger.Knows address) (follows : Follows challenger after) : after.Knows address := by
  obtain ⟨action, member, about⟩ := knows
  exact ⟨action, follows.history.subset member, about⟩

variable [DecidableEq Address]

theorem follows_submitChallenge (challenge : GameMetadata Address Root × ℕ) :
    Follows challenger (challenger.submitChallenge tick phase challenge) := by
  unfold submitChallenge
  dsimp only
  split <;> exact Follows.of_record ⟨List.suffix_refl _, rfl, rfl⟩

theorem follows_enterResult (entered : WorldChainChallenger Address Root Error × List (GameMetadata Address Root × ℕ))
    (result : GameMetadata Address Root × ScanResult Address Error) :
    Follows (entered.1.record (.scanned tick phase result.1 result.2)) (enterResult tick phase entered result).1 := by
  unfold enterResult
  dsimp only
  split <;> exact ⟨List.suffix_refl _, rfl, rfl⟩

theorem knows_enterResults (results : List (GameMetadata Address Root × ScanResult Address Error))
    (entered : WorldChainChallenger Address Root Error × List (GameMetadata Address Root × ℕ)) :
    Follows entered.1 (results.foldl (enterResult tick phase) entered).1 ∧
      ∀ result ∈ results, (results.foldl (enterResult tick phase) entered).1.Knows result.1.address := by
  induction results generalizing entered with
  | nil => exact ⟨.refl _, nofun⟩
  | cons result results ih =>
    obtain ⟨follows, knows⟩ := ih (enterResult tick phase entered result)
    have step := @follows_enterResult _ _ _ tick phase _ entered result
    refine ⟨step.of_record.trans follows, ?_⟩
    intro later member
    rcases List.mem_cons.mp member with rfl | member
    · have known : (entered.1.record (.scanned tick phase later.1 later.2)).Knows later.1.address :=
        ⟨_, List.mem_cons_self, rfl⟩
      exact known.follows (step.trans follows)
    · exact knows later member

theorem knows_handleGameResults (results : List (GameMetadata Address Root × ScanResult Address Error)) :
    Follows challenger (challenger.handleGameResults tick phase results) ∧
      ∀ result ∈ results, (challenger.handleGameResults tick phase results).Knows result.1.address := by
  obtain ⟨entered, knows⟩ := @knows_enterResults _ _ _ tick phase _ results (challenger, [])
  have submitted := Follows.foldl (fun _ challenge => @follows_submitChallenge _ _ _ tick phase _ _ challenge)
    ((results.foldl (enterResult tick phase) (challenger, [])).2.insertionSort fun left right => left.2 ≤ right.2)
    (results.foldl (enterResult tick phase) (challenger, [])).1
  exact ⟨entered.trans submitted, fun result member => (knows result member).follows submitted⟩

theorem follows_dropExpired (retry : RetryGame Address Root) : Follows challenger (dropExpired tick challenger retry) := by
  unfold dropExpired
  split
  · exact Follows.of_record ⟨List.suffix_refl _, rfl, rfl⟩
  · exact .refl _

section

variable [DecidableEq Root]

theorem follows_handleRetryGames (block : ℕ) : Follows challenger (challenger.handleRetryGames games tick block) :=
  (Follows.foldl (fun _ retry => follows_dropExpired retry) _ _).trans (knows_handleGameResults _).1

theorem knows_handleNewGames (newGames : List (GameMetadata Address Root)) (block : ℕ) :
    Follows challenger (challenger.handleNewGames games tick newGames block) ∧
      ∀ game ∈ newGames, (challenger.handleNewGames games tick newGames block).Knows game.address := by
  obtain ⟨follows, knows⟩ := @knows_handleGameResults _ _ _ tick .newGames challenger _
    (processGames games tick .newGames block newGames)
  refine ⟨follows, fun game member => knows (game, processGame games tick .newGames block game) ?_⟩
  exact (tick.arrival_perm .newGames _).mem_iff.mpr (List.mem_map_of_mem member)

theorem Recorded.knows (recorded : Recorded games [] challenger) (holds : challenger.Holds address) :
    challenger.Knows address := by
  obtain ⟨action, last, _⟩ := (recorded.synced address (by simp)).mp holds
  exact lastAction_eq_some_iff_knows.mp ⟨action, last⟩

end

theorem discoverNewGames_covers {indices : List ℕ} {newGames : List (GameMetadata Address Root)}
    (discovered : challenger.discoverNewGames games tick indices = .ok newGames) {index : ℕ} (member : index ∈ indices)
    (entry : tick.entry index = some address) : challenger.Holds address ∨ ∃ game ∈ newGames, game.address = address := by
  induction indices generalizing newGames with
  | nil => cases member
  | cons first indices ih =>
    rw [discoverNewGames, bind_eq_ok] at discovered
    obtain ⟨held, asked, discovered⟩ := discovered
    have same : tick.entry first = held := (Tick.ask_eq_ok.mp asked).2
    cases held with
    | none =>
      rcases List.mem_cons.mp member with rfl | later
      · cases same.symm.trans entry
      · exact ih discovered later
    | some game =>
      dsimp only at discovered
      split at discovered
      · next queued =>
        rcases List.mem_cons.mp member with rfl | later
        · obtain rfl : game = address := Option.some.inj (same.symm.trans entry)
          exact .inl (by simpa [Holds] using queued)
        · exact ih discovered later
      · rw [bind_eq_ok] at discovered
        obtain ⟨metadata, read, discovered⟩ := discovered
        rw [bind_eq_ok] at discovered
        obtain ⟨others, rest, discovered⟩ := discovered
        cases discovered
        rcases List.mem_cons.mp member with rfl | later
        · obtain rfl : game = address := Option.some.inj (same.symm.trans entry)
          refine .inr ⟨metadata, List.mem_cons_self, ?_⟩
          rw [← (Tick.ask_eq_ok.mp read).2]
          rfl
        · rcases ih rest later with queued | ⟨found, member, about⟩
          · exact .inl queued
          · exact .inr ⟨found, List.mem_cons_of_mem _ member, about⟩

end WorldChainChallenger

/-- The challenger and the factory that it watches. -/
structure Watch (Address Root Error : Type) where
  challenger : WorldChainChallenger Address Root Error
  factory : List (Option Address)

namespace Watch

/-- The factory has only grown until the tick. -/
def FactoryGrows (watch : Watch Address Root Error) (tick : Tick Address Root Error) : Prop :=
  watch.factory <+: tick.factory

instance decidableFactoryGrows [DecidableEq Address] (watch : Watch Address Root Error) (tick : Tick Address Root Error) :
    Decidable (watch.FactoryGrows tick) :=
  inferInstanceAs (Decidable (watch.factory <+: tick.factory))

variable [DecidableEq Address] [DecidableEq Root]

/-- A tick, whether it succeeds or fails. -/
def exec (games : Games Address Root) (watch : Watch Address Root Error) (tick : Tick Address Root Error) :
    Except Empty (Watch Address Root Error) :=
  .ok ⟨(watch.challenger.tickAt games tick).1, tick.factory⟩

/-- The record is right, the cursor is within the factory, and each game that it has passed is in the record. -/
structure Inv (games : Games Address Root) (watch : Watch Address Root Error) : Prop where
  recorded : WorldChainChallenger.Recorded games [] watch.challenger
  within : ∀ next ∈ watch.challenger.nextGameIndex, next ≤ watch.factory.length
  unset : watch.challenger.nextGameIndex = none → watch.challenger.initialCursor = none
  covered : ∀ cursor ∈ watch.challenger.initialCursor, ∀ next ∈ watch.challenger.nextGameIndex, ∀ index address,
    cursor ≤ index → index < next → watch.factory[index]? = some (some address) → watch.challenger.Knows address

variable {games : Games Address Root} {watch : Watch Address Root Error} {tick : Tick Address Root Error}

theorem Inv.grow (inv : Inv games watch) (grows : watch.FactoryGrows tick) :
    Inv games ⟨watch.challenger, tick.factory⟩ where
  recorded := inv.recorded
  within next member := (inv.within next member).trans grows.length_le
  unset := inv.unset
  covered := by
    intro cursor initial next member index address reached passed entry
    have bound := inv.within next member
    obtain ⟨later, same⟩ := grows
    refine inv.covered cursor initial next member index address reached passed ?_
    rwa [← same, List.getElem?_append_left (passed.trans_le bound)] at entry

variable {challenger after : WorldChainChallenger Address Root Error}

section

variable (inv : Inv games ⟨challenger, tick.factory⟩)

include inv

theorem Inv.begin (unset : challenger.nextGameIndex = none) {index : ℕ} (bound : index ≤ tick.factory.length) :
    Inv games
      ⟨{ challenger with
          nextGameIndex := some index
          initialCursor := challenger.initialCursor.or (some index) }, tick.factory⟩ where
  recorded := ⟨inv.recorded.synced, nofun, inv.recorded.deadlines, inv.recorded.history⟩
  within := by
    rintro _ ⟨⟩
    exact bound
  unset := nofun
  covered := by
    intro cursor initial next held later address reached passed
    have first : challenger.initialCursor.or (some index) = some index := by
      rw [inv.unset unset]
      rfl
    obtain rfl : index = cursor := Option.some.inj (first.symm.trans initial)
    obtain rfl : index = next := Option.some.inj held
    omega

theorem Inv.nextGameIndex_eq_none (searches : challenger.nextGameIndex.all (· > tick.factory.length) = true) :
    challenger.nextGameIndex = none := by
  cases held : challenger.nextGameIndex with
  | none => rfl
  | some next =>
    rw [held] at searches
    exact absurd (inv.within next held) (by simpa using searches)

theorem Inv.selectRange :
    Inv games ⟨(challenger.selectRange games tick).1, tick.factory⟩ ∧
      ∀ first last, (challenger.selectRange games tick).2 = .ok (first, last) →
        ∃ next, (challenger.selectRange games tick).1.nextGameIndex = some next ∧ first ≤ next ∧ next ≤ last ∧
          last ≤ tick.factory.length := by
  unfold WorldChainChallenger.selectRange
  cases counted : tick.ask .gameCount tick.factory.length with
  | error error => exact ⟨inv, nofun⟩
  | ok gameCount =>
    obtain rfl : tick.factory.length = gameCount := (Tick.ask_eq_ok.mp counted).2
    dsimp only
    split
    · next searches =>
      cases searched : WorldChainChallenger.firstRecentGameIndex games tick tick.factory.length with
      | error error => exact ⟨inv, nofun⟩
      | ok firstRecent =>
        have bound := (Bisect.bisect_bounds searched (Nat.zero_le _)).2
        refine ⟨inv.begin (inv.nextGameIndex_eq_none searches) bound, ?_⟩
        intro start stop same
        cases same
        exact ⟨firstRecent, rfl, le_rfl, by omega, by omega⟩
    · next set =>
      refine ⟨inv, ?_⟩
      intro start stop same
      cases held : challenger.nextGameIndex with
      | none => simp [held] at set
      | some next =>
        have within : next ≤ tick.factory.length := inv.within next held
        simp only [held, Option.getD_some, Except.ok.injEq, Prod.mk.injEq] at same
        exact ⟨next, rfl, by omega, by omega, by omega⟩

theorem Inv.advance {next last : ℕ} (held : challenger.nextGameIndex = some next)
    (bound : last ≤ tick.factory.length)
    (knows : ∀ index address, next ≤ index → index < last → tick.entry index = some address → challenger.Knows address) :
    Inv games ⟨{ challenger with nextGameIndex := some last }, tick.factory⟩ where
  recorded := ⟨inv.recorded.synced, nofun, inv.recorded.deadlines, inv.recorded.history⟩
  within := by
    rintro _ ⟨⟩
    exact bound
  unset := nofun
  covered := by
    rintro cursor initial _ ⟨⟩ index address reached passed entry
    by_cases scanned : index < next
    · exact inv.covered cursor initial next held index address reached scanned entry
    · exact knows index address (by omega) passed (by simp [Tick.entry, entry])

theorem Inv.follow (follows : challenger.Follows after) (recorded : after.Recorded games []) :
    Inv games ⟨after, tick.factory⟩ where
  recorded := recorded
  within next member := inv.within next (follows.nextGameIndex ▸ member)
  unset none := follows.initialCursor.trans (inv.unset (follows.nextGameIndex ▸ none))
  covered := by
    intro cursor initial next member index address reached passed entry
    rw [follows.initialCursor] at initial
    rw [follows.nextGameIndex] at member
    exact (inv.covered cursor initial next member index address reached passed entry).follows follows

theorem Inv.scan {next last : ℕ} (held : challenger.nextGameIndex = some next) (bound : last ≤ tick.factory.length)
    (newGames : List (GameMetadata Address Root)) (block : ℕ)
    (found : ∀ index address, next ≤ index → index < last → tick.entry index = some address →
      challenger.Holds address ∨ ∃ game ∈ newGames, game.address = address) :
    Inv games
      ⟨{ (challenger.handleRetryGames games tick block).handleNewGames games tick newGames block with
          nextGameIndex := some last }, tick.factory⟩ := by
  have retried : WorldChainChallenger.Recorded games [] (challenger.handleRetryGames games tick block) :=
    inv.recorded.handleRetryGames block
  have follows := @WorldChainChallenger.follows_handleRetryGames _ _ _ games tick challenger _ _ block
  obtain ⟨further, knows⟩ := @WorldChainChallenger.knows_handleNewGames _ _ _ games tick
    (challenger.handleRetryGames games tick block) _ _ newGames block
  have followed := follows.trans further
  refine (inv.follow followed (retried.handleNewGames _ _)).advance (followed.nextGameIndex.trans held) bound ?_
  intro index address reached passed entry
  rcases found index address reached passed entry with queued | ⟨game, read, rfl⟩
  · exact (inv.recorded.knows queued).follows followed
  · exact knows game read

theorem Inv.tickAt : Inv games ⟨(challenger.tickAt games tick).1, tick.factory⟩ := by
  unfold WorldChainChallenger.tickAt
  split
  · exact inv
  · obtain ⟨ready, ranged⟩ := inv.selectRange
    split
    · next selected => rwa [selected] at ready
    · next started first last selected =>
      rw [selected] at ready ranged
      obtain ⟨next, held, before, onward, bound⟩ := ranged first last rfl
      split
      · exact ready
      · next newGames discovered =>
        -- Each game between the cursor and its new place is queued or has been read.
        have found : ∀ index address, next ≤ index → index < last → tick.entry index = some address →
            started.Holds address ∨ ∃ game ∈ newGames, game.address = address := by
          intro index address reached passed entry
          refine WorldChainChallenger.discoverNewGames_covers discovered (List.mem_range'_1.mpr ?_) entry
          omega
        split
        · next nothing =>
          refine ready.advance held bound ?_
          intro index address reached passed entry
          simp only [Bool.and_eq_true, List.isEmpty_iff] at nothing
          rcases found index address reached passed entry with ⟨retry, queued, _⟩ | ⟨game, read, _⟩
          · simp [nothing.2] at queued
          · simp [nothing.1] at read
        · split
          · exact ready
          · exact ready.scan held bound newGames _ found

end

end Watch

/-- A game is queued, or what was done about it last is a scan that settles it, a challenge, or that it was dropped at its
deadline or later. -/
def WorldChainChallenger.AccountsFor [DecidableEq Address] (games : Games Address Root)
    (challenger : WorldChainChallenger Address Root Error) (address : Address) : Prop :=
  challenger.Holds address ∨
    (∃ tick phase game result, challenger.lastAction address = some (.scanned tick phase game result) ∧
      tick.Settles games phase game) ∨
    challenger.lastAction address = some (.submitted address) ∨
    ∃ now, challenger.lastAction address = some (.dropped address now) ∧ games.challengeDeadline address ≤ now

theorem WorldChainChallenger.Recorded.accountsFor [DecidableEq Address] [DecidableEq Root] {games : Games Address Root}
    {challenger : WorldChainChallenger Address Root Error} {address : Address} (recorded : challenger.Recorded games [])
    (knows : challenger.Knows address) : challenger.AccountsFor games address := by
  obtain ⟨action, last⟩ := lastAction_eq_some_iff_knows.mpr knows
  have about : action.address = address := by simpa using List.find?_some last
  have synced := recorded.synced address (by simp)
  have isTrue := recorded.history action (List.mem_of_find?_eq_some last)
  cases action with
  | submitted game =>
    cases about
    exact .inr (.inr (.inl last))
  | submissionFailed game => exact .inl (synced.mpr ⟨_, last, trivial⟩)
  | dropped game now =>
    cases about
    exact .inr (.inr (.inr ⟨now, last, isTrue⟩))
  | scanned tick phase game result =>
    obtain ⟨block, scanned⟩ := isTrue
    rcases @processGame_cases _ _ _ games tick phase block game _ with ⟨error, failed, _⟩ | wrong | ⟨_, settles⟩
    · obtain rfl := scanned.symm.trans failed
      exact .inl (synced.mpr ⟨_, last, trivial⟩)
    · obtain rfl := scanned.symm.trans wrong
      exact .inl (synced.mpr ⟨_, last, trivial⟩)
    · exact .inr (.inl ⟨tick, phase, game, result, last, settles⟩)

section Sample

def sampleTicks : List (Tick ℕ ℕ Unit) :=
  [{ sampleTick 150 [some 1, some 2] with
      failure := fun call => if call = .submitChallenge .newGames 2 then some () else none },
    sampleTick 160 [some 1, some 2, none, some 3]]

end Sample

end WorldChain.Challenger
