import WorldChain.Dispute.Types
import WorldChain.Lib.Bisect
import WorldChain.Machine.Run

/-! # A tick of the challenger

The challenger scans the games of the factory in the order of their indices and keeps a cursor. A game is scanned by
its status, its deadline and the root that the consensus layer has for its block; a wrong root is challenged.
-/

namespace WorldChain.Challenger

open Dispute (ProposalStatus)

variable {Address Root Error : Type}

def isChallengeable : ProposalStatus → Bool
  | .unchallenged | .unchallengedAndValidProofProvided => true
  | .challenged | .challengedAndValidProofProvided | .resolved => false

inductive ChallengerError (Address Error : Type)
  | invalidConfig (message : String)
  | l2BlockNotFinalized (game : Address) (latestFinalized givenBlock : ℕ)
  | outputRoot (error : Error)
  | client (error : Error)
deriving DecidableEq

structure ChallengerConfig where
  pollInterval : ℕ
  maxGameConcurrency : ℕ
  maxGamesPerTick : ℕ
  gameScanLookback : ℕ
deriving DecidableEq

def ChallengerConfig.validate (config : ChallengerConfig) : Except (ChallengerError Address Error) Unit :=
  if config.pollInterval = 0 then .error (.invalidConfig "poll_interval must be greater than zero")
  else if config.maxGameConcurrency = 0 then .error (.invalidConfig "max_game_concurrency must be greater than zero")
  else if config.maxGamesPerTick = 0 then .error (.invalidConfig "max_games_per_tick must be greater than zero")
  else .ok ()

structure GameMetadata (Address Root : Type) where
  address : Address
  rootClaim : Root
  l2BlockNumber : ℕ
deriving DecidableEq

structure RetryGame (Address Root : Type) where
  game : GameMetadata Address Root
  challengeDeadline : Option ℕ
  attempts : ℕ
deriving DecidableEq

inductive GameScanOutcome
  | valid
  | needsChallenge (challengeDeadline : ℕ)
  | skip
deriving DecidableEq

structure GameScanError (Address Error : Type) where
  error : ChallengerError Address Error
  challengeDeadline : Option ℕ
deriving DecidableEq

abbrev ScanResult (Address Error : Type) := Except (GameScanError Address Error) GameScanOutcome

/-- What does not change about a game. -/
structure Games (Address Root : Type) where
  rootClaim : Address → Root
  l2BlockNumber : Address → ℕ
  challengeDeadline : Address → ℕ

def Games.metadata (games : Games Address Root) (address : Address) : GameMetadata Address Root :=
  ⟨address, games.rootClaim address, games.l2BlockNumber address⟩

/-- Whether a game is scanned again or for the first time. -/
inductive Phase
  | retries
  | newGames
deriving DecidableEq

/-- The calls that a tick makes to the providers. -/
inductive Call (Address : Type)
  | gameCount
  | searchAddressAt (index : ℕ)
  | searchDeadline (game : Address)
  | gameAddressAt (index : ℕ)
  | gameMetadata (game : Address)
  | latestFinalizedBlock
  | proposalStatus (phase : Phase) (game : Address)
  | challengeDeadline (phase : Phase) (game : Address)
  | outputRootAtBlock (phase : Phase) (block : ℕ)
  | submitChallenge (phase : Phase) (game : Address)
deriving DecidableEq

structure Tick (Address Root Error : Type) where
  now : ℕ
  factory : List (Option Address)
  failure : Call Address → Option Error
  proposalStatus : Phase → Address → ProposalStatus
  latestFinalizedBlock : ℕ
  outputRootAtBlock : Phase → ℕ → Root
  arrival : Phase → List (GameMetadata Address Root × ScanResult Address Error) →
    List (GameMetadata Address Root × ScanResult Address Error)
  arrival_perm : ∀ phase results, (arrival phase results).Perm results

/-- The answer to a call. -/
def Tick.ask {α : Type} (tick : Tick Address Root Error) (call : Call Address) (answer : α) :
    Except (ChallengerError Address Error) α :=
  match tick.failure call with
  | some error => .error (.client error)
  | none => .ok answer

def Tick.entry (tick : Tick Address Root Error) (index : ℕ) : Option Address := (tick.factory[index]?).join

/-- What the challenger has done. -/
inductive Action (Address Root Error : Type)
  | scanned (tick : Tick Address Root Error) (phase : Phase) (game : GameMetadata Address Root)
      (result : ScanResult Address Error)
  | submitted (game : Address)
  | submissionFailed (game : Address)
  | dropped (game : Address) (now : ℕ)

def Action.address : Action Address Root Error → Address
  | .scanned _ _ game _ => game.address
  | .submitted game | .submissionFailed game | .dropped game _ => game

structure WorldChainChallenger (Address Root Error : Type) where
  config : ChallengerConfig
  nextGameIndex : Option ℕ
  retryGames : List (RetryGame Address Root)
  ownedGames : List Address
  history : List (Action Address Root Error)
  initialCursor : Option ℕ

namespace WorldChainChallenger

variable (games : Games Address Root) (tick : Tick Address Root Error)

def new (config : ChallengerConfig) : WorldChainChallenger Address Root Error := ⟨config, none, [], [], [], none⟩

def isOld (index : ℕ) : Except (ChallengerError Address Error) Bool := do
  match ← tick.ask (.searchAddressAt index) (tick.entry index) with
  | none => return true
  | some game => return (← tick.ask (.searchDeadline game) (games.challengeDeadline game)) < tick.now

def firstRecentGameIndex (gameCount : ℕ) : Except (ChallengerError Address Error) ℕ :=
  Bisect.bisect (isOld games tick) 0 gameCount

section

variable [DecidableEq Root]

def processGame (phase : Phase) (latestFinalizedL2Block : ℕ) (game : GameMetadata Address Root) :
    ScanResult Address Error :=
  match tick.ask (.proposalStatus phase game.address) (tick.proposalStatus phase game.address) with
  | .error error => .error ⟨error, none⟩
  | .ok proposalStatus =>
    if !isChallengeable proposalStatus then .ok .skip
    else
      match tick.ask (.challengeDeadline phase game.address) (games.challengeDeadline game.address) with
      | .error error => .error ⟨error, none⟩
      | .ok challengeDeadline =>
        if tick.now ≥ challengeDeadline then .ok .skip
        else if game.l2BlockNumber > latestFinalizedL2Block then
          .error ⟨.l2BlockNotFinalized game.address latestFinalizedL2Block game.l2BlockNumber, some challengeDeadline⟩
        else
          match tick.failure (.outputRootAtBlock phase game.l2BlockNumber) with
          | some error => .error ⟨.outputRoot error, some challengeDeadline⟩
          | none =>
            if tick.outputRootAtBlock phase game.l2BlockNumber ≠ game.rootClaim then
              .ok (.needsChallenge challengeDeadline)
            else .ok .valid

def processGames (phase : Phase) (latestFinalizedL2Block : ℕ) (toScan : List (GameMetadata Address Root)) :
    List (GameMetadata Address Root × ScanResult Address Error) :=
  tick.arrival phase (toScan.map fun game => (game, processGame games tick phase latestFinalizedL2Block game))

end

def record (challenger : WorldChainChallenger Address Root Error) (action : Action Address Root Error) :
    WorldChainChallenger Address Root Error :=
  { challenger with history := action :: challenger.history }

variable [DecidableEq Address] (challenger : WorldChainChallenger Address Root Error)

def removeRetryGame (address : Address) : WorldChainChallenger Address Root Error :=
  { challenger with retryGames := challenger.retryGames.filter fun retry => retry.game.address ≠ address }

def queueRetryGame (game : GameMetadata Address Root) (challengeDeadline : Option ℕ) :
    WorldChainChallenger Address Root Error :=
  let existing := challenger.retryGames.find? fun retry => retry.game.address = game.address
  let retryGame : RetryGame Address Root :=
    { game
      challengeDeadline := challengeDeadline.or (existing.bind (·.challengeDeadline))
      attempts := (existing.map fun retry => min (retry.attempts + 1) (2 ^ 32 - 1)).getD 1 }
  let others := challenger.removeRetryGame game.address
  { others with retryGames := retryGame :: others.retryGames }

def enterResult (phase : Phase)
    (entered : WorldChainChallenger Address Root Error × List (GameMetadata Address Root × ℕ))
    (result : GameMetadata Address Root × ScanResult Address Error) :
    WorldChainChallenger Address Root Error × List (GameMetadata Address Root × ℕ) :=
  let challenger := entered.1.record (.scanned tick phase result.1 result.2)
  match result.2 with
  | .ok (.needsChallenge challengeDeadline) => (challenger, entered.2 ++ [(result.1, challengeDeadline)])
  | .ok .valid | .ok .skip => (challenger.removeRetryGame result.1.address, entered.2)
  | .error error => (challenger.queueRetryGame result.1 error.challengeDeadline, entered.2)

def submitChallenge (phase : Phase) (challenge : GameMetadata Address Root × ℕ) : WorldChainChallenger Address Root Error :=
  let (game, challengeDeadline) := challenge
  match tick.failure (.submitChallenge phase game.address) with
  | none =>
    let removed := (challenger.record (.submitted game.address)).removeRetryGame game.address
    { removed with ownedGames := removed.ownedGames.insert game.address }
  | some _ => (challenger.record (.submissionFailed game.address)).queueRetryGame game (some challengeDeadline)

def handleGameResults (phase : Phase) (results : List (GameMetadata Address Root × ScanResult Address Error)) :
    WorldChainChallenger Address Root Error :=
  let (challenger, challengeGames) := results.foldl (enterResult tick phase) (challenger, [])
  (challengeGames.insertionSort fun left right => left.2 ≤ right.2).foldl
    (fun challenger => challenger.submitChallenge tick phase) challenger

def selectRange :
    WorldChainChallenger Address Root Error × Except (ChallengerError Address Error) (ℕ × ℕ) :=
  match tick.ask .gameCount tick.factory.length with
  | .error error => (challenger, .error error)
  | .ok gameCount =>
    if challenger.nextGameIndex.all (· > gameCount) then
      match firstRecentGameIndex games tick gameCount with
      | .error error => (challenger, .error error)
      | .ok firstRecent =>
        ({ challenger with
            nextGameIndex := some firstRecent
            initialCursor := challenger.initialCursor.or (some firstRecent) },
          .ok (firstRecent, min (firstRecent + challenger.config.maxGamesPerTick) gameCount))
    else
      let cursor := challenger.nextGameIndex.getD gameCount
      (challenger,
        .ok (cursor - challenger.config.gameScanLookback, min (cursor + challenger.config.maxGamesPerTick) gameCount))

/-- Read the games of a range that are not queued. -/
def discoverNewGames : (indices : List ℕ) → Except (ChallengerError Address Error) (List (GameMetadata Address Root))
  | [] => .ok []
  | index :: indices => do
    match ← tick.ask (.gameAddressAt index) (tick.entry index) with
    | none => discoverNewGames indices
    | some game =>
      if challenger.retryGames.any fun retry => retry.game.address = game then discoverNewGames indices
      else
        let metadata ← tick.ask (.gameMetadata game) (games.metadata game)
        return metadata :: (← discoverNewGames indices)

def dropExpired (retry : RetryGame Address Root) : WorldChainChallenger Address Root Error :=
  if retry.challengeDeadline.any (tick.now ≥ ·) then
    (challenger.record (.dropped retry.game.address tick.now)).removeRetryGame retry.game.address
  else challenger

variable [DecidableEq Root]

def handleRetryGames (latestFinalizedL2Block : ℕ) : WorldChainChallenger Address Root Error :=
  let retryGames := challenger.retryGames.insertionSort fun left right =>
    left.challengeDeadline.getD 0 ≤ right.challengeDeadline.getD 0
  let kept := retryGames.filter fun retry => !retry.challengeDeadline.any (tick.now ≥ ·)
  let challenger := retryGames.foldl (dropExpired tick) challenger
  challenger.handleGameResults tick .retries
    (processGames games tick .retries latestFinalizedL2Block (kept.map (·.game)))

def handleNewGames (newGames : List (GameMetadata Address Root)) (latestFinalizedL2Block : ℕ) :
    WorldChainChallenger Address Root Error :=
  challenger.handleGameResults tick .newGames (processGames games tick .newGames latestFinalizedL2Block newGames)

def tickAt : WorldChainChallenger Address Root Error × Except (ChallengerError Address Error) Unit :=
  match challenger.config.validate with
  | .error error => (challenger, .error error)
  | .ok () =>
    match challenger.selectRange games tick with
    | (challenger, .error error) => (challenger, .error error)
    | (challenger, .ok (first, last)) =>
      match challenger.discoverNewGames games tick (List.range' first (last - first)) with
      | .error error => (challenger, .error error)
      | .ok newGames =>
        if newGames.isEmpty && challenger.retryGames.isEmpty then ({ challenger with nextGameIndex := some last }, .ok ())
        else
          match tick.failure .latestFinalizedBlock with
          | some error => (challenger, .error (.outputRoot error))
          | none =>
            let retried := challenger.handleRetryGames games tick tick.latestFinalizedBlock
            let scanned := retried.handleNewGames games tick newGames tick.latestFinalizedBlock
            ({ scanned with nextGameIndex := some last }, .ok ())

end WorldChainChallenger

end WorldChain.Challenger
