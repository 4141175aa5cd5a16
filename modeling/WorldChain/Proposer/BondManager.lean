import WorldChain.Dispute.Settlement
import WorldChain.Proposer.Scan
import WorldChain.Lib.Rotation

/-! # The proposer's bond manager

The manager tracks the games its proposer created. Every tick it scans the factory for new ones and then passes over
those it tracks: it resolves games that nobody else will, closes games that are final, and forgets games whose bonds
are settled.
-/

namespace WorldChain.Proposer

open Machine Dispute

local instance addressOrder : LinearOrder Address where
  le_refl := BitVec.le_refl
  le_trans _ _ _ := BitVec.le_trans
  le_antisymm _ _ := BitVec.le_antisymm
  le_total := BitVec.le_total
  lt_iff_le_not_ge left right := by
    simp only [BitVec.lt_def, BitVec.le_def]
    omega
  toDecidableLE := inferInstance

namespace ResolutionStatus

variable (status : ResolutionStatus)

def invalidParentResolvable : Bool :=
  status.resolvable && status.outcome = .challengerWins && status.invalidationReason = .invalidParent

def isResolved : Bool := status.status ≠ .inProgress

end ResolutionStatus

structure BondManagerConfig where
  pollInterval : ℕ
  initialScanLimit : ℕ
  maxRetryResolutionsPerTick : ℕ
deriving DecidableEq, Repr

namespace BondManagerConfig

def validate (config : BondManagerConfig) : Except ProposerError Unit := do
  revertIf (config.pollInterval = 0) (.invalidConfig "bond_manager.poll_interval must be greater than zero")
  revertIf (config.initialScanLimit = 0) (.invalidConfig "bond_manager.initial_scan_limit must be greater than zero")

instance : Inhabited BondManagerConfig := ⟨⟨5 * 60, 1000, 1⟩⟩

example : (default : BondManagerConfig).validate = .ok () := rfl

end BondManagerConfig

structure BondManager where
  config : BondManagerConfig
  proposerAddress : Address
  activeDomainHash : Bytes32
  proposedGames : Finset Address
  nextGameIndex : Option ℕ
  lastRetryResolution : Option Address
deriving DecidableEq

/-- What the factory and the games answer to a scan. -/
structure FactoryReads where
  gameCount : Except ProposerError ℕ
  gameAt : ℕ → Except ProposerError (Option Address)
  gameCreator : Address → Except ProposerError Address

structure GameClient where
  isGameSettled : Except ProposerError Bool
  resolutionStatus : Except ProposerError ResolutionStatus
  gameDomainHash : Except ProposerError Bytes32
  hasRetry : Except ProposerError Bool
  resolveGame : Except ProposerError Unit
  isGameFinalized : Except ProposerError Bool
  closeGame : Except ProposerError Unit

namespace BondManager

/-- `BondManager::new`. -/
def new (config : BondManagerConfig) (proposerAddress : Address) (activeDomainHash : Bytes32) : BondManager where
  config := config
  proposerAddress := proposerAddress
  activeDomainHash := activeDomainHash
  proposedGames := ∅
  nextGameIndex := none
  lastRetryResolution := none

/-! ## Scanning -/

section Scan

variable (reads : FactoryReads)

def ownGame (proposer : Address) (index : ℕ) : Except ProposerError (Option Address) := do
  match ← reads.gameAt index with
  | none => pure none
  | some game => do
    let creator ← reads.gameCreator game
    pure (if creator = proposer then some game else none)

def scanRange (proposer : Address) : List ℕ → Finset Address → Finset Address × Except ProposerError Unit
  | [], games => (games, .ok ())
  | index :: rest, games =>
    match ownGame reads proposer index with
    | .error error => (games, .error error)
    | .ok none => scanRange proposer rest games
    | .ok (some game) => scanRange proposer rest (insert game games)

def scanStart (manager : BondManager) (gameCount : ℕ) : ℕ :=
  match manager.nextGameIndex with
  | some nextGameIndex =>
    if nextGameIndex ≤ gameCount then nextGameIndex else gameCount - manager.config.initialScanLimit
  | none => gameCount - manager.config.initialScanLimit

def scanGames (manager : BondManager) : BondManager × Except ProposerError Unit :=
  match manager.config.validate, reads.gameCount with
  | .error error, _ => (manager, .error error)
  | .ok (), .error error => (manager, .error error)
  | .ok (), .ok gameCount =>
    let start := manager.scanStart gameCount
    match scanRange reads manager.proposerAddress (List.range' start (gameCount - start)) manager.proposedGames with
    | (proposedGames, .error error) => ({ manager with proposedGames }, .error error)
    | (proposedGames, .ok ()) => ({ manager with proposedGames, nextGameIndex := some gameCount }, .ok ())

theorem subset_scanRange (proposer : Address) (indices : List ℕ) (games : Finset Address) :
    games ⊆ (scanRange reads proposer indices games).1 := by
  induction indices generalizing games with
  | nil => exact fun _ member => member
  | cons index rest ih =>
    rw [scanRange]
    split
    · exact fun _ member => member
    · exact ih games
    · exact (Finset.subset_insert _ _).trans (ih _)

theorem scanGames_keeps (manager : BondManager) :
    (manager.scanGames reads).1.config = manager.config ∧
      (manager.scanGames reads).1.lastRetryResolution = manager.lastRetryResolution ∧
      (manager.scanGames reads).1.activeDomainHash = manager.activeDomainHash ∧
      manager.proposedGames ⊆ (manager.scanGames reads).1.proposedGames := by
  rw [scanGames]
  split
  · exact ⟨rfl, rfl, rfl, fun _ member => member⟩
  · exact ⟨rfl, rfl, rfl, fun _ member => member⟩
  · next gameCount _ _ =>
    have grows := subset_scanRange reads manager.proposerAddress
      (List.range' (manager.scanStart gameCount) (gameCount - manager.scanStart gameCount)) manager.proposedGames
    dsimp only
    split
    · next scanned => exact ⟨rfl, rfl, rfl, by simpa only [scanned] using grows⟩
    · next scanned => exact ⟨rfl, rfl, rfl, by simpa only [scanned] using grows⟩

end Scan

/-! ## One pass -/

/-- The variables of a pass. -/
structure Pass where
  proposedGames : Finset Address
  lastRetryResolution : Option Address
  retryResolutionsAttempted : ℕ
  attempts : List Address
deriving DecidableEq

section Settle

variable (manager : BondManager) (client : GameClient)

def supersededRetry (status : ResolutionStatus) (obsoleteDomainResolvable : Bool) (retryResolutionsAttempted : ℕ) :
    Except ProposerError Bool :=
  if status.resolvable = true ∧ status.outcome = .challengerWins ∧ status.invalidationReason = .proofTimeout ∧
      obsoleteDomainResolvable = false ∧ retryResolutionsAttempted < manager.config.maxRetryResolutionsPerTick then
    client.hasRetry
  else pure false

/-- A game of another domain that can be resolved. -/
def obsoleteDomain (status : ResolutionStatus) : Except ProposerError Bool :=
  if status.resolvable = true then do
    let domainHash ← client.gameDomainHash
    pure (decide (domainHash ≠ manager.activeDomainHash))
  else pure false

def resolution (status : ResolutionStatus) (retryResolutionsAttempted : ℕ) : Except ProposerError (Bool × Bool) := do
  let obsoleteDomainResolvable ← manager.obsoleteDomain client status
  let supersededRetry ← manager.supersededRetry client status obsoleteDomainResolvable retryResolutionsAttempted
  pure (status.invalidParentResolvable || obsoleteDomainResolvable || supersededRetry, supersededRetry)

def Pass.charge (pass : Pass) (game : Address) : Pass where
  proposedGames := pass.proposedGames
  lastRetryResolution := some game
  retryResolutionsAttempted := pass.retryResolutionsAttempted + 1
  attempts := pass.attempts ++ [game]

def settleGame (pass : Pass) (game : Address) : Pass × Except ProposerError Bool :=
  match client.isGameSettled, client.resolutionStatus with
  | .error error, _ => (pass, .error error)
  | .ok true, _ => (pass, .ok true)
  | .ok false, .error error => (pass, .error error)
  | .ok false, .ok status =>
    if status.isResolved = false then
      match manager.resolution client status pass.retryResolutionsAttempted with
      | .error error => (pass, .error error)
      | .ok (resolves, supersededRetry) =>
        let pass := if supersededRetry then pass.charge game else pass
        (pass, if resolves then client.resolveGame.map fun _ => false else .ok false)
    else (pass, do
      if ← client.isGameFinalized then
        client.closeGame
        pure true
      else pure false)

def visit (pass : Pass) (game : Address) : Pass :=
  match manager.settleGame client pass game with
  | (pass, .ok true) => { pass with proposedGames := pass.proposedGames.erase game }
  | (pass, .ok false) => pass
  | (pass, .error _) => pass

end Settle

/-- The games in the order of the pass. -/
def order (manager : BondManager) : List Address :=
  Rotation.startAfter manager.lastRetryResolution (manager.proposedGames.sort (· ≤ ·))

/-- The pass over all games. -/
def pass (manager : BondManager) (client : Address → GameClient) : Pass :=
  manager.order.foldl (fun pass game => manager.visit (client game) pass game)
    ⟨manager.proposedGames, manager.lastRetryResolution, 0, []⟩

/-- `settle_games`, which never fails. -/
def settleGames (manager : BondManager) (client : Address → GameClient) : BondManager :=
  { manager with
    proposedGames := (manager.pass client).proposedGames
    lastRetryResolution := (manager.pass client).lastRetryResolution }

def attempts (manager : BondManager) (client : Address → GameClient) : List Address := (manager.pass client).attempts

/-! ## What a pass does -/

def isSuperseded (activeDomainHash : Bytes32) (client : GameClient) : Bool :=
  match client.isGameSettled, client.resolutionStatus, client.gameDomainHash, client.hasRetry with
  | .ok false, .ok status, .ok domainHash, .ok true =>
    !status.isResolved && status.resolvable && status.outcome = .challengerWins &&
      status.invalidationReason = .proofTimeout && domainHash = activeDomainHash
  | _, _, _, _ => false

def ReportsSettled (client : GameClient) : Prop := client.isGameSettled = .ok true ∨ client.closeGame = .ok ()

section Visit

variable {manager : BondManager} {client : GameClient} {status : ResolutionStatus} {game : Address} {pass : Pass}

theorem isSuperseded_iff {activeDomainHash : Bytes32} : isSuperseded activeDomainHash client = true ↔
    client.isGameSettled = .ok false ∧ ∃ status, client.resolutionStatus = .ok status ∧ status.isResolved = false ∧
      status.resolvable = true ∧ status.outcome = .challengerWins ∧ status.invalidationReason = .proofTimeout ∧
      client.gameDomainHash = .ok activeDomainHash ∧ client.hasRetry = .ok true := by
  unfold isSuperseded
  split
  · next unsettled read domain retry => simp [unsettled, read, domain, retry, and_assoc]
  · next other =>
    refine ⟨fun impossible => absurd impossible (by decide), ?_⟩
    rintro ⟨unsettled, status, read, _, _, _, _, domain, retry⟩
    exact (other _ _ unsettled read domain retry).elim

theorem resolution_of_superseded (superseded : isSuperseded manager.activeDomainHash client = true)
    (read : client.resolutionStatus = .ok status)
    (budget : pass.retryResolutionsAttempted < manager.config.maxRetryResolutionsPerTick) :
    manager.resolution client status pass.retryResolutionsAttempted = .ok (true, true) := by
  obtain ⟨_, _, again, _, resolvable, lost, timeout, domain, retry⟩ := isSuperseded_iff.mp superseded
  obtain rfl := Except.ok.inj (again.symm.trans read)
  simp [resolution, obsoleteDomain, supersededRetry, resolvable, lost, timeout, domain, retry, budget, bind,
    Except.bind,
    pure, Except.pure]

theorem superseded_of_resolution {resolves : Bool} (unsettled : client.isGameSettled = .ok false)
    (read : client.resolutionStatus = .ok status) (unresolved : status.isResolved = false)
    (success : manager.resolution client status pass.retryResolutionsAttempted = .ok (resolves, true)) :
    isSuperseded manager.activeDomainHash client = true ∧
      pass.retryResolutionsAttempted < manager.config.maxRetryResolutionsPerTick := by
  simp only [resolution, supersededRetry, bind_eq_ok, pure_eq_ok, Prod.mk.injEq] at success
  obtain ⟨obsolete, domain, charged, tested, _, rfl⟩ := success
  split at tested
  · next holds =>
    obtain ⟨resolvable, lost, timeout, rfl, budget⟩ := holds
    simp only [obsoleteDomain, resolvable, if_true, bind_eq_ok, pure_eq_ok, decide_eq_false_iff_not, not_not] at domain
    obtain ⟨_, own, rfl⟩ := domain
    exact ⟨isSuperseded_iff.mpr ⟨unsettled, status, read, unresolved, resolvable, lost, timeout, own, tested⟩, budget⟩
  · cases tested

theorem settleGame_superseded (superseded : isSuperseded manager.activeDomainHash client = true)
    (budget : pass.retryResolutionsAttempted < manager.config.maxRetryResolutionsPerTick) :
    (manager.settleGame client pass game).1 = pass.charge game := by
  obtain ⟨unsettled, status, read, unresolved, _⟩ := isSuperseded_iff.mp superseded
  simp only [settleGame, unsettled, read, unresolved, if_true, resolution_of_superseded superseded read budget]

theorem settleGame_other (other : ¬ (isSuperseded manager.activeDomainHash client = true ∧
      pass.retryResolutionsAttempted < manager.config.maxRetryResolutionsPerTick)) :
    (manager.settleGame client pass game).1 = pass := by
  unfold settleGame
  split
  · rfl
  · rfl
  · rfl
  · next status unsettled read =>
    split
    · next unresolved =>
      split
      · rfl
      · next resolves charged decided =>
        cases charged with
        | true => exact absurd (superseded_of_resolution unsettled read unresolved decided) other
        | false => rfl
    · rfl

theorem settled_of_settleGame (done : (manager.settleGame client pass game).2 = .ok true) :
    ReportsSettled client ∧ isSuperseded manager.activeDomainHash client = false := by
  unfold settleGame at done
  split at done
  · cases done
  · next settled => exact ⟨.inl settled, by simp [isSuperseded, settled]⟩
  · cases done
  · next status unsettled read =>
    split at done
    · split at done
      · cases done
      · next resolves _ _ =>
        dsimp only at done
        split at done
        · cases answer : client.resolveGame <;> simp [answer, Except.map] at done
        · cases done
    · next resolved =>
      simp only [bind_eq_ok] at done
      obtain ⟨final, _, done⟩ := done
      cases final with
      | false => cases done
      | true =>
        simp only [if_true, bind_eq_ok] at done
        obtain ⟨_, closed, _⟩ := done
        refine ⟨.inr closed, Bool.eq_false_iff.mpr fun superseded => resolved ?_⟩
        obtain ⟨_, same, again, unresolved, _⟩ := isSuperseded_iff.mp superseded
        rwa [Except.ok.inj (read.symm.trans again)]

theorem visit_eq (manager : BondManager) (client : GameClient) (pass : Pass) (game : Address) :
    ∃ proposedGames, manager.visit client pass game =
    ⟨proposedGames, (manager.settleGame client pass game).1.lastRetryResolution,
      (manager.settleGame client pass game).1.retryResolutionsAttempted,
      (manager.settleGame client pass game).1.attempts⟩ := by
  unfold visit
  split
  · next same => exact ⟨_, by rw [same]⟩
  · next same => exact ⟨_, by rw [same]⟩
  · next same => exact ⟨_, by rw [same]⟩

theorem settleGame_proposedGames (manager : BondManager) (client : GameClient) (pass : Pass) (game : Address) :
    (manager.settleGame client pass game).1.proposedGames = pass.proposedGames := by
  by_cases charges : isSuperseded manager.activeDomainHash client = true ∧
      pass.retryResolutionsAttempted < manager.config.maxRetryResolutionsPerTick
  · rw [settleGame_superseded charges.1 charges.2, Pass.charge]
  · rw [settleGame_other charges]

theorem visit_subset (manager : BondManager) (client : GameClient) (pass : Pass) (game : Address) :
    (manager.visit client pass game).proposedGames ⊆ pass.proposedGames := by
  rw [← settleGame_proposedGames manager client pass game]
  unfold visit
  split
  · next same => simpa only [same] using Finset.erase_subset _ _
  · next same => rw [same]
  · next same => rw [same]

theorem mem_visit {tracked : Address} (member : tracked ∈ pass.proposedGames)
    (gone : tracked ∉ (manager.visit client pass game).proposedGames) :
    tracked = game ∧ ReportsSettled client ∧ isSuperseded manager.activeDomainHash client = false := by
  have kept := settleGame_proposedGames manager client pass game
  unfold visit at gone
  split at gone
  · next same =>
    refine ⟨?_, settled_of_settleGame (congrArg Prod.snd same)⟩
    by_contra other
    rw [same] at kept
    exact gone (Finset.mem_erase.mpr ⟨other, kept ▸ member⟩)
  · next same => exact absurd (by simpa [same, ← kept] using member) gone
  · next same => exact absurd (by simpa [same, ← kept] using member) gone

end Visit

section Loop

variable {manager : BondManager} {client : Address → GameClient} {game : Address}

/-- The turns of the loop over some games. -/
def turns (manager : BondManager) (client : Address → GameClient) (games : List Address) (pass : Pass) : Pass :=
  games.foldl (fun pass game => manager.visit (client game) pass game) pass

/-- The superseded ones among some games. -/
def superseded (manager : BondManager) (client : Address → GameClient) (games : List Address) : List Address :=
  games.filter fun game => isSuperseded manager.activeDomainHash (client game)

theorem turns_charged (client : Address → GameClient) (games : List Address) (pass : Pass) :
    ∃ charged, charged = (manager.superseded client games).take
        (manager.config.maxRetryResolutionsPerTick - pass.retryResolutionsAttempted) ∧
      (manager.turns client games pass).attempts = pass.attempts ++ charged ∧
      (manager.turns client games pass).lastRetryResolution = charged.getLast?.or pass.lastRetryResolution := by
  induction games generalizing pass with
  | nil => exact ⟨_, rfl, by simp [superseded, turns], by simp [superseded, turns]⟩
  | cons game rest ih =>
    obtain ⟨charged, taken, attempts, last⟩ := ih (manager.visit (client game) pass game)
    change (manager.turns client (game :: rest) pass).attempts = _ at attempts
    change (manager.turns client (game :: rest) pass).lastRetryResolution = _ at last
    obtain ⟨_, visited⟩ := visit_eq manager (client game) pass game
    rw [attempts, last]
    by_cases charges : isSuperseded manager.activeDomainHash (client game) = true ∧
        pass.retryResolutionsAttempted < manager.config.maxRetryResolutionsPerTick
    · rw [settleGame_superseded charges.1 charges.2] at visited
      rw [visited] at taken ⊢
      refine ⟨game :: charged, ?_, by simp [Pass.charge], ?_⟩
      · have left : manager.config.maxRetryResolutionsPerTick - pass.retryResolutionsAttempted =
            manager.config.maxRetryResolutionsPerTick - (pass.retryResolutionsAttempted + 1) + 1 := by omega
        simp only [superseded, List.filter_cons, charges.1, if_true, left, List.take_succ_cons, taken, Pass.charge]
      · rw [List.getLast?_cons]
        cases charged.getLast? <;> simp [Pass.charge]
    · rw [settleGame_other charges] at visited
      rw [visited] at taken ⊢
      refine ⟨charged, ?_, rfl, rfl⟩
      rw [taken]
      by_cases old : isSuperseded manager.activeDomainHash (client game) = true
      · have exhausted : manager.config.maxRetryResolutionsPerTick - pass.retryResolutionsAttempted = 0 :=
          Nat.sub_eq_zero_of_le (not_lt.mp fun budget => charges ⟨old, budget⟩)
        simp [exhausted]
      · simp only [superseded, List.filter_cons, old, if_false, Bool.false_eq_true]

theorem mem_turns {games : List Address} {pass : Pass} (member : game ∈ pass.proposedGames)
    (gone : game ∉ (manager.turns client games pass).proposedGames) :
    ReportsSettled (client game) ∧ isSuperseded manager.activeDomainHash (client game) = false := by
  induction games generalizing pass with
  | nil => exact absurd member gone
  | cons visited rest ih =>
    by_cases stays : game ∈ (manager.visit (client visited) pass visited).proposedGames
    · exact ih stays gone
    · obtain ⟨rfl, dropped⟩ := mem_visit member stays
      exact dropped

theorem turns_subset (manager : BondManager) (client : Address → GameClient) (games : List Address) (pass : Pass) :
    (manager.turns client games pass).proposedGames ⊆ pass.proposedGames := by
  induction games generalizing pass with
  | nil => exact fun _ member => member
  | cons visited rest ih => exact (ih _).trans (manager.visit_subset _ _ _)

/-- The tracked games that are superseded attempts. -/
def candidates (manager : BondManager) (client : Address → GameClient) : Finset Address :=
  manager.proposedGames.filter fun game => isSuperseded manager.activeDomainHash (client game) = true

theorem attempts_eq_served (manager : BondManager) (client : Address → GameClient) :
    manager.attempts client = Rotation.served manager.config.maxRetryResolutionsPerTick manager.lastRetryResolution
        ((manager.candidates client).sort (· ≤ ·)) ∧
      (manager.settleGames client).lastRetryResolution = Rotation.advance manager.config.maxRetryResolutionsPerTick
        manager.lastRetryResolution ((manager.candidates client).sort (· ≤ ·)) := by
  obtain ⟨charged, taken, attempted, last⟩ := manager.turns_charged client manager.order
    ⟨manager.proposedGames, manager.lastRetryResolution, 0, []⟩
  have rotated : manager.superseded client manager.order =
      Rotation.startAfter manager.lastRetryResolution ((manager.candidates client).sort (· ≤ ·)) := by
    rw [superseded, order, Rotation.filter_startAfter manager.proposedGames.sortedLT_sort.pairwise,
      Rotation.filter_sort,
      candidates]
  rw [rotated] at taken
  refine ⟨attempted.trans ?_, last.trans ?_⟩
  · rw [taken]
    rfl
  · rw [taken]
    rfl

theorem candidates_settleGames (manager : BondManager) (client : Address → GameClient) :
    (manager.settleGames client).candidates client = manager.candidates client := by
  ext game
  simp only [candidates, Finset.mem_filter]
  refine and_congr_left fun superseded => ⟨fun member => manager.turns_subset client _ _ member, fun member => ?_⟩
  by_contra dropped
  exact absurd superseded (by simpa [settleGames] using (mem_turns member dropped).2)

end Loop

end BondManager

/-! ## The manager and the chain -/

/-- The manager together with the chain it works on. -/
structure BondSystem (deployment : Deployment) where
  manager : BondManager
  world : World deployment

/-- A scan, a pass during which some transactions take effect, or a transaction in between. -/
inductive BondEvent (deployment : Deployment) where
  | scan (reads : FactoryReads)
  | settle (client : Address → GameClient) (meanwhile : List (World.Action deployment))
  | transaction (action : World.Action deployment)

def BondEvent.isPass {deployment : Deployment} : BondEvent deployment → Bool
  | .settle _ _ => true
  | _ => false

namespace BondSystem

variable {deployment : Deployment}

/-- Before anything has happened. -/
def start (config : BondManagerConfig) (proposerAddress : Address) (activeDomainHash : Bytes32)
    (environment : Environment deployment) (token : Address → ℕ) : BondSystem deployment where
  manager := .new config proposerAddress activeDomainHash
  world := .genesis environment token

def exec (system : BondSystem deployment) : BondEvent deployment → Except Revert (BondSystem deployment)
  | .scan reads => .ok { system with manager := (system.manager.scanGames reads).1 }
  | .settle client meanwhile => do
    let world ← meanwhile.foldlM World.exec system.world
    pure ⟨system.manager.settleGames client, world⟩
  | .transaction action => do
    let world ← system.world.exec action
    pure { system with world }

structure Truthful (world : World deployment) (client : Address → GameClient)
    (meanwhile : List (World.Action deployment)) : Prop where
  settled : ∀ game answer, (client game).isGameSettled = .ok answer → ∃ earlier later read,
    meanwhile = earlier ++ later ∧ earlier.foldlM World.exec world = .ok read ∧
      (read.vault.gameBonds game).settled = answer
  closed : ∀ game, (client game).closeGame = .ok () → ∃ anchored, .closeGame game anchored ∈ meanwhile

/-- The client tells the truth. -/
def Honest (system : BondSystem deployment) : BondEvent deployment → Prop
  | .settle client meanwhile => Truthful system.world client meanwhile
  | _ => True

/-- The superseded attempts that a pass finds are always the same ones. -/
def Steady (games : Finset Address) (system : BondSystem deployment) : BondEvent deployment → Prop
  | .settle client _ => system.manager.candidates client = games
  | _ => True

/-- During some events, a pass tries to resolve a superseded attempt. -/
def Attempted (games : Finset Address) (system : BondSystem deployment) (window : List (BondEvent deployment))
    (game : Address) : Prop :=
  ∃ before client meanwhile, Occurs exec (Steady games) system window (.settle client meanwhile) before ∧
    game ∈ before.manager.attempts client

variable {system after : BondSystem deployment} {event : BondEvent deployment}

theorem exec_settle_eq_ok {client : Address → GameClient} {meanwhile : List (World.Action deployment)} :
    system.exec (.settle client meanwhile) = .ok after ↔ ∃ world, meanwhile.foldlM World.exec system.world = .ok world ∧
      ⟨system.manager.settleGames client, world⟩ = after := by
  simp [exec]

theorem exec_transaction_eq_ok {action : World.Action deployment} :
    system.exec (.transaction action) = .ok after ↔ ∃ world, system.world.exec action = .ok world ∧
      ⟨system.manager, world⟩ = after := by
  simp [exec]

theorem exec_config (success : system.exec event = .ok after) : after.manager.config = system.manager.config := by
  cases event with
  | scan reads =>
    obtain rfl := Except.ok.inj success
    exact (system.manager.scanGames_keeps reads).1
  | settle client meanwhile =>
    obtain ⟨_, _, rfl⟩ := exec_settle_eq_ok.mp success
    rfl
  | transaction action =>
    obtain ⟨_, _, rfl⟩ := exec_transaction_eq_ok.mp success
    rfl

theorem config_of_run {allowed : BondSystem deployment → BondEvent deployment → Prop}
    {log : List (BondEvent deployment)}
    (run : Run exec allowed system log after) : after.manager.config = system.manager.config :=
  run.invariant (motive := fun later => later.manager.config = system.manager.config) rfl
    fun same _ success => (exec_config success).trans same

theorem exec_world (success : system.exec event = .ok after) :
    ∃ actions : List (World.Action deployment), actions.foldlM World.exec system.world = .ok after.world := by
  cases event with
  | scan reads =>
    obtain rfl := Except.ok.inj success
    exact ⟨[], rfl⟩
  | settle client meanwhile =>
    obtain ⟨_, moved, rfl⟩ := exec_settle_eq_ok.mp success
    exact ⟨meanwhile, moved⟩
  | transaction action =>
    obtain ⟨_, moved, rfl⟩ := exec_transaction_eq_ok.mp success
    exact ⟨[action], by simpa using moved⟩

theorem run_of_foldlM {world later : World deployment} {actions : List (World.Action deployment)}
    (moved : actions.foldlM World.exec world = .ok later) : Run World.exec (fun _ _ => True) world actions later :=
  (Run.of_foldlM (motive := fun _ => True) moved trivial fun _ _ _ => ⟨trivial, trivial⟩).1

theorem world_of_run {allowed : BondSystem deployment → BondEvent deployment → Prop} {log : List (BondEvent deployment)}
    (run : Run exec allowed system log after) :
    ∃ actions, Run World.exec (fun _ _ => True) system.world actions after.world := by
  refine run.invariant (motive := fun later =>
    ∃ actions, Run World.exec (fun _ _ => True) system.world actions later.world)
    ⟨[], .start _⟩ ?_
  rintro before after event ⟨actions, earlier⟩ _ success
  obtain ⟨more, moved⟩ := exec_world success
  exact ⟨actions ++ more, earlier.append (run_of_foldlM moved)⟩

theorem settled_of_dropped {environment : Environment deployment} {token : Address → ℕ}
    {actions : List (World.Action deployment)}
    (run : Run World.exec (fun _ _ => True) (.genesis environment token) actions system.world)
    (honest : system.Honest event) (success : system.exec event = .ok after) {game : Address}
    (tracked : game ∈ system.manager.proposedGames) (dropped : game ∉ after.manager.proposedGames) :
    (after.world.vault.gameBonds game).settled = true := by
  cases event with
  | scan reads =>
    obtain rfl := Except.ok.inj success
    exact absurd ((system.manager.scanGames_keeps reads).2.2.2 tracked) dropped
  | transaction action =>
    obtain ⟨_, _, rfl⟩ := exec_transaction_eq_ok.mp success
    exact absurd tracked dropped
  | settle client meanwhile =>
    obtain ⟨world, moved, rfl⟩ := exec_settle_eq_ok.mp success
    rcases (BondManager.mem_turns tracked dropped).1 with settled | closed
    · obtain ⟨earlier, later, read, rfl, passed, known⟩ := honest.settled game true settled
      rw [List.foldlM_append, bind_eq_ok] at moved
      obtain ⟨same, again, onward⟩ := moved
      obtain rfl := Except.ok.inj (passed.symm.trans again)
      exact World.settled_of_run (run.append (run_of_foldlM passed)) (run_of_foldlM onward) known
    · obtain ⟨anchored, sent⟩ := honest.closed game closed
      obtain ⟨earlier, later, rfl⟩ := List.append_of_mem sent
      rw [List.foldlM_append, bind_eq_ok] at moved
      obtain ⟨before, passed, onward⟩ := moved
      rw [List.foldlM_cons, bind_eq_ok] at onward
      obtain ⟨closing, effective, onward⟩ := onward
      have reached := (run.append (run_of_foldlM passed)).append (Run.single trivial effective)
      exact World.settled_of_run reached (run_of_foldlM onward)
        ((World.settled_iff_closed reached game).mpr (World.closeGame_closed effective))

theorem attempted_or_nearer {games : Finset Address} {window : List (BondEvent deployment)}
    (run : Run exec (Steady games) system window after) (game : Address) :
    Attempted games system window game ∨
      ∀ rest, game ∈ Rotation.served
      (window.countP (·.isPass) * system.manager.config.maxRetryResolutionsPerTick + rest)
          system.manager.lastRetryResolution (games.sort (· ≤ ·)) →
        game ∈ Rotation.served rest after.manager.lastRetryResolution (games.sort (· ≤ ·)) := by
  refine run.history (motive := fun window after => Attempted games system window game ∨
      ∀ rest, game ∈ Rotation.served
        (window.countP (·.isPass) * system.manager.config.maxRetryResolutionsPerTick + rest)
          system.manager.lastRetryResolution (games.sort (· ≤ ·)) →
        game ∈ Rotation.served rest after.manager.lastRetryResolution (games.sort (· ≤ ·))) (.inr (by simp)) ?_
  intro past before after event earlier holds steady success
  rcases holds with ⟨found, client, meanwhile, occurs, attempted⟩ | nearer
  · exact .inl ⟨found, client, meanwhile, occurs.extend, attempted⟩
  cases event with
  | scan reads =>
    obtain rfl := Except.ok.inj success
    right
    simpa [BondEvent.isPass, (before.manager.scanGames_keeps reads).2.1] using nearer
  | transaction action =>
    obtain ⟨_, _, rfl⟩ := exec_transaction_eq_ok.mp success
    right
    simpa [BondEvent.isPass] using nearer
  | settle client meanwhile =>
    obtain ⟨_, _, rfl⟩ := exec_settle_eq_ok.mp success
    obtain ⟨served, advanced⟩ := before.manager.attempts_eq_served client
    rw [show before.manager.candidates client = games from steady, config_of_run earlier] at served advanced
    by_cases attempted : game ∈ before.manager.attempts client
    · exact .inl ⟨before, client, meanwhile, .latest earlier, attempted⟩
    right
    intro rest reached
    have reached := nearer (system.manager.config.maxRetryResolutionsPerTick + rest) (by
      rw [List.countP_append, List.countP_singleton] at reached
      convert reached using 2
      simp only [BondEvent.isPass, if_true]
      ring)
    rw [advanced]
    rw [served] at attempted
    exact (Rotation.mem_served_or_advance games.sortedLT_sort.pairwise reached).resolve_left attempted

def sampleReads : FactoryReads where
  gameCount := .ok 2
  gameAt index := .ok (some (BitVec.ofNat 160 (index + 1)))
  gameCreator _ := .ok 9

def sampleClient (_ : Address) : GameClient where
  isGameSettled := .ok false
  resolutionStatus := .ok ⟨.inProgress, true, .challengerWins, .proofTimeout⟩
  gameDomainHash := .ok 0
  hasRetry := .ok true
  resolveGame := .error .overflow
  isGameFinalized := .ok false
  closeGame := .error .overflow

def sampleStart : BondSystem ERC20StakingVault.sampleDeployment :=
  start default 9 0 (World.sampleEnvironment 50 false) fun _ => 0

def sampleTracked : BondSystem ERC20StakingVault.sampleDeployment :=
  { sampleStart with manager := (sampleStart.manager.scanGames sampleReads).1 }

end BondSystem

end WorldChain.Proposer
