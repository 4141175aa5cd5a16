import WorldChain.Proposer.Scan
import WorldChain.Dispute.Lineage

/-! # The selected lineage only grows

The walk is made anew at every tick, over another state of the chain and another finalized block. A game that it
selected once is selected again, until the challenger wins it.
-/

namespace WorldChain.Proposer

open Machine Dispute

variable {deployment : Deployment}

/-- Nothing that a doom rests on is taken back, and the registry respects the game type. -/
def Respecting (world : World deployment) (action : World.Action deployment) : Prop :=
  world.Steady action ∧ world.registry.respectedGameType = multiProofGameType

/-- The L2 chain finalizes more, and keeps what was final. -/
structure Finalizes (before after : ConsensusProvider) : Prop where
  finalized : ∀ earlier later, before.latestL2FinalizedBlock = .ok earlier → after.latestL2FinalizedBlock = .ok later →
    earlier ≤ later
  roots : ∀ finalizedBlock, before.latestL2FinalizedBlock = .ok finalizedBlock → ∀ number ≤ finalizedBlock,
    ∀ root again, before.outputRootAtBlock number = .ok root → after.outputRootAtBlock number = .ok again → again = root

def survives (world : World deployment) (selected : SelectedLineageGame) : Bool :=
  match readLineageResolutionStatus world selected.game.address with
  | .ok status => status.outcome ≠ .challengerWins
  | .error _ => true

def Linked (blockInterval : ℕ) : LineageAnchor → List SelectedLineageGame → Prop
  | _, [] => True
  | parent, selected :: rest => selected.transition.parentRef = parent.address ∧
    selected.transition.l2BlockNumber = parent.l2BlockNumber + blockInterval ∧
    Linked blockInterval ⟨selected.game.address, selected.transition.l2BlockNumber⟩ rest

structure Selected (world : World deployment) (consensus : ConsensusProvider) (finalizedBlock : ℕ)
    (selected : SelectedLineageGame) : Prop where
  final : selected.transition.l2BlockNumber ≤ finalizedBlock
  canonical : consensus.outputRootAtBlock selected.transition.l2BlockNumber = .ok selected.transition.rootClaim
  placed : selected.game.address ≠ 0#160
  created : ∃ game, world.games selected.game.address = some game ∧
    game.args.rootClaim = selected.transition.rootClaim ∧
    game.args.parentRef = .ok selected.transition.parentRef ∧
    game.args.l2SequenceNumber = selected.transition.l2BlockNumber ∧ game.args.attempt = selected.game.attempt
  unlost : ∃ status, readLineageResolutionStatus world selected.game.address = .ok status ∧
    status.outcome ≠ .challengerWins

/-- A selected lineage starts at the registry's anchor and consists of selected games, each linked to the one before. -/
structure SelectedLineage.Proper (world : World deployment) (registered : RegisteredLineageConfig)
    (consensus : ConsensusProvider) (lineage : SelectedLineage) : Prop where
  anchor : readLineageAnchor world registered = .ok lineage.anchor
  linked : Linked registered.blockInterval lineage.anchor lineage.games
  selected : ∃ finalizedBlock, consensus.latestL2FinalizedBlock = .ok finalizedBlock ∧
    ∀ selected ∈ lineage.games, Selected world consensus finalizedBlock selected

section Walk

variable {world : World deployment} {registered : RegisteredLineageConfig} {consensus : ConsensusProvider}
  {finalizedBlock : ℕ} {parent : LineageAnchor} {games : List SelectedLineageGame} {stop : LineageStop}

theorem selects_of_selectLineage {lineage : SelectedLineage}
    (success : selectLineage world registered consensus none = .ok lineage) :
    readLineageAnchor world registered = .ok lineage.anchor ∧
      ∃ finalizedBlock, consensus.latestL2FinalizedBlock = .ok finalizedBlock ∧
        Selects world registered consensus finalizedBlock lineage.anchor lineage.games lineage.stop := by
  simp only [selectLineage, recoveredAnchor, bind_eq_ok, revertIf_eq_ok, mapError_eq_ok, pure_eq_ok] at success
  obtain ⟨_, _, anchor, read, finalizedBlock, final, _, rfl, ⟨games, stop⟩, walked, rfl⟩ := success
  obtain ⟨more, rfl, selects⟩ := selects_of_extendLineage walked
  exact ⟨read, finalizedBlock, final, selects⟩

theorem Selects.linked (selects : Selects world registered consensus finalizedBlock parent games stop) :
    Linked registered.blockInterval parent games := by
  induction selects with
  | caughtUp | missing | invalidated => trivial
  | step fits final canonical filed read unlost rest ih => exact ⟨rfl, rfl, ih⟩

theorem Latest.created {domainHash : Bytes32} {transition : LineageTransition} {game : LineageGame}
    (filed : world.Filed)
    (fits : transition.l2BlockNumber ≤ uint64Max) (latest : Latest (attemptEntry world domainHash transition) game) :
    ∃ clone, world.games game.address = some clone ∧ clone.args.rootClaim = transition.rootClaim ∧
      clone.args.proposalDomainHash = domainHash ∧ clone.args.parentRef = .ok transition.parentRef ∧
      clone.args.l2SequenceNumber = transition.l2BlockNumber ∧ clone.args.attempt = game.attempt := by
  obtain ⟨clone, found, claim, written⟩ := filed.clone _ _ _ latest.filed
  obtain ⟨_, domain, parentRead, number, count⟩ :=
    CloneArgs.fields_of_encode written fits (le_uint64Max_of_probed latest.probed.le)
  exact ⟨clone, found, claim, domain, parentRead, number, count⟩

theorem Selects.selected (selects : Selects world registered consensus finalizedBlock parent games stop)
    (filed : world.Filed) : ∀ selected ∈ games, Selected world consensus finalizedBlock selected := by
  induction selects with
  | caughtUp | missing | invalidated => simp
  | step fits final canonical probed read unlost rest ih =>
    rw [readGameForTransition_eq_some] at probed
    obtain ⟨clone, found, claim, _, fields⟩ := probed.created filed fits
    have placed := probed.address ▸ probed.sequential _ le_rfl
    rw [List.forall_mem_cons]
    exact ⟨⟨final, canonical, placed, ⟨clone, found, claim, fields⟩, _, read, unlost⟩, ih⟩

theorem Selects.after {front rest : List SelectedLineageGame} {entry : SelectedLineageGame}
    (selects : Selects world registered consensus finalizedBlock parent games stop)
    (split : games = front ++ entry :: rest) :
    Selects world registered consensus finalizedBlock ⟨entry.game.address, entry.transition.l2BlockNumber⟩ rest
      stop := by
  induction selects generalizing front with
  | caughtUp | missing | invalidated => simp at split
  | step fits final canonical filed read unlost onward ih =>
    cases front with
    | nil =>
      obtain ⟨rfl, rfl⟩ := List.cons.inj split
      exact onward
    | cons first front =>
      obtain ⟨rfl, rfl⟩ := List.cons.inj split
      exact ih rfl

end Walk

/-! ## Two states of the chain -/

section Later

variable {earlier later : World deployment} {environment : Environment deployment} {token : Address → ℕ}
  {log more : List (World.Action deployment)} {domainHash : Bytes32} {transition : LineageTransition}
  {game : LineageGame}

theorem survives_eq_false_iff {selected : SelectedLineageGame} : survives later selected = false ↔
    ∃ status, readLineageResolutionStatus later selected.game.address = .ok status ∧
      status.outcome = .challengerWins := by
  unfold survives
  split
  · next status read => simp [read]
  · next read => simp [read]

theorem respected_of_run (run : Run World.exec Respecting (.genesis environment token) log later) {address : Address}
    {clone : MultiProofGame deployment} (found : later.games address = some clone) :
    clone.wasRespectedGameTypeWhenCreated = true := by
  refine run.invariant (motive := fun world => ∀ address clone, world.games address = some clone →
    clone.wasRespectedGameTypeWhenCreated = true) (fun _ _ missing => by cases missing) ?_ address clone found
  intro before after action holds respecting success address clone found
  rcases World.exec_game success address with ⟨games, _⟩ | ⟨_, _, _, creation⟩ | ⟨game, next, _, stepped⟩
  · exact holds address clone (games ▸ found)
  · rw [creation.games, Function.update_self, Option.some.injEq] at found
    rw [← found, World.opened]
    exact decide_eq_true respecting.2
  · rw [stepped.games, Function.update_self, Option.some.injEq] at found
    rw [← found, stepped.step.continues.respected]
    exact holds address game stepped.found

theorem attemptEntry_of_run {allowed : World deployment → World.Action deployment → Prop}
    (passed : Run World.exec allowed earlier more later) {attempt : ℕ}
    (used : attemptEntry earlier domainHash transition attempt ≠ 0#160) :
    attemptEntry later domainHash transition attempt = attemptEntry earlier domainHash transition attempt := by
  unfold attemptEntry at used ⊢
  cases entry : earlier.registered transition.rootClaim
      (World.encodeExtraData domainHash transition.l2BlockNumber transition.parentRef attempt) with
  | none => simp [entry] at used
  | some address =>
    have kept := passed.invariant (motive := fun world => world.registered transition.rootClaim
      (World.encodeExtraData domainHash transition.l2BlockNumber transition.parentRef attempt) = some address) entry
      fun filed _ success => World.exec_registered success filed
    rw [kept]

theorem lost_of_retry (run : Run World.exec Respecting (.genesis environment token) log later)
    (fits : transition.l2BlockNumber ≤ uint64Max) (probed : game.attempt < maxAttemptScan)
    (filed : later.registered transition.rootClaim (World.encodeExtraData domainHash transition.l2BlockNumber
      transition.parentRef game.attempt) = some game.address)
    (retry : attemptEntry later domainHash transition (game.attempt + 1) ≠ 0#160) :
    ∃ status, readLineageResolutionStatus later game.address = .ok status ∧ status.outcome = .challengerWins := by
  have steady : Run World.exec World.Steady (.genesis environment token) log later :=
    run.weaken fun _ _ respecting => respecting.1
  unfold attemptEntry at retry
  cases entry : later.registered transition.rootClaim
      (World.encodeExtraData domainHash transition.l2BlockNumber transition.parentRef (game.attempt + 1)) with
  | none => simp [entry] at retry
  | some address =>
    obtain ⟨clone, found, claim, written⟩ := (World.filed_of_run run).clone _ _ _ entry
    obtain ⟨_, domain, parentRead, number, count⟩ :=
      CloneArgs.fields_of_encode written fits (le_uint64Max_of_probed probed)
    obtain ⟨_, previous, same, present, doomed⟩ :=
      World.retried_of_run steady address clone transition.parentRef found parentRead game.attempt (by omega)
    rw [claim, domain, number, filed, Option.some.injEq] at same
    subst same
    obtain ⟨report, reported, outcome⟩ :=
      (World.doomed_iff (World.sound_of_run run present)).mpr (doomed (respected_of_run run present))
    exact ⟨_, readLineageResolutionStatus_eq_ok.mpr ⟨previous, present, report, reported, rfl⟩, outcome⟩

theorem Latest.again (run : Run World.exec Respecting (.genesis environment token) log earlier)
    (passed : Run World.exec Respecting earlier more later) (fits : transition.l2BlockNumber ≤ uint64Max)
    (latest : Latest (attemptEntry earlier domainHash transition) game)
    (survived : survives later ⟨transition, game⟩ = true) : Latest (attemptEntry later domainHash transition) game where
  address := (attemptEntry_of_run passed (latest.sequential _ le_rfl)).trans latest.address
  probed := latest.probed
  sequential attempt lower := by
    rw [attemptEntry_of_run passed (latest.sequential attempt lower)]
    exact latest.sequential attempt lower
  last bounded := by
    have filed := passed.invariant (motive := fun world => world.registered transition.rootClaim
      (World.encodeExtraData domainHash transition.l2BlockNumber transition.parentRef game.attempt) = some game.address)
      latest.filed fun filed _ success => World.exec_registered success filed
    by_contra retry
    have lost : survives later ⟨transition, game⟩ = false :=
      survives_eq_false_iff.mpr (lost_of_retry (run.append passed) fits latest.probed filed retry)
    exact Bool.false_ne_true (lost.symm.trans survived)

variable {registered : RegisteredLineageConfig} {before after : ConsensusProvider} {finalizedBlock laterBlock : ℕ}
  {parent : LineageAnchor} {games regames : List SelectedLineageGame} {stop restop : LineageStop}

section

variable (run : Run World.exec Respecting (.genesis environment token) log earlier)

include run

theorem Selects.agrees (passed : Run World.exec Respecting earlier more later) (grown : finalizedBlock ≤ laterBlock)
    (roots : ∀ number ≤ finalizedBlock, ∀ root again, before.outputRootAtBlock number = .ok root →
      after.outputRootAtBlock number = .ok again → again = root)
    (selects : Selects earlier registered before finalizedBlock parent games stop)
    (reselects : Selects later registered after laterBlock parent regames restop) :
    games.takeWhile (survives later) <+: regames := by
  induction selects generalizing regames with
  | caughtUp | missing | invalidated => exact List.nil_prefix
  | step fits final canonical filed read unlost rest ih =>
    rw [List.takeWhile_cons]
    split
    · next survived =>
      rw [readGameForTransition_eq_some] at filed
      cases reselects with
      | caughtUp _ ahead => omega
      | missing _ _ again unfiled =>
        obtain rfl := roots _ final _ _ canonical again
        refine absurd (readGameForTransition_eq_none unfiled) ?_
        rw [attemptEntry_of_run passed (filed.sequential 0 (Nat.zero_le _))]
        exact filed.sequential 0 (Nat.zero_le _)
      | invalidated _ _ again found reread lost =>
        obtain rfl := roots _ final _ _ canonical again
        rw [readGameForTransition_eq_some.mpr (filed.again run passed fits survived), Option.some.injEq] at found
        subst found
        exact absurd (survives_eq_false_iff.mpr ⟨_, reread, lost⟩) (Bool.not_eq_false _ ▸ survived)
      | step _ _ again found reread _ onward =>
        obtain rfl := roots _ final _ _ canonical again
        rw [readGameForTransition_eq_some.mpr (filed.again run passed fits survived), Option.some.injEq] at found
        subst found
        exact List.cons_prefix_cons.mpr ⟨rfl, ih onward⟩
    · exact List.nil_prefix

theorem Selects.anchored {front rest : List SelectedLineageGame} {entry : SelectedLineageGame}
    {anchor : LineageAnchor} (passed : Run World.exec Respecting earlier more later)
    (selects : Selects earlier registered before finalizedBlock parent (front ++ entry :: rest) stop)
    (moved : later.registry.anchorGame = entry.game.address)
    (read : readLineageAnchor later registered = .ok anchor) :
    anchor = ⟨entry.game.address, entry.transition.l2BlockNumber⟩ := by
  have selected := selects.selected (World.filed_of_run run) entry (by simp)
  obtain ⟨clone, found, _, _, number, _⟩ := selected.created
  obtain ⟨next, present, same⟩ := passed.invariant
    (motive := fun world => ∃ next, world.games entry.game.address = some next ∧ next.args = clone.args)
    ⟨clone, found, rfl⟩ (by
      rintro _ _ _ ⟨current, found, same⟩ _ success
      obtain ⟨next, present, continues⟩ := World.exec_continues success found
      exact ⟨next, present, continues.args.trans same⟩)
  simp only [readLineageAnchor, getAnchorRoot, moved, if_neg selected.placed, World.proposalAt, present, same,
    number, bind_eq_ok,
    call_eq_ok, Except.ok.injEq, revertIf_eq_ok, pure_eq_ok] at read
  obtain ⟨_, rfl, _, _, rfl⟩ := read
  rfl

theorem proper_of_selectLineage {lineage : SelectedLineage}
    (selected : selectLineage earlier registered before none = .ok lineage) :
    lineage.Proper earlier registered before := by
  obtain ⟨read, finalizedBlock, final, selects⟩ := selects_of_selectLineage selected
  exact ⟨read, selects.linked, finalizedBlock, final, selects.selected (World.filed_of_run run)⟩

end

/-- Each selection is a proper lineage, and the later one repeats the earlier one up to the first game that the
challenger has won in between. -/
theorem selected_lineage_grows (run : Run World.exec Respecting (.genesis environment token) log earlier)
    (passed : Run World.exec Respecting earlier more later) (finalizes : Finalizes before after)
    {first second : SelectedLineage} (selected : selectLineage earlier registered before none = .ok first)
    (reselected : selectLineage later registered after none = .ok second) :
    first.Proper earlier registered before ∧ second.Proper later registered after ∧
      (second.anchor = first.anchor → first.games.takeWhile (survives later) <+: second.games) ∧
      ∀ front entry rest, first.games = front ++ entry :: rest → later.registry.anchorGame = entry.game.address →
        rest.takeWhile (survives later) <+: second.games := by
  obtain ⟨_, finalizedBlock, final, selects⟩ := selects_of_selectLineage selected
  obtain ⟨reread, laterBlock, finalAgain, reselects⟩ := selects_of_selectLineage reselected
  have grown := finalizes.finalized _ _ final finalAgain
  have roots := finalizes.roots _ final
  refine ⟨proper_of_selectLineage run selected, proper_of_selectLineage (run.append passed) reselected, ?_, ?_⟩
  · intro unchanged
    rw [unchanged] at reselects
    exact selects.agrees run passed grown roots reselects
  · intro front entry rest split moved
    have anchored := Selects.anchored run passed (split ▸ selects) moved reread
    rw [anchored] at reselects
    exact (selects.after split).agrees run passed grown roots reselects

end Later

/-! ## A lineage that grows by one game -/

open World (sampleGame sampleChild sampleExtraData sampleWorld idleLog)

def sampleStable : RegisteredLineageConfig := ⟨World.sampleImplementation.domainHash, 10, 8⟩

def sampleFinal (finalizedBlock : ℕ) : ConsensusProvider :=
  ⟨.ok finalizedBlock, fun number =>
    if number ≤ finalizedBlock then .ok (if number ≤ 1010 then 42 else 43) else .error .missingOutputRoot⟩

def sampleGrowth : List (World.Action ERC20StakingVault.sampleDeployment) :=
  [.deposit 2 2 60, .create 2 0 43 (sampleExtraData 1020 sampleGame 0)]

def sampleFirst : SelectedLineageGame := ⟨⟨8, 42, 1010⟩, ⟨sampleGame, 0⟩⟩

theorem sample_respecting (log : List (World.Action ERC20StakingVault.sampleDeployment))
    (quiet : ∀ call ∈ log, ∀ environment, World.Action.surroundings environment call = environment)
    (effective : (log.foldlM World.exec World.sampleGenesis).isOk = true) :
    Run World.exec Respecting World.sampleGenesis log (sampleWorld log) := by
  refine (World.sample_quiet_run log quiet effective).1.weaken fun world call quiet => ⟨?_, ?_⟩
  · rw [World.Steady, quiet.2]
    exact .refl _
  · rw [World.registry, quiet.1]
    rfl

theorem sample_lineage_grows : ∃ first second,
    selectLineage (sampleWorld idleLog) sampleStable (sampleFinal 1010) none = .ok first ∧
      selectLineage (sampleWorld (idleLog ++ sampleGrowth)) sampleStable (sampleFinal 1020) none = .ok second ∧
      first.games = [sampleFirst] ∧ [sampleFirst] <+: second.games := by
  have run := sample_respecting idleLog (by simp [idleLog, World.Action.surroundings]) (by decide +kernel)
  have whole := sample_respecting (idleLog ++ sampleGrowth) (by simp [idleLog, sampleGrowth, World.Action.surroundings])
    (by decide +kernel)
  obtain ⟨middle, left, passed⟩ := whole.split
  have same : middle = sampleWorld idleLog := Except.ok.inj (left.replay.symm.trans run.replay)
  rw [same] at passed
  have earlier : (selectLineage (sampleWorld idleLog) sampleStable (sampleFinal 1010) none).toOption.map
      (fun lineage => (lineage.anchor, lineage.games)) = some (⟨8, 1000⟩, [sampleFirst]) := by decide +kernel
  have later : (selectLineage (sampleWorld (idleLog ++ sampleGrowth)) sampleStable (sampleFinal 1020) none).toOption.map
      (fun lineage => lineage.anchor) = some ⟨8, 1000⟩ := by decide +kernel
  cases selected : selectLineage (sampleWorld idleLog) sampleStable (sampleFinal 1010) none with
  | error _ => simp [selected, Except.toOption] at earlier
  | ok first =>
    cases reselected : selectLineage (sampleWorld (idleLog ++ sampleGrowth)) sampleStable (sampleFinal 1020) none with
    | error _ => simp [reselected, Except.toOption] at later
    | ok second =>
      rw [selected] at earlier
      rw [reselected] at later
      obtain ⟨start, games⟩ := Prod.mk.inj (Option.some.inj earlier)
      have finalizes : Finalizes (sampleFinal 1010) (sampleFinal 1020) := by
        constructor
        · intro earlier later final again
          rw [← Except.ok.inj final, ← Except.ok.inj again]
          decide
        · intro finalizedBlock known number final root again read reread
          rw [← Except.ok.inj known] at final
          simp only [sampleFinal, final, final.trans (show 1010 ≤ 1020 by decide), if_true, Except.ok.injEq]
            at read reread
          exact reread.symm.trans read
      refine ⟨first, second, rfl, rfl, games, ?_⟩
      have survived : [sampleFirst].takeWhile (survives (sampleWorld (idleLog ++ sampleGrowth))) = [sampleFirst] := by
        decide +kernel
      rw [← survived, ← games]
      exact (selected_lineage_grows run passed finalizes selected reselected).2.2.1
        ((Option.some.inj later).trans start.symm)

end WorldChain.Proposer
