import WorldChain.Challenger.Tick

/-! # The search for the first recent game

At its start the challenger looks for the oldest game that can still be challenged by a binary search on the deadlines,
which go up with the index. A game of another type has no deadline, and the search takes it for an old one.
-/

namespace WorldChain.Challenger

variable {Address Root Error : Type}

namespace Tick

variable (games : Games Address Root) (tick : Tick Address Root Error)

/-- The game at an index is one of ours and its deadline has not passed. -/
def IsLive (index : ℕ) : Prop := ∃ game, tick.entry index = some game ∧ tick.now ≤ games.challengeDeadline game

def IsFirstLive (index : ℕ) : Prop := tick.IsLive games index ∧ ∀ earlier, earlier < index → ¬ tick.IsLive games earlier

/-- The deadlines of our games go up with their indices. -/
def DeadlinesOrdered : Prop :=
  ∀ first second game later, first ≤ second → tick.entry first = some game → tick.entry second = some later →
    games.challengeDeadline game ≤ games.challengeDeadline later

/-- From the first live game on, the search for it comes by games of ours only. -/
def ReachesFirstLive (gameCount : ℕ) : Prop :=
  ∀ live, tick.IsFirstLive games live → ∀ middle ∈ Bisect.midpoints live 0 gameCount, live ≤ middle →
    (tick.entry middle).isSome = true

/-- What the search takes for old. -/
def looksOld (index : ℕ) : Bool := (tick.entry index).all fun game => games.challengeDeadline game < tick.now

variable {games tick}

open Classical in
theorem exists_isFirstLive {live : ℕ} (isLive : tick.IsLive games live) : ∃ first ≤ live, tick.IsFirstLive games first :=
  ⟨Nat.find ⟨live, isLive⟩, Nat.find_min' _ isLive, Nat.find_spec ⟨live, isLive⟩, fun _ earlier => Nat.find_min _ earlier⟩

theorem looksOld_of_not_isLive {index : ℕ} (notLive : ¬ tick.IsLive games index) : tick.looksOld games index = true := by
  unfold looksOld
  cases held : tick.entry index with
  | none => rfl
  | some game =>
    have late : ¬ tick.now ≤ games.challengeDeadline game := fun inTime => notLive ⟨game, held, inTime⟩
    simpa using late

theorem looksOld_eq_false_iff {live index : ℕ} (ordered : tick.DeadlinesOrdered games) (isLive : tick.IsLive games live)
    (later : live ≤ index) : tick.looksOld games index = false ↔ (tick.entry index).isSome = true := by
  obtain ⟨first, held, inTime⟩ := isLive
  unfold looksOld
  cases entry : tick.entry index with
  | none => simp
  | some game =>
    have bound := ordered live index first game later held entry
    simpa using inTime.trans bound

end Tick

namespace WorldChainChallenger

variable {games : Games Address Root} {tick : Tick Address Root Error}

theorem isOld_eq (answered : ∀ call, tick.failure call = none) (index : ℕ) :
    isOld games tick index = .ok (tick.looksOld games index) := by
  unfold isOld Tick.looksOld Tick.ask
  simp only [answered]
  cases tick.entry index <;> rfl

theorem firstRecentGameIndex_le_iff (answered : ∀ call, tick.failure call = none) (ordered : tick.DeadlinesOrdered games)
    (gameCount : ℕ) :
    ∃ index, firstRecentGameIndex games tick gameCount = .ok index ∧
      ((∀ live, tick.IsLive games live → index ≤ live) ↔ tick.ReachesFirstLive games gameCount) := by
  have answers : ∀ index, index < gameCount → isOld games tick index = .ok (tick.looksOld games index) :=
    fun index _ => isOld_eq answered index
  obtain ⟨found, ends⟩ := @Bisect.bisect_isOk _ _ _ 0 gameCount answers
  have reaches : ∀ {live}, tick.IsFirstLive games live → (found ≤ live ↔
      ∀ middle ∈ Bisect.midpoints live 0 gameCount, live ≤ middle → (tick.entry middle).isSome = true) := by
    intro live isFirst
    rw [Bisect.bisect_le_iff ends (Nat.zero_le _) answers fun index _ earlier =>
      Tick.looksOld_of_not_isLive (isFirst.2 index earlier)]
    refine forall₂_congr fun middle _ => forall_congr' fun later => ?_
    exact Tick.looksOld_eq_false_iff ordered isFirst.1 later
  refine ⟨found, ends, ?_⟩
  constructor
  · intro none live isFirst
    exact (reaches isFirst).mp (none live isFirst.1)
  · intro all live isLive
    obtain ⟨first, bound, isFirst⟩ := Tick.exists_isFirstLive isLive
    exact ((reaches isFirst).mpr (all first isFirst)).trans bound

end WorldChainChallenger

/-- The search and the first range that is scanned pass no live game by exactly if the search comes by no game of
another type from the first live one on. -/
theorem search_passes_none_iff (games : Games Address Root) (tick : Tick Address Root Error)
    (challenger : WorldChainChallenger Address Root Error) (answered : ∀ call, tick.failure call = none)
    (ordered : tick.DeadlinesOrdered games) (fresh : challenger.nextGameIndex = none) :
    (∀ gameCount, ∃ index, WorldChainChallenger.firstRecentGameIndex games tick gameCount = .ok index ∧
      ((∀ live, tick.IsLive games live → index ≤ live) ↔ tick.ReachesFirstLive games gameCount)) ∧
    ∃ first last, (challenger.selectRange games tick).2 = .ok (first, last) ∧
      ((∀ live, tick.IsLive games live → first ≤ live) ↔ tick.ReachesFirstLive games tick.factory.length) := by
  refine ⟨WorldChainChallenger.firstRecentGameIndex_le_iff answered ordered, ?_⟩
  obtain ⟨index, ends, same⟩ := WorldChainChallenger.firstRecentGameIndex_le_iff answered ordered tick.factory.length
  refine ⟨index, min (index + challenger.config.maxGamesPerTick) tick.factory.length, ?_, same⟩
  simp [WorldChainChallenger.selectRange, Tick.ask, answered, fresh, ends]

section Sample

def sampleTick (now : ℕ) (factory : List (Option ℕ)) : Tick ℕ ℕ Unit where
  now
  factory
  failure _ := none
  proposalStatus _ _ := .unchallenged
  latestFinalizedBlock := 1000
  outputRootAtBlock _ _ := 7
  arrival _ results := results
  arrival_perm _ _ := .refl _

def sampleGames : Games ℕ ℕ := ⟨fun _ => 8, fun _ => 50, fun game => 100 * game⟩

def sampleChallenger : WorldChainChallenger ℕ ℕ Unit := .new ⟨60, 10, 100, 100⟩

def foreignLast : Tick ℕ ℕ Unit := sampleTick 150 [some 1, some 2, none]

theorem search_passes_none_before_foreign :
    foreignLast.IsFirstLive sampleGames 1 ∧ foreignLast.ReachesFirstLive sampleGames 3 ∧
    (∃ index, WorldChainChallenger.firstRecentGameIndex sampleGames foreignLast 3 = .ok index ∧
      ∀ live, foreignLast.IsLive sampleGames live → index ≤ live) ∧
    ∃ first last, (sampleChallenger.selectRange sampleGames foreignLast).2 = .ok (first, last) ∧
      ∀ live, foreignLast.IsLive sampleGames live → first ≤ live := by
  have number : ∀ index game, foreignLast.entry index = some game → index < 2 ∧ game = index + 1 := by
    intro index game held
    obtain _ | _ | _ | index := index <;> simp [Tick.entry, foreignLast, sampleTick] at held ⊢ <;> omega
  have only : ∀ live, foreignLast.IsLive sampleGames live → live = 1 := by
    rintro live ⟨game, held, alive⟩
    obtain ⟨below, rfl⟩ := number live game held
    change 150 ≤ 100 * (live + 1) at alive
    omega
  have firstLive : foreignLast.IsFirstLive sampleGames 1 :=
    ⟨⟨2, rfl, by decide⟩, fun earlier below isLive => below.ne (only earlier isLive)⟩
  have reaches : foreignLast.ReachesFirstLive sampleGames 3 := by
    intro live isFirst
    obtain rfl := only live isFirst.1
    decide +kernel
  obtain ⟨search, first, last, selected, scanned⟩ :=
    search_passes_none_iff sampleGames foreignLast sampleChallenger (fun _ => rfl) (by
      intro first second game later before held held'
      rw [(number first game held).2, (number second later held').2]
      exact Nat.mul_le_mul_left 100 (Nat.add_le_add_right before 1)) rfl
  obtain ⟨index, found, passes⟩ := search 3
  exact ⟨firstLive, reaches, ⟨index, found, passes.mpr reaches⟩, first, last, selected, scanned.mpr reaches⟩

theorem search_passes_live_game :
    WorldChainChallenger.firstRecentGameIndex sampleGames (sampleTick 50 [some 1, none]) 2 = .ok 2 ∧
    (sampleTick 50 [some 1, none]).IsLive sampleGames 0 ∧
    (sampleChallenger.selectRange sampleGames (sampleTick 50 [some 1, none])).2 = .ok (2, 2) := by
  exact ⟨by decide +kernel, ⟨1, rfl, by decide⟩, by decide +kernel⟩

end Sample

end WorldChain.Challenger
