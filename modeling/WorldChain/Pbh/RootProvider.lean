import WorldChain.Pbh.Validator

/-! # The roots that the pool accepts

A root is kept for a week after the last head that had it in the World ID contract. Heads may go back in time.
-/

namespace WorldChain.Pbh

open Machine

def rootExpirationWindow : ℕ := 60 * 60 * 24 * 7

/-- The timestamp of a block, with what the slot of `_latestRoot` holds in its state. -/
abbrev Sighting := ℕ × Option U256

structure RootProvider where
  validRoots : List (U256 × ℕ)
  latestValidTimestamp : ℕ
deriving DecidableEq, Repr

namespace RootProvider

variable (provider : RootProvider)

def insert (root : U256) (timestamp : ℕ) : RootProvider :=
  { provider with validRoots := (root, timestamp) :: provider.validRoots.filter (·.1 ≠ root) }

/-- `block` is `none` where there is no block or its state cannot be read, which is passed over. -/
def new {Error : Type} (lastBlockNumber : Option ℕ) (block : ℕ → Except Error (Option Sighting)) :
    Except Error RootProvider :=
  match lastBlockNumber with
  | none => .ok ⟨[], 0⟩
  | some latest => do
    match ← block latest with
    | some (timestamp, some root) => pure (insert ⟨[], timestamp⟩ root timestamp)
    | _ => pure ⟨[], 0⟩

def pruneInvalid : RootProvider :=
  if provider.latestValidTimestamp > rootExpirationWindow then
    let oldestValidTimestamp := provider.latestValidTimestamp - rootExpirationWindow
    { provider with validRoots := provider.validRoots.filter (·.2 ≥ oldestValidTimestamp) }
  else provider

def onNewBlock (block : Sighting) : RootProvider :=
  let dated := { provider with latestValidTimestamp := block.1 }
  match block.2 with
  | some root => (dated.insert root block.1).pruneInvalid
  | none => dated.pruneInvalid

def roots : List U256 := provider.validRoots.map Prod.fst

/-- The blocks are those that could be read: the error of another one is logged. -/
def commit (heads : List (Option Sighting)) : RootProvider := heads.reduceOption.foldl onNewBlock provider

/-- What a new provider has loaded, and then what the heads showed. -/
def sightings (heads : List (Option Sighting)) : List Sighting :=
  provider.validRoots.map (fun entry => (entry.2, some entry.1)) ++ heads.reduceOption

/-- Of what was seen, oldest first, `root` was seen last at `time`, and nothing later is more than a week after that. -/
def Kept (seen : List Sighting) (root : U256) (time : ℕ) : Prop :=
  ∃ past later, seen = past ++ (time, some root) :: later ∧
    ∀ entry ∈ later, entry.2 ≠ some root ∧ entry.1 ≤ time + rootExpirationWindow

variable {provider} {root : U256} {time : ℕ}

theorem kept_append_singleton {seen : List Sighting} {last : Sighting} :
    Kept (seen ++ [last]) root time ↔ last = (time, some root) ∨
      last.2 ≠ some root ∧ Kept seen root time ∧ last.1 ≤ time + rootExpirationWindow := by
  constructor
  · rintro ⟨past, later, split, fresh⟩
    rcases List.eq_nil_or_concat later with rfl | ⟨front, final, rfl⟩
    · exact .inl (List.singleton_inj.mp (List.append_inj' split rfl).2)
    · rw [List.concat_eq_append, ← List.cons_append, ← List.append_assoc] at split
      obtain ⟨rfl, same⟩ := List.append_inj' split rfl
      obtain rfl := List.singleton_inj.mp same
      have ⟨other, near⟩ := fresh last (by simp)
      exact .inr ⟨other, ⟨past, front, rfl, fun entry member => fresh entry (by simp [member])⟩, near⟩
  · rintro (rfl | ⟨other, ⟨past, later, rfl, fresh⟩, near⟩)
    · exact ⟨seen, [], rfl, by simp⟩
    · refine ⟨past, later ++ [last], by simp, fun entry member => ?_⟩
      rcases List.mem_append.mp member with member | member
      · exact fresh entry member
      · exact List.mem_singleton.mp member ▸ ⟨other, near⟩

theorem mem_pruneInvalid : (root, time) ∈ provider.pruneInvalid.validRoots ↔
    (root, time) ∈ provider.validRoots ∧ provider.latestValidTimestamp ≤ time + rootExpirationWindow := by
  unfold pruneInvalid
  split
  · simp only [List.mem_filter, ge_iff_le, decide_eq_true_eq]
    exact and_congr_right fun _ => by omega
  · exact (and_iff_left (by omega)).symm

theorem mem_onNewBlock {block : Sighting} : (root, time) ∈ (provider.onNewBlock block).validRoots ↔
    block = (time, some root) ∨
      block.2 ≠ some root ∧ (root, time) ∈ provider.validRoots ∧ block.1 ≤ time + rootExpirationWindow := by
  obtain ⟨timestamp, _ | other⟩ := block
  · simp [onNewBlock, mem_pruneInvalid]
  · simp only [onNewBlock, mem_pruneInvalid, insert, List.mem_cons, List.mem_filter, Prod.mk.injEq, decide_eq_true_eq,
      ne_eq, Option.some.injEq]
    constructor
    · rintro ⟨⟨rfl, rfl⟩ | ⟨kept, other⟩, near⟩
      · exact .inl ⟨rfl, rfl⟩
      · exact .inr ⟨Ne.symm other, kept, near⟩
    · rintro (⟨rfl, rfl⟩ | ⟨other, kept, near⟩)
      · exact ⟨.inl ⟨rfl, rfl⟩, Nat.le_add_right _ _⟩
      · exact ⟨.inr ⟨kept, Ne.symm other⟩, near⟩

section

variable {Error : Type} {lastBlockNumber : Option ℕ} {block : ℕ → Except Error (Option Sighting)}
  (started : new lastBlockNumber block = .ok provider)

include started

theorem validRoots_new : provider.validRoots = [] ∨ ∃ entry, provider.validRoots = [entry] := by
  unfold new at started
  split at started
  · cases started
    exact .inl rfl
  · simp only [bind_eq_ok] at started
    obtain ⟨read, _, started⟩ := started
    split at started <;> cases started
    · exact .inr ⟨_, rfl⟩
    · exact .inl rfl

theorem mem_validRoots_iff_kept (heads : List (Option Sighting)) :
    (root, time) ∈ (provider.commit heads).validRoots ↔ Kept (provider.sightings heads) root time := by
  unfold commit sightings
  generalize heads.reduceOption = blocks
  induction blocks using List.reverseRecOn with
  | nil =>
    have unseen : ¬ Kept [] root time := fun ⟨past, later, split, _⟩ => by simp at split
    rcases validRoots_new started with empty | ⟨entry, single⟩
    · simp [empty, unseen]
    · have one : Kept ([] ++ [(entry.2, some entry.1)]) root time ↔ _ := kept_append_singleton
      simp only [List.nil_append, unseen, false_and, and_false, or_false, Prod.mk.injEq, Option.some.injEq] at one
      simp [single, one, Prod.ext_iff, and_comm, eq_comm]
  | append_singleton blocks block kept =>
    rw [List.foldl_append, List.foldl_cons, List.foldl_nil, mem_onNewBlock, kept, ← List.append_assoc]
    exact kept_append_singleton.symm

/-- The pool accepts a root exactly if it was seen and nothing seen since then is more than a week later; each payload that
it validates was proven against such a root. -/
theorem roots_accepted_iff_seen_recently (heads : List (Option Sighting)) :
    (∀ root, root ∈ (provider.commit heads).roots ↔ ∃ time, Kept (provider.sightings heads) root time) ∧
      ∀ (payload : PBHPayload) semaphore signal limit date,
        payload.validate semaphore signal (provider.commit heads).roots limit date = .ok () →
          ∃ time, Kept (provider.sightings heads) payload.root time := by
  have accepted (root : U256) :
      root ∈ (provider.commit heads).roots ↔ ∃ time, Kept (provider.sightings heads) root time := by
    simp only [← mem_validRoots_iff_kept started, roots, List.mem_map, Prod.exists, exists_and_right, exists_eq_right]
  refine ⟨accepted, fun payload semaphore signal limit date valid => (accepted payload.root).mp ?_⟩
  simp only [PBHPayload.validate, PBHPayload.validateRoot, bind_eq_ok, revertIf_eq_ok, not_not] at valid
  exact valid.choose_spec.1

end

def samplePayload : PBHPayload := ⟨⟨.v1, 2025, 1, 4⟩, 9, 7, Vector.replicate 8 1⟩

theorem sample_root_accepted : 7 ∈ (commit ⟨[(7, 5)], 5⟩ [some (9, none), none]).roots ∧
    ∃ time, Kept (sightings ⟨[(7, 5)], 5⟩ [some (9, none), none]) samplePayload.root time := by
  have started : new (some 0) (fun _ => .ok (some (5, some 7))) = (.ok ⟨[(7, 5)], 5⟩ : Except Unit _) := rfl
  obtain ⟨accepted, proven⟩ := roots_accepted_iff_seen_recently started [some (9, none), none]
  have valid : samplePayload.validate ⟨fun _ _ _ _ _ _ => some true, fun _ _ _ _ => none⟩ 1
      (commit ⟨[(7, 5)], 5⟩ [some (9, none), none]).roots 30 ⟨2025, 1⟩ = .ok () := rfl
  exact ⟨(accepted 7).mpr ⟨5, [], [(9, none)], rfl, by decide⟩, proven samplePayload _ _ _ _ valid⟩

end RootProvider

end WorldChain.Pbh
