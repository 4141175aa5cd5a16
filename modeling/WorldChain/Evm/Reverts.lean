import WorldChain.Lib.Gather
import WorldChain.Primitives.Payload

/-! # The reverts of a block

`flatten_reverts` makes one frame of many: of each account and of each slot the earliest revert decides, and a wipe in
any frame stays. The table it fills is a hash map, read off in an `IterationOrder`. `BundleState::extend` of revm is a
parameter (`Extension`), and what undoing a wipe does is left open (`unwipe`).
-/

namespace WorldChain.Evm

open Gather Primitives

inductive AccountStatus
  | loadedNotExisting
  | loaded
  | loadedEmptyEIP161
  | inMemoryChange
  | changed
  | destroyed
  | destroyedChanged
  | destroyedAgain
deriving DecidableEq

inductive AccountInfoRevert (Info : Type*)
  | doNothing
  | deleteIt
  | revertTo (info : Info)
deriving DecidableEq

inductive RevertToSlot
  | some (value : U256)
  | destroyed
deriving DecidableEq

structure AccountRevert (Info : Type*) where
  account : AccountInfoRevert Info
  storage : Finmap fun _ : U256 => RevertToSlot
  previousStatus : AccountStatus
  wipeStorage : Bool
deriving DecidableEq

/-- Frames, the earliest first. -/
abbrev Reverts (Address Info : Type*) := List (List (Address × AccountRevert Info))

variable {Address Info : Type*} [DecidableEq Address]

/-! ## Flattening -/

def AccountInfoRevert.isDoNothing : AccountInfoRevert Info → Bool
  | doNothing => true
  | deleteIt | revertTo _ => false

def AccountRevert.merge (entry later : AccountRevert Info) : AccountRevert Info where
  -- the earliest that does something
  account := if entry.account.isDoNothing ∧ ¬ later.account.isDoNothing then later.account else entry.account
  -- for each slot the earliest
  storage := entry.storage ∪ later.storage
  previousStatus := entry.previousStatus
  wipeStorage := entry.wipeStorage || later.wipeStorage

/-- The order in which the entries of a hash map are read. -/
structure IterationOrder (Address Info : Type*) [DecidableEq Address] where
  entries : (Finmap fun _ : Address => AccountRevert Info) → List (Address × AccountRevert Info)
  enumerates : ∀ table, Enumerates (entries table) table

theorem enumerates_sorted {Address : Type*} [LinearOrder Address]
    (table : Finmap fun _ : Address => AccountRevert Info) :
    Enumerates ((table.keys.sort (· ≤ ·)).filterMap fun address => (table.lookup address).map (address, ·)) table where
  nodup := by
    have keys : ((table.keys.sort (· ≤ ·)).filterMap fun address =>
      (table.lookup address).map (address, ·)).map Prod.fst =
        table.keys.sort (· ≤ ·) := by
      rw [List.map_filterMap]
      conv_rhs => rw [← List.filterMap_some (l := table.keys.sort (· ≤ ·))]
      apply List.filterMap_congr
      intro address member
      obtain ⟨revert, held⟩ := Finmap.mem_iff.mp (Finmap.mem_keys.mp ((Finset.mem_sort _).mp member))
      simp [held]
    rw [keys]
    exact Finset.sort_nodup _ _
  mem address revert := by
    simp only [List.mem_filterMap, Option.map_eq_some_iff, Prod.mk.injEq]
    constructor
    · rintro ⟨other, _, held, found, rfl, rfl⟩
      exact found
    · intro found
      refine ⟨address, ?_, revert, found, rfl, rfl⟩
      rw [Finset.mem_sort, Finmap.mem_keys]
      exact Finmap.mem_of_lookup_eq_some found

/-- The entries by their addresses. -/
def IterationOrder.sorted {Address : Type*} [LinearOrder Address] : IterationOrder Address Info where
  entries table := (table.keys.sort (· ≤ ·)).filterMap fun address => (table.lookup address).map (address, ·)
  enumerates := enumerates_sorted

def perAccount (reverts : Reverts Address Info) : Finmap fun _ : Address => AccountRevert Info :=
  gather AccountRevert.merge reverts.flatten

def flattenReverts (order : IterationOrder Address Info) (reverts : Reverts Address Info) : Reverts Address Info :=
  [order.entries (perAccount reverts)]

/-- The frames are the same up to the order of their entries. -/
def SameReverts : Reverts Address Info → Reverts Address Info → Prop := List.Forall₂ List.Perm

instance : Std.Associative (@AccountRevert.merge Info) where
  assoc first second third := by
    rw [AccountRevert.merge, AccountRevert.merge, AccountRevert.merge, AccountRevert.merge, AccountRevert.mk.injEq]
    refine ⟨?_, Finmap.union_assoc, rfl, Bool.or_assoc ..⟩
    cases first.account <;> cases second.account <;> cases third.account <;> simp [AccountInfoRevert.isDoNothing]

theorem sameReverts_of_perAccount_eq {first second : Reverts Address Info} (order other : IterationOrder Address Info)
    (same : perAccount first = perAccount second) :
    SameReverts (flattenReverts order first) (flattenReverts other second) := by
  refine .cons ?_ .nil
  rw [same]
  exact (order.enumerates _).perm (other.enumerates _)

theorem perAccount_flattenReverts (order : IterationOrder Address Info) (reverts : Reverts Address Info) :
    perAccount (flattenReverts order reverts) = perAccount reverts := by
  rw [perAccount, flattenReverts, List.flatten_singleton]
  exact (order.enumerates _).gather_eq

theorem mem_entries_perAccount (order : IterationOrder Address Info) (reverts : Reverts Address Info) (address : Address) :
    address ∈ (order.entries (perAccount reverts)).map Prod.fst ↔ address ∈ reverts.flatten.map Prod.fst := by
  have held : ((perAccount reverts).lookup address).isSome = true ↔ _ := isSome_lookup_gather reverts.flatten address
  rw [← held, Option.isSome_iff_exists, List.mem_map]
  constructor
  · rintro ⟨⟨_, revert⟩, member, rfl⟩
    exact ⟨revert, ((order.enumerates _).mem _ revert).mp member⟩
  · rintro ⟨revert, held⟩
    exact ⟨(address, revert), ((order.enumerates _).mem address revert).mpr held, rfl⟩

theorem perAccount_append_congr {first second third fourth : Reverts Address Info}
    (left : perAccount first = perAccount second)
    (right : perAccount third = perAccount fourth) : perAccount (first ++ third) = perAccount (second ++ fourth) := by
  rw [perAccount, perAccount, List.flatten_append, List.flatten_append]
  exact gather_append_congr left right

theorem perAccount_append_flatten (order : IterationOrder Address Info) (xs ys : Reverts Address Info) :
    perAccount (flattenReverts order xs ++ ys) = perAccount (xs ++ ys) ∧
      perAccount (xs ++ flattenReverts order ys) = perAccount (xs ++ ys) :=
  ⟨perAccount_append_congr (perAccount_flattenReverts order xs) rfl,
    perAccount_append_congr rfl (perAccount_flattenReverts order ys)⟩

/-! ## Undoing -/

/-- An account with the values of its slots. -/
structure PlainAccount (Info : Type*) where
  info : Option Info
  slots : U256 → U256

def AccountInfoRevert.undo (info : Option Info) : AccountInfoRevert Info → Option Info
  | doNothing => info
  | deleteIt => none
  | revertTo previous => some previous

/-- The value that a slot had. -/
def RevertToSlot.toPreviousValue : RevertToSlot → U256
  | some value => value
  | destroyed => 0

def AccountRevert.undo (unwipe : AccountRevert Info → PlainAccount Info → PlainAccount Info)
    (revert : AccountRevert Info)
    (account : PlainAccount Info) : PlainAccount Info :=
  if revert.wipeStorage then unwipe revert account
  else ⟨revert.account.undo account.info,
    fun slot => ((revert.storage.lookup slot).map RevertToSlot.toPreviousValue).getD (account.slots slot)⟩

/-- Undo frames from the latest to the earliest. -/
def undoReverts (unwipe : AccountRevert Info → PlainAccount Info → PlainAccount Info) (reverts : Reverts Address Info)
    (state : Address → PlainAccount Info) : Address → PlainAccount Info :=
  reverts.foldr (actAll (AccountRevert.undo unwipe)) state

theorem AccountInfoRevert.undo_merge (first second : AccountInfoRevert Info) (info : Option Info) :
    undo info (if first.isDoNothing ∧ ¬ second.isDoNothing then second else first) = undo (undo info second) first := by
  cases first <;> cases second <;> simp [isDoNothing, undo]

theorem AccountRevert.wipeStorage_merge (first second : AccountRevert Info) (keeps : first.wipeStorage = false)
    (keeps' : second.wipeStorage = false) : (first.merge second).wipeStorage = false := by
  simp [merge, keeps, keeps']

theorem AccountRevert.undo_merge (unwipe : AccountRevert Info → PlainAccount Info → PlainAccount Info)
    (first second : AccountRevert Info) (account : PlainAccount Info) (keeps : first.wipeStorage = false)
    (keeps' : second.wipeStorage = false) :
    (first.merge second).undo unwipe account = first.undo unwipe (second.undo unwipe account) := by
  have keepsBoth := wipeStorage_merge first second keeps keeps'
  simp only [undo, keeps, keeps', keepsBoth, Bool.false_eq_true, if_false, PlainAccount.mk.injEq]
  refine ⟨AccountInfoRevert.undo_merge .., funext fun slot => ?_⟩
  by_cases held : slot ∈ first.storage
  · obtain ⟨revert, found⟩ := Finmap.mem_iff.mp held
    rw [merge, Finmap.lookup_union_left held, found]
    rfl
  · rw [merge, Finmap.lookup_union_right held, Finmap.lookup_eq_none.mpr held]
    rfl

/-- The storage of an account is not wiped in any frame. -/
def Keeps (reverts : Reverts Address Info) (address : Address) : Prop :=
  ∀ frame ∈ reverts, ∀ entry ∈ frame, entry.1 = address → entry.2.wipeStorage = false

variable {address : Address} {reverts : Reverts Address Info}

omit [DecidableEq Address] in
theorem Keeps.flatten (keeps : Keeps reverts address) :
    ∀ entry ∈ reverts.flatten, entry.1 = address → entry.2.wipeStorage = false := by
  intro entry member
  obtain ⟨frame, isFrame, isEntry⟩ := List.mem_flatten.mp member
  exact keeps frame isFrame entry isEntry

theorem Keeps.flattenReverts (keeps : Keeps reverts address) (order : IterationOrder Address Info) :
    Keeps (flattenReverts order reverts) address := by
  intro frame isFrame entry member is
  obtain rfl := List.mem_singleton.mp isFrame
  have held := ((order.enumerates _).mem entry.1 entry.2).mp member
  rw [is] at held
  exact property_of_lookup_gather (·.wipeStorage = false) AccountRevert.wipeStorage_merge keeps.flatten held

theorem undoReverts_eq (unwipe : AccountRevert Info → PlainAccount Info → PlainAccount Info)
    (reverts : Reverts Address Info) (state : Address → PlainAccount Info) :
    undoReverts unwipe reverts state = actAll (AccountRevert.undo unwipe) reverts.flatten state := by
  induction reverts with
  | nil => rfl
  | cons frame rest ih =>
    rw [List.flatten_cons, actAll, List.foldr_append, undoReverts, List.foldr_cons]
    exact congrArg _ ih

theorem undoReverts_apply (unwipe : AccountRevert Info → PlainAccount Info → PlainAccount Info)
    (state : Address → PlainAccount Info) (keeps : Keeps reverts address) :
    undoReverts unwipe reverts state address =
      ((perAccount reverts).lookup address).elim (state address) fun revert => revert.undo unwipe (state address) := by
  rw [undoReverts_eq]
  exact actAll_eq (·.wipeStorage = false) state AccountRevert.wipeStorage_merge (AccountRevert.undo_merge unwipe)
    keeps.flatten

/-! ## Bundles -/

/-- The changes of a bundle, in whatever form, and what undoes them. -/
structure BundleState (State Address Info : Type*) where
  state : State
  reverts : Reverts Address Info

namespace BundleState

variable {State : Type*}

/-- How a bundle is put after another. What the later reverts become may depend on the first state, from which they take
the storage that they wipe. -/
structure Extension (State Address Info : Type*) where
  state : State → BundleState State Address Info → State
  reverts : State → BundleState State Address Info → Reverts Address Info

variable (extension : Extension State Address Info)

def extend (bundle next : BundleState State Address Info) : BundleState State Address Info where
  state := extension.state bundle.state next
  reverts := bundle.reverts ++ extension.reverts bundle.state next

def extendFlashblockBundle (order : IterationOrder Address Info) (committed next : BundleState State Address Info) :
    BundleState State Address Info :=
  let bundle := committed.extend extension next
  { bundle with reverts := flattenReverts order bundle.reverts }

def extendFlashblockBundles (committed : BundleState State Address Info)
    (fragments : List (IterationOrder Address Info × BundleState State Address Info)) :
    BundleState State Address Info :=
  fragments.foldl (fun bundle fragment => bundle.extendFlashblockBundle extension fragment.1 fragment.2) committed

def extendAll (committed : BundleState State Address Info) (fragments : List (BundleState State Address Info)) :
    BundleState State Address Info :=
  fragments.foldl (extend extension) committed

theorem extendFlashblockBundles_agrees (committed : BundleState State Address Info)
    (fragments : List (IterationOrder Address Info × BundleState State Address Info)) :
    (extendFlashblockBundles extension committed fragments).state =
        (extendAll extension committed (fragments.map Prod.snd)).state ∧
      perAccount (extendFlashblockBundles extension committed fragments).reverts =
        perAccount (extendAll extension committed (fragments.map Prod.snd)).reverts := by
  induction fragments using List.reverseRecOn with
  | nil => exact ⟨rfl, rfl⟩
  | append_singleton fragments fragment ih =>
    obtain ⟨state, reverts⟩ := ih
    simp only [extendFlashblockBundles, extendAll, List.map_append, List.foldl_append, List.map_cons, List.map_nil,
      List.foldl_cons, List.foldl_nil] at state reverts ⊢
    refine ⟨congrArg (extension.state · fragment.2) state, ?_⟩
    rw [extendFlashblockBundle, perAccount_flattenReverts, extend, extend, state]
    exact perAccount_append_congr reverts rfl

theorem reverts_extendFlashblockBundles (committed : BundleState State Address Info)
    {fragments : List (IterationOrder Address Info × BundleState State Address Info)} (nonempty : fragments ≠ []) :
    ∃ order reverts, (extendFlashblockBundles extension committed fragments).reverts =
      flattenReverts order reverts := by
  rcases List.eq_nil_or_concat fragments with rfl | ⟨front, last, rfl⟩
  · exact absurd rfl nonempty
  · refine ⟨last.1, ((extendFlashblockBundles extension committed front).extend extension last.2).reverts, ?_⟩
    rw [extendFlashblockBundles, List.concat_eq_append, List.foldl_append]
    rfl

end BundleState

/-- Flattening leaves one frame with each account of the frames once. Undoing it puts back each account whose storage is
not wiped as undoing all frames does. -/
theorem flattenReverts_summarises {State : Type*} (unwipe : AccountRevert Info → PlainAccount Info → PlainAccount Info)
    (extension : BundleState.Extension State Address Info) :
    (∀ (order : IterationOrder Address Info) (reverts : Reverts Address Info), ∃ frame,
      flattenReverts order reverts = [frame] ∧ (frame.map Prod.fst).Nodup ∧
        ∀ address, address ∈ frame.map Prod.fst ↔ address ∈ reverts.flatten.map Prod.fst) ∧
    (∀ (order : IterationOrder Address Info) (reverts : Reverts Address Info) (state : Address → PlainAccount Info)
      (address : Address), Keeps reverts address →
        undoReverts unwipe (flattenReverts order reverts) state address = undoReverts unwipe reverts state address) ∧
    (∀ (first second third : IterationOrder Address Info) (xs ys : Reverts Address Info),
      SameReverts (flattenReverts first (flattenReverts second xs ++ ys)) (flattenReverts third (xs ++ ys)) ∧
      SameReverts (flattenReverts first (xs ++ flattenReverts second ys)) (flattenReverts third (xs ++ ys))) ∧
    ∀ (order : IterationOrder Address Info) (committed : BundleState State Address Info)
      (fragments : List (IterationOrder Address Info × BundleState State Address Info)), fragments ≠ [] →
        SameReverts (BundleState.extendFlashblockBundles extension committed fragments).reverts
          (flattenReverts order (BundleState.extendAll extension committed (fragments.map Prod.snd)).reverts) := by
  refine ⟨fun order reverts => ?_, fun order reverts state address keeps => ?_, fun first second third xs ys => ?_,
    fun order committed fragments nonempty => ?_⟩
  · exact ⟨_, rfl, (order.enumerates _).nodup, mem_entries_perAccount order reverts⟩
  · rw [undoReverts_apply unwipe state (keeps.flattenReverts order), undoReverts_apply unwipe state keeps,
      perAccount_flattenReverts]
  · obtain ⟨before, after⟩ := perAccount_append_flatten second xs ys
    exact ⟨sameReverts_of_perAccount_eq first third before, sameReverts_of_perAccount_eq first third after⟩
  · obtain ⟨last, reverts, flattened⟩ := BundleState.reverts_extendFlashblockBundles extension committed nonempty
    have agrees := (BundleState.extendFlashblockBundles_agrees extension committed fragments).2
    rw [flattened, perAccount_flattenReverts] at agrees
    rw [flattened]
    exact sameReverts_of_perAccount_eq last order agrees

def sampleReverts : Reverts ℕ ℕ :=
  [[(1, ⟨.revertTo 10, Finmap.singleton 0 (.some 5), .loaded, false⟩)],
    [(1, ⟨.doNothing, (Finmap.singleton 0 (.some 7)).insert 1 .destroyed, .changed, false⟩),
      (2, ⟨.deleteIt, ∅, .loaded, true⟩)]]

theorem sampleReverts_undone (unwipe : AccountRevert ℕ → PlainAccount ℕ → PlainAccount ℕ) (state : ℕ → PlainAccount ℕ) :
    (undoReverts unwipe sampleReverts state 1).info = some 10 ∧ (undoReverts unwipe sampleReverts state 1).slots 0 = 5 ∧
      (undoReverts unwipe sampleReverts state 1).slots 1 = 0 :=
  ⟨rfl, rfl, rfl⟩

theorem flattened_sampleReverts_undone :
    let undone := undoReverts (fun _ account => account) (flattenReverts .sorted sampleReverts)
      (fun _ => ⟨some 30, fun _ => 9⟩) 1
    (∃ frame, flattenReverts .sorted sampleReverts = [frame] ∧ (frame.map Prod.fst).Perm [1, 2]) ∧
      undone.info = some 10 ∧ undone.slots 0 = 5 ∧ undone.slots 1 = 0 := by
  have keeps : Keeps sampleReverts 1 := by
    intro frame isFrame entry member is
    simp only [sampleReverts, List.mem_cons, List.not_mem_nil, or_false] at isFrame
    rcases isFrame with rfl | rfl
    · obtain rfl := List.mem_singleton.mp member
      rfl
    · rcases List.mem_cons.mp member with rfl | last
      · rfl
      · obtain rfl := List.mem_singleton.mp last
        cases is
  obtain ⟨single, undoes, _⟩ := flattenReverts_summarises (fun (_ : AccountRevert ℕ) account => account)
    (⟨fun state _ => state, fun _ next => next.reverts⟩ : BundleState.Extension Unit ℕ ℕ)
  obtain ⟨frame, is, nodup, accounts⟩ := single .sorted sampleReverts
  refine ⟨⟨frame, is, (List.perm_ext_iff_of_nodup nodup (by decide)).mpr fun address => ?_⟩, ?_⟩
  · rw [accounts]
    simp [sampleReverts]
  · rw [undoes .sorted sampleReverts (fun _ => ⟨some 30, fun _ => 9⟩) 1 keeps]
    exact sampleReverts_undone _ _

end WorldChain.Evm
