import WorldChain.Lib.Table
import WorldChain.Machine.Run
import WorldChain.Primitives.Payload

/-! # The post-state that an access list claims

`FlashblockAccessList::into_hashed_post_state` extends a committed post-state by the changes that an access list
records. Of the balance, the nonce and the code the change with the highest block access index counts. The values of
the slots come from `storage_post_states` of alloy-eip7928, a parameter here: it is trusted only for slots whose changes
are listed by ascending index, where it takes the last. On such lists, going flashblock by flashblock is going in one
step. `keccak256` is a parameter without collisions.
-/

namespace WorldChain.AccessList

open Machine Primitives Table

variable {Address Hash Error : Type}

/-! ## Access lists -/

/-- After the transaction with this index the field is `post`. -/
structure Change (Value : Type) where
  blockAccessIndex : U64
  post : Value
deriving DecidableEq

structure SlotChanges where
  slot : U256
  changes : List (Change U256)
deriving DecidableEq

/-- A sparse diff: a field that did not change has no entry. -/
structure AccountChanges (Address : Type) where
  address : Address
  storageChanges : List SlotChanges
  balanceChanges : List (Change U256)
  nonceChanges : List (Change U64)
  codeChanges : List (Change (List UInt8))
deriving DecidableEq

structure Account (Hash : Type) where
  nonce : U64
  balance : U256
  bytecodeHash : Option Hash
deriving DecidableEq

structure HashedStorage (Hash : Type) where
  wiped : Bool
  storage : Finmap fun _ : Hash => U256
deriving DecidableEq

/-- An account that is mapped to `none` is destroyed. -/
structure HashedPostState (Hash : Type) where
  accounts : Finmap fun _ : Hash => Option (Account Hash)
  storages : Finmap fun _ : Hash => HashedStorage Hash
deriving DecidableEq

namespace AccountChanges

def slots (changes : AccountChanges Address) : List U256 := changes.storageChanges.map SlotChanges.slot

/-- The changes of a slot. -/
def slotChanges (changes : AccountChanges Address) (slot : U256) : List (Change U256) :=
  (changes.storageChanges.filter (·.slot = slot)).flatMap SlotChanges.changes

/-- The changes of every slot are listed by ascending index. -/
def SlotsAscending (changes : AccountChanges Address) : Prop :=
  ∀ slot, (changes.slotChanges slot).Pairwise fun earlier later => earlier.blockAccessIndex < later.blockAccessIndex

def lastListed (changes : AccountChanges Address) : List (U256 × U256) :=
  changes.storageChanges.filterMap fun slotChanges =>
    slotChanges.changes.getLast?.map fun change => (slotChanges.slot, change.post)

end AccountChanges

/-- What other crates provide: `keccak256`, and `storage_post_states` of an account. -/
structure Upstream (Address Hash : Type) where
  hashAddress : Address → Hash
  hashSlot : U256 → Hash
  hashCode : List UInt8 → Hash
  storagePostStates : AccountChanges Address → List (U256 × U256)
  hashAddress_injective : Function.Injective hashAddress
  hashSlot_injective : Function.Injective hashSlot
  storagePostStates_eq : ∀ changes, changes.SlotsAscending → storagePostStates changes = changes.lastListed

variable [DecidableEq Address] [DecidableEq Hash] (upstream : Upstream Address Hash)

def Account.isEmpty (account : Account Hash) : Bool :=
  account.nonce = 0 ∧ account.balance = 0 ∧ account.bytecodeHash.all (· = upstream.hashCode [])

/-- The change with the highest index, of several such the last one, as `max_by_key` gives it. -/
def latestChange {Value : Type} (changes : List (Change Value)) : Option (Change Value) :=
  changes.reverse.argmax Change.blockAccessIndex

def latest {Value : Type} (changes : List (Change Value)) : Option Value := (latestChange changes).map (·.post)

/-- An account that is only read has no post-state. -/
def accountPostState (changes : AccountChanges Address) (pre : Option (Account Hash)) : Option (Account Hash) :=
  if changes.storageChanges.isEmpty ∧ changes.balanceChanges.isEmpty ∧ changes.nonceChanges.isEmpty ∧
      changes.codeChanges.isEmpty then none
  else
    some {
      nonce := ((latest changes.nonceChanges).or (pre.map (·.nonce))).getD 0
      balance := ((latest changes.balanceChanges).or (pre.map (·.balance))).getD 0
      bytecodeHash := ((latest changes.codeChanges).map upstream.hashCode).or (pre.bind (·.bytecodeHash)) }

/-- The changed slots under their hashes. -/
def AccountChanges.hashedStorage (changes : AccountChanges Address) : Finmap fun _ : Hash => U256 :=
  (upstream.storagePostStates changes).foldl (fun storage entry => storage.insert (upstream.hashSlot entry.1) entry.2) ∅

/-- Put newer slots into a storage. -/
def HashedStorage.extend (committed : HashedStorage Hash) (storage : Finmap fun _ : Hash => U256) :
    HashedStorage Hash :=
  { committed with storage := storage ∪ committed.storage }

/-- Set every slot that is there to zero. -/
def HashedStorage.clear (committed : HashedStorage Hash) : HashedStorage Hash :=
  { committed with storage := mapEntries (fun _ _ => 0) committed.storage }

def mergeStorage (storages : Finmap fun _ : Hash => HashedStorage Hash) (hashedAddress : Hash)
    (storage : Finmap fun _ : Hash => U256) : Finmap fun _ : Hash => HashedStorage Hash :=
  if storage = ∅ then storages
  else
    match storages.lookup hashedAddress with
    | some committed => storages.insert hashedAddress (committed.extend storage)
    | none => storages.insert hashedAddress ⟨false, storage⟩

def HashedPostState.enter (state : HashedPostState Hash) (hashedAddress : Hash) (account : Account Hash)
    (storage : Finmap fun _ : Hash => U256) : HashedPostState Hash :=
  let destroyed := account.isEmpty upstream
  { accounts := state.accounts.insert hashedAddress (if destroyed then none else some account)
    storages := mergeStorage (if destroyed then adjust hashedAddress HashedStorage.clear state.storages else state.storages)
      hashedAddress storage }

/-- One round of the loop. -/
def applyChanges (basicAccount : Address → Except Error (Option (Account Hash))) (state : HashedPostState Hash)
    (changes : AccountChanges Address) : Except Error (HashedPostState Hash) :=
  let hashedAddress := upstream.hashAddress changes.address
  let preState : Except Error (Option (Account Hash)) :=
    if changes.balanceChanges.isEmpty ∨ changes.nonceChanges.isEmpty ∨ changes.codeChanges.isEmpty then
      match state.accounts.lookup hashedAddress with
      | some account => .ok account
      | none => basicAccount changes.address
    else .ok none
  preState.map fun pre =>
    match accountPostState upstream changes pre with
    | none => state
    | some account => state.enter upstream hashedAddress account (changes.hashedStorage upstream)

def intoHashedPostState (accessList : FlashblockAccessList (AccountChanges Address))
    (basicAccount : Address → Except Error (Option (Account Hash))) (state : HashedPostState Hash) :
    Except Error (HashedPostState Hash) :=
  accessList.changes.foldlM (applyChanges upstream basicAccount) state

/-! ## What a list of changes does to an account -/

/-- What a post-state has of an account. -/
structure Leaf (Hash : Type) where
  account : Option (Option (Account Hash))
  storage : Option (HashedStorage Hash)

def HashedPostState.leaf (state : HashedPostState Hash) (hash : Hash) : Leaf Hash :=
  ⟨state.accounts.lookup hash, state.storages.lookup hash⟩

theorem HashedPostState.ext_leaf {first second : HashedPostState Hash}
    (same : ∀ hash, first.leaf hash = second.leaf hash) :
    first = second := by
  obtain ⟨accounts, storages⟩ := first
  obtain ⟨accounts', storages'⟩ := second
  obtain rfl : accounts = accounts' := Finmap.ext_lookup fun hash => congrArg Leaf.account (same hash)
  obtain rfl : storages = storages' := Finmap.ext_lookup fun hash => congrArg Leaf.storage (same hash)
  rfl

/-- The changes of an account, field by field; `slots` is `none` when no slot is listed. -/
structure Diff (Hash : Type) where
  nonce : Option U64
  balance : Option U256
  code : Option Hash
  slots : Option (Finmap fun _ : Hash => U256)

def extendStorage (storage : Option (HashedStorage Hash)) (slots : Finmap fun _ : Hash => U256) :
    Option (HashedStorage Hash) :=
  if slots = ∅ then storage else some (storage.elim ⟨false, slots⟩ (·.extend slots))

theorem union_ne_empty {first second : Finmap fun _ : Hash => U256} (nonempty : second ≠ ∅) : second ∪ first ≠ ∅ := by
  intro empty
  apply nonempty
  apply Finmap.ext_lookup
  intro hash
  by_contra present
  rw [Finmap.lookup_empty, ← ne_eq, Option.ne_none_iff_isSome, Finmap.lookup_isSome] at present
  have stays : hash ∈ second ∪ first := Finmap.mem_union.mpr (.inl present)
  rw [empty] at stays
  exact Finmap.notMem_empty stays

theorem extendStorage_extendStorage (storage : Option (HashedStorage Hash))
    (first second : Finmap fun _ : Hash => U256) :
    extendStorage (extendStorage storage first) second = extendStorage storage (second ∪ first) := by
  by_cases none : first = ∅
  · subst none
    simp [extendStorage]
  · by_cases none' : second = ∅
    · subst none'
      simp [extendStorage]
    · rw [extendStorage, extendStorage, extendStorage, if_neg none, if_neg none', if_neg (union_ne_empty none')]
      cases storage with
      | none => rfl
      | some committed => simp [HashedStorage.extend, Finmap.union_assoc]

namespace Diff

def writes (diff : Diff Hash) : Bool :=
  diff.nonce.isSome || diff.balance.isSome || diff.code.isSome || diff.slots.isSome

def pre (diff : Diff Hash) (parent : Option (Account Hash)) (leaf : Leaf Hash) : Option (Account Hash) :=
  if diff.nonce.isNone ∨ diff.balance.isNone ∨ diff.code.isNone then leaf.account.getD parent else none

def account (diff : Diff Hash) (parent : Option (Account Hash)) (leaf : Leaf Hash) : Account Hash where
  nonce := (diff.nonce.or ((diff.pre parent leaf).map (·.nonce))).getD 0
  balance := (diff.balance.or ((diff.pre parent leaf).map (·.balance))).getD 0
  bytecodeHash := diff.code.or ((diff.pre parent leaf).bind (·.bytecodeHash))

def apply (diff : Diff Hash) (parent : Option (Account Hash)) (leaf : Leaf Hash) : Leaf Hash :=
  if diff.writes then
    if (diff.account parent leaf).isEmpty upstream then
      ⟨some none, extendStorage (leaf.storage.map HashedStorage.clear) (diff.slots.getD ∅)⟩
    else ⟨some (some (diff.account parent leaf)), extendStorage leaf.storage (diff.slots.getD ∅)⟩
  else leaf

/-- First the one diff, then the other. -/
def comp (first second : Diff Hash) : Diff Hash where
  nonce := second.nonce.or first.nonce
  balance := second.balance.or first.balance
  code := second.code.or first.code
  slots := Option.merge (· ∪ ·) second.slots first.slots

omit [DecidableEq Address]

variable {upstream} {first second : Diff Hash} {parent : Option (Account Hash)} {leaf : Leaf Hash}

omit [DecidableEq Hash] in
theorem writes_eq_false {diff : Diff Hash} : diff.writes = false ↔ diff = ⟨none, none, none, none⟩ := by
  obtain ⟨nonce, balance, code, slots⟩ := diff
  simp [writes, and_assoc]

theorem slots_comp : (first.comp second).slots.getD ∅ = second.slots.getD ∅ ∪ first.slots.getD ∅ := by
  rw [comp]
  cases first.slots <;> cases second.slots <;> simp

theorem apply_of_not_writes (silent : first.writes = false) : first.apply upstream parent leaf = leaf := by
  rw [apply, silent, if_neg Bool.false_ne_true]

theorem apply_of_alive (writes : first.writes = true)
    (alive : (first.apply upstream parent leaf).account ≠ some none) :
    first.apply upstream parent leaf =
        ⟨some (some (first.account parent leaf)), extendStorage leaf.storage (first.slots.getD ∅)⟩ ∧
      (first.account parent leaf).isEmpty upstream = false := by
  rw [apply, if_pos writes] at alive ⊢
  cases empty : (first.account parent leaf).isEmpty upstream with
  | true =>
    rw [empty, if_pos rfl] at alive
    exact absurd rfl alive
  | false => exact ⟨if_neg Bool.false_ne_true, rfl⟩

/-- A field that the second diff omits is completed from what the first one left. -/
theorem account_comp (storage : Option (HashedStorage Hash)) :
    (first.comp second).account parent leaf =
      second.account parent ⟨some (some (first.account parent leaf)), storage⟩ := by
  rw [account, account, Account.mk.injEq]
  refine ⟨?_, ?_, ?_⟩
  · cases later : second.nonce with
    | some => simp [comp, later]
    | none => cases earlier : first.nonce <;> simp [comp, pre, account, later, earlier]
  · cases later : second.balance with
    | some => simp [comp, later]
    | none => cases earlier : first.balance <;> simp [comp, pre, account, later, earlier]
  · cases later : second.code with
    | some => simp [comp, later]
    | none => cases earlier : first.code <;> simp [comp, pre, account, later, earlier]

theorem apply_comp (alive : first.writes = true → (first.apply upstream parent leaf).account ≠ some none)
    (alive' : second.writes = true →
      (second.apply upstream parent (first.apply upstream parent leaf)).account ≠ some none) :
    (first.comp second).apply upstream parent leaf =
      second.apply upstream parent (first.apply upstream parent leaf) := by
  cases writes : first.writes with
  | false =>
    rw [apply_of_not_writes writes, writes_eq_false.mp writes]
    simp [comp]
  | true =>
    cases writes' : second.writes with
    | false =>
      rw [apply_of_not_writes writes', writes_eq_false.mp writes']
      simp [comp]
    | true =>
      obtain ⟨applied, _⟩ := apply_of_alive writes (alive writes)
      obtain ⟨applied', lives⟩ := apply_of_alive writes' (alive' writes')
      rw [applied', applied]
      rw [applied] at lives
      have both : (first.comp second).writes = true := by
        simp only [Diff.writes, comp, Bool.or_eq_true, Option.isSome_or, Option.isSome_merge] at writes ⊢
        tauto
      rw [apply, if_pos both, account_comp (extendStorage leaf.storage (first.slots.getD ∅)), lives,
        if_neg Bool.false_ne_true, slots_comp, extendStorage_extendStorage]

end Diff

/-! ## The latest change -/

section Latest

variable {Value : Type} {changes first second : List (Change Value)} {change : Change Value}

theorem latest_eq_none : latest changes = none ↔ changes = [] := by
  rw [latest, Option.map_eq_none_iff, latestChange, List.argmax_eq_none, List.reverse_eq_nil_iff]

theorem latest_isSome (changes : List (Change Value)) : (latest changes).isSome = !changes.isEmpty := by
  rw [Bool.eq_iff_iff, Option.isSome_iff_ne_none, ne_eq, latest_eq_none]
  simp

theorem latestChange_eq_some (unique : (changes.map Change.blockAccessIndex).Nodup) :
    latestChange changes = some change ↔
      change ∈ changes ∧ ∀ other ∈ changes, other.blockAccessIndex ≤ change.blockAccessIndex := by
  have highest : ∀ {found : Change Value}, latestChange changes = some found →
      found ∈ changes ∧ ∀ other ∈ changes, other.blockAccessIndex ≤ found.blockAccessIndex := by
    intro found is
    exact ⟨List.mem_reverse.mp (List.argmax_mem is), fun other member =>
      List.le_of_mem_argmax (List.mem_reverse.mpr member) is⟩
  refine ⟨highest, fun ⟨member, most⟩ => ?_⟩
  cases found : latestChange changes with
  | none =>
    rw [latestChange, List.argmax_eq_none, List.reverse_eq_nil_iff] at found
    rw [found] at member
    cases member
  | some other =>
    obtain ⟨isOther, highestOther⟩ := highest found
    have same := le_antisymm (most other isOther) (highestOther change member)
    rw [List.inj_on_of_nodup_map unique isOther member same]

theorem latest_union (union : changes.Perm (first ++ second)) (unique : (first.map Change.blockAccessIndex).Nodup)
    (unique' : (second.map Change.blockAccessIndex).Nodup)
    (later : ∀ earlier ∈ first, ∀ change ∈ second, earlier.blockAccessIndex < change.blockAccessIndex) :
    latest changes = (latest second).or (latest first) := by
  have whole : (changes.map Change.blockAccessIndex).Nodup := by
    rw [(union.map _).nodup_iff, List.map_append, List.nodup_append]
    refine ⟨unique, unique', ?_⟩
    rintro index isFirst other isSecond rfl
    obtain ⟨earlier, member, rfl⟩ := List.mem_map.mp isFirst
    obtain ⟨change, member', same⟩ := List.mem_map.mp isSecond
    exact (later earlier member change member').ne' same
  cases found : latestChange second with
  | none =>
    have empty : second = [] := latest_eq_none.mp (by rw [latest, found, Option.map_none])
    rw [empty, List.append_nil] at union
    have same : latestChange changes = latestChange first := by
      apply Option.ext
      intro change
      rw [latestChange_eq_some whole, latestChange_eq_some unique, union.mem_iff]
      simp only [union.mem_iff]
    rw [latest, latest, latest, found, same, Option.map_none, Option.none_or]
  | some change =>
    obtain ⟨member, highest⟩ := (latestChange_eq_some unique').mp found
    have same : latestChange changes = some change := by
      rw [latestChange_eq_some whole]
      refine ⟨union.mem_iff.mpr (List.mem_append_right _ member), fun other isOther => ?_⟩
      rcases List.mem_append.mp (union.mem_iff.mp isOther) with isFirst | isSecond
      · exact (later other isFirst change member).le
      · exact highest other isSecond
    rw [latest, latest, found, same, Option.map_some, Option.some_or]

end Latest

/-! ## The diff of an account's changes -/

namespace AccountChanges

/-- An account without changes. -/
def unchanged (address : Address) : AccountChanges Address := ⟨address, [], [], [], []⟩

/-- Every index at which the account has changed. -/
def indices (changes : AccountChanges Address) : List U64 :=
  changes.balanceChanges.map Change.blockAccessIndex ++ changes.nonceChanges.map Change.blockAccessIndex ++
    changes.codeChanges.map Change.blockAccessIndex ++
    changes.storageChanges.flatMap fun slotChanges => slotChanges.changes.map Change.blockAccessIndex

def diff (changes : AccountChanges Address) : Diff Hash where
  nonce := latest changes.nonceChanges
  balance := latest changes.balanceChanges
  code := (latest changes.codeChanges).map upstream.hashCode
  slots := if changes.storageChanges.isEmpty then none else some (changes.hashedStorage upstream)

/-- An account has the changes of two others, field by field and slot by slot, in any order. -/
structure IsUnion (changes first second : AccountChanges Address) : Prop where
  balance : changes.balanceChanges.Perm (first.balanceChanges ++ second.balanceChanges)
  nonce : changes.nonceChanges.Perm (first.nonceChanges ++ second.nonceChanges)
  code : changes.codeChanges.Perm (first.codeChanges ++ second.codeChanges)
  slots : ∀ slot, slot ∈ changes.slots ↔ slot ∈ first.slots ∨ slot ∈ second.slots
  storage : ∀ slot, (changes.slotChanges slot).Perm (first.slotChanges slot ++ second.slotChanges slot)

/-- No two changes of the balance, the nonce or the code have the same index. -/
structure UniqueIndices (changes : AccountChanges Address) : Prop where
  balance : (changes.balanceChanges.map Change.blockAccessIndex).Nodup
  nonce : (changes.nonceChanges.map Change.blockAccessIndex).Nodup
  code : (changes.codeChanges.map Change.blockAccessIndex).Nodup

omit [DecidableEq Address]

variable {upstream} {changes first second : AccountChanges Address} {slot : U256}

/-- Entering the last listed values one after the other leaves of each slot the last one of all. -/
theorem lookup_foldl_lastListed (listed : List SlotChanges) (storage : Finmap fun _ : Hash => U256) (hash : Hash) :
    ((listed.filterMap fun slotChanges =>
        slotChanges.changes.getLast?.map fun change => (slotChanges.slot, change.post)).foldl
      (fun storage entry => storage.insert (upstream.hashSlot entry.1) entry.2) storage).lookup hash =
    (((listed.filter (upstream.hashSlot ·.slot = hash)).flatMap SlotChanges.changes).getLast?.map (·.post)).or
      (storage.lookup hash) := by
  induction listed generalizing storage with
  | nil => simp
  | cons slotChanges rest ih =>
    rw [List.filterMap_cons]
    cases last : slotChanges.changes.getLast? with
    | none =>
      rw [List.getLast?_eq_none_iff] at last
      rw [Option.map_none, ih, List.filter_cons]
      split <;> simp [last]
    | some change =>
      rw [Option.map_some, List.foldl_cons, ih, List.filter_cons]
      by_cases is : upstream.hashSlot slotChanges.slot = hash
      · subst is
        simp [List.getLast?_append, last]
      · simp [is, Finmap.lookup_insert_of_ne _ (Ne.symm is)]

theorem lookup_hashedStorage (ascending : changes.SlotsAscending) (slot : U256) :
    (changes.hashedStorage upstream).lookup (upstream.hashSlot slot) =
      (changes.slotChanges slot).getLast?.map (·.post) := by
  rw [hashedStorage, upstream.storagePostStates_eq _ ascending, lastListed, lookup_foldl_lastListed, slotChanges]
  simp [upstream.hashSlot_injective.eq_iff]

theorem lookup_hashedStorage_of_ne {hash : Hash} (ascending : changes.SlotsAscending)
    (unhashed : ∀ slot, upstream.hashSlot slot ≠ hash) : (changes.hashedStorage upstream).lookup hash = none := by
  rw [hashedStorage, upstream.storagePostStates_eq _ ascending, lastListed, lookup_foldl_lastListed]
  simp [unhashed]

theorem hashedStorage_of_isEmpty (ascending : changes.SlotsAscending) (none : changes.storageChanges.isEmpty = true) :
    changes.hashedStorage upstream = ∅ := by
  rw [hashedStorage, upstream.storagePostStates_eq _ ascending, lastListed, List.isEmpty_iff.mp none]
  rfl

theorem getD_slots_diff (ascending : changes.SlotsAscending) :
    (changes.diff upstream).slots.getD ∅ = changes.hashedStorage upstream := by
  rw [diff]
  cases none : changes.storageChanges.isEmpty with
  | true => simp [hashedStorage_of_isEmpty ascending none]
  | false => simp

theorem mem_indices {index : U64} : index ∈ changes.indices ↔
    (∃ change ∈ changes.balanceChanges, change.blockAccessIndex = index) ∨
    (∃ change ∈ changes.nonceChanges, change.blockAccessIndex = index) ∨
    (∃ change ∈ changes.codeChanges, change.blockAccessIndex = index) ∨
    ∃ slotChanges ∈ changes.storageChanges, ∃ change ∈ slotChanges.changes, change.blockAccessIndex = index := by
  simp [indices]

theorem mem_indices_of_mem_slotChanges {change : Change U256} (member : change ∈ changes.slotChanges slot) :
    change.blockAccessIndex ∈ changes.indices := by
  obtain ⟨slotChanges, listed, member⟩ := List.mem_flatMap.mp member
  exact mem_indices.mpr (.inr (.inr (.inr ⟨slotChanges, List.mem_of_mem_filter listed, change, member, rfl⟩)))

section Union

variable (union : changes.IsUnion first second) (ascending : changes.SlotsAscending)
  (ascendingFirst : first.SlotsAscending) (ascendingSecond : second.SlotsAscending)
  (later : ∀ earlier ∈ first.indices, ∀ index ∈ second.indices, earlier < index)

include union ascending ascendingFirst ascendingSecond later

/-- Both sides are ascending, so the union is the one list and then the other. -/
theorem slotChanges_union (slot : U256) :
    changes.slotChanges slot = first.slotChanges slot ++ second.slotChanges slot := by
  apply (union.storage slot).eq_of_pairwise _ (ascending slot)
  · refine List.pairwise_append.mpr ⟨ascendingFirst slot,
      ascendingSecond slot, fun earlier isFirst change isSecond => ?_⟩
    exact later _ (mem_indices_of_mem_slotChanges isFirst) _ (mem_indices_of_mem_slotChanges isSecond)
  · intro change other _ _ before after
    exact absurd before after.asymm

theorem hashedStorage_union :
    changes.hashedStorage upstream = second.hashedStorage upstream ∪ first.hashedStorage upstream := by
  apply Finmap.ext_lookup
  intro hash
  have merged : (second.hashedStorage upstream ∪ first.hashedStorage upstream).lookup hash =
      ((second.hashedStorage upstream).lookup hash).or ((first.hashedStorage upstream).lookup hash) := by
    by_cases held : hash ∈ second.hashedStorage upstream
    · obtain ⟨value, found⟩ := Finmap.mem_iff.mp held
      rw [Finmap.lookup_union_left held, found, Option.some_or]
    · rw [Finmap.lookup_union_right held, Finmap.lookup_eq_none.mpr held, Option.none_or]
  rw [merged]
  by_cases isSlot : ∃ slot, upstream.hashSlot slot = hash
  · obtain ⟨slot, rfl⟩ := isSlot
    rw [lookup_hashedStorage ascending, lookup_hashedStorage ascendingFirst, lookup_hashedStorage ascendingSecond,
      slotChanges_union union ascending ascendingFirst ascendingSecond later, List.getLast?_append, Option.map_or]
  · push Not at isSlot
    rw [lookup_hashedStorage_of_ne ascending isSlot, lookup_hashedStorage_of_ne ascendingFirst isSlot,
      lookup_hashedStorage_of_ne ascendingSecond isSlot, Option.none_or]

omit ascending ascendingFirst ascendingSecond later in
theorem storageChanges_union :
    changes.storageChanges.isEmpty = (first.storageChanges.isEmpty && second.storageChanges.isEmpty) := by
  have named : ∀ account : AccountChanges Address, account.storageChanges.isEmpty = true ↔
      ∀ slot, slot ∉ account.slots := by
    intro account
    rw [slots, List.isEmpty_iff, ← List.map_eq_nil_iff (f := SlotChanges.slot), List.eq_nil_iff_forall_not_mem]
  rw [Bool.eq_iff_iff, Bool.and_eq_true, named, named, named]
  simp only [union.slots, not_or, forall_and]

theorem diff_union (unique : first.UniqueIndices) (unique' : second.UniqueIndices) :
    changes.diff upstream = (first.diff upstream).comp (second.diff upstream) := by
  rw [diff, Diff.comp, Diff.mk.injEq]
  refine ⟨?_, ?_, ?_, ?_⟩
  · refine latest_union union.nonce unique.nonce unique'.nonce fun earlier isFirst change isSecond => later _ ?_ _ ?_
    · exact mem_indices.mpr (.inr (.inl ⟨earlier, isFirst, rfl⟩))
    · exact mem_indices.mpr (.inr (.inl ⟨change, isSecond, rfl⟩))
  · refine latest_union union.balance unique.balance unique'.balance
      fun earlier isFirst change isSecond => later _ ?_ _ ?_
    · exact mem_indices.mpr (.inl ⟨earlier, isFirst, rfl⟩)
    · exact mem_indices.mpr (.inl ⟨change, isSecond, rfl⟩)
  · rw [latest_union union.code unique.code unique'.code fun earlier isFirst change isSecond => later _ ?_ _ ?_,
      Option.map_or]
    · rfl
    · exact mem_indices.mpr (.inr (.inr (.inl ⟨earlier, isFirst, rfl⟩)))
    · exact mem_indices.mpr (.inr (.inr (.inl ⟨change, isSecond, rfl⟩)))
  · rw [hashedStorage_union union ascending ascendingFirst ascendingSecond later, storageChanges_union union]
    have silent : ∀ {account : AccountChanges Address}, account.SlotsAscending →
        account.storageChanges.isEmpty = true → account.hashedStorage upstream = ∅ := hashedStorage_of_isEmpty
    cases none : first.storageChanges.isEmpty <;> cases none' : second.storageChanges.isEmpty <;>
      simp_all [diff]

end Union

theorem writes_diff : (changes.diff upstream).writes = true ↔
    ¬ (changes.storageChanges.isEmpty ∧ changes.balanceChanges.isEmpty ∧
    changes.nonceChanges.isEmpty ∧ changes.codeChanges.isEmpty) := by
  have named : (changes.diff upstream).slots.isSome = !changes.storageChanges.isEmpty := by
    rw [diff]
    cases changes.storageChanges.isEmpty <;> rfl
  rw [Diff.writes, named]
  simp only [diff, Option.isSome_map, latest_isSome, Bool.or_eq_true, Bool.not_eq_true']
  grind

theorem accountPostState_eq (parent : Option (Account Hash)) (leaf : Leaf Hash) :
    accountPostState upstream changes ((changes.diff upstream).pre parent leaf) =
      if (changes.diff upstream).writes then some ((changes.diff upstream).account parent leaf) else none := by
  rw [accountPostState]
  by_cases silent : changes.storageChanges.isEmpty ∧ changes.balanceChanges.isEmpty ∧ changes.nonceChanges.isEmpty ∧
      changes.codeChanges.isEmpty
  · rw [if_pos silent, if_neg (by rw [writes_diff]; exact not_not_intro silent)]
  · rw [if_neg silent, if_pos (writes_diff.mpr silent)]
    rfl

theorem pre_diff (parent : Option (Account Hash)) (leaf : Leaf Hash) :
    (changes.diff upstream).pre parent leaf =
      if changes.balanceChanges.isEmpty ∨ changes.nonceChanges.isEmpty ∨ changes.codeChanges.isEmpty then
        leaf.account.getD parent else none := by
  have missing : ∀ {Value : Type} (listed : List (Change Value)), (latest listed).isNone = listed.isEmpty := by
    intro Value listed
    rw [← Option.not_isSome, latest_isSome, Bool.not_not]
  simp only [Diff.pre, diff, Option.isNone_map, missing]
  congr 1
  grind

end AccountChanges

/-! ## The loop -/

section Loop

variable {upstream}

theorem lookup_mergeStorage (storages : Finmap fun _ : Hash => HashedStorage Hash) (own hash : Hash)
    (storage : Finmap fun _ : Hash => U256) : (mergeStorage storages own storage).lookup hash =
      if hash = own then extendStorage (storages.lookup own) storage else storages.lookup hash := by
  by_cases empty : storage = ∅
  · rw [mergeStorage, if_pos empty, extendStorage, if_pos empty]
    split
    · next same => rw [same]
    · rfl
  · rw [mergeStorage, if_neg empty, extendStorage, if_neg empty]
    by_cases same : hash = own
    · subst same
      cases held : storages.lookup hash <;> simp
    · cases held : storages.lookup own <;> simp [Finmap.lookup_insert_of_ne _ same, same]

omit [DecidableEq Address] in
theorem leaf_enter (state : HashedPostState Hash) (own hash : Hash) (account : Account Hash)
    (storage : Finmap fun _ : Hash => U256) : (state.enter upstream own account storage).leaf hash =
      if hash = own then
        if account.isEmpty upstream then
          ⟨some none, extendStorage ((state.leaf own).storage.map HashedStorage.clear) storage⟩
        else ⟨some (some account), extendStorage (state.leaf own).storage storage⟩
      else state.leaf hash := by
  rw [HashedPostState.leaf, HashedPostState.enter]
  dsimp only
  rw [lookup_mergeStorage]
  by_cases same : hash = own
  · subst same
    cases account.isEmpty upstream <;> simp [HashedPostState.leaf]
  · rw [if_neg same, if_neg same, Finmap.lookup_insert_of_ne _ same]
    cases account.isEmpty upstream <;> simp [HashedPostState.leaf, lookup_adjust_of_ne same]

omit [DecidableEq Address] in
theorem applyChanges_leaf (parent : Address → Option (Account Hash)) (state : HashedPostState Hash)
    (changes : AccountChanges Address) (ascending : changes.SlotsAscending) :
    ∃ after, applyChanges upstream (fun address => (.ok (parent address) : Except Error _)) state changes = .ok after ∧
      ∀ hash, after.leaf hash = if hash = upstream.hashAddress changes.address then
        (changes.diff upstream).apply upstream (parent changes.address) (state.leaf hash) else state.leaf hash := by
  have read : (if changes.balanceChanges.isEmpty ∨ changes.nonceChanges.isEmpty ∨ changes.codeChanges.isEmpty then
        match state.accounts.lookup (upstream.hashAddress changes.address) with
        | some account => .ok account
        | none => .ok (parent changes.address)
      else .ok none : Except Error _) =
      .ok ((changes.diff upstream).pre (parent changes.address) (state.leaf (upstream.hashAddress changes.address))) := by
    rw [AccountChanges.pre_diff]
    split
    · cases held : state.accounts.lookup (upstream.hashAddress changes.address) <;> simp [HashedPostState.leaf, held]
    · rfl
  rw [applyChanges, read]
  refine ⟨_, rfl, fun hash => ?_⟩
  beta_reduce
  rw [AccountChanges.accountPostState_eq]
  cases writes : (changes.diff upstream).writes with
  | false =>
    rw [Diff.apply_of_not_writes writes]
    simp
  | true =>
    rw [if_pos rfl, leaf_enter]
    split
    · next same =>
      subst same
      rw [Diff.apply, if_pos writes, AccountChanges.getD_slots_diff ascending]
    · rfl

/-- What a list has of an account. -/
def changesAt (listed : List (AccountChanges Address)) (address : Address) : AccountChanges Address :=
  (listed.find? (·.address = address)).getD (.unchanged address)

theorem changesAt_mem {listed : List (AccountChanges Address)} {address : Address}
    (writes : ((changesAt listed address).diff upstream).writes = true) :
    changesAt listed address ∈ listed ∧ (changesAt listed address).address = address := by
  rw [changesAt] at writes ⊢
  cases found : listed.find? (·.address = address) with
  | none =>
    rw [found] at writes
    simp [AccountChanges.writes_diff, AccountChanges.unchanged] at writes
  | some changes =>
    exact ⟨List.mem_of_find?_eq_some found, by simpa using List.find?_some found⟩

theorem changesAt_of_notMem {listed : List (AccountChanges Address)} {address : Address}
    (absent : address ∉ listed.map AccountChanges.address) : changesAt listed address = .unchanged address := by
  have missing : listed.find? (·.address = address) = none := by
    rw [List.find?_eq_none]
    intro changes member is
    exact absent (List.mem_map.mpr ⟨changes, member, by simpa using is⟩)
  rw [changesAt, missing, Option.getD_none]

omit [DecidableEq Address] in
theorem apply_unchanged (address : Address) (parent : Option (Account Hash)) (leaf : Leaf Hash) :
    ((AccountChanges.unchanged address).diff upstream).apply upstream parent leaf = leaf := by
  apply Diff.apply_of_not_writes
  rw [Bool.eq_false_iff, ne_eq, AccountChanges.writes_diff]
  simp [AccountChanges.unchanged]

theorem foldlM_applyChanges_leaf (parent : Address → Option (Account Hash)) (listed : List (AccountChanges Address))
    (distinct : (listed.map AccountChanges.address).Nodup) (ascending : ∀ changes ∈ listed, changes.SlotsAscending)
    (state : HashedPostState Hash) :
    ∃ after,
      listed.foldlM (applyChanges upstream fun address => (.ok (parent address) : Except Error _)) state = .ok after ∧
      (∀ address, after.leaf (upstream.hashAddress address) =
        ((changesAt listed address).diff upstream).apply upstream (parent address) (state.leaf (upstream.hashAddress address))) ∧
      ∀ hash, (∀ address, upstream.hashAddress address ≠ hash) → after.leaf hash = state.leaf hash := by
  induction listed generalizing state with
  | nil => exact ⟨state, rfl, fun address => (apply_unchanged address _ _).symm, fun _ _ => rfl⟩
  | cons changes rest ih =>
    rw [List.map_cons, List.nodup_cons] at distinct
    rw [List.forall_mem_cons] at ascending
    obtain ⟨middle, applied, leaves⟩ := applyChanges_leaf parent state changes ascending.1
    obtain ⟨after, folded, own, others⟩ := ih distinct.2 ascending.2 middle
    refine ⟨after, ?_, fun address => ?_, fun hash unhashed => ?_⟩
    · rw [List.foldlM_cons, applied]
      exact folded
    · rw [own, leaves]
      by_cases same : address = changes.address
      · subst same
        rw [if_pos rfl, changesAt_of_notMem distinct.1, apply_unchanged, changesAt, List.find?_cons_of_pos (by simp)]
        rfl
      · rw [if_neg fun hashes => same (upstream.hashAddress_injective hashes), changesAt, changesAt,
          List.find?_cons_of_neg (by simpa using Ne.symm same)]
    · rw [others hash unhashed, leaves, if_neg (Ne.symm (unhashed changes.address))]

end Loop

/-! ## Flashblock by flashblock -/

/-- A list names an account at most once and lists the changes of a slot by ascending index. -/
structure Ordered (accessList : FlashblockAccessList (AccountChanges Address)) : Prop where
  accounts : (accessList.changes.map AccountChanges.address).Nodup
  slots : ∀ changes ∈ accessList.changes, changes.SlotsAscending

/-- Besides, the changes of a field have different indices. -/
structure WellFormed (accessList : FlashblockAccessList (AccountChanges Address)) : Prop
    extends Ordered accessList where
  indices : ∀ changes ∈ accessList.changes, changes.UniqueIndices

/-- A list has for each account the changes of two others, in any order. -/
def IsUnion (accessList first second : FlashblockAccessList (AccountChanges Address)) : Prop :=
  ∀ address, (changesAt accessList.changes address).IsUnion (changesAt first.changes address)
    (changesAt second.changes address)

def indices (accessList : FlashblockAccessList (AccountChanges Address)) : List U64 :=
  accessList.changes.flatMap AccountChanges.indices

/-- No account that a list changes is empty afterwards. -/
def LeavesNoneEmpty (accessList : FlashblockAccessList (AccountChanges Address))
    (after : HashedPostState Hash) : Prop :=
  ∀ changes ∈ accessList.changes, (changes.diff upstream).writes = true →
    after.accounts.lookup (upstream.hashAddress changes.address) ≠ some none

instance (accessList : FlashblockAccessList (AccountChanges Address)) (after : HashedPostState Hash) :
    Decidable (LeavesNoneEmpty upstream accessList after) :=
  inferInstanceAs (Decidable (∀ changes ∈ accessList.changes, _ → _))

section

variable {upstream} {accessList first second : FlashblockAccessList (AccountChanges Address)}

theorem changesAt_cases (listed : List (AccountChanges Address)) (address : Address) :
    changesAt listed address ∈ listed ∨ changesAt listed address = .unchanged address := by
  rw [changesAt]
  cases found : listed.find? (·.address = address) with
  | none => exact .inr rfl
  | some changes => exact .inl (List.mem_of_find?_eq_some found)

theorem Ordered.slots_changesAt (ordered : Ordered accessList) (address : Address) :
    (changesAt accessList.changes address).SlotsAscending := by
  rcases changesAt_cases accessList.changes address with member | unchanged
  · exact ordered.slots _ member
  · rw [unchanged]
    exact fun _ => List.Pairwise.nil

theorem WellFormed.indices_changesAt (wellFormed : WellFormed accessList) (address : Address) :
    (changesAt accessList.changes address).UniqueIndices := by
  rcases changesAt_cases accessList.changes address with member | unchanged
  · exact wellFormed.indices _ member
  · rw [unchanged]
    exact ⟨List.nodup_nil, List.nodup_nil, List.nodup_nil⟩

theorem mem_indices_of_changesAt {address : Address} {index : U64}
    (listed : index ∈ (changesAt accessList.changes address).indices) : index ∈ indices accessList := by
  rcases changesAt_cases accessList.changes address with member | unchanged
  · exact List.mem_flatMap.mpr ⟨_, member, listed⟩
  · rw [unchanged] at listed
    cases listed

theorem LeavesNoneEmpty.leaf {after : HashedPostState Hash} (alive : LeavesNoneEmpty upstream accessList after)
    {address : Address} (writes : ((changesAt accessList.changes address).diff upstream).writes = true) :
    (after.leaf (upstream.hashAddress address)).account ≠ some none := by
  obtain ⟨member, is⟩ := changesAt_mem writes
  have lives := alive _ member writes
  rwa [is] at lives

end

/-- Predicting the state by one access list and then the next is predicting it by their union, when the indices of the
second are higher, no account is left empty and every list has the changes of a slot in the order of their indices. -/
theorem postState_of_union (Failure : Type) (parent : Address → Option (Account Hash))
    (committed : HashedPostState Hash)
    (first second accessList : FlashblockAccessList (AccountChanges Address)) (wellFormed : WellFormed first)
    (wellFormed' : WellFormed second) (ordered : Ordered accessList) (union : IsUnion accessList first second)
    (later : ∀ earlier ∈ indices first, ∀ index ∈ indices second, earlier < index) :
    ∃ middle after,
      intoHashedPostState upstream first (fun address => (.ok (parent address) : Except Failure _)) committed =
        .ok middle ∧
      intoHashedPostState upstream second (fun address => (.ok (parent address) : Except Failure _)) middle =
        .ok after ∧
      (LeavesNoneEmpty upstream first middle → LeavesNoneEmpty upstream second after →
        intoHashedPostState upstream accessList (fun address => (.ok (parent address) : Except Failure _)) committed =
          .ok after) := by
  obtain ⟨middle, reached, own, others⟩ :=
    foldlM_applyChanges_leaf parent first.changes wellFormed.accounts wellFormed.slots committed
  obtain ⟨after, reached', own', others'⟩ :=
    foldlM_applyChanges_leaf parent second.changes wellFormed'.accounts wellFormed'.slots middle
  obtain ⟨atOnce, reachedAtOnce, ownAtOnce, othersAtOnce⟩ :=
    foldlM_applyChanges_leaf parent accessList.changes ordered.accounts ordered.slots committed
  refine ⟨middle, after, reached, reached', fun alive alive' => ?_⟩
  rw [intoHashedPostState, reachedAtOnce]
  congr 1
  apply HashedPostState.ext_leaf
  intro hash
  by_cases isAddress : ∃ address, upstream.hashAddress address = hash
  · obtain ⟨address, rfl⟩ := isAddress
    rw [ownAtOnce, own', own, AccountChanges.diff_union (union address) (ordered.slots_changesAt address)
      (wellFormed.slots_changesAt address) (wellFormed'.slots_changesAt address)
      (fun earlier isFirst index isSecond =>
        later earlier (mem_indices_of_changesAt isFirst) index (mem_indices_of_changesAt isSecond))
      (wellFormed.indices_changesAt address) (wellFormed'.indices_changesAt address)]
    apply Diff.apply_comp
    · intro writes
      rw [← own]
      exact alive.leaf writes
    · intro writes
      rw [← own, ← own']
      exact alive'.leaf writes
  · push Not at isAddress
    rw [othersAtOnce hash isAddress, others' hash isAddress, others hash isAddress]

section Sample

def sampleUpstream : Upstream U256 U256 where
  hashAddress := id
  hashSlot := id
  hashCode data := Fin.ofNat _ data.length
  storagePostStates := AccountChanges.lastListed
  hashAddress_injective := Function.injective_id
  hashSlot_injective := Function.injective_id
  storagePostStates_eq _ _ := rfl

def sampleFirst : FlashblockAccessList (AccountChanges U256) := ⟨[⟨7, [⟨3, [⟨1, 4⟩]⟩], [⟨1, 5⟩], [⟨1, 1⟩], []⟩], 0, 1⟩

def sampleSecond : FlashblockAccessList (AccountChanges U256) := ⟨[⟨7, [⟨3, [⟨2, 6⟩]⟩], [⟨2, 9⟩], [], []⟩], 2, 2⟩

def sampleUnion (slot : List (Change U256)) : FlashblockAccessList (AccountChanges U256) :=
  ⟨[⟨7, [⟨3, slot⟩], [⟨2, 9⟩, ⟨1, 5⟩], [⟨1, 1⟩], []⟩], 0, 2⟩

def samplePostState (balance slot : U256) : HashedPostState U256 :=
  ⟨Finmap.singleton 7 (some ⟨1, balance, none⟩), Finmap.singleton 7 ⟨false, Finmap.singleton 3 slot⟩⟩

/-- When the union lists the later change of the slot first, `storage_post_states` takes the earlier one. Two changes of
a balance with one index are decided by their position. -/
theorem postState_depends_on_order :
    let read : U256 → Except Unit (Option (Account U256)) := fun _ => .ok none
    let balances := fun listed => (⟨[⟨7, [⟨3, [⟨1, 6⟩]⟩], listed, [⟨1, 1⟩], []⟩], 0, 1⟩ : FlashblockAccessList _)
    intoHashedPostState sampleUpstream sampleFirst read ⟨∅, ∅⟩ = .ok (samplePostState 5 4) ∧
    intoHashedPostState sampleUpstream sampleSecond read (samplePostState 5 4) = .ok (samplePostState 9 6) ∧
    intoHashedPostState sampleUpstream (sampleUnion [⟨2, 6⟩, ⟨1, 4⟩]) read ⟨∅, ∅⟩ = .ok (samplePostState 9 4) ∧
    intoHashedPostState sampleUpstream (balances [⟨1, 5⟩, ⟨1, 8⟩]) read ⟨∅, ∅⟩ = .ok (samplePostState 8 6) ∧
    intoHashedPostState sampleUpstream (balances [⟨1, 8⟩, ⟨1, 5⟩]) read ⟨∅, ∅⟩ = .ok (samplePostState 5 6) := by
  decide +kernel

theorem isUnion_sampleUnion : IsUnion (sampleUnion [⟨1, 4⟩, ⟨2, 6⟩]) sampleFirst sampleSecond := by
  intro address
  by_cases is : 7 = address
  · subst is
    refine ⟨List.Perm.swap _ _ _, List.Perm.refl _, List.Perm.refl _, fun slot => ?_, fun slot => ?_⟩
    · exact ⟨.inl, fun either => either.elim id id⟩
    · by_cases named : 3 = slot
      · subst named
        exact List.Perm.refl _
      · simp [changesAt, AccountChanges.slotChanges, sampleUnion, sampleFirst, sampleSecond, named]
  · have unchanged : ∀ account : AccountChanges U256, account.address = 7 →
        changesAt [account] address = .unchanged address := by
      intro account named
      apply changesAt_of_notMem
      simpa [named] using Ne.symm is
    rw [sampleUnion, sampleFirst, sampleSecond, unchanged _ rfl, unchanged _ rfl, unchanged _ rfl]
    exact ⟨List.Perm.nil, List.Perm.nil, List.Perm.nil, fun slot => (or_self_iff (a := slot ∈ _)).symm,
      fun slot => List.Perm.nil⟩

theorem postState_of_sampleUnion :
    intoHashedPostState sampleUpstream (sampleUnion [⟨1, 4⟩, ⟨2, 6⟩]) (fun _ => (.ok none : Except Unit _)) ⟨∅, ∅⟩ =
      .ok (samplePostState 9 6) := by
  have unique : ∀ account ∈ sampleFirst.changes ++ sampleSecond.changes, account.UniqueIndices := by
    intro account member
    simp only [sampleFirst, sampleSecond, List.cons_append, List.nil_append, List.mem_cons, List.not_mem_nil,
      or_false] at member
    rcases member with rfl | rfl
    · exact ⟨by decide, by decide, by decide⟩
    · exact ⟨by decide, by decide, by decide⟩
  have later : ∀ earlier ∈ indices sampleFirst, ∀ index ∈ indices sampleSecond, earlier < index := by
    intro earlier isFirst index isSecond
    obtain rfl : earlier = 1 := by simpa [indices, AccountChanges.indices, sampleFirst] using isFirst
    obtain rfl : index = 2 := by simpa [indices, AccountChanges.indices, sampleSecond] using isSecond
    exact Fin.lt_def.mpr (by decide +kernel)
  have ascending : ∀ accessList ∈ [sampleFirst, sampleSecond, sampleUnion [⟨1, 4⟩, ⟨2, 6⟩]],
      ∀ account ∈ accessList.changes, account.SlotsAscending := by
    have before : (1 : U64) < 2 := Fin.lt_def.mpr (by decide +kernel)
    simp only [sampleFirst, sampleSecond, sampleUnion, AccountChanges.SlotsAscending, AccountChanges.slotChanges,
      List.filter_cons, List.forall_mem_cons]
    refine ⟨⟨fun slot => ?_, by simp⟩, ⟨fun slot => ?_, by simp⟩, ⟨fun slot => ?_, by simp⟩, by simp⟩ <;>
      split <;> simp [before]
  obtain ⟨middle, after, first, second, composes⟩ := postState_of_union sampleUpstream Unit (fun _ => none) ⟨∅, ∅⟩
    sampleFirst sampleSecond (sampleUnion [⟨1, 4⟩, ⟨2, 6⟩])
    ⟨⟨by decide, ascending _ (by simp)⟩, fun account member => unique account (List.mem_append_left _ member)⟩
    ⟨⟨by decide, ascending _ (by simp)⟩, fun account member => unique account (List.mem_append_right _ member)⟩
    ⟨by decide, ascending _ (by simp)⟩ isUnion_sampleUnion later
  obtain rfl : middle = samplePostState 5 4 := Except.ok.inj (first.symm.trans (by decide +kernel))
  obtain rfl : after = samplePostState 9 6 := Except.ok.inj (second.symm.trans (by decide +kernel))
  exact composes (by decide +kernel) (by decide +kernel)

end Sample

end WorldChain.AccessList
