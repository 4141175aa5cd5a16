import WorldChain.Lib.Ledger
import WorldChain.Rpc.Inspector

/-! # The ether a simulation reports

Ether moves with the value of a call, with the endowment of a creation and with a self-destruct; a frame that does not
end well undoes what moved in it. The inspector only notes the values of calls.
-/

namespace WorldChain.Rpc

open Dispute (Address Bytes)

inductive AssetType
  | native
  | erc20
  | erc721
  | erc1155
deriving DecidableEq, Repr

structure AssetInfo where
  address : Address
  symbol : String
  name : String
  decimals : ℕ
  assetType : AssetType
deriving DecidableEq, Repr

structure AssetChange where
  changeType : AssetType
  sender : Address
  recipient : Address
  rawAmount : String
  tokenId : Option String
  asset : AssetInfo
deriving DecidableEq, Repr

def NativeTransfer.assetChange (transfer : NativeTransfer) : AssetChange :=
  { changeType := .native
    sender := transfer.sender
    recipient := transfer.recipient
    rawAmount := toString transfer.value.toNat
    tokenId := none
    asset := { address := 0, symbol := "ETH", name := "Ether", decimals := 18, assetType := .native } }

/-- The list is drained. -/
def SimulationInspector.takeNativeAssetChanges (inspector : SimulationInspector) :
    List AssetChange × SimulationInspector :=
  (inspector.nativeTransfers.map NativeTransfer.assetChange, { inspector with nativeTransfers := [] })

/-! ## Movements of ether -/

structure Movement where
  sender : Address
  recipient : Address
  amount : ℕ
deriving DecidableEq, Repr

def NativeTransfer.movement (transfer : NativeTransfer) : Movement :=
  ⟨transfer.sender, transfer.recipient, transfer.value.toNat⟩

def AssetChange.movement (change : AssetChange) : Movement :=
  ⟨change.sender, change.recipient, change.rawAmount.toNat?.getD 0⟩

def received (account : Address) (movements : List Movement) : ℕ :=
  ((movements.filter (·.recipient = account)).map Movement.amount).sum

def sent (account : Address) (movements : List Movement) : ℕ :=
  ((movements.filter (·.sender = account)).map Movement.amount).sum

def net (account : Address) (movements : List Movement) : ℤ := received account movements - sent account movements

/-- The movement of an event that the list shows. -/
def Event.listed : Event → Option Movement
  | callValue transfer => some transfer.movement
  | _ => none

def Event.unlisted : Event → Option Movement
  | endowment transfer => some transfer.movement
  | destruction contract target value => some ⟨contract, target, value.toNat⟩
  | _ => none

/-! ## Balances -/

open Ledger in
/-- A movement that its sender can pay. -/
def pay (balances : Address → ℕ) (movement : Movement) : Option (Address → ℕ) :=
  if movement.amount ≤ balances movement.sender then
    some (credit (debit balances movement.sender movement.amount) movement.recipient movement.amount)
  else none

namespace Activity

mutual

/-- The balances after an execution: a frame that fails leaves them as they were, and what cannot be paid does not
happen. A contract destroys itself with all that it has. -/
def execute (balances : Address → ℕ) : Activity → Option (Address → ℕ)
  | call _ inputs body outcome =>
    if outcome.result.isOk then
      match inputs.transfer with
      | some transfer => (pay balances transfer.movement).bind fun entered => executeAll entered body
      | none => executeAll balances body
    else some balances
  | create inputs body outcome =>
    if outcome.result.isOk then
      outcome.address.bind fun address =>
        (pay balances ⟨inputs.caller, address, inputs.value.toNat⟩).bind fun entered => executeAll entered body
    else some balances
  | selfdestruct contract target value =>
    if value.toNat = balances contract ∧ target ≠ contract then pay balances ⟨contract, target, value.toNat⟩ else none

def executeAll (balances : Address → ℕ) : List Activity → Option (Address → ℕ)
  | [] => some balances
  | first :: rest => (first.execute balances).bind fun middle => executeAll middle rest

end

end Activity

/-! ## What the balances change by -/

section Net

variable {account : Address} {before after : Address → ℕ}

@[simp] theorem net_nil (account : Address) : net account [] = 0 := rfl

@[simp] theorem net_append (account : Address) (first second : List Movement) :
    net account (first ++ second) = net account first + net account second := by
  simp only [net, received, sent, List.filter_append, List.map_append, List.sum_append, Nat.cast_add]
  ring

theorem net_cons (account : Address) (movement : Movement) (rest : List Movement) :
    net account (movement :: rest) = net account [movement] + net account rest := net_append account [movement] rest

theorem net_singleton (account : Address) (movement : Movement) :
    net account [movement] =
      (if movement.recipient = account then (movement.amount : ℤ) else 0) -
        if movement.sender = account then (movement.amount : ℤ) else 0 := by
  by_cases receives : movement.recipient = account <;> by_cases sends : movement.sender = account <;>
    simp [net, received, sent, receives, sends]

theorem pay_eq_some {movement : Movement} (paid : pay before movement = some after) (account : Address) :
    (after account : ℤ) = before account + net account [movement] := by
  rw [pay] at paid
  split at paid
  · next covered =>
    cases paid
    rw [net_singleton, Ledger.credit_apply, Ledger.debit, Function.update_apply]
    by_cases sends : account = movement.sender <;> by_cases receives : account = movement.recipient <;>
      grind
  · cases paid

def moved (account : Address) (events : List Event) : ℤ :=
  net account (events.filterMap Event.listed) + net account (events.filterMap Event.unlisted)

@[simp] theorem moved_append (account : Address) (first second : List Event) :
    moved account (first ++ second) = moved account first + moved account second := by
  simp only [moved, List.filterMap_append, net_append]
  ring

@[simp] theorem moved_nil (account : Address) : moved account [] = 0 := rfl

@[simp] theorem moved_callValue (account : Address) (transfer : NativeTransfer) :
    moved account [.callValue transfer] = net account [transfer.movement] := add_zero _

@[simp] theorem moved_endowment (account : Address) (transfer : NativeTransfer) :
    moved account [.endowment transfer] = net account [transfer.movement] := zero_add _

@[simp] theorem moved_creation (account : Address) (creation : ContractCreation) :
    moved account [.creation creation] = 0 := rfl

@[simp] theorem moved_destruction (account contract target : Address) (value : U256) :
    moved account [.destruction contract target value] = net account [⟨contract, target, value.toNat⟩] := zero_add _

namespace Activity

mutual

theorem execute_eq_some :
    ∀ (activity : Activity) (before after : Address → ℕ), activity.execute before = some after →
      ∀ account, (after account : ℤ) = before account + moved account (landed [activity])
  | call sharedMemory inputs body outcome => by
    intro before after executed account
    rw [execute] at executed
    rw [landed_call]
    split at executed
    · next ok =>
      rw [if_pos ok, moved_append]
      split at executed
      · next transfer moves =>
        obtain ⟨entered, paid, inner⟩ := Option.bind_eq_some_iff.mp executed
        rw [executeAll_eq_some body entered after inner account, pay_eq_some paid account]
        simp [moves, add_assoc]
      · next still =>
        rw [executeAll_eq_some body before after executed account]
        simp [still]
    · next failed =>
      cases executed
      simp [failed]
  | create inputs body outcome => by
    intro before after executed account
    rw [execute] at executed
    rw [landed_create]
    split at executed
    · next ok =>
      obtain ⟨address, deployed, entering⟩ := Option.bind_eq_some_iff.mp executed
      obtain ⟨entered, paid, inner⟩ := Option.bind_eq_some_iff.mp entering
      rw [if_pos ok, moved_append, moved_append, executeAll_eq_some body entered after inner account,
        pay_eq_some paid account]
      simp [deployed, NativeTransfer.movement, add_assoc]
    · next failed =>
      cases executed
      simp [failed]
  | selfdestruct contract target value => by
    intro before after executed account
    rw [execute] at executed
    split at executed
    · rw [pay_eq_some executed account]
      simp [landed_selfdestruct]
    · cases executed

theorem executeAll_eq_some :
    ∀ (execution : List Activity) (before after : Address → ℕ), executeAll before execution = some after →
      ∀ account, (after account : ℤ) = before account + moved account (landed execution)
  | [] => by
    intro before after executed account
    cases executed
    simp [landed_nil]
  | first :: rest => by
    intro before after executed account
    obtain ⟨middle, here, later⟩ := Option.bind_eq_some_iff.mp executed
    rw [executeAll_eq_some rest middle after later account, execute_eq_some first before middle here account,
      landed_cons first rest, moved_append, add_assoc]

end

end Activity

theorem movement_assetChange (transfer : NativeTransfer) : transfer.assetChange.movement = transfer.movement := by
  simp [NativeTransfer.assetChange, AssetChange.movement, NativeTransfer.movement]

theorem net_nativeTransfers (account : Address) (events : List Event) :
    net account ((events.filterMap Event.nativeTransfer).map NativeTransfer.movement) =
      net account (events.filterMap Event.listed) := by
  induction events with
  | nil => rfl
  | cons event rest ih =>
    cases event with
    | callValue transfer =>
      rw [List.filterMap_cons_some (show Event.listed (.callValue transfer) = some _ from rfl), net_cons, ← ih]
      by_cases positive : 0 < transfer.value
      · have shown : Event.nativeTransfer (.callValue transfer) = some transfer := if_pos positive
        rw [List.filterMap_cons_some shown, List.map_cons, net_cons]
      · -- The movement of nothing counts for nothing.
        have hidden : Event.nativeTransfer (.callValue transfer) = none := if_neg positive
        have nothing : transfer.value = 0 := by simpa using positive
        rw [List.filterMap_cons_none hidden]
        simp [net_singleton, NativeTransfer.movement, nothing]
    | endowment _ => exact ih
    | creation _ => exact ih
    | destruction _ _ _ => exact ih

end Net

/-- The reported list accounts for the change of a balance exactly if the endowments of creations and the balances of
self-destructs that landed cancel for it. -/
theorem SimulationInspector.asset_changes_explain_balance {execution : List Activity} {before after : Address → ℕ}
    (executed : Activity.executeAll before execution = some after) (account : Address) :
    net account ((({} : SimulationInspector).watch execution).takeNativeAssetChanges.1.map AssetChange.movement) =
        after account - before account ↔
      net account ((Activity.landed execution).filterMap Event.unlisted) = 0 := by
  have change := Activity.executeAll_eq_some execution before after executed account
  rw [takeNativeAssetChanges, effects_watch, Effects.of, List.map_map, Function.comp_def]
  simp only [movement_assetChange]
  rw [net_nativeTransfers, change, moved]
  constructor <;> intro equal <;> linarith

/-! ## An endowment the list leaves out -/

namespace Sample

def user : Address := 0x05e

def factory : Address := 0xfac

def contract : Address := 0xc0de

def message (value : U256) : CallInputs :=
  { input := .bytes [], scheme := .call, caller := user, targetAddress := factory, value := .transfer value }

def funded (account : Address) : Address → ℕ := Ledger.credit (fun _ => 0) account 5

/-- The user sends ether to the factory. -/
def payment : List Activity := [.call [] (message 5) [] { result := .stop, output := [] }]

def endowed : List Activity :=
  [.call [] (message 0)
    [.create { scheme := .create, caller := factory, value := 5 } []
      { result := .returned, output := [], address := some contract }]
    { result := .stop, output := [] }]

end Sample

open Sample in
theorem SimulationInspector.payment_is_explained :
    ∃ after, Activity.executeAll (funded user) payment = some after ∧
      (net user ((({} : SimulationInspector).watch payment).takeNativeAssetChanges.1.map AssetChange.movement) =
          after user - funded user user ↔
        net user ((Activity.landed payment).filterMap Event.unlisted) = 0) ∧
      net user ((Activity.landed payment).filterMap Event.unlisted) = 0 := by
  have executed : ∃ after, Activity.executeAll (funded user) payment = some after := ⟨_, rfl⟩
  obtain ⟨after, executed⟩ := executed
  exact ⟨after, executed, asset_changes_explain_balance executed user, by decide⟩

open Sample in
theorem SimulationInspector.endowment_is_not_listed :
    ∃ after, Activity.executeAll (funded factory) endowed = some after ∧
      net factory ((({} : SimulationInspector).watch endowed).takeNativeAssetChanges.1.map AssetChange.movement) = 0 ∧
      (after factory : ℤ) - funded factory factory = -5 := by
  refine ⟨_, rfl, by decide, by decide⟩

end WorldChain.Rpc
