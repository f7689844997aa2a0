import SetProtocol.Library.FlaggedList
import SetProtocol.Modules.DebtIssuanceModule

/-!
# The rebasing component module

Balances of rebasing tokens change by themselves.  This module keeps a list of such
components, and before each issuance and each redemption it writes the unit of each of them
anew, from the balance that the SetToken has by then.  It stands beside a debt issuance
module here, whose environment is the storage of this one.
-/

namespace SetProtocol.RebasingComponentModule

open Transaction PreciseUnitMath

/-- What the module stores for one SetToken. -/
structure Storage where
  rebasingComponentEnabled : Address → Bool
  rebasingComponents : List Address

abbrev World := DebtIssuanceModule.World Storage

def withStorage (world : World) (storage : Storage) : World :=
  { world with environment := storage }

/-! ## Sync -/

/-- One turn of the loop of `sync`. -/
def syncComponent (module : Address) (setTotalSupply : ℕ) (chain : Chain)
    (component : Address) : Outcome Chain := do
  let unit ← chain.setToken.getDefaultPositionRealUnit component
  let previousPositionUnit ← SafeCast.toUint256 unit
  let newPositionUnit ← preciseDiv (chain.heldBalance component) setTotalSupply
  if previousPositionUnit ≠ newPositionUnit then do
    let setToken ← Position.editDefaultPosition chain.setToken chain.controller module
      component newPositionUnit
    pure (chain.withSetToken setToken)
  else pure chain

/-- Before the first issuance there are no balances, and a sync would remove the
components. -/
def sync (module : Address) (storage : Storage) (chain : Chain) : Outcome Chain := do
  chain.validateOnlyValidAndInitializedSet module
  let setTotalSupply := chain.setToken.totalSupply
  if 0 < setTotalSupply then
    storage.rebasingComponents.foldlM (syncComponent module setTotalSupply) chain
  else pure chain

/-- What each of the four hooks does for the module that calls it. -/
def syncFor (module : Address) (world : World) (sender : Address) : Outcome World := do
  world.validateOnlyModule sender
  let chain ← sync module world.environment world.toChain
  pure (world.withChain chain)

def moduleIssueHook (module : Address) (world : World) (sender : Address) (_ : ℕ) :
    Outcome World :=
  syncFor module world sender

def moduleRedeemHook (module : Address) (world : World) (sender : Address) (_ : ℕ) :
    Outcome World :=
  syncFor module world sender

/-- Reserve asset and its quantity, sender and receiver are not looked at. -/
def invokePreIssueHook (module : Address) (world : World) (sender : Address)
    (_ : Address) (_ : ℕ) (_ _ : Address) : Outcome World :=
  syncFor module world sender

def invokePreRedeemHook (module : Address) (world : World) (sender : Address)
    (_ : ℕ) (_ _ : Address) : Outcome World :=
  syncFor module world sender

def componentIssueHook (world : World) (sender : Address) (_ : ℕ) (_ : Address) (_ : Bool) :
    Outcome World := do
  world.validateOnlyModule sender
  pure world

def componentRedeemHook (world : World) (sender : Address) (_ : ℕ) (_ : Address) (_ : Bool) :
    Outcome World := do
  world.validateOnlyModule sender
  pure world

/-! ## The list of components -/

def addRebasingComponent (storage : Storage) (component : Address) : Outcome Storage := do
  require (storage.rebasingComponentEnabled component ≠ true)
    "Rebasing component already enabled"
  pure {
    rebasingComponentEnabled :=
      Function.update storage.rebasingComponentEnabled component true
    rebasingComponents := storage.rebasingComponents ++ [component] }

def removeRebasingComponent (storage : Storage) (component : Address) : Outcome Storage := do
  require (storage.rebasingComponentEnabled component = true) "Rebasing component not enabled"
  let rebasingComponents ←
    AddressArrayUtils.removeStorage storage.rebasingComponents component
  pure {
    rebasingComponentEnabled :=
      Function.update storage.rebasingComponentEnabled component false
    rebasingComponents := rebasingComponents }

def addRebasingComponents (module : Address) (world : World) (sender : Address)
    (newRebasingComponents : List Address) : Outcome World := do
  world.validateOnlyManagerAndValidSet module sender
  let storage ← newRebasingComponents.foldlM addRebasingComponent world.environment
  pure (withStorage world storage)

def removeRebasingComponents (module : Address) (world : World) (sender : Address)
    (rebasingComponents : List Address) : Outcome World := do
  world.validateOnlyManagerAndValidSet module sender
  let storage ← rebasingComponents.foldlM removeRebasingComponent world.environment
  pure (withStorage world storage)

/-! ## Registration with the issuance module -/

/-- `registerToIssuanceModule` of whatever stands at an address.  Modules that do not have
this function revert. -/
def register (module issuanceModule candidate : Address) (world : World) : Outcome World :=
  if candidate = issuanceModule then
    DebtIssuanceModule.registerToIssuanceModule issuanceModule world module
  else .error "function selector was not recognized"

def unregister (module issuanceModule candidate : Address) (world : World) : Outcome World :=
  if candidate = issuanceModule then
    DebtIssuanceModule.unregisterFromIssuanceModule issuanceModule world module
  else .error "function selector was not recognized"

/-- `initialize`: it tries to register with every module of the SetToken. -/
def initializeModule (module issuanceModule : Address) (world : World) (sender : Address)
    (rebasingComponents : List Address) : Outcome World := do
  world.validateOnlySetManager sender
  world.validateOnlyValidAndPendingSet module
  let setToken ← world.setToken.initializeModule module
  let initialized := world.withChain (world.withSetToken setToken)
  let registered := run (register module issuanceModule) setToken.modules initialized
  let storage ← rebasingComponents.foldlM addRebasingComponent registered.environment
  pure (withStorage registered storage)

def registerToModule (module issuanceModule : Address) (world : World)
    (sender debtIssuanceModule : Address) : Outcome World := do
  world.validateOnlyManagerAndValidSet module sender
  require (world.setToken.moduleStates debtIssuanceModule = .INITIALIZED)
    "Issuance not initialized"
  register module issuanceModule debtIssuanceModule world

/-- Called by the SetToken.  The list is emptied, and the flag of each entry taken down. -/
def removeModule (module issuanceModule : Address) (world : World) : Outcome World := do
  world.validateOnlyValidAndInitializedSet module
  let chain ← sync module world.environment world.toChain
  let cleared : Storage := {
    rebasingComponentEnabled := world.environment.rebasingComponents.foldl
      (fun enabled component => Function.update enabled component false)
      world.environment.rebasingComponentEnabled
    rebasingComponents := [] }
  let synced := withStorage (world.withChain chain) cleared
  pure (run (unregister module issuanceModule) chain.setToken.modules synced)

end SetProtocol.RebasingComponentModule
