import Mathlib
import SetProtocol.Core.Venue

/-!
# The claim module

External protocols reward a SetToken in reward pools, and adapters know how to claim
the rewards of a pool.  The manager lists for each pool the adapters that may be used
with it, and the pools that have any.  Both lists stand beside maps that answer whether
an address is on them.
-/

namespace SetProtocol.ClaimModule

open Transaction

/-- The lists of pools and adapters of one SetToken. -/
structure ClaimRegistry where
  rewardPoolList : List Address
  rewardPoolStatus : Address → Bool
  /-- The adapters of each pool. -/
  claimSettings : Address → List Address
  claimSettingsStatus : Address → Address → Bool

/-- What a call of this module reads and writes. -/
structure World extends Chain where
  registry : ClaimRegistry
  anyoneClaim : Bool
  integrations : IntegrationRegistry

/-- The adapters: the token that a pool pays, and the call that claims it. -/
structure ClaimAdapters where
  getTokenAddress (adapter rewardPool : Address) : Address
  invokeClaim (adapter rewardPool : Address) : Chain → Outcome Chain
  getRewardsAmount (adapter rewardPool : Address) : Chain → Outcome ℕ

/-- The settings of a SetToken that the module has never seen. -/
def noRegistry : ClaimRegistry := ⟨[], fun _ => false, fun _ => [], fun _ _ => false⟩

def World.withChain (world : World) (chain : Chain) : World :=
  { world with toChain := chain }

def World.withRegistry (world : World) (registry : ClaimRegistry) : World :=
  { world with registry := registry }

def isValidCaller (world : World) (sender : Address) : Prop :=
  world.anyoneClaim = true ∨ world.setToken.manager = sender

instance (world : World) (sender : Address) : Decidable (isValidCaller world sender) :=
  inferInstanceAs (Decidable (_ ∨ _))

/-- Returns the length that the loops over both arrays run to. -/
def validateBatchArrays (rewardPools : List Address) (integrationNames : List String) :
    Outcome ℕ := do
  let poolArrayLength := rewardPools.length
  require (poolArrayLength = integrationNames.length) "Array length mismatch"
  require (0 < poolArrayLength) "Arrays must not be empty"
  pure poolArrayLength

/-! ## Claiming -/

def isRewardPool (world : World) (rewardPool : Address) : Bool :=
  world.registry.rewardPoolStatus rewardPool

def getAndValidateIntegrationAdapter (module : Address) (world : World)
    (rewardPool : Address) (integrationName : String) : Outcome Address := do
  let adapter ← getAndValidateAdapter world.integrations module integrationName
  require (world.registry.claimSettingsStatus rewardPool adapter = true)
    "Adapter integration not present"
  pure adapter

def isRewardPoolClaim (module : Address) (world : World) (rewardPool : Address)
    (integrationName : String) : Outcome Bool := do
  let adapter ← getAndValidateAdapter world.integrations module integrationName
  pure (world.registry.claimSettingsStatus rewardPool adapter)

def getRewards (adapters : ClaimAdapters) (module : Address) (world : World)
    (rewardPool : Address) (integrationName : String) : Outcome ℕ := do
  let adapter ← getAndValidateIntegrationAdapter module world rewardPool integrationName
  adapters.getRewardsAmount adapter rewardPool world.toChain

/-- `_claim`.  Returns the world and the claimed amount. -/
def claimRewards (adapters : ClaimAdapters) (module : Address) (world : World)
    (rewardPool : Address) (integrationName : String) : Outcome (World × ℕ) := do
  require (isRewardPool world rewardPool = true) "RewardPool not present"
  let adapter ← getAndValidateIntegrationAdapter module world rewardPool integrationName
  let rewardsToken := adapters.getTokenAddress adapter rewardPool
  let initRewardsBalance := world.heldBalance rewardsToken
  world.setToken.onlyModuleWhenLockedOnlyLocker world.controller module
  let chain ← adapters.invokeClaim adapter rewardPool world.toChain
  let finalRewardsBalance := chain.heldBalance rewardsToken
  let amount ← SafeMath.sub finalRewardsBalance initRewardsBalance
  pure (world.withChain chain, amount)

def claim (adapters : ClaimAdapters) (module : Address) (world : World)
    (sender rewardPool : Address) (integrationName : String) : Outcome World := do
  world.validateOnlyValidAndInitializedSet module
  require (isValidCaller world sender) "Must be valid caller"
  let claimed ← claimRewards adapters module world rewardPool integrationName
  pure claimed.1

def batchClaim (adapters : ClaimAdapters) (module : Address) (world : World)
    (sender : Address) (rewardPools : List Address) (integrationNames : List String) :
    Outcome World := do
  world.validateOnlyValidAndInitializedSet module
  require (isValidCaller world sender) "Must be valid caller"
  let _ ← validateBatchArrays rewardPools integrationNames
  (rewardPools.zip integrationNames).foldlM
    (fun world entry => do
      let claimed ← claimRewards adapters module world entry.1 entry.2
      pure claimed.1) world

/-! ## Settings -/

def updateAnyoneClaim (module : Address) (world : World) (sender : Address)
    (anyoneClaim : Bool) : Outcome World := do
  world.validateOnlyManagerAndValidSet module sender
  pure { world with anyoneClaim := anyoneClaim }

/-- `_addClaim`, once the adapter is known. -/
def addAdapter (registry : ClaimRegistry) (rewardPool adapter : Address) :
    Outcome ClaimRegistry := do
  require (registry.claimSettingsStatus rewardPool adapter = false)
    "Integration names must be unique"
  let added := { registry with
    claimSettings := Function.update registry.claimSettings rewardPool
      (registry.claimSettings rewardPool ++ [adapter])
    claimSettingsStatus := Function.update registry.claimSettingsStatus rewardPool
      (Function.update (registry.claimSettingsStatus rewardPool) adapter true) }
  if added.rewardPoolStatus rewardPool = true then pure added
  else pure { added with
    rewardPoolList := added.rewardPoolList ++ [rewardPool]
    rewardPoolStatus := Function.update added.rewardPoolStatus rewardPool true }

/-- `_addClaim` -/
def addClaimEntry (module : Address) (integrations : IntegrationRegistry)
    (registry : ClaimRegistry) (entry : Address × String) : Outcome ClaimRegistry := do
  let adapter ← getAndValidateAdapter integrations module entry.2
  addAdapter registry entry.1 adapter

/-- `_batchAddClaim` -/
def batchAddClaimEntries (module : Address) (integrations : IntegrationRegistry)
    (registry : ClaimRegistry) (rewardPools : List Address)
    (integrationNames : List String) : Outcome ClaimRegistry := do
  let _ ← validateBatchArrays rewardPools integrationNames
  (rewardPools.zip integrationNames).foldlM (addClaimEntry module integrations) registry

/-- `_removeClaim`, once the adapter is known. -/
def removeAdapter (registry : ClaimRegistry) (rewardPool adapter : Address) :
    Outcome ClaimRegistry := do
  require (registry.claimSettingsStatus rewardPool adapter = true)
    "Integration must be added"
  let adapters ←
    AddressArrayUtils.removeStorage (registry.claimSettings rewardPool) adapter
  let removed := { registry with
    claimSettings := Function.update registry.claimSettings rewardPool adapters
    claimSettingsStatus := Function.update registry.claimSettingsStatus rewardPool
      (Function.update (registry.claimSettingsStatus rewardPool) adapter false) }
  if (removed.claimSettings rewardPool).length = 0 then do
    let pools ← AddressArrayUtils.removeStorage removed.rewardPoolList rewardPool
    pure { removed with
      rewardPoolList := pools
      rewardPoolStatus := Function.update removed.rewardPoolStatus rewardPool false }
  else pure removed

/-- `_removeClaim` -/
def removeClaimEntry (module : Address) (integrations : IntegrationRegistry)
    (registry : ClaimRegistry) (entry : Address × String) : Outcome ClaimRegistry := do
  let adapter ← getAndValidateAdapter integrations module entry.2
  removeAdapter registry entry.1 adapter

def addClaim (module : Address) (world : World) (sender rewardPool : Address)
    (integrationName : String) : Outcome World := do
  world.validateOnlyManagerAndValidSet module sender
  let registry ←
    addClaimEntry module world.integrations world.registry (rewardPool, integrationName)
  pure (world.withRegistry registry)

def batchAddClaim (module : Address) (world : World) (sender : Address)
    (rewardPools : List Address) (integrationNames : List String) : Outcome World := do
  world.validateOnlyManagerAndValidSet module sender
  let registry ← batchAddClaimEntries module world.integrations world.registry rewardPools
    integrationNames
  pure (world.withRegistry registry)

def removeClaim (module : Address) (world : World) (sender rewardPool : Address)
    (integrationName : String) : Outcome World := do
  world.validateOnlyManagerAndValidSet module sender
  let registry ←
    removeClaimEntry module world.integrations world.registry (rewardPool, integrationName)
  pure (world.withRegistry registry)

def batchRemoveClaim (module : Address) (world : World) (sender : Address)
    (rewardPools : List Address) (integrationNames : List String) : Outcome World := do
  world.validateOnlyManagerAndValidSet module sender
  let _ ← validateBatchArrays rewardPools integrationNames
  let registry ← (rewardPools.zip integrationNames).foldlM
    (removeClaimEntry module world.integrations) world.registry
  pure (world.withRegistry registry)

/-- `initialize` of the module. -/
def initializeModule (module : Address) (world : World) (sender : Address)
    (anyoneClaim : Bool) (rewardPools : List Address) (integrationNames : List String) :
    Outcome World := do
  world.validateOnlySetManager sender
  world.validateOnlyValidAndPendingSet module
  let registry ← batchAddClaimEntries module world.integrations world.registry rewardPools
    integrationNames
  let setToken ← world.setToken.initializeModule module
  pure { (world.withChain (world.withSetToken setToken)).withRegistry registry with
    anyoneClaim := anyoneClaim }

/-- Body of the first loop of `removeModule`: the adapters of one pool. -/
def clearPool (registry : ClaimRegistry) (rewardPool : Address) : ClaimRegistry :=
  { registry with
    claimSettings := Function.update registry.claimSettings rewardPool []
    claimSettingsStatus := Function.update registry.claimSettingsStatus rewardPool
      ((registry.claimSettings rewardPool).foldl
        (fun status toRemove => Function.update status toRemove false)
        (registry.claimSettingsStatus rewardPool)) }

/-- Called by the SetToken that removes the module. -/
def removeModule (world : World) : World :=
  let cleared := world.registry.rewardPoolList.foldl clearPool world.registry
  { world with
    anyoneClaim := false
    registry := { cleared with
      rewardPoolList := []
      rewardPoolStatus := cleared.rewardPoolList.foldl
        (fun status toRemove => Function.update status toRemove false)
        cleared.rewardPoolStatus } }

end SetProtocol.ClaimModule
