import SetProtocol.Core.Chain

/-!
# The airdrop module

Tokens sent to a SetToken are taken into its position by `absorb`, less a fee that
manager and protocol share.  How much was airdropped is what is held in excess of
the tracked balance, and the new unit spreads all that is left over all shares.
-/

namespace SetProtocol.AirdropModule

open Transaction PreciseUnitMath

/-- What the manager of one SetToken has chosen. -/
structure AirdropSettings where
  airdrops : List Address
  feeRecipient : Address
  airdropFee : ℕ
  anyoneAbsorb : Bool

/-- What a call of this module reads and writes. -/
structure World extends Chain where
  airdropSettings : AirdropSettings
  isAirdrop : Address → Bool

/-- `AIRDROP_MODULE_PROTOCOL_FEE_INDEX` -/
def airdropModuleProtocolFeeIndex : ℕ := 0

/-- Deleted storage. -/
def noSettings : AirdropSettings := ⟨[], zeroAddress, 0, false⟩

def World.withChain (world : World) (chain : Chain) : World :=
  { world with toChain := chain }

def isValidCaller (world : World) (sender : Address) : Prop :=
  world.airdropSettings.anyoneAbsorb = true ∨ world.setToken.manager = sender

instance (world : World) (sender : Address) : Decidable (isValidCaller world sender) :=
  inferInstanceAs (Decidable (_ ∨ _))

/-- Pays the fee of an airdropped amount.  Returns the chain, what the manager and the
protocol took, and both together. -/
def handleFees (module : Address) (world : World) (component : Address)
    (amountAirdropped : ℕ) : Outcome (Chain × ℕ × ℕ × ℕ) :=
  if 0 < world.airdropSettings.airdropFee then do
    let totalFees ← preciseMul amountAirdropped world.airdropSettings.airdropFee
    let protocolTake ← world.getModuleFee module airdropModuleProtocolFeeIndex totalFees
    let netManagerTake ← SafeMath.sub totalFees protocolTake
    let chain ← world.strictInvokeTransfer module component
      world.airdropSettings.feeRecipient netManagerTake
    let chain ← chain.payProtocolFeeFromSetToken module component protocolTake
    pure (chain, netManagerTake, protocolTake, totalFees)
  else pure (world.toChain, 0, 0, 0)

/-- The balance less the fees, spread over all shares. -/
def getPostAirdropUnit (setToken : SetToken) (totalComponentBalance totalFeesPaid : ℕ) :
    Outcome ℕ := do
  let balance ← SafeMath.sub totalComponentBalance totalFeesPaid
  Position.getDefaultPositionUnit setToken.totalSupply balance

def handleAirdropPosition (module : Address) (world : World) (token : Address) :
    Outcome World := do
  let preFeeTokenBalance := world.heldBalance token
  let tracked ← Position.getDefaultTrackedBalance world.setToken token
  let amountAirdropped ← SafeMath.sub preFeeTokenBalance tracked
  if 0 < amountAirdropped then do
    let (chain, _, _, totalFees) ← handleFees module world token amountAirdropped
    let newUnit ← getPostAirdropUnit chain.setToken preFeeTokenBalance totalFees
    let setToken ←
      Position.editDefaultPosition chain.setToken chain.controller module token newUnit
    pure (world.withChain (chain.withSetToken setToken))
  else pure world

/-- `_absorb` -/
def absorbToken (module : Address) (world : World) (token : Address) : Outcome World := do
  require (world.isAirdrop token = true) "Must be approved token."
  handleAirdropPosition module world token

/-- `_batchAbsorb` -/
def batchAbsorbTokens (module : Address) (world : World) (tokens : List Address) :
    Outcome World :=
  tokens.foldlM (absorbToken module) world

def batchAbsorb (module : Address) (world : World) (sender : Address)
    (tokens : List Address) : Outcome World := do
  require (isValidCaller world sender) "Must be valid caller"
  world.validateOnlyValidAndInitializedSet module
  batchAbsorbTokens module world tokens

def absorb (module : Address) (world : World) (sender token : Address) : Outcome World := do
  require (isValidCaller world sender) "Must be valid caller"
  world.validateOnlyValidAndInitializedSet module
  absorbToken module world token

/-! ## Settings -/

def addAirdrop (module : Address) (world : World) (sender airdrop : Address) :
    Outcome World := do
  world.validateOnlyManagerAndValidSet module sender
  require (world.isAirdrop airdrop = false) "Token already added."
  pure { world with
    airdropSettings := { world.airdropSettings with
      airdrops := world.airdropSettings.airdrops ++ [airdrop] }
    isAirdrop := Function.update world.isAirdrop airdrop true }

def removeAirdrop (module : Address) (world : World) (sender airdrop : Address) :
    Outcome World := do
  world.validateOnlyManagerAndValidSet module sender
  require (world.isAirdrop airdrop = true) "Token not added."
  let airdrops ← AddressArrayUtils.removeStorage world.airdropSettings.airdrops airdrop
  pure { world with
    airdropSettings := { world.airdropSettings with airdrops := airdrops }
    isAirdrop := Function.update world.isAirdrop airdrop false }

def updateAnyoneAbsorb (module : Address) (world : World) (sender : Address)
    (anyoneAbsorb : Bool) : Outcome World := do
  world.validateOnlyManagerAndValidSet module sender
  pure { world with
    airdropSettings := { world.airdropSettings with anyoneAbsorb := anyoneAbsorb } }

def updateFeeRecipient (module : Address) (world : World)
    (sender newFeeRecipient : Address) : Outcome World := do
  world.validateOnlyManagerAndValidSet module sender
  require (newFeeRecipient ≠ zeroAddress) "Passed address must be non-zero"
  pure { world with
    airdropSettings := { world.airdropSettings with feeRecipient := newFeeRecipient } }

/-- Every listed token is absorbed at the old fee first. -/
def updateAirdropFee (module : Address) (world : World) (sender : Address) (newFee : ℕ) :
    Outcome World := do
  world.validateOnlySetManager sender
  world.validateOnlyValidAndInitializedSet module
  require (newFee ≤ preciseUnit) "Airdrop fee can't exceed 100%"
  let absorbed ← batchAbsorbTokens module world world.airdropSettings.airdrops
  pure { absorbed with
    airdropSettings := { absorbed.airdropSettings with airdropFee := newFee } }

/-- `initialize` of the module. -/
def initializeModule (module : Address) (world : World) (sender : Address)
    (settings : AirdropSettings) : Outcome World := do
  world.validateOnlySetManager sender
  world.validateOnlyValidAndPendingSet module
  require (settings.airdropFee ≤ preciseUnit) "Fee must be <= 100%."
  require (settings.feeRecipient ≠ zeroAddress) "Zero fee address passed"
  if 0 < settings.airdrops.length then do
    let duplicate ← AddressArrayUtils.hasDuplicate settings.airdrops
    require (duplicate = false) "Duplicate airdrop token passed"
  else pure ()
  let isAirdrop := settings.airdrops.foldl
    (fun flags airdrop => Function.update flags airdrop true) world.isAirdrop
  let setToken ← world.setToken.initializeModule module
  pure { world.withChain (world.withSetToken setToken) with
    airdropSettings := settings
    isAirdrop := isAirdrop }

/-- Called by the SetToken that removes the module. -/
def removeModule (world : World) : World :=
  { world with
    airdropSettings := noSettings
    isAirdrop := world.airdropSettings.airdrops.foldl
      (fun flags airdrop => Function.update flags airdrop false) world.isAirdrop }

end SetProtocol.AirdropModule
