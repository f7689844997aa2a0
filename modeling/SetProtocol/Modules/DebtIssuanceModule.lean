import SetProtocol.Core.Chain

/-!
# The debt issuance module

Issuing takes the components of a Set in and mints shares, redeeming burns
shares and pays the components out.  Manager hooks and the hooks of other
modules are code that this module calls without knowing it; they are parameters
here, over an environment `E` that holds whatever else they act on.  They cannot
call back into `issue` and `redeem`, which a reentrancy guard protects.
-/

namespace SetProtocol.DebtIssuanceModule

open Transaction

/-- The settings of one SetToken. -/
structure IssuanceSettings where
  maxManagerFee : ℕ
  managerIssueFee : ℕ
  managerRedeemFee : ℕ
  feeRecipient : Address
  managerIssuanceHook : Address
  moduleIssuanceHooks : List Address
  isModuleHook : Address → Bool

/-- Storage of a SetToken that was never initialized. -/
def noSettings : IssuanceSettings := ⟨0, 0, 0, zeroAddress, zeroAddress, [], fun _ => false⟩

/-- What a call of this module reads and writes. -/
structure World (E : Type) extends Chain where
  issuanceSettings : IssuanceSettings
  environment : E

/-- The contracts this module calls: a manager's hook, the modules registered
with it, and the modules of external positions. -/
structure Hooks (E : Type) where
  invokePreIssueHook (hook : Address) (quantity : ℕ) (caller target : Address) :
    World E → Outcome (World E)
  moduleIssueHook (hook : Address) (quantity : ℕ) : World E → Outcome (World E)
  moduleRedeemHook (hook : Address) (quantity : ℕ) : World E → Outcome (World E)
  componentIssueHook (hook : Address) (quantity : ℕ) (component : Address)
    (isEquity : Bool) : World E → Outcome (World E)
  componentRedeemHook (hook : Address) (quantity : ℕ) (component : Address)
    (isEquity : Bool) : World E → Outcome (World E)

/-- Fees of one issuance or redemption. -/
structure TotalFees where
  totalQuantity : ℕ
  managerFee : ℕ
  protocolFee : ℕ

/-- Equity and debt of one component, as units or as notional amounts. -/
structure ComponentUnits where
  component : Address
  equity : ℕ
  debt : ℕ

/-- `ISSUANCE_MODULE_PROTOCOL_FEE_SPLIT_INDEX` -/
def protocolFeeSplitIndex : ℕ := 0

variable {E : Type}

def World.withChain (world : World E) (chain : Chain) : World E :=
  { world with toChain := chain }

/-! ## Views -/

def calculateTotalFees (module : Address) (world : World E) (quantity : ℕ)
    (isIssue : Bool) : Outcome TotalFees := do
  let protocolFeeSplit := world.controller.getModuleFee module protocolFeeSplitIndex
  let totalFeeRate :=
    if isIssue = true then world.issuanceSettings.managerIssueFee
    else world.issuanceSettings.managerRedeemFee
  let totalFee ← PreciseUnitMath.preciseMul totalFeeRate quantity
  let protocolFee ← PreciseUnitMath.preciseMul totalFee protocolFeeSplit
  let managerFee ← SafeMath.sub totalFee protocolFee
  let totalQuantity ← (
    if isIssue = true then SafeMath.add quantity totalFee
    else SafeMath.sub quantity totalFee)
  pure ⟨totalQuantity, managerFee, protocolFee⟩

/-- Body of the inner loop over the external positions of a component. -/
def addExternalUnit (setToken : SetToken) (component : Address) (units : ℤ × ℤ)
    (module : Address) : Outcome (ℤ × ℤ) := do
  let externalPositionUnit ← setToken.getExternalPositionRealUnit component module
  if 0 < externalPositionUnit then do
    let cumulativeEquity ← SignedSafeMath.add units.1 externalPositionUnit
    pure (cumulativeEquity, units.2)
  else do
    let cumulativeDebt ← SignedSafeMath.add units.2 externalPositionUnit
    pure (units.1, cumulativeDebt)

/-- One turn of `_getTotalIssuanceUnits`. -/
def totalIssuanceUnits (setToken : SetToken) (component : Address) :
    Outcome ComponentUnits := do
  let defaultUnit ← setToken.getDefaultPositionRealUnit component
  let units ← (setToken.getExternalPositionModules component).foldlM
    (addExternalUnit setToken component) (defaultUnit, 0)
  let equity ← SafeCast.toUint256 units.1
  let negated ← SignedSafeMath.mul units.2 (-1)
  let debt ← SafeCast.toUint256 negated
  pure ⟨component, equity, debt⟩

def getTotalIssuanceUnits (setToken : SetToken) : Outcome (List ComponentUnits) :=
  setToken.components.mapM (totalIssuanceUnits setToken)

/-- Notional amounts of one component.  In favour of the Set, equity rounds up and
debt rounds down on issue, the other way around on redeem. -/
def requiredIssuanceUnits (quantity : ℕ) (isIssue : Bool) (units : ComponentUnits) :
    Outcome ComponentUnits := do
  let equity ← (
    if isIssue = true then PreciseUnitMath.preciseMulCeil units.equity quantity
    else PreciseUnitMath.preciseMul units.equity quantity)
  let debt ← (
    if isIssue = true then PreciseUnitMath.preciseMul units.debt quantity
    else PreciseUnitMath.preciseMulCeil units.debt quantity)
  pure ⟨units.component, equity, debt⟩

def calculateRequiredComponentIssuanceUnits (setToken : SetToken) (quantity : ℕ)
    (isIssue : Bool) : Outcome (List ComponentUnits) := do
  let units ← getTotalIssuanceUnits setToken
  units.mapM (requiredIssuanceUnits quantity isIssue)

def getRequiredComponentIssuanceUnits (module : Address) (world : World E)
    (quantity : ℕ) : Outcome (List ComponentUnits) := do
  let fees ← calculateTotalFees module world quantity true
  calculateRequiredComponentIssuanceUnits world.setToken fees.totalQuantity true

def getRequiredComponentRedemptionUnits (module : Address) (world : World E)
    (quantity : ℕ) : Outcome (List ComponentUnits) := do
  let fees ← calculateTotalFees module world quantity false
  calculateRequiredComponentIssuanceUnits world.setToken fees.totalQuantity false

/-! ## Moving the components -/

def callManagerPreIssueHooks (hooks : Hooks E) (world : World E) (quantity : ℕ)
    (caller target : Address) : Outcome (World E) :=
  let preIssueHook := world.issuanceSettings.managerIssuanceHook
  if preIssueHook ≠ zeroAddress then
    hooks.invokePreIssueHook preIssueHook quantity caller target world
  else pure world

def callModulePreIssueHooks (hooks : Hooks E) (world : World E) (quantity : ℕ) :
    Outcome (World E) :=
  world.issuanceSettings.moduleIssuanceHooks.foldlM
    (fun world hook => hooks.moduleIssueHook hook quantity world) world

def callModulePreRedeemHooks (hooks : Hooks E) (world : World E) (quantity : ℕ) :
    Outcome (World E) :=
  world.issuanceSettings.moduleIssuanceHooks.foldlM
    (fun world hook => hooks.moduleRedeemHook hook quantity world) world

def executeExternalPositionHooks (hooks : Hooks E) (world : World E)
    (setTokenQuantity : ℕ) (component : Address) (isIssue isEquity : Bool) :
    Outcome (World E) :=
  (world.setToken.getExternalPositionModules component).foldlM
    (fun world hook =>
      if isIssue = true then
        hooks.componentIssueHook hook setTokenQuantity component isEquity world
      else hooks.componentRedeemHook hook setTokenQuantity component isEquity world)
    world

/-- One turn of `_resolveEquityPositions`. -/
def resolveEquityPosition (hooks : Hooks E) (module sender target : Address)
    (quantity : ℕ) (isIssue : Bool) (world : World E) (units : ComponentUnits) :
    Outcome (World E) :=
  if 0 < units.equity then
    if isIssue = true then do
      let chain ← world.transferFrom units.component sender world.setTokenAddress
        units.equity
      executeExternalPositionHooks hooks (world.withChain chain) quantity
        units.component true true
    else do
      let world ← executeExternalPositionHooks hooks world quantity units.component
        false true
      let chain ← world.strictInvokeTransfer module units.component target units.equity
      pure (world.withChain chain)
  else pure world

def resolveEquityPositions (hooks : Hooks E) (module : Address) (world : World E)
    (sender : Address) (quantity : ℕ) (target : Address) (isIssue : Bool)
    (components : List ComponentUnits) : Outcome (World E) :=
  components.foldlM (resolveEquityPosition hooks module sender target quantity isIssue)
    world

/-- One turn of `_resolveDebtPositions`. -/
def resolveDebtPosition (hooks : Hooks E) (module sender : Address) (quantity : ℕ)
    (isIssue : Bool) (world : World E) (units : ComponentUnits) : Outcome (World E) :=
  if 0 < units.debt then
    if isIssue = true then do
      let world ← executeExternalPositionHooks hooks world quantity units.component
        true false
      let chain ← world.strictInvokeTransfer module units.component sender units.debt
      pure (world.withChain chain)
    else do
      let chain ← world.transferFrom units.component sender world.setTokenAddress
        units.debt
      executeExternalPositionHooks hooks (world.withChain chain) quantity
        units.component false false
  else pure world

def resolveDebtPositions (hooks : Hooks E) (module : Address) (world : World E)
    (sender : Address) (quantity : ℕ) (isIssue : Bool)
    (components : List ComponentUnits) : Outcome (World E) :=
  components.foldlM (resolveDebtPosition hooks module sender quantity isIssue) world

/-- The protocol fee is only looked at inside of the manager fee check. -/
def resolveFees (module : Address) (world : World E) (managerFee protocolFee : ℕ) :
    Outcome (World E) :=
  if 0 < managerFee then do
    let chain ← world.mint module world.issuanceSettings.feeRecipient managerFee
    if 0 < protocolFee then do
      let chain ← chain.mint module world.controller.feeRecipient protocolFee
      pure (world.withChain chain)
    else pure (world.withChain chain)
  else pure world

/-! ## Issue and redeem -/

/-- `issue`, up to the point where it mints. -/
def collectForIssue (hooks : Hooks E) (module : Address) (world : World E)
    (sender : Address) (quantity : ℕ) (target : Address) :
    Outcome (World E × TotalFees) := do
  world.validateOnlyValidAndInitializedSet module
  require (0 < quantity) "Issue quantity must be > 0"
  let world ← callManagerPreIssueHooks hooks world quantity sender target
  let world ← callModulePreIssueHooks hooks world quantity
  let fees ← calculateTotalFees module world quantity true
  let components ←
    calculateRequiredComponentIssuanceUnits world.setToken fees.totalQuantity true
  let world ← resolveEquityPositions hooks module world sender fees.totalQuantity target
    true components
  let world ← resolveDebtPositions hooks module world sender fees.totalQuantity true
    components
  pure (world, fees)

def issue (hooks : Hooks E) (module : Address) (world : World E) (sender : Address)
    (quantity : ℕ) (target : Address) : Outcome (World E) := do
  let collected ← collectForIssue hooks module world sender quantity target
  let world ← resolveFees module collected.1 collected.2.managerFee collected.2.protocolFee
  let chain ← world.mint module target quantity
  pure (world.withChain chain)

/-- `redeem`, up to the point where it mints the fees. -/
def releaseForRedeem (hooks : Hooks E) (module : Address) (world : World E)
    (sender : Address) (quantity : ℕ) (target : Address) :
    Outcome (World E × TotalFees) := do
  world.validateOnlyValidAndInitializedSet module
  require (0 < quantity) "Redeem quantity must be > 0"
  let world ← callModulePreRedeemHooks hooks world quantity
  -- burning after the hooks: they sync positions by the supply
  let chain ← world.burn module sender quantity
  let world := world.withChain chain
  let fees ← calculateTotalFees module world quantity false
  let components ←
    calculateRequiredComponentIssuanceUnits world.setToken fees.totalQuantity false
  let world ← resolveDebtPositions hooks module world sender fees.totalQuantity false
    components
  let world ← resolveEquityPositions hooks module world sender fees.totalQuantity target
    false components
  pure (world, fees)

def redeem (hooks : Hooks E) (module : Address) (world : World E) (sender : Address)
    (quantity : ℕ) (target : Address) : Outcome (World E) := do
  let released ← releaseForRedeem hooks module world sender quantity target
  resolveFees module released.1 released.2.managerFee released.2.protocolFee

/-! ## Settings -/

def updateFeeRecipient (module : Address) (world : World E) (sender : Address)
    (newFeeRecipient : Address) : Outcome (World E) := do
  world.validateOnlyManagerAndValidSet module sender
  require (newFeeRecipient ≠ zeroAddress) "Fee Recipient must be non-zero address."
  require (newFeeRecipient ≠ world.issuanceSettings.feeRecipient)
    "Same fee recipient passed"
  pure { world with
    issuanceSettings := { world.issuanceSettings with feeRecipient := newFeeRecipient } }

def updateIssueFee (module : Address) (world : World E) (sender : Address)
    (newIssueFee : ℕ) : Outcome (World E) := do
  world.validateOnlyManagerAndValidSet module sender
  require (newIssueFee ≤ world.issuanceSettings.maxManagerFee)
    "Issue fee can't exceed maximum"
  require (newIssueFee ≠ world.issuanceSettings.managerIssueFee) "Same issue fee passed"
  pure { world with
    issuanceSettings := { world.issuanceSettings with managerIssueFee := newIssueFee } }

def updateRedeemFee (module : Address) (world : World E) (sender : Address)
    (newRedeemFee : ℕ) : Outcome (World E) := do
  world.validateOnlyManagerAndValidSet module sender
  require (newRedeemFee ≤ world.issuanceSettings.maxManagerFee)
    "Redeem fee can't exceed maximum"
  require (newRedeemFee ≠ world.issuanceSettings.managerRedeemFee)
    "Same redeem fee passed"
  pure { world with
    issuanceSettings := { world.issuanceSettings with managerRedeemFee := newRedeemFee } }

/-- Another module asks to be called before issuance and redemption. -/
def registerToIssuanceModule (module : Address) (world : World E) (sender : Address) :
    Outcome (World E) := do
  world.validateOnlyModule sender
  world.validateOnlyValidAndInitializedSet module
  let settings := world.issuanceSettings
  require (settings.isModuleHook sender ≠ true) "Module already registered."
  pure { world with
    issuanceSettings := { settings with
      moduleIssuanceHooks := settings.moduleIssuanceHooks ++ [sender]
      isModuleHook := Function.update settings.isModuleHook sender true } }

def unregisterFromIssuanceModule (module : Address) (world : World E)
    (sender : Address) : Outcome (World E) := do
  world.validateOnlyModule sender
  world.validateOnlyValidAndInitializedSet module
  let settings := world.issuanceSettings
  require (settings.isModuleHook sender = true) "Module not registered."
  let moduleIssuanceHooks ←
    AddressArrayUtils.removeStorage settings.moduleIssuanceHooks sender
  pure { world with
    issuanceSettings := { settings with
      moduleIssuanceHooks := moduleIssuanceHooks
      isModuleHook := Function.update settings.isModuleHook sender false } }

/-- `initialize` of the module.  The flags of earlier hooks stay in storage: a
struct assignment does not clear a mapping. -/
def initializeModule (module : Address) (world : World E) (sender : Address)
    (maxManagerFee managerIssueFee managerRedeemFee : ℕ)
    (feeRecipient managerIssuanceHook : Address) : Outcome (World E) := do
  world.validateOnlySetManager sender
  world.validateOnlyValidAndPendingSet module
  require (managerIssueFee ≤ maxManagerFee) "Issue fee can't exceed maximum fee"
  require (managerRedeemFee ≤ maxManagerFee) "Redeem fee can't exceed maximum fee"
  let setToken ← world.setToken.initializeModule module
  pure { world.withChain (world.withSetToken setToken) with
    issuanceSettings := {
      maxManagerFee := maxManagerFee
      managerIssueFee := managerIssueFee
      managerRedeemFee := managerRedeemFee
      feeRecipient := feeRecipient
      managerIssuanceHook := managerIssuanceHook
      moduleIssuanceHooks := []
      isModuleHook := world.issuanceSettings.isModuleHook } }

/-- Called by the SetToken: refuses to leave while modules are registered. -/
def removeModule (world : World E) : Outcome (World E) := do
  require (world.issuanceSettings.moduleIssuanceHooks.length = 0)
    "Registered modules must be removed."
  pure { world with
    issuanceSettings :=
      { noSettings with isModuleHook := world.issuanceSettings.isModuleHook } }

end SetProtocol.DebtIssuanceModule
