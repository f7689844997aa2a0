import SetProtocol.Modules.DebtIssuanceUnits

/-!
# The debt issuance modules that check collateralization

Version 2 takes tokens that do not move exact amounts: instead of the balances it
checks, after each transfer, that the SetToken still holds what its default positions
promise.  Version 3 also moves a buffer of a few units more in and less out.  The two
share every step but the amounts moved, which are parameters of the steps here.
-/

namespace SetProtocol

open Transaction PreciseUnitMath

namespace IssuanceValidationUtils

/-- What came in must be on top of what the shares before were promised. -/
def validateCollateralizationPostTransferInPreHook (chain : Chain) (component : Address)
    (initialSetSupply componentQuantity : ℕ) : Outcome Unit := do
  let newComponentBalance := chain.heldBalance component
  let realUnit ← chain.setToken.getDefaultPositionRealUnit component
  let defaultPositionUnit ← SafeCast.toUint256 realUnit
  let promised ← preciseMulCeil initialSetSupply defaultPositionUnit
  let required ← SafeMath.add promised componentQuantity
  require (required ≤ newComponentBalance)
    "Invalid transfer in. Results in undercollateralization"

/-- What is left must be what the shares after are promised. -/
def validateCollateralizationPostTransferOut (chain : Chain) (component : Address)
    (finalSetSupply : ℕ) : Outcome Unit := do
  let newComponentBalance := chain.heldBalance component
  let realUnit ← chain.setToken.getDefaultPositionRealUnit component
  let defaultPositionUnit ← SafeCast.toUint256 realUnit
  let promised ← preciseMulCeil finalSetSupply defaultPositionUnit
  require (promised ≤ newComponentBalance)
    "Invalid transfer out. Results in undercollateralization"

end IssuanceValidationUtils

namespace DebtIssuanceModuleV2

open DebtIssuanceModule IssuanceValidationUtils

variable {E : Type}

/-! ## Views -/

/-- One turn of `_getTotalIssuanceUnitsFromBalances`: the default unit is what the
balance would allow. -/
def totalIssuanceUnitsFromBalance (chain : Chain) (component : Address) :
    Outcome ComponentUnits := do
  let balanceUnit ← Position.getDefaultPositionUnit chain.setToken.totalSupply
    (chain.heldBalance component)
  let cumulativeEquity ← SafeCast.toInt256 balanceUnit
  let units ← (chain.setToken.getExternalPositionModules component).foldlM
    (addExternalUnit chain.setToken component) (cumulativeEquity, 0)
  let equity ← SafeCast.toUint256 units.1
  let negated ← SignedSafeMath.mul units.2 (-1)
  let debt ← SafeCast.toUint256 negated
  pure ⟨component, equity, debt⟩

def getTotalIssuanceUnitsFromBalances (chain : Chain) : Outcome (List ComponentUnits) :=
  chain.setToken.components.mapM (totalIssuanceUnitsFromBalance chain)

/-- In place of the view of the first version, which quotes by the position units. -/
def getRequiredComponentIssuanceUnits (module : Address) (world : World E)
    (quantity : ℕ) : Outcome (List ComponentUnits) := do
  let fees ← calculateTotalFees module world quantity true
  if world.setToken.totalSupply = 0 then
    calculateRequiredComponentIssuanceUnits world.setToken fees.totalQuantity true
  else do
    let units ← getTotalIssuanceUnitsFromBalances world.toChain
    units.mapM (requiredIssuanceUnits fees.totalQuantity true)

/-! ## Moving the components

`incoming` and `outgoing` say how much is moved for a quantity of a component. -/

/-- One turn of `_resolveEquityPositions`. -/
def resolveEquityPosition (incoming outgoing : ℕ → ℕ) (hooks : Hooks E)
    (module sender target : Address) (quantity : ℕ) (isIssue : Bool)
    (initialSetSupply finalSetSupply : ℕ) (world : World E) (units : ComponentUnits) :
    Outcome (World E) :=
  if 0 < units.equity then
    if isIssue = true then do
      let chain ← world.moveTokens units.component sender world.setTokenAddress
        (incoming units.equity)
      validateCollateralizationPostTransferInPreHook chain units.component
        initialSetSupply units.equity
      executeExternalPositionHooks hooks (world.withChain chain) quantity
        units.component true true
    else do
      let world ← executeExternalPositionHooks hooks world quantity units.component
        false true
      let chain ← world.invokeTransfer module units.component target
        (outgoing units.equity)
      validateCollateralizationPostTransferOut chain units.component finalSetSupply
      pure (world.withChain chain)
  else pure world

def resolveEquityPositions (incoming outgoing : ℕ → ℕ) (hooks : Hooks E)
    (module : Address) (world : World E) (sender : Address) (quantity : ℕ)
    (target : Address) (isIssue : Bool) (components : List ComponentUnits)
    (initialSetSupply finalSetSupply : ℕ) : Outcome (World E) :=
  components.foldlM (resolveEquityPosition incoming outgoing hooks module sender target
    quantity isIssue initialSetSupply finalSetSupply) world

/-- One turn of `_resolveDebtPositions`. -/
def resolveDebtPosition (hooks : Hooks E) (module sender : Address) (quantity : ℕ)
    (isIssue : Bool) (initialSetSupply finalSetSupply : ℕ) (world : World E)
    (units : ComponentUnits) : Outcome (World E) :=
  if 0 < units.debt then
    if isIssue = true then do
      let world ← executeExternalPositionHooks hooks world quantity units.component
        true false
      let chain ← world.invokeTransfer module units.component sender units.debt
      validateCollateralizationPostTransferOut chain units.component finalSetSupply
      pure (world.withChain chain)
    else do
      let chain ← world.moveTokens units.component sender world.setTokenAddress units.debt
      validateCollateralizationPostTransferInPreHook chain units.component
        initialSetSupply units.debt
      executeExternalPositionHooks hooks (world.withChain chain) quantity
        units.component false false
  else pure world

def resolveDebtPositions (hooks : Hooks E) (module : Address) (world : World E)
    (sender : Address) (quantity : ℕ) (isIssue : Bool) (components : List ComponentUnits)
    (initialSetSupply finalSetSupply : ℕ) : Outcome (World E) :=
  components.foldlM (resolveDebtPosition hooks module sender quantity isIssue
    initialSetSupply finalSetSupply) world

/-! ## Issue and redeem -/

/-- What a call works with once the hooks have run. -/
structure Prepared where
  fees : TotalFees
  components : List ComponentUnits
  initialSetSupply : ℕ
  finalSetSupply : ℕ

/-- `issue`, up to the point where it moves tokens. -/
def prepareForIssue (hooks : Hooks E) (module : Address) (world : World E)
    (sender : Address) (quantity : ℕ) (target : Address) :
    Outcome (World E × Prepared) := do
  world.validateOnlyValidAndInitializedSet module
  require (0 < quantity) "Issue quantity must be > 0"
  let world ← callManagerPreIssueHooks hooks world quantity sender target
  let world ← callModulePreIssueHooks hooks world quantity
  let initialSetSupply := world.setToken.totalSupply
  let fees ← calculateTotalFees module world quantity true
  let components ←
    calculateRequiredComponentIssuanceUnits world.setToken fees.totalQuantity true
  let finalSetSupply ← SafeMath.add initialSetSupply fees.totalQuantity
  pure (world, ⟨fees, components, initialSetSupply, finalSetSupply⟩)

/-- The equity that the issuer brings. -/
def takeEquityForIssue (incoming outgoing : ℕ → ℕ) (hooks : Hooks E) (module : Address)
    (world : World E) (sender target : Address) (prepared : Prepared) :
    Outcome (World E) :=
  resolveEquityPositions incoming outgoing hooks module world sender
    prepared.fees.totalQuantity target true prepared.components prepared.initialSetSupply
    prepared.finalSetSupply

/-- The debt that the issuer is given. -/
def payDebtForIssue (hooks : Hooks E) (module : Address) (world : World E)
    (sender : Address) (prepared : Prepared) : Outcome (World E) :=
  resolveDebtPositions hooks module world sender prepared.fees.totalQuantity true
    prepared.components prepared.initialSetSupply prepared.finalSetSupply

def issueMoving (incoming outgoing : ℕ → ℕ) (hooks : Hooks E) (module : Address)
    (world : World E) (sender : Address) (quantity : ℕ) (target : Address) :
    Outcome (World E) := do
  let (world, prepared) ← prepareForIssue hooks module world sender quantity target
  let world ← takeEquityForIssue incoming outgoing hooks module world sender target prepared
  let world ← payDebtForIssue hooks module world sender prepared
  let world ← resolveFees module world prepared.fees.managerFee prepared.fees.protocolFee
  let chain ← world.mint module target quantity
  pure (world.withChain chain)

def redeemMoving (incoming outgoing : ℕ → ℕ) (hooks : Hooks E) (module : Address)
    (world : World E) (sender : Address) (quantity : ℕ) (target : Address) :
    Outcome (World E) := do
  world.validateOnlyValidAndInitializedSet module
  require (0 < quantity) "Redeem quantity must be > 0"
  let world ← callModulePreRedeemHooks hooks world quantity
  let initialSetSupply := world.setToken.totalSupply
  -- burning after the hooks: they sync positions by the supply
  let chain ← world.burn module sender quantity
  let world := world.withChain chain
  let fees ← calculateTotalFees module world quantity false
  let components ←
    calculateRequiredComponentIssuanceUnits world.setToken fees.totalQuantity false
  let finalSetSupply ← SafeMath.sub initialSetSupply fees.totalQuantity
  let world ← resolveDebtPositions hooks module world sender fees.totalQuantity false
    components initialSetSupply finalSetSupply
  let world ← resolveEquityPositions incoming outgoing hooks module world sender
    fees.totalQuantity target false components initialSetSupply finalSetSupply
  resolveFees module world fees.managerFee fees.protocolFee

def issue (hooks : Hooks E) (module : Address) (world : World E) (sender : Address)
    (quantity : ℕ) (target : Address) : Outcome (World E) :=
  issueMoving id id hooks module world sender quantity target

def redeem (hooks : Hooks E) (module : Address) (world : World E) (sender : Address)
    (quantity : ℕ) (target : Address) : Outcome (World E) :=
  redeemMoving id id hooks module world sender quantity target

end DebtIssuanceModuleV2

/-! ## Version 3 -/

namespace DebtIssuanceModuleV3

open DebtIssuanceModule

variable {E : Type}

/-- `+` on `uint256`, which wraps around. -/
def addUnchecked (a b : ℕ) : ℕ := (a + b) % 2 ^ 256

/-- `-` on `uint256`, which wraps around. -/
def subUnchecked (a b : ℕ) : ℕ := (a + (2 ^ 256 - b)) % 2 ^ 256

/-- The equity is taken in with the buffer on top. -/
def getRequiredComponentIssuanceUnits (tokenTransferBuffer : ℕ) (module : Address)
    (world : World E) (quantity : ℕ) : Outcome (List ComponentUnits) := do
  let units ← DebtIssuanceModuleV2.getRequiredComponentIssuanceUnits module world quantity
  pure (units.map fun required =>
    if 0 < required.equity then
      { required with equity := addUnchecked required.equity tokenTransferBuffer }
    else required)

/-- The equity is paid out less the buffer, or not at all. -/
def getRequiredComponentRedemptionUnits (tokenTransferBuffer : ℕ) (module : Address)
    (world : World E) (quantity : ℕ) : Outcome (List ComponentUnits) := do
  let fees ← calculateTotalFees module world quantity false
  let units ←
    calculateRequiredComponentIssuanceUnits world.setToken fees.totalQuantity false
  pure (units.map fun required =>
    if tokenTransferBuffer < required.equity then
      { required with equity := required.equity - tokenTransferBuffer }
    else { required with equity := 0 })

def issue (tokenTransferBuffer : ℕ) (hooks : Hooks E) (module : Address) (world : World E)
    (sender : Address) (quantity : ℕ) (target : Address) : Outcome (World E) :=
  DebtIssuanceModuleV2.issueMoving (fun amount => addUnchecked amount tokenTransferBuffer)
    (fun amount => subUnchecked amount tokenTransferBuffer) hooks module world sender
    quantity target

def redeem (tokenTransferBuffer : ℕ) (hooks : Hooks E) (module : Address) (world : World E)
    (sender : Address) (quantity : ℕ) (target : Address) : Outcome (World E) :=
  DebtIssuanceModuleV2.redeemMoving (fun amount => addUnchecked amount tokenTransferBuffer)
    (fun amount => subUnchecked amount tokenTransferBuffer) hooks module world sender
    quantity target

end DebtIssuanceModuleV3

end SetProtocol
