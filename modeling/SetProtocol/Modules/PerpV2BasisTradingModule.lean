import SetProtocol.Modules.PerpV2LeverageModuleV2

/-!
# The Perp basis trading module

An extension of the Perp leverage module that tracks funding.  Before an action that is
about to settle the pending payment, the payment is added to `settledFunding`.  The manager
can take tracked funding out of the vault, and pays a performance fee on it.
-/

namespace SetProtocol.PerpV2BasisTradingModule

open Transaction PreciseUnitMath UnitConversionUtils
open PerpV2LeverageModuleV2 (replicates withdrawCollateral updateCollateralPositions
  executePositionTrades editCollateralUnit formatAdjustments)

/-- `PROTOCOL_PERFORMANCE_FEE_INDEX` -/
def protocolPerformanceFeeIndex : ℕ := 1

structure FeeState where
  feeRecipient : Address
  maxPerformanceFeePercentage : ℕ
  performanceFeePercentage : ℕ

structure World (P : Type) extends PerpV2LeverageModuleV2.World P where
  feeSettings : FeeState
  /-- In precise units. -/
  settledFunding : ℕ

variable {P : Type}

def World.withParent (world : World P) (parent : PerpV2LeverageModuleV2.World P) :
    World P :=
  { world with toWorld := parent }

def World.withChain (world : World P) (chain : Chain) : World P :=
  world.withParent (world.toWorld.withChain chain)

/-! ## Tracking -/

/-- The tracked funding once the pending payment is settled, not below zero. -/
def getUpdatedSettledFunding (perp : Perp P) (world : World P) : Outcome ℕ := do
  let pendingFundingToBeSettled ← neg (perp.getAllPendingFundingPayment world.protocol)
  if 0 ≤ pendingFundingToBeSettled then do
    let payment ← SafeCast.toUint256 pendingFundingToBeSettled
    SafeMath.add world.settledFunding payment
  else do
    let payment ← abs pendingFundingToBeSettled
    if payment < world.settledFunding then SafeMath.sub world.settledFunding payment
    else pure 0

/-- `_updateSettledFunding` -/
def updateSettledFunding (perp : Perp P) (world : World P) : Outcome (World P) := do
  let newSettledFunding ← getUpdatedSettledFunding perp world
  pure { world with settledFunding := newSettledFunding }

/-! ## Calls of the manager -/

/-- Inherited. -/
def trade (perp : Perp P) (module : Address) (world : World P) (sender baseToken : Address)
    (baseQuantityUnits : ℤ) (quoteBoundQuantityUnits : ℕ) : Outcome (World P) := do
  let traded ← PerpV2LeverageModuleV2.trade perp module world.toWorld sender baseToken
    baseQuantityUnits quoteBoundQuantityUnits
  pure (world.withParent traded)

/-- Inherited. -/
def deposit (perp : Perp P) (module : Address) (world : World P) (sender : Address)
    (collateralQuantityUnits : ℕ) : Outcome (World P) := do
  let deposited ← PerpV2LeverageModuleV2.deposit perp module world.toWorld sender
    collateralQuantityUnits
  pure (world.withParent deposited)

def tradeAndTrackFunding (perp : Perp P) (module : Address) (world : World P)
    (sender baseToken : Address) (baseQuantityUnits : ℤ) (quoteBoundQuantityUnits : ℕ) :
    Outcome (World P) := do
  world.validateOnlyManagerAndValidSet module sender
  let tracked ← updateSettledFunding perp world
  trade perp module tracked sender baseToken baseQuantityUnits quoteBoundQuantityUnits

def withdraw (perp : Perp P) (module : Address) (world : World P) (sender : Address)
    (collateralQuantityUnits : ℕ) : Outcome (World P) := do
  world.validateOnlyManagerAndValidSet module sender
  require (0 < collateralQuantityUnits) "Withdraw amount is 0"
  let tracked ← updateSettledFunding perp world
  let withdrawn ← PerpV2LeverageModuleV2.withdrawAndUpdatePositions perp module
    tracked.toWorld collateralQuantityUnits
  pure (tracked.withParent withdrawn)

/-- Manager and protocol share the performance fee. -/
def handleFees (perp : Perp P) (module : Address) (world : World P)
    (notionalFundingAmount : ℕ) : Outcome (World P) :=
  let performanceFee := world.feeSettings.performanceFeePercentage
  if 0 < performanceFee then do
    let protocolFeeSplit :=
      world.controller.getModuleFee module protocolPerformanceFeeIndex
    let totalFee ← preciseMul performanceFee notionalFundingAmount
    let protocolFee ← preciseMul totalFee protocolFeeSplit
    let managerFee ← SafeMath.sub totalFee protocolFee
    let chain ← world.strictInvokeTransfer module perp.collateralToken
      world.feeSettings.feeRecipient managerFee
    let chain ← chain.payProtocolFeeFromSetToken module perp.collateralToken protocolFee
    pure (world.withChain chain)
  else pure world

/-- No more than the tracked funding, in decimals of the collateral. -/
def cappedFunding (perp : Perp P) (settledFunding notionalFunding : ℕ) : Outcome ℕ := do
  let settledFundingInCollateralDecimals ←
    fromPreciseUnitToDecimals settledFunding perp.collateralDecimals
  pure (if settledFundingInCollateralDecimals < notionalFunding then
    settledFundingInCollateralDecimals else notionalFunding)

/-- The positions of the collateral, before the tracked funding is lowered. -/
def collectFunding (perp : Perp P) (module : Address) (world : World P)
    (notionalFunding : ℕ) : Outcome (World P) := do
  let collateralBalanceBeforeWithdraw := world.heldBalance perp.collateralToken
  let withdrawn ← withdrawCollateral perp module world.toWorld notionalFunding
  let charged ← handleFees perp module (world.withParent withdrawn) notionalFunding
  let updated ← updateCollateralPositions perp module charged.toWorld
    collateralBalanceBeforeWithdraw
  pure (charged.withParent updated)

/-- The withdrawn funding is no longer tracked. -/
def subtractFunding (perp : Perp P) (world : World P) (notionalFunding : ℕ) :
    Outcome (World P) := do
  let fundingWithdrawn ← toPreciseUnitsFromDecimals notionalFunding perp.collateralDecimals
  let settledFunding ← SafeMath.sub world.settledFunding fundingWithdrawn
  pure { world with
    settledFunding := settledFunding
    fundingEvents := world.fundingEvents ++ [.withdrawn fundingWithdrawn] }

def withdrawFundingAndAccrueFees (perp : Perp P) (module : Address) (world : World P)
    (sender : Address) (notionalFunding : ℕ) : Outcome (World P) := do
  world.validateOnlyManagerAndValidSet module sender
  if notionalFunding = 0 then pure world
  else do
    let tracked ← updateSettledFunding perp world
    let notionalFunding ← cappedFunding perp tracked.settledFunding notionalFunding
    let collected ← collectFunding perp module tracked notionalFunding
    subtractFunding perp collected notionalFunding

/-! ## Hooks of the issuance module -/

/-- Funding is tracked whether or not the parent's hook goes on to trade. -/
def moduleIssueHook (perp : Perp P) (module : Address) (world : World P)
    (sender : Address) (setTokenQuantity : ℕ) : Outcome (World P) := do
  world.validateOnlyModule sender
  let tracked ← updateSettledFunding perp world
  let hooked ← PerpV2LeverageModuleV2.moduleIssueHook perp module tracked.toWorld sender
    setTokenQuantity
  pure (tracked.withParent hooked)

/-- The unit of a redeemer, less the performance fee on the tracked funding. -/
def calculateNetFeesPositionUnit (perp : Perp P) (feeSettings : FeeState)
    (totalSupply : ℕ) (newExternalPositionUnit : ℤ) (updatedSettledFunding : ℕ) :
    Outcome ℤ :=
  if updatedSettledFunding = 0 then .ok newExternalPositionUnit
  else do
    let fundingUnit ← preciseDiv updatedSettledFunding totalSupply
    let feeUnit ← preciseMulCeil fundingUnit feeSettings.performanceFeePercentage
    let performanceFeeUnit ← fromPreciseUnitToDecimals feeUnit perp.collateralDecimals
    let fee ← SafeCast.toInt256 performanceFeeUnit
    let newExternalPositionUnitNetFees ← SignedSafeMath.sub newExternalPositionUnit fee
    pure (if newExternalPositionUnitNetFees < 0 then 0
      else newExternalPositionUnitNetFees)

def moduleRedeemHook (perp : Perp P) (module : Address) (world : World P)
    (sender : Address) (setTokenQuantity : ℕ) : Outcome (World P) := do
  world.validateOnlyModule sender
  if replicates perp world.toWorld then do
    let tracked ← updateSettledFunding perp world
    let (traded, newExternalPositionUnit) ←
      executePositionTrades perp module tracked.toWorld setTokenQuantity false false
    let newExternalPositionUnitNetFees ← calculateNetFeesPositionUnit perp
      world.feeSettings traded.setToken.totalSupply newExternalPositionUnit
      tracked.settledFunding
    let edited ←
      editCollateralUnit perp module traded newExternalPositionUnitNetFees
    pure (tracked.withParent edited)
  else pure world

/-- Unlike the hook, this looks at the list of positions, and not at the position of the
collateral. -/
def getRedemptionAdjustments (perp : Perp P) (module : Address) (world : World P)
    (setTokenQuantity : ℕ) : Outcome (World P × List ℤ × List ℤ) := do
  let (simulated, newExternalPositionUnitNetFees) ← (
    if 0 < world.positions.length then do
      let updatedSettledFunding ← getUpdatedSettledFunding perp world
      let (simulated, newExternalPositionUnit) ←
        executePositionTrades perp module world.toWorld setTokenQuantity false true
      let netFees ← calculateNetFeesPositionUnit perp world.feeSettings
        simulated.setToken.totalSupply newExternalPositionUnit updatedSettledFunding
      pure (world.withParent simulated, netFees)
    else .ok (world, 0))
  let adjustments ← formatAdjustments perp module simulated.setToken
    newExternalPositionUnitNetFees
  pure (simulated, adjustments)

end SetProtocol.PerpV2BasisTradingModule
