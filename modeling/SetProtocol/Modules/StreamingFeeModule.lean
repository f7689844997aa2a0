import SetProtocol.Core.Chain

/-!
# The streaming fee module

A fee accrues with time.  It is paid in new shares, and the position multiplier
is lowered so that the old positions are spread over the inflated supply.
-/

namespace SetProtocol.StreamingFeeModule

open Transaction PreciseUnitMath

/-- The fee of one SetToken. -/
structure FeeState where
  feeRecipient : Address
  maxStreamingFeePercentage : ℕ
  streamingFeePercentage : ℕ
  lastStreamingFeeTimestamp : ℕ

/-- What a call of this module reads and writes. -/
structure World extends Chain where
  feeState : FeeState

/-- `ONE_YEAR_IN_SECONDS`, 365.25 days -/
def oneYearInSeconds : ℕ := 31557600

/-- `PROTOCOL_STREAMING_FEE_INDEX` -/
def protocolStreamingFeeIndex : ℕ := 0

/-- Deleted storage. -/
def noFeeState : FeeState := ⟨zeroAddress, 0, 0, 0⟩

def World.withChain (world : World) (chain : Chain) : World :=
  { world with toChain := chain }

/-- The yearly fee times the years since it was last collected. -/
def calculateStreamingFee (world : World) : Outcome ℕ := do
  let timeSinceLastFee ←
    SafeMath.sub world.timestamp world.feeState.lastStreamingFeeTimestamp
  let scaled ← SafeMath.mul timeSinceLastFee world.feeState.streamingFeePercentage
  SafeMath.div scaled oneYearInSeconds

/-- So many new shares that they make up the fee percentage of the new supply. -/
def calculateStreamingFeeInflation (setToken : SetToken) (feePercentage : ℕ) :
    Outcome ℕ := do
  let a ← SafeMath.mul feePercentage setToken.totalSupply
  let b ← SafeMath.sub preciseUnit feePercentage
  SafeMath.div a b

/-- Returns the chain and the shares of manager and protocol. -/
def mintManagerAndProtocolFee (module : Address) (world : World) (feeQuantity : ℕ) :
    Outcome (Chain × ℕ × ℕ) := do
  let protocolFeeRecipient := world.controller.feeRecipient
  let protocolFee := world.controller.getModuleFee module protocolStreamingFeeIndex
  let protocolFeeAmount ← preciseMul feeQuantity protocolFee
  let managerFeeAmount ← SafeMath.sub feeQuantity protocolFeeAmount
  let chain ← world.mint module world.feeState.feeRecipient managerFeeAmount
  let chain ← (
    if 0 < protocolFeeAmount then
      chain.mint module protocolFeeRecipient protocolFeeAmount
    else .ok chain)
  pure (chain, managerFeeAmount, protocolFeeAmount)

/-- The multiplier shrinks by the inflation. -/
def editPositionMultiplier (module : Address) (chain : Chain) (inflationFee : ℕ) :
    Outcome Chain := do
  let currentMultiplier := chain.setToken.positionMultiplier
  let remaining ← SafeMath.sub preciseUnit inflationFee
  let factor ← SafeCast.toInt256 remaining
  let newMultiplier ← preciseMulInt currentMultiplier factor
  let setToken ← chain.setToken.editPositionMultiplier chain.controller module newMultiplier
  pure (chain.withSetToken setToken)

/-- Mint the fee that has accrued by now, and lower the units. -/
def accrueFee (module : Address) (world : World) : Outcome World := do
  world.validateOnlyValidAndInitializedSet module
  let accrued ← (
    if 0 < world.feeState.streamingFeePercentage then do
      let inflationFeePercentage ← calculateStreamingFee world
      let feeQuantity ←
        calculateStreamingFeeInflation world.setToken inflationFeePercentage
      let minted ← mintManagerAndProtocolFee module world feeQuantity
      editPositionMultiplier module minted.1 inflationFeePercentage
    else .ok world.toChain)
  pure { world.withChain accrued with
    feeState := { world.feeState with lastStreamingFeeTimestamp := world.timestamp } }

/-- `initialize` of the module. -/
def initializeModule (module : Address) (world : World) (sender : Address)
    (settings : FeeState) : Outcome World := do
  world.validateOnlySetManager sender
  world.validateOnlyValidAndPendingSet module
  require (settings.feeRecipient ≠ zeroAddress) "Fee Recipient must be non-zero address."
  require (settings.maxStreamingFeePercentage < preciseUnit) "Max fee must be < 100%."
  require (settings.streamingFeePercentage ≤ settings.maxStreamingFeePercentage)
    "Fee must be <= max."
  let setToken ← world.setToken.initializeModule module
  pure { world.withChain (world.withSetToken setToken) with
    feeState := { settings with lastStreamingFeeTimestamp := world.timestamp } }

def removeModule (world : World) : World := { world with feeState := noFeeState }

/-- Fees accrue at the old rate before the new one is set. -/
def updateStreamingFee (module : Address) (world : World) (sender : Address)
    (newFee : ℕ) : Outcome World := do
  world.validateOnlySetManager sender
  world.validateOnlyValidAndInitializedSet module
  require (newFee < world.feeState.maxStreamingFeePercentage) "Fee must be less than max"
  let accrued ← accrueFee module world
  pure { accrued with feeState := { accrued.feeState with streamingFeePercentage := newFee } }

def updateFeeRecipient (module : Address) (world : World)
    (sender newFeeRecipient : Address) : Outcome World := do
  world.validateOnlySetManager sender
  world.validateOnlyValidAndInitializedSet module
  require (newFeeRecipient ≠ zeroAddress) "Fee Recipient must be non-zero address."
  pure { world with feeState := { world.feeState with feeRecipient := newFeeRecipient } }

end SetProtocol.StreamingFeeModule
