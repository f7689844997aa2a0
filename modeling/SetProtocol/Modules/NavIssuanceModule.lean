import SetProtocol.Core.Chain
import SetProtocol.Core.SetValuer

/-!
# Issuance at net asset value

Shares are issued for one reserve asset and redeemed into it, at the valuation of
the whole SetToken.  The positions of all other components stay where they are: a
new position multiplier spreads them over the new supply.  Hooks, over an
environment `E`, and a valuer set by the manager are code that the module does not
know.
-/

namespace SetProtocol.NavIssuanceModule

open Transaction PreciseUnitMath

structure NAVIssuanceSettings where
  managerIssuanceHook : Address
  managerRedemptionHook : Address
  /-- The zero address stands for the Controller's valuer. -/
  setValuer : Address
  reserveAssets : List Address
  feeRecipient : Address
  /-- Entry 0 for issue and entry 1 for redeem. -/
  managerFees : ℕ → ℕ
  maxManagerFee : ℕ
  premiumPercentage : ℕ
  maxPremiumPercentage : ℕ
  minSetTokenSupply : ℕ

/-- Amounts of one issuance or redemption. -/
structure ActionInfo where
  preFeeReserveQuantity : ℕ
  protocolFees : ℕ
  managerFee : ℕ
  netFlowQuantity : ℕ
  setTokenQuantity : ℕ
  previousSetTokenSupply : ℕ
  newSetTokenSupply : ℕ
  newPositionMultiplier : ℤ
  newReservePositionUnit : ℕ

/-- What a call of this module reads and writes, for one SetToken. -/
structure World (E : Type) extends Chain where
  navIssuanceSettings : NAVIssuanceSettings
  isReserveAsset : Address → Bool
  environment : E

/-- The contracts that this module calls. -/
structure Externals (E : Type) where
  calculateSetTokenValuation (valuer : Address) (setToken : SetToken)
    (quoteAsset : Address) : Outcome ℕ
  decimals (token : Address) : ℕ
  invokePreIssueHook (hook reserveAsset : Address) (reserveAssetQuantity : ℕ)
    (caller target : Address) : World E → Outcome (World E)
  invokePreRedeemHook (hook : Address) (setTokenQuantity : ℕ)
    (caller target : Address) : World E → Outcome (World E)

/-- Largest value to which redemptions may inflate the position multiplier. -/
def maxPositionMultiplier : ℤ := 10 ^ 20

def managerIssueFeeIndex : ℕ := 0
def managerRedeemFeeIndex : ℕ := 1
def protocolIssueManagerRevenueShareFeeIndex : ℕ := 0
def protocolRedeemManagerRevenueShareFeeIndex : ℕ := 1
def protocolIssueDirectFeeIndex : ℕ := 2
def protocolRedeemDirectFeeIndex : ℕ := 3

/-- `SET_VALUER_RESOURCE_ID` -/
def setValuerResourceId : ℕ := 2

/-- Deleted storage. -/
def noSettings : NAVIssuanceSettings :=
  ⟨zeroAddress, zeroAddress, zeroAddress, [], zeroAddress, fun _ => 0, 0, 0, 0, 0⟩

variable {E : Type}

def World.withChain (world : World E) (chain : Chain) : World E :=
  { world with toChain := chain }

def World.withSettings (world : World E) (settings : NAVIssuanceSettings) : World E :=
  { world with navIssuanceSettings := settings }

/-! ## Fees and valuation -/

def getProtocolAndManagerFeePercentages (module : Address) (world : World E)
    (protocolManagerFeeIndex protocolDirectFeeIndex managerFeeIndex : ℕ) :
    Outcome (ℕ × ℕ) := do
  let protocolDirectFeePercent :=
    world.controller.getModuleFee module protocolDirectFeeIndex
  let protocolManagerShareFeePercent :=
    world.controller.getModuleFee module protocolManagerFeeIndex
  let managerFeePercent := world.navIssuanceSettings.managerFees managerFeeIndex
  let protocolRevenueSharePercentage ←
    preciseMul protocolManagerShareFeePercent managerFeePercent
  let managerRevenueSharePercentage ←
    SafeMath.sub managerFeePercent protocolRevenueSharePercentage
  let totalProtocolFeePercentage ←
    SafeMath.add protocolRevenueSharePercentage protocolDirectFeePercent
  pure (totalProtocolFeePercentage, managerRevenueSharePercentage)

/-- Fees of the protocol and of the manager, and what is left after both. -/
def getFees (module : Address) (world : World E) (reserveAssetQuantity : ℕ)
    (protocolManagerFeeIndex protocolDirectFeeIndex managerFeeIndex : ℕ) :
    Outcome (ℕ × ℕ × ℕ) := do
  let percentages ← getProtocolAndManagerFeePercentages module world
    protocolManagerFeeIndex protocolDirectFeeIndex managerFeeIndex
  let protocolFees ← preciseMul percentages.1 reserveAssetQuantity
  let managerFee ← preciseMul percentages.2 reserveAssetQuantity
  let afterProtocol ← SafeMath.sub reserveAssetQuantity protocolFees
  let netReserveFlow ← SafeMath.sub afterProtocol managerFee
  pure (protocolFees, managerFee, netReserveFlow)

def getSetValuer (world : World E) : Address :=
  let customValuer := world.navIssuanceSettings.setValuer
  if customValuer = zeroAddress then world.controller.resourceId setValuerResourceId
  else customValuer

def getValuation (externals : Externals E) (world : World E) (reserveAsset : Address) :
    Outcome ℕ :=
  externals.calculateSetTokenValuation (getSetValuer world) world.setToken reserveAsset

/-- `10 ** decimals` of the reserve asset, which is not checked. -/
def reserveBaseUnits (externals : Externals E) (reserveAsset : Address) : ℕ :=
  10 ^ externals.decimals reserveAsset % 2 ^ 256

/-- The premium stays with the old shares. -/
def getSetTokenMintQuantity (externals : Externals E) (world : World E)
    (reserveAsset : Address) (netReserveFlows setTotalSupply : ℕ) : Outcome ℕ := do
  let premiumPercentage := world.navIssuanceSettings.premiumPercentage
  let premiumValue ← preciseMul netReserveFlows premiumPercentage
  let setTokenValuation ← getValuation externals world reserveAsset
  let baseUnits := reserveBaseUnits externals reserveAsset
  let normalizedTotalReserveQuantityNetFees ← preciseDiv netReserveFlows baseUnits
  let netReserveFlowsLessPremium ← SafeMath.sub netReserveFlows premiumValue
  let normalizedTotalReserveQuantityNetFeesAndPremium ←
    preciseDiv netReserveFlowsLessPremium baseUnits
  let totalValuation ← preciseMul setTotalSupply setTokenValuation
  let grown ← SafeMath.add totalValuation normalizedTotalReserveQuantityNetFees
  let denominator ← SafeMath.sub grown normalizedTotalReserveQuantityNetFeesAndPremium
  let scaled ← preciseMul normalizedTotalReserveQuantityNetFeesAndPremium setTotalSupply
  preciseDiv scaled denominator

def getRedeemReserveQuantity (externals : Externals E) (world : World E)
    (reserveAsset : Address) (setTokenQuantity : ℕ) : Outcome ℕ := do
  let setTokenValuation ← getValuation externals world reserveAsset
  let totalRedeemValueInPreciseUnits ← preciseMul setTokenQuantity setTokenValuation
  let prePremiumReserveQuantity ← preciseMul totalRedeemValueInPreciseUnits
    (reserveBaseUnits externals reserveAsset)
  let premiumPercentage := world.navIssuanceSettings.premiumPercentage
  let premiumQuantity ← preciseMulCeil prePremiumReserveQuantity premiumPercentage
  SafeMath.sub prePremiumReserveQuantity premiumQuantity

/-! ## The new positions -/

/-- The multiplier that spreads the positions of the old supply over the new one. -/
def rescaledMultiplier (setToken : SetToken) (previousSetTokenSupply newTotalSupply : ℕ) :
    Outcome ℤ := do
  let previous ← SafeCast.toInt256 previousSetTokenSupply
  let scaled ← SignedSafeMath.mul setToken.positionMultiplier previous
  let new ← SafeCast.toInt256 newTotalSupply
  SignedSafeMath.div scaled new

def getIssuePositionMultiplier (setToken : SetToken)
    (setTokenQuantity previousSetTokenSupply : ℕ) : Outcome (ℕ × ℤ) := do
  let newTotalSupply ← SafeMath.add setTokenQuantity previousSetTokenSupply
  let newPositionMultiplier ←
    rescaledMultiplier setToken previousSetTokenSupply newTotalSupply
  pure (newTotalSupply, newPositionMultiplier)

def getRedeemPositionMultiplier (setToken : SetToken)
    (setTokenQuantity previousSetTokenSupply : ℕ) : Outcome (ℕ × ℤ) := do
  let newTotalSupply ← SafeMath.sub previousSetTokenSupply setTokenQuantity
  let newPositionMultiplier ←
    rescaledMultiplier setToken previousSetTokenSupply newTotalSupply
  require (newPositionMultiplier ≤ maxPositionMultiplier)
    "New position multiplier must not exceed max"
  pure (newTotalSupply, newPositionMultiplier)

/-- What the default position of the reserve asset holds for the old supply. -/
def existingReserve (setToken : SetToken) (reserveAsset : Address)
    (previousSetTokenSupply : ℕ) : Outcome ℕ := do
  let unit ← setToken.getDefaultPositionRealUnit reserveAsset
  let existingUnit ← SafeCast.toUint256 unit
  preciseMul existingUnit previousSetTokenSupply

def getIssuePositionUnit (setToken : SetToken) (reserveAsset : Address)
    (previousSetTokenSupply netFlowQuantity newSetTokenSupply : ℕ) : Outcome ℕ := do
  let existing ← existingReserve setToken reserveAsset previousSetTokenSupply
  let totalReserve ← SafeMath.add existing netFlowQuantity
  preciseDiv totalReserve newSetTokenSupply

def getRedeemPositionUnit (setToken : SetToken) (reserveAsset : Address)
    (previousSetTokenSupply netFlowQuantity protocolFees managerFee newSetTokenSupply : ℕ) :
    Outcome ℕ := do
  let totalExistingUnits ← existingReserve setToken reserveAsset previousSetTokenSupply
  let withProtocolFees ← SafeMath.add netFlowQuantity protocolFees
  let outflow ← SafeMath.add withProtocolFees managerFee
  require (outflow ≤ totalExistingUnits) "Must be greater than total available collateral"
  let left ← SafeMath.sub totalExistingUnits outflow
  preciseDiv left newSetTokenSupply

def createIssuanceInfo (externals : Externals E) (module : Address) (world : World E)
    (reserveAsset : Address) (reserveAssetQuantity : ℕ) : Outcome ActionInfo := do
  let previousSetTokenSupply := world.setToken.totalSupply
  let (protocolFees, managerFee, netFlowQuantity) ← getFees module world
    reserveAssetQuantity protocolIssueManagerRevenueShareFeeIndex
    protocolIssueDirectFeeIndex managerIssueFeeIndex
  let setTokenQuantity ← getSetTokenMintQuantity externals world reserveAsset
    netFlowQuantity previousSetTokenSupply
  let (newSetTokenSupply, newPositionMultiplier) ←
    getIssuePositionMultiplier world.setToken setTokenQuantity previousSetTokenSupply
  let newReservePositionUnit ← getIssuePositionUnit world.setToken reserveAsset
    previousSetTokenSupply netFlowQuantity newSetTokenSupply
  pure ⟨reserveAssetQuantity, protocolFees, managerFee, netFlowQuantity,
    setTokenQuantity, previousSetTokenSupply, newSetTokenSupply, newPositionMultiplier,
    newReservePositionUnit⟩

def createRedemptionInfo (externals : Externals E) (module : Address) (world : World E)
    (reserveAsset : Address) (setTokenQuantity : ℕ) : Outcome ActionInfo := do
  let preFeeReserveQuantity ←
    getRedeemReserveQuantity externals world reserveAsset setTokenQuantity
  let (protocolFees, managerFee, netFlowQuantity) ← getFees module world
    preFeeReserveQuantity protocolRedeemManagerRevenueShareFeeIndex
    protocolRedeemDirectFeeIndex managerRedeemFeeIndex
  let previousSetTokenSupply := world.setToken.totalSupply
  let (newSetTokenSupply, newPositionMultiplier) ←
    getRedeemPositionMultiplier world.setToken setTokenQuantity previousSetTokenSupply
  let newReservePositionUnit ← getRedeemPositionUnit world.setToken reserveAsset
    previousSetTokenSupply netFlowQuantity protocolFees managerFee newSetTokenSupply
  pure ⟨preFeeReserveQuantity, protocolFees, managerFee, netFlowQuantity,
    setTokenQuantity, previousSetTokenSupply, newSetTokenSupply, newPositionMultiplier,
    newReservePositionUnit⟩

/-! ## Issue and redeem -/

def validateCommon (world : World E) (reserveAsset : Address) (quantity : ℕ) :
    Outcome Unit := do
  require (0 < quantity) "Quantity must be > 0"
  require (world.isReserveAsset reserveAsset = true) "Must be valid reserve asset"

def validateIssuanceInfo (world : World E) (minSetTokenReceiveQuantity : ℕ)
    (issueInfo : ActionInfo) : Outcome Unit := do
  require (world.navIssuanceSettings.minSetTokenSupply ≤ issueInfo.previousSetTokenSupply)
    "Supply must be greater than minimum to enable issuance"
  require (minSetTokenReceiveQuantity ≤ issueInfo.setTokenQuantity)
    "Must be greater than min SetToken"

def validateRedemptionInfo (world : World E) (minReserveReceiveQuantity : ℕ)
    (redeemInfo : ActionInfo) : Outcome Unit := do
  require (world.navIssuanceSettings.minSetTokenSupply ≤ redeemInfo.newSetTokenSupply)
    "Supply must be greater than minimum to enable redemption"
  require (minReserveReceiveQuantity ≤ redeemInfo.netFlowQuantity)
    "Must be greater than min receive reserve quantity"

def callPreIssueHooks (externals : Externals E) (world : World E) (reserveAsset : Address)
    (reserveAssetQuantity : ℕ) (caller target : Address) : Outcome (World E) :=
  let preIssueHook := world.navIssuanceSettings.managerIssuanceHook
  if preIssueHook ≠ zeroAddress then
    externals.invokePreIssueHook preIssueHook reserveAsset reserveAssetQuantity caller
      target world
  else pure world

def callPreRedeemHooks (externals : Externals E) (world : World E) (setQuantity : ℕ)
    (caller target : Address) : Outcome (World E) :=
  let preRedeemHook := world.navIssuanceSettings.managerRedemptionHook
  if preRedeemHook ≠ zeroAddress then
    externals.invokePreRedeemHook preRedeemHook setQuantity caller target world
  else pure world

/-- The issuer pays the SetToken and the fees. -/
def transferCollateralAndHandleFees (world : World E) (sender reserveAsset : Address)
    (issueInfo : ActionInfo) : Outcome Chain := do
  let chain ← world.transferFrom reserveAsset sender world.setTokenAddress
    issueInfo.netFlowQuantity
  let chain ← (
    if 0 < issueInfo.protocolFees then
      chain.transferFrom reserveAsset sender chain.controller.feeRecipient
        issueInfo.protocolFees
    else .ok chain)
  if 0 < issueInfo.managerFee then
    chain.transferFrom reserveAsset sender world.navIssuanceSettings.feeRecipient
      issueInfo.managerFee
  else .ok chain

/-- New multiplier first, so that the new unit is converted with it. -/
def editPositions (module : Address) (chain : Chain) (reserveAsset : Address)
    (info : ActionInfo) : Outcome Chain := do
  let rescaled ← chain.setToken.editPositionMultiplier chain.controller module
    info.newPositionMultiplier
  let edited ← Position.editDefaultPosition rescaled chain.controller module reserveAsset
    info.newReservePositionUnit
  pure (chain.withSetToken edited)

def handleIssueStateUpdates (module : Address) (chain : Chain)
    (reserveAsset target : Address) (issueInfo : ActionInfo) : Outcome Chain := do
  let edited ← editPositions module chain reserveAsset issueInfo
  edited.mint module target issueInfo.setTokenQuantity

def handleRedemptionFees (module : Address) (world : World E) (chain : Chain)
    (reserveAsset : Address) (redeemInfo : ActionInfo) : Outcome Chain := do
  let chain ←
    chain.payProtocolFeeFromSetToken module reserveAsset redeemInfo.protocolFees
  if 0 < redeemInfo.managerFee then
    chain.strictInvokeTransfer module reserveAsset world.navIssuanceSettings.feeRecipient
      redeemInfo.managerFee
  else pure chain

def issue (externals : Externals E) (module : Address) (world : World E)
    (sender reserveAsset : Address)
    (reserveAssetQuantity minSetTokenReceiveQuantity : ℕ) (target : Address) :
    Outcome (World E) := do
  world.validateOnlyValidAndInitializedSet module
  validateCommon world reserveAsset reserveAssetQuantity
  let world ←
    callPreIssueHooks externals world reserveAsset reserveAssetQuantity sender target
  let issueInfo ←
    createIssuanceInfo externals module world reserveAsset reserveAssetQuantity
  validateIssuanceInfo world minSetTokenReceiveQuantity issueInfo
  let paid ← transferCollateralAndHandleFees world sender reserveAsset issueInfo
  let minted ← handleIssueStateUpdates module paid reserveAsset target issueInfo
  pure (world.withChain minted)

def redeem (externals : Externals E) (module : Address) (world : World E)
    (sender reserveAsset : Address)
    (setTokenQuantity minReserveReceiveQuantity : ℕ) (target : Address) :
    Outcome (World E) := do
  world.validateOnlyValidAndInitializedSet module
  validateCommon world reserveAsset setTokenQuantity
  let world ← callPreRedeemHooks externals world setTokenQuantity sender target
  let redeemInfo ←
    createRedemptionInfo externals module world reserveAsset setTokenQuantity
  validateRedemptionInfo world minReserveReceiveQuantity redeemInfo
  let burnt ← world.burn module sender setTokenQuantity
  let paid ← burnt.strictInvokeTransfer module reserveAsset target
    redeemInfo.netFlowQuantity
  let charged ← handleRedemptionFees module world paid reserveAsset redeemInfo
  let edited ← editPositions module charged reserveAsset redeemInfo
  pure (world.withChain edited)

/-! ## Views -/

def getExpectedSetTokenIssueQuantity (externals : Externals E) (module : Address)
    (world : World E) (reserveAsset : Address) (reserveAssetQuantity : ℕ) :
    Outcome ℕ := do
  let (_, _, netReserveFlow) ← getFees module world reserveAssetQuantity
    protocolIssueManagerRevenueShareFeeIndex protocolIssueDirectFeeIndex
    managerIssueFeeIndex
  getSetTokenMintQuantity externals world reserveAsset netReserveFlow
    world.setToken.totalSupply

def getExpectedReserveRedeemQuantity (externals : Externals E) (module : Address)
    (world : World E) (reserveAsset : Address) (setTokenQuantity : ℕ) : Outcome ℕ := do
  let preFeeReserveQuantity ←
    getRedeemReserveQuantity externals world reserveAsset setTokenQuantity
  let (_, _, netReserveFlows) ← getFees module world preFeeReserveQuantity
    protocolRedeemManagerRevenueShareFeeIndex protocolRedeemDirectFeeIndex
    managerRedeemFeeIndex
  pure netReserveFlows

def isIssueValid (world : World E) (reserveAsset : Address) (reserveAssetQuantity : ℕ) :
    Bool :=
  decide (reserveAssetQuantity ≠ 0) && world.isReserveAsset reserveAsset &&
    decide (world.navIssuanceSettings.minSetTokenSupply ≤ world.setToken.totalSupply)

/-- The sum with the minimal supply is only computed for a reserve asset. -/
def isRedeemValid (externals : Externals E) (module : Address) (world : World E)
    (reserveAsset : Address) (setTokenQuantity : ℕ) : Outcome Bool :=
  let setTotalSupply := world.setToken.totalSupply
  if setTokenQuantity = 0 ∨ world.isReserveAsset reserveAsset = false then pure false
  else do
    let required ←
      SafeMath.add world.navIssuanceSettings.minSetTokenSupply setTokenQuantity
    if setTotalSupply < required then pure false
    else do
      let totalRedeemValue ←
        getRedeemReserveQuantity externals world reserveAsset setTokenQuantity
      let (_, _, expectedRedeemQuantity) ← getFees module world totalRedeemValue
        protocolRedeemManagerRevenueShareFeeIndex protocolRedeemDirectFeeIndex
        managerRedeemFeeIndex
      let existing ← existingReserve world.setToken reserveAsset setTotalSupply
      pure (decide (expectedRedeemQuantity ≤ existing))

/-! ## Settings -/

def addReserveAsset (module : Address) (world : World E) (sender reserveAsset : Address) :
    Outcome (World E) := do
  world.validateOnlyManagerAndValidSet module sender
  require (world.isReserveAsset reserveAsset = false) "Reserve asset already exists"
  pure { world.withSettings { world.navIssuanceSettings with
      reserveAssets := world.navIssuanceSettings.reserveAssets ++ [reserveAsset] } with
    isReserveAsset := Function.update world.isReserveAsset reserveAsset true }

def removeReserveAsset (module : Address) (world : World E)
    (sender reserveAsset : Address) : Outcome (World E) := do
  world.validateOnlyManagerAndValidSet module sender
  require (world.isReserveAsset reserveAsset = true) "Reserve asset does not exist"
  let reserveAssets ←
    AddressArrayUtils.remove world.navIssuanceSettings.reserveAssets reserveAsset
  pure { world.withSettings
      { world.navIssuanceSettings with reserveAssets := reserveAssets } with
    isReserveAsset := Function.update world.isReserveAsset reserveAsset false }

def editPremium (module : Address) (world : World E) (sender : Address)
    (premiumPercentage : ℕ) : Outcome (World E) := do
  world.validateOnlyManagerAndValidSet module sender
  require (premiumPercentage ≤ world.navIssuanceSettings.maxPremiumPercentage)
    "Premium must be less than maximum allowed"
  pure (world.withSettings
    { world.navIssuanceSettings with premiumPercentage := premiumPercentage })

def editManagerFee (module : Address) (world : World E) (sender : Address)
    (managerFeePercentage managerFeeIndex : ℕ) : Outcome (World E) := do
  world.validateOnlyManagerAndValidSet module sender
  require (managerFeePercentage ≤ world.navIssuanceSettings.maxManagerFee)
    "Manager fee must be less than maximum allowed"
  require (managerFeeIndex < 2) "invalid opcode"
  pure (world.withSettings
    { world.navIssuanceSettings with
      managerFees := Function.update world.navIssuanceSettings.managerFees managerFeeIndex
        managerFeePercentage })

def editFeeRecipient (module : Address) (world : World E)
    (sender managerFeeRecipient : Address) : Outcome (World E) := do
  world.validateOnlyManagerAndValidSet module sender
  require (managerFeeRecipient ≠ zeroAddress) "Fee recipient must not be 0 address"
  pure (world.withSettings
    { world.navIssuanceSettings with feeRecipient := managerFeeRecipient })

/-- Body of the loop over the reserve assets. -/
def flagReserveAsset (isReserveAsset : Address → Bool) (reserveAsset : Address) :
    Outcome (Address → Bool) := do
  require (isReserveAsset reserveAsset = false) "Reserve assets must be unique"
  pure (Function.update isReserveAsset reserveAsset true)

def validateSettings (settings : NAVIssuanceSettings) : Outcome Unit := do
  require (0 < settings.reserveAssets.length) "Reserve assets must be greater than 0"
  require (settings.maxManagerFee < preciseUnit) "Max manager fee must be less than 100%"
  require (settings.maxPremiumPercentage < preciseUnit)
    "Max premium percentage must be less than 100%"
  require (settings.managerFees 0 ≤ settings.maxManagerFee)
    "Manager issue fee must be less than max"
  require (settings.managerFees 1 ≤ settings.maxManagerFee)
    "Manager redeem fee must be less than max"
  require (settings.premiumPercentage ≤ settings.maxPremiumPercentage)
    "Premium must be less than max"
  require (settings.feeRecipient ≠ zeroAddress) "Fee Recipient must be non-zero address."
  require (0 < settings.minSetTokenSupply) "Min SetToken supply must be greater than 0"

/-- `initialize` of the module. -/
def initializeModule (module : Address) (world : World E) (sender : Address)
    (settings : NAVIssuanceSettings) : Outcome (World E) := do
  world.validateOnlySetManager sender
  world.validateOnlyValidAndPendingSet module
  validateSettings settings
  let isReserveAsset ← settings.reserveAssets.foldlM flagReserveAsset world.isReserveAsset
  let setToken ← world.setToken.initializeModule module
  pure { (world.withChain (world.withSetToken setToken)).withSettings settings with
    isReserveAsset := isReserveAsset }

def removeModule (world : World E) : World E :=
  { world.withSettings noSettings with
    isReserveAsset := world.navIssuanceSettings.reserveAssets.foldl
      (fun flags reserveAsset => Function.update flags reserveAsset false)
      world.isReserveAsset }

end SetProtocol.NavIssuanceModule
