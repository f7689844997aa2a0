import SetProtocol.Core.Chain

/-!
# The auction rebalance module

A manager sets a target unit for each component, and bidders trade the Set
towards its targets, one component at a time, against a quote asset.  The
auction prices come from adapters named in an integration registry; both are
parameters here.
-/

namespace SetProtocol.AuctionRebalanceModule

open Transaction PreciseUnitMath

structure AuctionExecutionParams where
  targetUnit : ℕ
  priceAdapterName : String
  priceAdapterConfigData : Bytes

structure BidPermissionInfo where
  isAnyoneAllowedToBid : Bool
  biddersHistory : List Address
  bidAllowList : Address → Bool

structure RebalanceInfo where
  quoteAsset : Address
  rebalanceStartTime : ℕ
  rebalanceDuration : ℕ
  /-- Position multiplier when target units were calculated. -/
  positionMultiplier : ℕ
  raiseTargetPercentage : ℕ
  rebalanceComponents : List Address

/-- What a call of this module reads and writes, for one SetToken. -/
structure World extends Chain where
  executionInfo : Address → AuctionExecutionParams
  permissionInfo : BidPermissionInfo
  rebalanceInfo : RebalanceInfo

/-- The integration registry, and the contracts it names. -/
structure Adapters where
  getIntegrationAdapter (module : Address) (name : String) : Address
  getPrice (priceAdapter setToken component : Address)
    (componentQuantity timeElapsed duration : ℕ) (configData : Bytes) : Outcome ℕ
  isPriceAdapterConfigDataValid (priceAdapter : Address) (configData : Bytes) :
    Outcome Bool

structure BidInfo where
  sendToken : Address
  receiveToken : Address
  isSellAuction : Bool
  auctionQuantity : ℕ
  componentPrice : ℕ
  quantitySentBySet : ℕ
  quantityReceivedBySet : ℕ
  preBidTokenSentBalance : ℕ
  preBidTokenReceivedBalance : ℕ
  setTotalSupply : ℕ

/-- `AUCTION_MODULE_V1_PROTOCOL_FEE_INDEX` -/
def auctionModuleProtocolFeeIndex : ℕ := 0

/-- Deleted storage. -/
def noRebalanceInfo : RebalanceInfo := ⟨zeroAddress, 0, 0, 0, 0, []⟩

def World.withChain (world : World) (chain : Chain) : World :=
  { world with toChain := chain }

def World.withRebalanceInfo (world : World) (rebalanceInfo : RebalanceInfo) : World :=
  { world with rebalanceInfo := rebalanceInfo }

/-! ## Targets -/

def getDefaultPositionRealUnit (world : World) (component : Address) : Outcome ℕ := do
  let unit ← world.setToken.getDefaultPositionRealUnit component
  SafeCast.toUint256 unit

/-- Target unit times the current position multiplier, divided by the one at the
start of the rebalance. -/
def getNormalizedTargetUnit (world : World) (component : Address) : Outcome ℕ := do
  let multiplier ← SafeCast.toUint256 world.setToken.positionMultiplier
  let scaled ← SafeMath.mul (world.executionInfo component).targetUnit multiplier
  SafeMath.div scaled world.rebalanceInfo.positionMultiplier

/-- Up to rounding.  The quote asset may float around its target. -/
def targetUnmet (world : World) (component : Address) : Outcome Bool :=
  if component = world.rebalanceInfo.quoteAsset then pure false
  else do
    let normalizedTargetUnit ← getNormalizedTargetUnit world component
    let currentUnit ← getDefaultPositionRealUnit world component
    if 0 < normalizedTargetUnit then do
      let close ← approximatelyEquals normalizedTargetUnit currentUnit 1
      pure (!close)
    else pure (decide (normalizedTargetUnit ≠ currentUnit))

/-- The loop of `_allTargetsMet`, which returns at the first unmet target. -/
def allTargetsMetFrom (world : World) : List Address → Outcome Bool
  | [] => pure true
  | component :: rest => do
      let unmet ← targetUnmet world component
      if unmet = true then pure false
      else allTargetsMetFrom world rest

def allTargetsMet (world : World) : Outcome Bool :=
  allTargetsMetFrom world world.rebalanceInfo.rebalanceComponents

def isRebalanceDurationElapsed (world : World) : Outcome Bool := do
  let finish ← SafeMath.add world.rebalanceInfo.rebalanceStartTime
    world.rebalanceInfo.rebalanceDuration
  pure (decide (finish ≤ world.timestamp))

def isQuoteAssetExcessOrAtTarget (world : World) : Outcome Bool := do
  let currentUnit ← getDefaultPositionRealUnit world world.rebalanceInfo.quoteAsset
  let targetUnit ← getNormalizedTargetUnit world world.rebalanceInfo.quoteAsset
  let isExcess := decide (targetUnit < currentUnit)
  let isAtTarget ← approximatelyEquals currentUnit targetUnit 1
  pure (isExcess || isAtTarget)

def canUnlockEarly (world : World) : Outcome Bool := do
  let met ← allTargetsMet world
  if met = true then do
    let excessOrAtTarget ← isQuoteAssetExcessOrAtTarget world
    pure (excessOrAtTarget && decide (world.rebalanceInfo.raiseTargetPercentage = 0))
  else pure false

def canRaiseAssetTargets (world : World) : Outcome Bool := do
  let currentUnit ← getDefaultPositionRealUnit world world.rebalanceInfo.quoteAsset
  let targetUnit ← getNormalizedTargetUnit world world.rebalanceInfo.quoteAsset
  let isQuoteAssetExcess := decide (targetUnit < currentUnit)
  let met ← allTargetsMet world
  pure (met && isQuoteAssetExcess)

/-! ## Starting a rebalance -/

def getAndValidateAdapter (adapters : Adapters) (module : Address) (name : String) :
    Outcome Address := do
  let adapter := adapters.getIntegrationAdapter module name
  require (adapter ≠ zeroAddress) "Must be valid adapter"
  pure adapter

def validateAuctionExecutionPriceParams (adapters : Adapters) (module : Address)
    (params : AuctionExecutionParams) : Outcome Unit := do
  let adapter ← getAndValidateAdapter adapters module params.priceAdapterName
  let valid ←
    adapters.isPriceAdapterConfigDataValid adapter params.priceAdapterConfigData
  require (valid = true) "Price adapter config data invalid"

/-- The parameters of old components may have a target of zero, new ones not. -/
def concatAndValidateAuctionParams (adapters : Adapters) (module : Address)
    (oldParams newParams : List AuctionExecutionParams) :
    Outcome (List AuctionExecutionParams) := do
  oldParams.forM (validateAuctionExecutionPriceParams adapters module)
  newParams.forM fun params => do
    require (0 < params.targetUnit) "New component target unit must be greater than 0"
    validateAuctionExecutionPriceParams adapters module params
  pure (oldParams ++ newParams)

def aggregateComponentsAndAuctionParams (adapters : Adapters) (module : Address)
    (currentComponents newComponents : List Address)
    (newParams oldParams : List AuctionExecutionParams) :
    Outcome (List Address × List AuctionExecutionParams) := do
  require (newComponents.length = newParams.length)
    "New components and params length mismatch"
  require (currentComponents.length = oldParams.length)
    "Old components and params length mismatch"
  let aggregateComponents ← AddressArrayUtils.extend currentComponents newComponents
  let duplicate ← AddressArrayUtils.hasDuplicate aggregateComponents
  require (duplicate = false) "Cannot have duplicate components"
  let aggregateParams ←
    concatAndValidateAuctionParams adapters module oldParams newParams
  pure (aggregateComponents, aggregateParams)

/-- Body of the loop that stores the auction parameters. -/
def setExecutionInfo (setToken : SetToken)
    (executionInfo : Address → AuctionExecutionParams)
    (entry : Address × AuctionExecutionParams) :
    Outcome (Address → AuctionExecutionParams) := do
  require (Position.hasExternalPosition setToken entry.1 = false)
    "External positions not allowed"
  pure (Function.update executionInfo entry.1 entry.2)

/-- Arguments of `startRebalance`. -/
structure RebalancePlan where
  quoteAsset : Address
  newComponents : List Address
  newComponentsAuctionParams : List AuctionExecutionParams
  oldComponentsAuctionParams : List AuctionExecutionParams
  shouldLockSetToken : Bool
  rebalanceDuration : ℕ
  initialPositionMultiplier : ℕ

def startRebalance (adapters : Adapters) (module : Address) (world : World)
    (sender : Address) (plan : RebalancePlan) : Outcome World := do
  world.validateOnlyManagerAndValidSet module sender
  let setToken ← (
    if plan.shouldLockSetToken = true ∧ world.setToken.locker ≠ module then
      world.setToken.lock world.controller module
    else .ok world.setToken)
  let aggregate ← aggregateComponentsAndAuctionParams adapters module setToken.components
    plan.newComponents plan.newComponentsAuctionParams plan.oldComponentsAuctionParams
  let executionInfo ← (aggregate.1.zip aggregate.2).foldlM (setExecutionInfo setToken)
    world.executionInfo
  pure { world.withChain (world.withSetToken setToken) with
    executionInfo := executionInfo
    rebalanceInfo := { world.rebalanceInfo with
      quoteAsset := plan.quoteAsset
      rebalanceStartTime := world.timestamp
      rebalanceDuration := plan.rebalanceDuration
      positionMultiplier := plan.initialPositionMultiplier
      rebalanceComponents := aggregate.1 } }

/-! ## Bids -/

def isAllowedBidder (world : World) (bidder : Address) : Bool :=
  world.permissionInfo.isAnyoneAllowedToBid || world.permissionInfo.bidAllowList bidder

def validateOnlyAllowedBidder (world : World) (bidder : Address) : Outcome Unit :=
  require (isAllowedBidder world bidder = true) "Address not permitted to bid"

def validateBidTargets (world : World) (component quoteAsset : Address)
    (componentAmount : ℕ) : Outcome Unit := do
  require (component ≠ world.rebalanceInfo.quoteAsset)
    "Cannot bid explicitly on Quote Asset"
  require (quoteAsset = world.rebalanceInfo.quoteAsset) "Quote asset mismatch"
  require (AddressArrayUtils.contains world.rebalanceInfo.rebalanceComponents component
    = true) "Component not part of rebalance"
  require (Position.hasExternalPosition world.setToken component = false)
    "External positions not allowed"
  let elapsed ← isRebalanceDurationElapsed world
  require (elapsed = false) "Rebalance must be in progress"
  require (0 < componentAmount) "Component amount must be > 0"

/-- Current unit, target unit, and the notional amounts of both. -/
def getUnitsAndNotionalAmounts (world : World) (component : Address)
    (totalSupply : ℕ) : Outcome (ℕ × ℕ × ℕ × ℕ) := do
  let currentUnit ← getDefaultPositionRealUnit world component
  let targetUnit ← getNormalizedTargetUnit world component
  let currentNotionalAmount ← Position.getDefaultTotalNotional totalSupply currentUnit
  let targetNotionalAmount ← preciseMulCeil totalSupply targetUnit
  pure (currentUnit, targetUnit, currentNotionalAmount, targetNotionalAmount)

/-- Whether the component is sold, and how much of it settles the auction. -/
def calculateAuctionSizeAndDirection (module : Address) (world : World)
    (component : Address) (totalSupply : ℕ) : Outcome (Bool × ℕ) := do
  let protocolFee := world.controller.getModuleFee module auctionModuleProtocolFeeIndex
  let (currentUnit, targetUnit, currentNotional, targetNotional) ←
    getUnitsAndNotionalAmounts world component totalSupply
  require (currentUnit ≠ targetUnit) "Target already met"
  if targetNotional < currentNotional then do
    let maxComponentQty ← SafeMath.sub currentNotional targetNotional
    pure (true, maxComponentQty)
  else do
    let missing ← SafeMath.sub targetNotional currentNotional
    let kept ← SafeMath.sub preciseUnit protocolFee
    let maxComponentQty ← preciseDiv missing kept
    pure (false, maxComponentQty)

/-- The quantity that is filled: all of the auction, or the bidder's amount. -/
def fillQuantity (componentQuantity auctionQuantity : ℕ) : Outcome ℕ :=
  if componentQuantity = maxUint256 then pure auctionQuantity
  else do
    require (componentQuantity ≤ auctionQuantity) "Bid size exceeds auction quantity"
    pure componentQuantity

def calculateQuoteAssetQuantity (isSellAuction : Bool)
    (componentQuantity componentPrice : ℕ) : Outcome ℕ :=
  if isSellAuction = true then preciseMulCeil componentQuantity componentPrice
  else preciseMul componentQuantity componentPrice

def validateQuoteAssetQuantity (isSellAuction : Bool)
    (quoteAssetQuantity quoteQuantityLimit preBidTokenSentBalance : ℕ) : Outcome Unit :=
  if isSellAuction = true then
    require (quoteAssetQuantity ≤ quoteQuantityLimit) "Quote asset quantity exceeds limit"
  else do
    require (quoteQuantityLimit ≤ quoteAssetQuantity) "Quote asset quantity below limit"
    require (quoteAssetQuantity ≤ preBidTokenSentBalance)
      "Insufficient quote asset balance"

def createBidInfo (adapters : Adapters) (module : Address) (world : World)
    (component : Address) (componentQuantity quoteQuantityLimit : ℕ)
    (isSellAuction : Bool) : Outcome BidInfo := do
  let setTotalSupply := world.setToken.totalSupply
  let params := world.executionInfo component
  let priceAdapter ← getAndValidateAdapter adapters module params.priceAdapterName
  let (isSell, auctionQuantity) ←
    calculateAuctionSizeAndDirection module world component setTotalSupply
  require (isSell = isSellAuction) "Auction direction mismatch"
  let componentQuantity ← fillQuantity componentQuantity auctionQuantity
  let quoteAsset := world.rebalanceInfo.quoteAsset
  let sendToken := if isSell = true then component else quoteAsset
  let receiveToken := if isSell = true then quoteAsset else component
  let timeElapsed ← SafeMath.sub world.timestamp world.rebalanceInfo.rebalanceStartTime
  let componentPrice ← adapters.getPrice priceAdapter world.setTokenAddress component
    componentQuantity timeElapsed world.rebalanceInfo.rebalanceDuration
    params.priceAdapterConfigData
  let quoteAssetQuantity ←
    calculateQuoteAssetQuantity isSell componentQuantity componentPrice
  let preBidTokenSentBalance := world.heldBalance sendToken
  validateQuoteAssetQuantity isSell quoteAssetQuantity quoteQuantityLimit
    preBidTokenSentBalance
  pure {
    sendToken := sendToken
    receiveToken := receiveToken
    isSellAuction := isSell
    auctionQuantity := auctionQuantity
    componentPrice := componentPrice
    quantitySentBySet := if isSell = true then componentQuantity else quoteAssetQuantity
    quantityReceivedBySet :=
      if isSell = true then quoteAssetQuantity else componentQuantity
    preBidTokenSentBalance := preBidTokenSentBalance
    preBidTokenReceivedBalance := world.heldBalance receiveToken
    setTotalSupply := setTotalSupply }

/-- The bidder pays first. -/
def executeBid (module : Address) (chain : Chain) (sender : Address)
    (bidInfo : BidInfo) : Outcome Chain := do
  let received ← chain.transferFrom bidInfo.receiveToken sender chain.setTokenAddress
    bidInfo.quantityReceivedBySet
  received.strictInvokeTransfer module bidInfo.sendToken sender bidInfo.quantitySentBySet

def accrueProtocolFee (module : Address) (chain : Chain) (bidInfo : BidInfo) :
    Outcome Chain := do
  let exchangedQuantity ← SafeMath.sub (chain.heldBalance bidInfo.receiveToken)
    bidInfo.preBidTokenReceivedBalance
  let protocolFee ←
    chain.getModuleFee module auctionModuleProtocolFeeIndex exchangedQuantity
  chain.payProtocolFeeFromSetToken module bidInfo.receiveToken protocolFee

def updatePositionState (module : Address) (chain : Chain) (bidInfo : BidInfo) :
    Outcome Chain := do
  let postBidSendTokenBalance := chain.heldBalance bidInfo.sendToken
  let (sent, _) ← Position.calculateAndEditDefaultPosition chain.setToken chain.controller
    module bidInfo.sendToken postBidSendTokenBalance bidInfo.setTotalSupply
    bidInfo.preBidTokenSentBalance
  let postBidReceiveTokenBalance := chain.heldBalance bidInfo.receiveToken
  let (received, _) ← Position.calculateAndEditDefaultPosition sent chain.controller
    module bidInfo.receiveToken postBidReceiveTokenBalance bidInfo.setTotalSupply
    bidInfo.preBidTokenReceivedBalance
  let _ ← SafeMath.sub bidInfo.preBidTokenSentBalance postBidSendTokenBalance
  let _ ← SafeMath.sub postBidReceiveTokenBalance bidInfo.preBidTokenReceivedBalance
  pure (chain.withSetToken received)

/-- Arguments of `bid`. -/
structure BidOrder where
  component : Address
  quoteAsset : Address
  componentAmount : ℕ
  quoteAssetLimit : ℕ
  isSellAuction : Bool

def bid (adapters : Adapters) (module : Address) (world : World) (sender : Address)
    (order : BidOrder) : Outcome World := do
  validateOnlyAllowedBidder world sender
  validateBidTargets world order.component order.quoteAsset order.componentAmount
  let bidInfo ← createBidInfo adapters module world order.component order.componentAmount
    order.quoteAssetLimit order.isSellAuction
  let executed ← executeBid module world.toChain sender bidInfo
  let charged ← accrueProtocolFee module executed bidInfo
  let updated ← updatePositionState module charged bidInfo
  pure (world.withChain updated)

/-! ## Ending a rebalance -/

def raiseAssetTargets (world : World) (sender : Address) : Outcome World := do
  validateOnlyAllowedBidder world sender
  let elapsed ← isRebalanceDurationElapsed world
  require (elapsed = false) "Rebalance must be in progress"
  let canRaise ← canRaiseAssetTargets world
  require (canRaise = true) "Targets not met or quote asset =~ 0"
  let raised ← SafeMath.add preciseUnit world.rebalanceInfo.raiseTargetPercentage
  let newPositionMultiplier ← preciseDiv world.rebalanceInfo.positionMultiplier raised
  pure (world.withRebalanceInfo
    { world.rebalanceInfo with positionMultiplier := newPositionMultiplier })

/-- Anyone may call this.  The early-unlock predicate is evaluated in any case. -/
def unlock (module : Address) (world : World) : Outcome World := do
  let elapsed ← isRebalanceDurationElapsed world
  let early ← canUnlockEarly world
  require (elapsed = true ∨ early = true)
    "Cannot unlock early unless all targets are met and raiseTargetPercentage is zero"
  let setToken ← world.setToken.unlock world.controller module
  pure ((world.withChain (world.withSetToken setToken)).withRebalanceInfo
    { world.rebalanceInfo with
      rebalanceDuration := if early = true then 0 else world.rebalanceInfo.rebalanceDuration
      raiseTargetPercentage := 0 })

/-! ## Settings -/

def setRaiseTargetPercentage (module : Address) (world : World) (sender : Address)
    (raiseTargetPercentage : ℕ) : Outcome World := do
  world.validateOnlyManagerAndValidSet module sender
  pure (world.withRebalanceInfo
    { world.rebalanceInfo with raiseTargetPercentage := raiseTargetPercentage })

def updateBiddersHistory (biddersHistory : List Address) (bidder : Address)
    (status : Bool) : Outcome (List Address) :=
  if status = true ∧ AddressArrayUtils.contains biddersHistory bidder = false then
    pure (biddersHistory ++ [bidder])
  else if status = false ∧ AddressArrayUtils.contains biddersHistory bidder = true then
    AddressArrayUtils.removeStorage biddersHistory bidder
  else pure biddersHistory

/-- Body of the loop of `setBidderStatus`. -/
def updateBidderStatus (permissions : BidPermissionInfo) (entry : Address × Bool) :
    Outcome BidPermissionInfo := do
  let biddersHistory ← updateBiddersHistory permissions.biddersHistory entry.1 entry.2
  pure { permissions with
    biddersHistory := biddersHistory
    bidAllowList := Function.update permissions.bidAllowList entry.1 entry.2 }

def setBidderStatus (module : Address) (world : World) (sender : Address)
    (bidders : List Address) (statuses : List Bool) : Outcome World := do
  world.validateOnlyManagerAndValidSet module sender
  AddressArrayUtils.validatePairsWithArray bidders statuses
  let permissionInfo ←
    (bidders.zip statuses).foldlM updateBidderStatus world.permissionInfo
  pure { world with permissionInfo := permissionInfo }

def setAnyoneBid (module : Address) (world : World) (sender : Address)
    (status : Bool) : Outcome World := do
  world.validateOnlyManagerAndValidSet module sender
  pure { world with
    permissionInfo := { world.permissionInfo with isAnyoneAllowedToBid := status } }

/-- Body of the loop of `initialize`: the target is the current unit, for now. -/
def setInitialTarget (executionInfo : Address → AuctionExecutionParams)
    (position : SetToken.Position) : Outcome (Address → AuctionExecutionParams) := do
  require (position.positionState = .DEFAULT) "External positions not allowed"
  let targetUnit ← SafeCast.toUint256 position.unit
  pure (Function.update executionInfo position.component
    { executionInfo position.component with targetUnit := targetUnit })

/-- `initialize` of the module. -/
def initializeModule (module : Address) (world : World) (sender : Address) :
    Outcome World := do
  world.validateOnlySetManager sender
  world.validateOnlyValidAndPendingSet module
  let positions ← world.setToken.getPositions
  let executionInfo ← positions.foldlM setInitialTarget world.executionInfo
  let positionMultiplier ← SafeCast.toUint256 world.setToken.positionMultiplier
  let setToken ← world.setToken.initializeModule module
  pure { world.withChain (world.withSetToken setToken) with
    executionInfo := executionInfo
    rebalanceInfo :=
      { world.rebalanceInfo with positionMultiplier := positionMultiplier } }

/-- Called by the SetToken.  The execution settings are not deleted, nor is the
allow list but for the bidders in the history. -/
def removeModule (world : World) : World :=
  { world with
    permissionInfo := {
      isAnyoneAllowedToBid := false
      biddersHistory := []
      bidAllowList := world.permissionInfo.biddersHistory.foldl
        (fun allowed bidder => Function.update allowed bidder false)
        world.permissionInfo.bidAllowList }
    rebalanceInfo := noRebalanceInfo }

/-! ## The steps of a bid -/

variable {adapters : Adapters} {module sender : Address} {world next : World}
variable {chain reached : Chain} {bidInfo : BidInfo}

/-- Target unit under the current multiplier. -/
def normalizedTargetUnit (world : World) (component : Address) : ℕ :=
  (world.executionInfo component).targetUnit * world.setToken.positionMultiplier.toNat /
    world.rebalanceInfo.positionMultiplier

theorem bid_eq_ok {order : BidOrder}
    (hcall : bid adapters module world sender order = .ok next) :
    order.component ≠ world.rebalanceInfo.quoteAsset ∧ 0 < order.componentAmount ∧
      ∃ bidInfo executed charged updated,
        createBidInfo adapters module world order.component order.componentAmount
          order.quoteAssetLimit order.isSellAuction = .ok bidInfo ∧
        executeBid module world.toChain sender bidInfo = .ok executed ∧
        accrueProtocolFee module executed bidInfo = .ok charged ∧
        updatePositionState module charged bidInfo = .ok updated ∧
        next = world.withChain updated := by
  simp only [bid, validateBidTargets, bind_eq_ok, require_eq_ok, pure_eq_ok] at hcall
  obtain ⟨_, -, _, ⟨_, hother, _, -, _, -, _, -, _, -, _, -, hamount⟩, bidInfo, hbidInfo,
    executed, hexecuted, charged, hcharged, updated, hupdated, rfl⟩ := hcall
  exact ⟨hother, hamount, bidInfo, executed, charged, updated, hbidInfo, hexecuted,
    hcharged, hupdated, rfl⟩

/-- Executing a bid changes balances only. -/
theorem executeBid_frame (hcall : executeBid module chain sender bidInfo = .ok reached) :
    ∃ balances, reached = { chain with balances := balances } := by
  simp only [executeBid, bind_eq_ok] at hcall
  obtain ⟨received, hreceived, hsent⟩ := hcall
  obtain ⟨_, rfl⟩ := Chain.transferFrom_frame hreceived
  obtain ⟨_, rfl⟩ := Chain.strictInvokeTransfer_frame hsent
  exact ⟨_, rfl⟩

/-- So does the protocol fee. -/
theorem accrueProtocolFee_frame
    (hcall : accrueProtocolFee module chain bidInfo = .ok reached) :
    ∃ balances, reached = { chain with balances := balances } := by
  simp only [accrueProtocolFee, Chain.payProtocolFeeFromSetToken_eq, bind_eq_ok] at hcall
  obtain ⟨_, -, _, -, hpaid⟩ := hcall
  exact Chain.strictInvokeTransfer_frame hpaid

/-- Both tokens of a bid have their default positions recomputed. -/
theorem updatePositionState_eq_ok
    (hcall : updatePositionState module chain bidInfo = .ok reached) :
    ∃ sent received oldSent newSent oldReceived newReceived,
      Position.calculateAndEditDefaultPosition chain.setToken chain.controller module
        bidInfo.sendToken (chain.heldBalance bidInfo.sendToken) bidInfo.setTotalSupply
        bidInfo.preBidTokenSentBalance = .ok (sent, oldSent, newSent) ∧
      Position.calculateAndEditDefaultPosition sent chain.controller module
        bidInfo.receiveToken (chain.heldBalance bidInfo.receiveToken)
        bidInfo.setTotalSupply bidInfo.preBidTokenReceivedBalance =
          .ok (received, oldReceived, newReceived) ∧
      reached = chain.withSetToken received := by
  simp only [updatePositionState, bind_eq_ok, pure_eq_ok] at hcall
  obtain ⟨⟨sent, oldSent, newSent⟩, hsent, ⟨received, oldReceived, newReceived⟩, hreceived,
    _, -, _, -, rfl⟩ := hcall
  exact ⟨sent, received, oldSent, newSent, oldReceived, newReceived, hsent, hreceived, rfl⟩

end SetProtocol.AuctionRebalanceModule
