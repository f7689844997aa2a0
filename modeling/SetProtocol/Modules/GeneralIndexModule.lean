import SetProtocol.Core.Venue

/-!
# The general index module

A manager sets a target unit for each component, and traders move the Set towards its
targets, one component at a time, on exchanges with WETH as the quote asset.  How much is
traded follows from the targets; the exchanges are code outside of the repository.
-/

namespace SetProtocol.GeneralIndexModule

open Transaction PreciseUnitMath

structure TradeExecutionParams where
  targetUnit : ℕ
  maxSize : ℕ
  coolOffPeriod : ℕ
  lastTradeTimestamp : ℕ
  exchangeName : String
  exchangeData : Bytes

structure TradePermissionInfo where
  anyoneTrade : Bool
  tradersHistory : List Address
  tradeAllowList : Address → Bool

structure RebalanceInfo where
  /-- Position multiplier at the beginning of the rebalance. -/
  positionMultiplier : ℕ
  raiseTargetPercentage : ℕ
  rebalanceComponents : List Address

/-- What a call of this module reads and writes, for one SetToken. -/
structure World (P : Type) extends Chain where
  /-- Storage of the exchanges, what they hold included. -/
  protocols : P
  executionInfo : Address → TradeExecutionParams
  permissionInfo : TradePermissionInfo
  rebalanceInfo : RebalanceInfo

/-- What an exchange adapter is asked for. -/
structure TradeOrder where
  exchangeAdapter : Address
  sendToken : Address
  receiveToken : Address
  isSendTokenFixed : Bool
  sendQuantity : ℕ
  floatingQuantityLimit : ℕ
  exchangeData : Bytes

/-- What an exchange pulls from the SetToken and pays to it. -/
structure Exchanged where
  sent : ℕ
  received : ℕ

/-- The integration registry, the WETH contract and the exchanges. -/
structure Exchanges (P : Type) where
  registry : IntegrationRegistry
  weth : Address
  execute : TradeOrder → P → Outcome (P × Exchanged)

/-- `msg.sender` and `tx.origin` -/
structure Caller where
  sender : Address
  origin : Address

structure TradeInfo where
  exchangeAdapter : Address
  sendToken : Address
  receiveToken : Address
  isSendTokenFixed : Bool
  setTotalSupply : ℕ
  totalFixedQuantity : ℕ
  sendQuantity : ℕ
  floatingQuantityLimit : ℕ
  preTradeSendTokenBalance : ℕ
  preTradeReceiveTokenBalance : ℕ
  exchangeData : Bytes

/-- What a trade emits. -/
structure TradeExecuted where
  sellComponent : Address
  buyComponent : Address
  exchangeAdapter : Address
  executor : Address
  netAmountSold : ℕ
  netAmountReceived : ℕ
  protocolFee : ℕ

/-- `GENERAL_INDEX_MODULE_PROTOCOL_FEE_INDEX` -/
def generalIndexModuleProtocolFeeIndex : ℕ := 0

/-- Deleted storage. -/
def noRebalanceInfo : RebalanceInfo := ⟨0, 0, []⟩

variable {P : Type}

def World.withChain (world : World P) (chain : Chain) : World P :=
  { world with toChain := chain }

/-- The execution parameters of one component replaced. -/
def World.withExecutionInfo (world : World P) (component : Address)
    (params : TradeExecutionParams) : World P :=
  { world with executionInfo := Function.update world.executionInfo component params }

def World.withRebalanceInfo (world : World P) (rebalanceInfo : RebalanceInfo) : World P :=
  { world with rebalanceInfo := rebalanceInfo }

/-! ## Targets -/

def getDefaultPositionRealUnit (world : World P) (component : Address) : Outcome ℕ := do
  let unit ← world.setToken.getDefaultPositionRealUnit component
  SafeCast.toUint256 unit

/-- Target unit times the current position multiplier, divided by the one at the
beginning of the rebalance. -/
def getNormalizedTargetUnit (world : World P) (component : Address) : Outcome ℕ := do
  let multiplier ← SafeCast.toUint256 world.setToken.positionMultiplier
  let scaled ← SafeMath.mul (world.executionInfo component).targetUnit multiplier
  SafeMath.div scaled world.rebalanceInfo.positionMultiplier

/-- Current unit, target unit, and the notional amounts of both. -/
def getUnitsAndNotionalAmounts (world : World P) (component : Address)
    (totalSupply : ℕ) : Outcome (ℕ × ℕ × ℕ × ℕ) := do
  let currentUnit ← getDefaultPositionRealUnit world component
  let targetUnit ← getNormalizedTargetUnit world component
  let currentNotional ← Position.getDefaultTotalNotional totalSupply currentUnit
  let targetNotional ← preciseMulCeil totalSupply targetUnit
  pure (currentUnit, targetUnit, currentNotional, targetNotional)

/-- Up to rounding.  WETH may float around its target. -/
def targetUnmet (weth : Address) (world : World P) (component : Address) :
    Outcome Bool :=
  if component = weth then pure false
  else do
    let normalizedTargetUnit ← getNormalizedTargetUnit world component
    let currentUnit ← getDefaultPositionRealUnit world component
    if 0 < normalizedTargetUnit then do
      let close ← approximatelyEquals normalizedTargetUnit currentUnit 1
      pure (!close)
    else pure (decide (normalizedTargetUnit ≠ currentUnit))

/-- The loop of `_allTargetsMet`, which returns at the first unmet target. -/
def allTargetsMetFrom (weth : Address) (world : World P) : List Address → Outcome Bool
  | [] => pure true
  | component :: rest => do
      let unmet ← targetUnmet weth world component
      if unmet = true then pure false
      else allTargetsMetFrom weth world rest

def allTargetsMet (weth : Address) (world : World P) : Outcome Bool :=
  allTargetsMetFrom weth world world.rebalanceInfo.rebalanceComponents

def canSell (weth : Address) (world : World P) (component : Address) : Outcome Bool :=
  if component = weth then pure false
  else do
    let normalizedTargetUnit ← getNormalizedTargetUnit world component
    let currentUnit ← getDefaultPositionRealUnit world component
    pure (decide (normalizedTargetUnit < currentUnit))

/-- The loop of `_noTokensToSell`. -/
def noTokensToSellFrom (weth : Address) (world : World P) : List Address → Outcome Bool
  | [] => pure true
  | component :: rest => do
      let sellable ← canSell weth world component
      if sellable = true then pure false
      else noTokensToSellFrom weth world rest

def noTokensToSell (weth : Address) (world : World P) : Outcome Bool :=
  noTokensToSellFrom weth world world.rebalanceInfo.rebalanceComponents

def validateComponentPositionUnit (world : World P) (component : Address) :
    Outcome Unit := do
  let currentUnit ← getDefaultPositionRealUnit world component
  let targetUnit ← getNormalizedTargetUnit world component
  require (currentUnit ≤ targetUnit) "Can not exceed target unit"

/-! ## Starting a rebalance -/

/-- The targets of old components come first, in the order of the SetToken's list. -/
def getAggregateComponentsAndUnits (currentComponents newComponents : List Address)
    (newComponentsTargetUnits oldComponentsTargetUnits : List ℕ) :
    Outcome (List Address × List ℕ) := do
  require (newComponents.length = newComponentsTargetUnits.length) "Array length mismatch"
  require (currentComponents.length = oldComponentsTargetUnits.length)
    "Old Components targets missing"
  let aggregateComponents ← AddressArrayUtils.extend currentComponents newComponents
  let aggregateTargetUnits := oldComponentsTargetUnits ++ newComponentsTargetUnits
  let duplicate ← AddressArrayUtils.hasDuplicate aggregateComponents
  require (duplicate = false) "Cannot duplicate components"
  pure (aggregateComponents, aggregateTargetUnits)

/-- Body of the loop that stores the targets. -/
def setTargetUnit (setToken : SetToken)
    (executionInfo : Address → TradeExecutionParams) (entry : Address × ℕ) :
    Outcome (Address → TradeExecutionParams) := do
  require (Position.hasExternalPosition setToken entry.1 = false)
    "External positions not allowed"
  pure (Function.update executionInfo entry.1
    { executionInfo entry.1 with targetUnit := entry.2 })

/-- Arguments of `startRebalance`. -/
structure RebalancePlan where
  newComponents : List Address
  newComponentsTargetUnits : List ℕ
  oldComponentsTargetUnits : List ℕ
  positionMultiplier : ℕ

def startRebalance (module : Address) (world : World P) (sender : Address)
    (plan : RebalancePlan) : Outcome (World P) := do
  world.validateOnlyManagerAndValidSet module sender
  let aggregate ← getAggregateComponentsAndUnits world.setToken.components
    plan.newComponents plan.newComponentsTargetUnits plan.oldComponentsTargetUnits
  let executionInfo ← (aggregate.1.zip aggregate.2).foldlM (setTargetUnit world.setToken)
    world.executionInfo
  pure { world with
    executionInfo := executionInfo
    rebalanceInfo := { world.rebalanceInfo with
      rebalanceComponents := aggregate.1
      positionMultiplier := plan.positionMultiplier } }

/-! ## Trades -/

def isAllowedTrader (world : World P) (trader : Address) : Bool :=
  world.permissionInfo.anyoneTrade || world.permissionInfo.tradeAllowList trader

def validateOnlyAllowedTrader (world : World P) (trader : Address) : Outcome Unit :=
  require (isAllowedTrader world trader = true) "Address not permitted to trade"

def validateOnlyEOAIfUnrestricted (world : World P) (caller : Caller) : Outcome Unit :=
  if world.permissionInfo.anyoneTrade = true then
    require (caller.sender = caller.origin) "Caller must be EOA Address"
  else pure ()

def validateTradeParameters (weth : Address) (world : World P) (component : Address) :
    Outcome Unit := do
  require (component ≠ weth) "Can not explicitly trade WETH"
  require (AddressArrayUtils.contains world.rebalanceInfo.rebalanceComponents component
    = true) "Component not part of rebalance"
  let componentInfo := world.executionInfo component
  let ready ← SafeMath.add componentInfo.lastTradeTimestamp componentInfo.coolOffPeriod
  require (ready ≤ world.timestamp) "Component cool off in progress"
  require (Position.hasExternalPosition world.setToken component = false)
    "External positions not allowed"

/-- Whether the component is sold, and how much of it is traded: what brings it to its
target, but no more than its trade maximum. -/
def calculateTradeSizeAndDirection (module : Address) (world : World P)
    (component : Address) (totalSupply : ℕ) : Outcome (Bool × ℕ) := do
  let protocolFee :=
    world.controller.getModuleFee module generalIndexModuleProtocolFeeIndex
  let componentMaxSize := (world.executionInfo component).maxSize
  let (currentUnit, targetUnit, currentNotional, targetNotional) ←
    getUnitsAndNotionalAmounts world component totalSupply
  require (currentUnit ≠ targetUnit) "Target already met"
  if targetNotional < currentNotional then do
    let excess ← SafeMath.sub currentNotional targetNotional
    pure (true, min componentMaxSize excess)
  else do
    let missing ← SafeMath.sub targetNotional currentNotional
    let kept ← SafeMath.sub preciseUnit protocolFee
    let grossed ← preciseDiv missing kept
    pure (false, min componentMaxSize grossed)

/-- The fields that both kinds of trades have in common.  Without a calculated direction
WETH is sent. -/
def getDefaultTradeInfo (exchanges : Exchanges P) (module : Address) (world : World P)
    (component : Address) (calculateTradeDirection : Bool) : Outcome TradeInfo := do
  let setTotalSupply := world.setToken.totalSupply
  let exchangeAdapter ← getAndValidateAdapter exchanges.registry module
    (world.executionInfo component).exchangeName
  let (isSendTokenFixed, totalFixedQuantity) ← (
    if calculateTradeDirection = true then
      calculateTradeSizeAndDirection module world component setTotalSupply
    else .ok (false, 0))
  let sendToken := if isSendTokenFixed = true then component else exchanges.weth
  let receiveToken := if isSendTokenFixed = true then exchanges.weth else component
  pure {
    exchangeAdapter := exchangeAdapter
    sendToken := sendToken
    receiveToken := receiveToken
    isSendTokenFixed := isSendTokenFixed
    setTotalSupply := setTotalSupply
    totalFixedQuantity := totalFixedQuantity
    sendQuantity := 0
    floatingQuantityLimit := 0
    preTradeSendTokenBalance := world.heldBalance sendToken
    preTradeReceiveTokenBalance := world.heldBalance receiveToken
    exchangeData := (world.executionInfo component).exchangeData }

def createTradeInfo (exchanges : Exchanges P) (module : Address) (world : World P)
    (component : Address) (ethQuantityLimit : ℕ) : Outcome TradeInfo := do
  let tradeInfo ← getDefaultTradeInfo exchanges module world component true
  if tradeInfo.isSendTokenFixed = true then
    pure { tradeInfo with
      sendQuantity := tradeInfo.totalFixedQuantity
      floatingQuantityLimit := ethQuantityLimit }
  else
    pure { tradeInfo with
      sendQuantity := min ethQuantityLimit tradeInfo.preTradeSendTokenBalance
      floatingQuantityLimit := tradeInfo.totalFixedQuantity }

/-- All WETH above its target is sent. -/
def createTradeRemainingInfo (exchanges : Exchanges P) (module : Address)
    (world : World P) (component : Address) (minComponentReceived : ℕ) :
    Outcome TradeInfo := do
  let tradeInfo ← getDefaultTradeInfo exchanges module world component false
  let (_, _, currentNotional, targetNotional) ←
    getUnitsAndNotionalAmounts world exchanges.weth tradeInfo.setTotalSupply
  let sendQuantity ← SafeMath.sub currentNotional targetNotional
  pure { tradeInfo with
    sendQuantity := sendQuantity
    floatingQuantityLimit := minComponentReceived
    isSendTokenFixed := true }

def TradeInfo.order (tradeInfo : TradeInfo) : TradeOrder where
  exchangeAdapter := tradeInfo.exchangeAdapter
  sendToken := tradeInfo.sendToken
  receiveToken := tradeInfo.receiveToken
  isSendTokenFixed := tradeInfo.isSendTokenFixed
  sendQuantity := tradeInfo.sendQuantity
  floatingQuantityLimit := tradeInfo.floatingQuantityLimit
  exchangeData := tradeInfo.exchangeData

/-- The SetToken approves the quantity to send and calls the exchange, which pulls no more
than that. -/
def executeTrade (exchanges : Exchanges P) (module : Address) (world : World P)
    (tradeInfo : TradeInfo) : Outcome (World P) := do
  world.setToken.onlyModuleWhenLockedOnlyLocker world.controller module
  let (protocols, exchanged) ← exchanges.execute tradeInfo.order world.protocols
  require (exchanged.sent ≤ tradeInfo.sendQuantity) "ERC20: transfer amount exceeds allowance"
  require (exchanged.sent ≤ world.heldBalance tradeInfo.sendToken) Chain.insufficientBalance
  let paid := world.withLedger tradeInfo.sendToken
    (Ledger.debit (world.balances tradeInfo.sendToken) world.setTokenAddress exchanged.sent)
  let traded := paid.withLedger tradeInfo.receiveToken
    (Ledger.credit (paid.balances tradeInfo.receiveToken) paid.setTokenAddress
      exchanged.received)
  pure { world.withChain traded with protocols := protocols }

/-- Returns the fee as well. -/
def accrueProtocolFee (module : Address) (chain : Chain) (tradeInfo : TradeInfo) :
    Outcome (Chain × ℕ) := do
  let exchangedQuantity ← SafeMath.sub (chain.heldBalance tradeInfo.receiveToken)
    tradeInfo.preTradeReceiveTokenBalance
  let protocolFee ←
    chain.getModuleFee module generalIndexModuleProtocolFeeIndex exchangedQuantity
  let charged ← chain.payProtocolFeeFromSetToken module tradeInfo.receiveToken protocolFee
  pure (charged, protocolFee)

/-- Returns the net amounts sent and received as well. -/
def updatePositionStateAndTimestamp (module : Address) (world : World P)
    (tradeInfo : TradeInfo) (component : Address) : Outcome (World P × ℕ × ℕ) := do
  let postTradeSendTokenBalance := world.heldBalance tradeInfo.sendToken
  let (sent, _) ← Position.calculateAndEditDefaultPosition world.setToken world.controller
    module tradeInfo.sendToken postTradeSendTokenBalance tradeInfo.setTotalSupply
    tradeInfo.preTradeSendTokenBalance
  let postTradeReceiveTokenBalance := world.heldBalance tradeInfo.receiveToken
  let (received, _) ← Position.calculateAndEditDefaultPosition sent world.controller
    module tradeInfo.receiveToken postTradeReceiveTokenBalance tradeInfo.setTotalSupply
    tradeInfo.preTradeReceiveTokenBalance
  let netSendAmount ←
    SafeMath.sub tradeInfo.preTradeSendTokenBalance postTradeSendTokenBalance
  let netReceiveAmount ←
    SafeMath.sub postTradeReceiveTokenBalance tradeInfo.preTradeReceiveTokenBalance
  let updated := (world.withChain (world.withSetToken received)).withExecutionInfo component
    { world.executionInfo component with lastTradeTimestamp := world.timestamp }
  pure (updated, netSendAmount, netReceiveAmount)

def TradeInfo.executed (tradeInfo : TradeInfo) (caller : Caller)
    (netSendAmount netReceiveAmount protocolFee : ℕ) : TradeExecuted where
  sellComponent := tradeInfo.sendToken
  buyComponent := tradeInfo.receiveToken
  exchangeAdapter := tradeInfo.exchangeAdapter
  executor := caller.sender
  netAmountSold := netSendAmount
  netAmountReceived := netReceiveAmount
  protocolFee := protocolFee

def trade (exchanges : Exchanges P) (module : Address) (world : World P) (caller : Caller)
    (component : Address) (ethQuantityLimit : ℕ) : Outcome (World P × TradeExecuted) := do
  validateOnlyAllowedTrader world caller.sender
  validateOnlyEOAIfUnrestricted world caller
  validateTradeParameters exchanges.weth world component
  let tradeInfo ← createTradeInfo exchanges module world component ethQuantityLimit
  let traded ← executeTrade exchanges module world tradeInfo
  let (charged, protocolFee) ← accrueProtocolFee module traded.toChain tradeInfo
  let (updated, netSendAmount, netReceiveAmount) ← updatePositionStateAndTimestamp module
    (traded.withChain charged) tradeInfo component
  pure (updated, tradeInfo.executed caller netSendAmount netReceiveAmount protocolFee)

/-- The check of `tradeRemainingWETH`, against the stored target and not the normalized one. -/
def validateWETHAboveTarget (weth : Address) (world : World P) : Outcome Unit := do
  let wethUnit ← getDefaultPositionRealUnit world weth
  require ((world.executionInfo weth).targetUnit < wethUnit) "WETH is below target unit"

/-- What `tradeRemainingWETH` does once the WETH has been checked. -/
def tradeExcessWETH (exchanges : Exchanges P) (module : Address) (world : World P)
    (caller : Caller) (component : Address) (minComponentReceived : ℕ) :
    Outcome (World P × TradeExecuted) := do
  validateTradeParameters exchanges.weth world component
  let tradeInfo ← createTradeRemainingInfo exchanges module world component
    minComponentReceived
  let traded ← executeTrade exchanges module world tradeInfo
  let (charged, protocolFee) ← accrueProtocolFee module traded.toChain tradeInfo
  let (updated, netSendAmount, netReceiveAmount) ← updatePositionStateAndTimestamp module
    (traded.withChain charged) tradeInfo component
  let grossReceiveAmount ← SafeMath.add netReceiveAmount protocolFee
  require (grossReceiveAmount < (updated.executionInfo component).maxSize)
    "Trade amount > max trade size"
  validateComponentPositionUnit updated component
  pure (updated, tradeInfo.executed caller netSendAmount netReceiveAmount protocolFee)

def tradeRemainingWETH (exchanges : Exchanges P) (module : Address) (world : World P)
    (caller : Caller) (component : Address) (minComponentReceived : ℕ) :
    Outcome (World P × TradeExecuted) := do
  validateOnlyAllowedTrader world caller.sender
  validateOnlyEOAIfUnrestricted world caller
  let sold ← noTokensToSell exchanges.weth world
  require (sold = true) "Sell other set components first"
  validateWETHAboveTarget exchanges.weth world
  tradeExcessWETH exchanges module world caller component minComponentReceived

def raiseAssetTargets (weth : Address) (world : World P) (sender : Address) :
    Outcome (World P) := do
  validateOnlyAllowedTrader world sender
  let met ← allTargetsMet weth world
  -- the conjunction stops at the first false operand
  let excess ← (
    if met = true then do
      let wethUnit ← getDefaultPositionRealUnit world weth
      let targetUnit ← getNormalizedTargetUnit world weth
      pure (decide (targetUnit < wethUnit))
    else .ok false)
  require (excess = true) "Targets not met or ETH =~ 0"
  let raised ← SafeMath.add preciseUnit world.rebalanceInfo.raiseTargetPercentage
  let newPositionMultiplier ← preciseDiv world.rebalanceInfo.positionMultiplier raised
  pure (world.withRebalanceInfo
    { world.rebalanceInfo with positionMultiplier := newPositionMultiplier })

/-! ## Settings -/

/-- The setters of trade maximums, cool-off periods and exchange data: one value for each
component of a list. -/
def setParams {A : Type} (module : Address) (world : World P) (sender : Address)
    (components : List Address) (settings : List A)
    (set : TradeExecutionParams → A → TradeExecutionParams) : Outcome (World P) := do
  world.validateOnlyManagerAndValidSet module sender
  AddressArrayUtils.validatePairsWithArray components settings
  pure ((components.zip settings).foldl
    (fun world entry => world.withExecutionInfo entry.1
      (set (world.executionInfo entry.1) entry.2)) world)

def setTradeMaximums (module : Address) (world : World P) (sender : Address)
    (components : List Address) (tradeMaximums : List ℕ) : Outcome (World P) :=
  setParams module world sender components tradeMaximums
    fun params maximum => { params with maxSize := maximum }

def setCoolOffPeriods (module : Address) (world : World P) (sender : Address)
    (components : List Address) (coolOffPeriods : List ℕ) : Outcome (World P) :=
  setParams module world sender components coolOffPeriods
    fun params period => { params with coolOffPeriod := period }

def setExchangeData (module : Address) (world : World P) (sender : Address)
    (components : List Address) (exchangeData : List Bytes) : Outcome (World P) :=
  setParams module world sender components exchangeData
    fun params data => { params with exchangeData := data }

/-- Body of the loop of `setExchanges`, which passes over WETH. -/
def setExchange (exchanges : Exchanges P) (module : Address) (world : World P)
    (entry : Address × String) : Outcome (World P) :=
  if entry.1 ≠ exchanges.weth then do
    require (exchanges.registry module entry.2 ≠ zeroAddress) "Unrecognized exchange name"
    pure (world.withExecutionInfo entry.1
      { world.executionInfo entry.1 with exchangeName := entry.2 })
  else pure world

def setExchanges (exchanges : Exchanges P) (module : Address) (world : World P)
    (sender : Address) (components : List Address) (exchangeNames : List String) :
    Outcome (World P) := do
  world.validateOnlyManagerAndValidSet module sender
  AddressArrayUtils.validatePairsWithArray components exchangeNames
  (components.zip exchangeNames).foldlM (setExchange exchanges module) world

def setRaiseTargetPercentage (module : Address) (world : World P) (sender : Address)
    (raiseTargetPercentage : ℕ) : Outcome (World P) := do
  world.validateOnlyManagerAndValidSet module sender
  require (0 < raiseTargetPercentage) "Target percentage must be > 0"
  pure (world.withRebalanceInfo
    { world.rebalanceInfo with raiseTargetPercentage := raiseTargetPercentage })

def updateTradersHistory (tradersHistory : List Address) (trader : Address)
    (status : Bool) : Outcome (List Address) :=
  if status = true ∧ AddressArrayUtils.contains tradersHistory trader = false then
    pure (tradersHistory ++ [trader])
  else if status = false ∧ AddressArrayUtils.contains tradersHistory trader = true then
    AddressArrayUtils.removeStorage tradersHistory trader
  else pure tradersHistory

/-- Body of the loop of `setTraderStatus`. -/
def updateTraderStatus (permissions : TradePermissionInfo) (entry : Address × Bool) :
    Outcome TradePermissionInfo := do
  let tradersHistory ← updateTradersHistory permissions.tradersHistory entry.1 entry.2
  pure { permissions with
    tradersHistory := tradersHistory
    tradeAllowList := Function.update permissions.tradeAllowList entry.1 entry.2 }

def setTraderStatus (module : Address) (world : World P) (sender : Address)
    (traders : List Address) (statuses : List Bool) : Outcome (World P) := do
  world.validateOnlyManagerAndValidSet module sender
  AddressArrayUtils.validatePairsWithArray traders statuses
  let permissionInfo ←
    (traders.zip statuses).foldlM updateTraderStatus world.permissionInfo
  pure { world with permissionInfo := permissionInfo }

def setAnyoneTrade (module : Address) (world : World P) (sender : Address)
    (status : Bool) : Outcome (World P) := do
  world.validateOnlyManagerAndValidSet module sender
  pure { world with
    permissionInfo := { world.permissionInfo with anyoneTrade := status } }

/-- Body of the loop of `initialize`: the target is the current unit, for now. -/
def setInitialTarget (executionInfo : Address → TradeExecutionParams)
    (position : SetToken.Position) : Outcome (Address → TradeExecutionParams) := do
  require (position.positionState = .DEFAULT) "External positions not allowed"
  let targetUnit ← SafeCast.toUint256 position.unit
  pure (Function.update executionInfo position.component
    { executionInfo position.component with
      targetUnit := targetUnit
      lastTradeTimestamp := 0 })

/-- `initialize` of the module. -/
def initializeModule (module : Address) (world : World P) (sender : Address) :
    Outcome (World P) := do
  world.validateOnlySetManager sender
  world.validateOnlyValidAndPendingSet module
  let positions ← world.setToken.getPositions
  let executionInfo ← positions.foldlM setInitialTarget world.executionInfo
  let positionMultiplier ← SafeCast.toUint256 world.setToken.positionMultiplier
  let setToken ← world.setToken.initializeModule module
  pure { world.withChain (world.withSetToken setToken) with
    executionInfo := executionInfo
    rebalanceInfo :=
      { world.rebalanceInfo with positionMultiplier := positionMultiplier } }

/-- Called by the SetToken.  The execution settings are not deleted, nor is the allow list
but for the traders in the history. -/
def removeModule (world : World P) : World P :=
  { world with
    permissionInfo := {
      anyoneTrade := false
      tradersHistory := []
      tradeAllowList := world.permissionInfo.tradersHistory.foldl
        (fun allowed trader => Function.update allowed trader false)
        world.permissionInfo.tradeAllowList }
    rebalanceInfo := noRebalanceInfo }

end SetProtocol.GeneralIndexModule
