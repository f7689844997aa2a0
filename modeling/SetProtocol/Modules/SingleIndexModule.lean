import SetProtocol.Modules.GeneralIndexModule

/-!
# The single index module

The module manages one index.  All its components are traded against WETH, on exchanges
whose routers are part of the module, and WETH itself has no target: what is left of it is
spent on the underweight components at the end.
-/

namespace SetProtocol.SingleIndexModule

open Transaction PreciseUnitMath
open GeneralIndexModule (Caller Exchanged)

structure AssetTradeInfo where
  targetUnit : ℕ
  maxSize : ℕ
  coolOffPeriod : ℕ
  lastTradeTimestamp : ℕ
  exchange : ℕ

inductive ExchangeId
  | None
  | Uniswap
  | Sushiswap
  | Balancer
  | Last

/-- As an integer. -/
def ExchangeId.toUint256 : ExchangeId → ℕ
  | .None => 0
  | .Uniswap => 1
  | .Sushiswap => 2
  | .Balancer => 3
  | .Last => 4

def targetRaiseDivisor : ℕ := 1002500000000000000
def balancerPoolLimit : ℕ := 3

def uniswapOut : String := "swapTokensForExactTokens(uint256,uint256,address[],address,uint256)"
def uniswapIn : String := "swapExactTokensForTokens(uint256,uint256,address[],address,uint256)"
def balancerOut : String := "smartSwapExactOut(address,address,uint256,uint256,uint256)"
def balancerIn : String := "smartSwapExactIn(address,address,uint256,uint256,uint256)"

/-- What an exchange is called with. -/
inductive TradeCallData
  | uniswapLike (functionSignature : String) (amount limit : ℕ) (path : List Address)
      (recipient : Address) (deadline : ℕ)
  | balancer (functionSignature : String) (sellComponent buyComponent : Address)
      (amount limit poolLimit : ℕ)

/-- The contracts that the module is deployed with, and what the exchanges do. -/
structure Exchanges (P : Type) where
  weth : Address
  uniswapRouter : Address
  sushiswapRouter : Address
  balancerProxy : Address
  execute (exchangeAddress : Address) : TradeCallData → P → Outcome (P × Exchanged)

/-- What a call of the module reads and writes.  The index is the one SetToken. -/
structure World (P : Type) extends Chain where
  protocols : P
  assetInfo : Address → AssetTradeInfo
  rebalanceComponents : List Address
  positionMultiplier : ℕ
  tradeAllowList : Address → Bool
  anyoneTrade : Bool
  index : Address

def noAssetInfo : Address → AssetTradeInfo := fun _ => ⟨0, 0, 0, 0, 0⟩

variable {P : Type}

def World.withChain (world : World P) (chain : Chain) : World P :=
  { world with toChain := chain }

def World.withAssetInfo (world : World P) (component : Address) (info : AssetTradeInfo) :
    World P :=
  { world with assetInfo := Function.update world.assetInfo component info }

/-- A module that has just been deployed. -/
def deploy (chain : Chain) (protocols : P) : World P where
  toChain := chain
  protocols := protocols
  assetInfo := noAssetInfo
  rebalanceComponents := []
  positionMultiplier := 0
  tradeAllowList := fun _ => false
  anyoneTrade := false
  index := zeroAddress

/-- The first call of the index.  Before `initialize` there is no contract at its address. -/
def callIndex (world : World P) : Outcome Unit :=
  require (world.index = world.setTokenAddress) ""

def onlyManagerAndValidSet (module : Address) (world : World P) (sender : Address) :
    Outcome Unit := do
  callIndex world
  world.validateOnlyManagerAndValidSet module sender

/-! ## Targets -/

/-- The position multiplier of the index. -/
def currentPositionMultiplier (world : World P) : Outcome ℕ := do
  callIndex world
  SafeCast.toUint256 world.setToken.positionMultiplier

def getDefaultPositionRealUnit (world : World P) (component : Address) : Outcome ℕ := do
  let unit ← world.setToken.getDefaultPositionRealUnit component
  SafeCast.toUint256 unit

def normalizeTargetUnit (world : World P) (component : Address) (multiplier : ℕ) :
    Outcome ℕ := do
  let scaled ← SafeMath.mul (world.assetInfo component).targetUnit multiplier
  SafeMath.div scaled world.positionMultiplier

def getTargetUnits (world : World P) (components : List Address) : Outcome (List ℕ) := do
  let multiplier ← currentPositionMultiplier world
  components.mapM (normalizeTargetUnit world · multiplier)

/-- The loop of `_noTokensToSell`. -/
def noTokensToSellFrom (world : World P) (multiplier : ℕ) : List Address → Outcome Bool
  | [] => pure true
  | component :: rest => do
      let targetUnit ← normalizeTargetUnit world component multiplier
      let currentUnit ← getDefaultPositionRealUnit world component
      if targetUnit < currentUnit then pure false
      else noTokensToSellFrom world multiplier rest

def noTokensToSell (world : World P) : Outcome Bool := do
  let multiplier ← currentPositionMultiplier world
  noTokensToSellFrom world multiplier world.rebalanceComponents

/-- The loop of `_allTargetsMet`. -/
def allTargetsMetFrom (world : World P) (multiplier : ℕ) : List Address → Outcome Bool
  | [] => pure true
  | component :: rest => do
      let targetUnit ← normalizeTargetUnit world component multiplier
      let currentUnit ← getDefaultPositionRealUnit world component
      if targetUnit ≠ currentUnit then pure false
      else allTargetsMetFrom world multiplier rest

def allTargetsMet (world : World P) : Outcome Bool := do
  let multiplier ← currentPositionMultiplier world
  allTargetsMetFrom world multiplier world.rebalanceComponents

/-- Whether the component is bought, and how much of it is traded. -/
def calculateTradeSizeAndDirection (world : World P) (component : Address) :
    Outcome (Bool × ℕ) := do
  let totalSupply := world.setToken.totalSupply
  let componentMaxSize := (world.assetInfo component).maxSize
  let multiplier ← currentPositionMultiplier world
  let currentUnit ← getDefaultPositionRealUnit world component
  let targetUnit ← normalizeTargetUnit world component multiplier
  require (currentUnit ≠ targetUnit) "Target already met"
  let currentNotional ← Position.getDefaultTotalNotional totalSupply currentUnit
  let targetNotional ← preciseMulCeil totalSupply targetUnit
  if currentNotional < targetNotional then do
    let missing ← SafeMath.sub targetNotional currentNotional
    pure (true, min componentMaxSize missing)
  else do
    let excess ← SafeMath.sub currentNotional targetNotional
    pure (false, min componentMaxSize excess)

/-! ## Starting a rebalance -/

/-- Arguments of `startRebalance`. -/
structure RebalancePlan where
  newComponents : List Address
  newComponentsTargetUnits : List ℕ
  oldComponentsTargetUnits : List ℕ
  positionMultiplier : ℕ

/-- Body of the loop that stores the targets. -/
def setTargetUnit (weth : Address) (assetInfo : Address → AssetTradeInfo)
    (entry : Address × ℕ) : Outcome (Address → AssetTradeInfo) := do
  require (entry.1 ≠ weth) "WETH cannot be an index component"
  pure (Function.update assetInfo entry.1 { assetInfo entry.1 with targetUnit := entry.2 })

def startRebalance (exchanges : Exchanges P) (module : Address) (world : World P)
    (sender : Address) (plan : RebalancePlan) : Outcome (World P) := do
  onlyManagerAndValidSet module world sender
  require (plan.newComponents.length = plan.newComponentsTargetUnits.length)
    "Array length mismatch"
  let currentComponents := world.setToken.components
  require (currentComponents.length = plan.oldComponentsTargetUnits.length)
    "New allocation must have target for all old components"
  let aggregateComponents ← AddressArrayUtils.extend currentComponents plan.newComponents
  let aggregateTargetUnits := plan.oldComponentsTargetUnits ++ plan.newComponentsTargetUnits
  let duplicate ← AddressArrayUtils.hasDuplicate aggregateComponents
  require (duplicate = false) "Cannot duplicate components"
  let assetInfo ← (aggregateComponents.zip aggregateTargetUnits).foldlM
    (setTargetUnit exchanges.weth) world.assetInfo
  pure { world with
    assetInfo := assetInfo
    rebalanceComponents := aggregateComponents
    positionMultiplier := plan.positionMultiplier }

/-! ## Trades -/

def isAllowedTrader (world : World P) (caller : Address) : Bool :=
  world.anyoneTrade || world.tradeAllowList caller

def onlyAllowedTrader (world : World P) (caller : Address) : Outcome Unit :=
  require (isAllowedTrader world caller = true) "Address not permitted to trade"

def onlyEOA (caller : Caller) : Outcome Unit :=
  require (caller.sender = caller.origin) "Caller must be EOA Address"

def validateTradeParameters (world : World P) (component : Address) : Outcome Unit := do
  require (AddressArrayUtils.contains world.rebalanceComponents component = true)
    "Passed component not included in rebalance"
  let componentInfo := world.assetInfo component
  require (componentInfo.exchange ≠ ExchangeId.None.toUint256) "Exchange must be specified"
  let ready ← SafeMath.add componentInfo.lastTradeTimestamp componentInfo.coolOffPeriod
  require (ready ≤ world.timestamp) "Cool off period has not elapsed."

def getBalancerTradeData (exchanges : Exchanges P) (sellComponent buyComponent : Address)
    (fixIn : Bool) (amount maxOut : ℕ) : Address × TradeCallData :=
  let functionSignature := if fixIn = true then balancerIn else balancerOut
  let limit := if fixIn = true then 1 else maxOut
  (exchanges.balancerProxy,
    .balancer functionSignature sellComponent buyComponent amount limit balancerPoolLimit)

def getUniswapLikeTradeData (exchanges : Exchanges P) (world : World P)
    (sellComponent buyComponent : Address) (fixIn : Bool) (amount exchange : ℕ) :
    Outcome (Address × TradeCallData) := do
  let exchangeAddress :=
    if exchange = ExchangeId.Uniswap.toUint256 then exchanges.uniswapRouter
    else exchanges.sushiswapRouter
  let functionSignature := if fixIn = true then uniswapIn else uniswapOut
  let limit := if fixIn = true then 1 else maxUint256
  let deadline ← SafeMath.add world.timestamp 180
  pure (exchangeAddress,
    .uniswapLike functionSignature amount limit [sellComponent, buyComponent] world.index
      deadline)

def getTradeData (exchanges : Exchanges P) (world : World P)
    (sellComponent buyComponent : Address) (fixIn : Bool) (amount exchange wethBalance : ℕ) :
    Outcome (Address × TradeCallData) :=
  if exchange = ExchangeId.Balancer.toUint256 then
    pure (getBalancerTradeData exchanges sellComponent buyComponent fixIn amount wethBalance)
  else
    getUniswapLikeTradeData exchanges world sellComponent buyComponent fixIn amount exchange

/-- The index approves and calls the exchange, which pulls no more than that. -/
def executeTrade (exchanges : Exchanges P) (module : Address) (world : World P)
    (sellComponent buyComponent : Address) (fixIn : Bool) (amount exchange : ℕ) :
    Outcome (World P) := do
  let wethBalance := world.heldBalance exchanges.weth
  let (exchangeAddress, tradeCallData) ←
    getTradeData exchanges world sellComponent buyComponent fixIn amount exchange wethBalance
  let approveAmount := if sellComponent = exchanges.weth then wethBalance else amount
  world.setToken.onlyModuleWhenLockedOnlyLocker world.controller module
  let (protocols, exchanged) ←
    exchanges.execute exchangeAddress tradeCallData world.protocols
  require (exchanged.sent ≤ approveAmount) "ERC20: transfer amount exceeds allowance"
  require (exchanged.sent ≤ world.heldBalance sellComponent) Chain.insufficientBalance
  let paid := world.withLedger sellComponent
    (Ledger.debit (world.balances sellComponent) world.setTokenAddress exchanged.sent)
  let traded := paid.withLedger buyComponent
    (Ledger.credit (paid.balances buyComponent) paid.setTokenAddress exchanged.received)
  pure { world.withChain traded with protocols := protocols }

/-- Returns the amounts sold and bought as well. -/
def updatePositionState (module : Address) (world : World P)
    (sellComponent buyComponent : Address)
    (preTradeSellComponentAmount preTradeBuyComponentAmount : ℕ) :
    Outcome (World P × ℕ × ℕ) := do
  let totalSupply := world.setToken.totalSupply
  let postTradeSellComponentAmount := world.heldBalance sellComponent
  let (sold, _) ← Position.calculateAndEditDefaultPosition world.setToken world.controller
    module sellComponent postTradeSellComponentAmount totalSupply preTradeSellComponentAmount
  let postTradeBuyComponentAmount := world.heldBalance buyComponent
  let (bought, _) ← Position.calculateAndEditDefaultPosition sold world.controller module
    buyComponent postTradeBuyComponentAmount totalSupply preTradeBuyComponentAmount
  let sellAmount ← SafeMath.sub preTradeSellComponentAmount postTradeSellComponentAmount
  let buyAmount ← SafeMath.sub postTradeBuyComponentAmount preTradeBuyComponentAmount
  pure (world.withChain (world.withSetToken bought), sellAmount, buyAmount)

/-- The trade and the two positions, for all three kinds of trades. -/
def exchangeTokens (exchanges : Exchanges P) (module : Address) (world : World P)
    (sellComponent buyComponent : Address) (fixIn : Bool) (amount exchange : ℕ) :
    Outcome (World P × ℕ × ℕ) := do
  let traded ← executeTrade exchanges module world sellComponent buyComponent fixIn amount
    exchange
  updatePositionState module traded sellComponent buyComponent
    (world.heldBalance sellComponent) (world.heldBalance buyComponent)

def buyUnderweight (exchanges : Exchanges P) (module : Address) (world : World P)
    (component : Address) (amount : ℕ) : Outcome (World P) := do
  let (traded, _, _) ← exchangeTokens exchanges module world exchanges.weth component false
    amount (world.assetInfo component).exchange
  pure traded

def sellOverweight (exchanges : Exchanges P) (module : Address) (world : World P)
    (component : Address) (amount : ℕ) : Outcome (World P) := do
  let (traded, _, _) ← exchangeTokens exchanges module world component exchanges.weth true
    amount (world.assetInfo component).exchange
  pure traded

def withTradeTimestamp (world : World P) (component : Address) : World P :=
  world.withAssetInfo component
    { world.assetInfo component with lastTradeTimestamp := world.timestamp }

def trade (exchanges : Exchanges P) (module : Address) (world : World P) (caller : Caller)
    (component : Address) : Outcome (World P) := do
  onlyAllowedTrader world caller.sender
  onlyEOA caller
  validateTradeParameters world component
  let (isBuy, tradeAmount) ← calculateTradeSizeAndDirection world component
  let traded ← (
    if isBuy = true then buyUnderweight exchanges module world component tradeAmount
    else sellOverweight exchanges module world component tradeAmount)
  pure (withTradeTimestamp traded component)

/-- Sells the whole WETH balance, and looks at what it bought afterwards. -/
def tradeRemainingWETH (exchanges : Exchanges P) (module : Address) (world : World P)
    (caller : Caller) (component : Address) : Outcome (World P) := do
  onlyAllowedTrader world caller.sender
  onlyEOA caller
  let sold ← noTokensToSell world
  require (sold = true) "Must sell all sellable tokens before can be called"
  validateTradeParameters world component
  let (_, tradeLimit) ← calculateTradeSizeAndDirection world component
  let preTradeWethAmount := world.heldBalance exchanges.weth
  let (traded, _, componentTradeSize) ← exchangeTokens exchanges module world exchanges.weth
    component true preTradeWethAmount (world.assetInfo component).exchange
  require (componentTradeSize < tradeLimit) "Trade size exceeds trade size limit"
  pure (withTradeTimestamp traded component)

def raiseAssetTargets (exchanges : Exchanges P) (world : World P) (sender : Address) :
    Outcome (World P) := do
  onlyAllowedTrader world sender
  let met ← allTargetsMet world
  -- the conjunction stops at the first false operand
  let remaining ← (
    if met = true then do
      let wethUnit ← world.setToken.getDefaultPositionRealUnit exchanges.weth
      pure (decide (0 < wethUnit))
    else .ok false)
  require (remaining = true) "Targets must be met and ETH remaining in order to raise target"
  let positionMultiplier ← preciseDiv world.positionMultiplier targetRaiseDivisor
  pure { world with positionMultiplier := positionMultiplier }

/-! ## Settings -/

def validateArrays {A : Type} (components : List Address) (data : List A) :
    Outcome Unit := do
  require (components.length = data.length) "Array length mismatch"
  require (0 < components.length) "Array length must be > 0"
  let duplicate ← AddressArrayUtils.hasDuplicate components
  require (duplicate = false) "Cannot duplicate components"

/-- The setters of asset infos: one value for each component of a list. -/
def setAssetInfo (module : Address) (world : World P) (sender : Address)
    (components : List Address) (data : List ℕ)
    (set : World P → Address × ℕ → Outcome (World P)) : Outcome (World P) := do
  onlyManagerAndValidSet module world sender
  validateArrays components data
  (components.zip data).foldlM set world

def setTradeMaximums (module : Address) (world : World P) (sender : Address)
    (components : List Address) (tradeMaximums : List ℕ) : Outcome (World P) :=
  setAssetInfo module world sender components tradeMaximums fun world entry =>
    .ok (world.withAssetInfo entry.1 { world.assetInfo entry.1 with maxSize := entry.2 })

def setExchanges (module : Address) (world : World P) (sender : Address)
    (components : List Address) (exchanges : List ℕ) : Outcome (World P) :=
  setAssetInfo module world sender components exchanges fun world entry => do
    require (entry.2 < ExchangeId.Last.toUint256) "Unrecognized exchange identifier"
    pure (world.withAssetInfo entry.1 { world.assetInfo entry.1 with exchange := entry.2 })

def setCoolOffPeriods (module : Address) (world : World P) (sender : Address)
    (components : List Address) (coolOffPeriods : List ℕ) : Outcome (World P) :=
  setAssetInfo module world sender components coolOffPeriods fun world entry =>
    .ok (world.withAssetInfo entry.1
      { world.assetInfo entry.1 with coolOffPeriod := entry.2 })

def updateTraderStatus (module : Address) (world : World P) (sender : Address)
    (traders : List Address) (statuses : List Bool) : Outcome (World P) := do
  onlyManagerAndValidSet module world sender
  require (traders.length = statuses.length) "Array length mismatch"
  require (0 < traders.length) "Array length must be > 0"
  let duplicate ← AddressArrayUtils.hasDuplicate traders
  require (duplicate = false) "Cannot duplicate traders"
  pure { world with
    tradeAllowList := (traders.zip statuses).foldl
      (fun allowed entry => Function.update allowed entry.1 entry.2) world.tradeAllowList }

def updateAnyoneTrade (module : Address) (world : World P) (sender : Address)
    (status : Bool) : Outcome (World P) := do
  onlyManagerAndValidSet module world sender
  pure { world with anyoneTrade := status }

/-- Body of the loop of `initialize`. -/
def setInitialTarget (assetInfo : Address → AssetTradeInfo)
    (position : SetToken.Position) : Outcome (Address → AssetTradeInfo) := do
  let targetUnit ← SafeCast.toUint256 position.unit
  pure (Function.update assetInfo position.component
    { assetInfo position.component with
      targetUnit := targetUnit
      lastTradeTimestamp := 0 })

/-- `initialize` of the module, for the SetToken. -/
def initializeModule (module : Address) (world : World P) (sender : Address) :
    Outcome (World P) := do
  world.validateOnlySetManager sender
  world.validateOnlyValidAndPendingSet module
  require (world.index = zeroAddress) "Module already in use"
  let positions ← world.setToken.getPositions
  let assetInfo ← positions.foldlM setInitialTarget world.assetInfo
  let setToken ← world.setToken.initializeModule module
  pure { world.withChain (world.withSetToken setToken) with
    assetInfo := assetInfo
    index := world.setTokenAddress }

/-- Called by the SetToken, and does nothing. -/
def removeModule (world : World P) : World P := world

end SetProtocol.SingleIndexModule
