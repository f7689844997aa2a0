import SetProtocol.Core.Venue

/-!
# The Morpho leverage module

A SetToken supplies collateral to one Morpho market and borrows the market's loan
token against it.  Collateral is a positive external position of the module, debt a
negative one.  Morpho, its interest rate models and the exchanges are parameters; the
libraries that read a market's expected balances follow here.
-/

namespace SetProtocol.MorphoLeverageModule

open Transaction PreciseUnitMath

/-! ## Morpho -/

structure MarketParams where
  loanToken : Address
  collateralToken : Address
  oracle : Address
  irm : Address
  lltv : ℕ
  deriving DecidableEq

structure Market where
  totalSupplyAssets : ℕ
  totalSupplyShares : ℕ
  totalBorrowAssets : ℕ
  totalBorrowShares : ℕ
  lastUpdate : ℕ
  fee : ℕ

structure MarketPosition where
  supplyShares : ℕ
  borrowShares : ℕ
  collateral : ℕ

/-- The Morpho contract, with its markets named by their parameters, and the interest
rate models.  The calls are made at a block time on behalf of an account. -/
structure Morpho (P : Type) where
  contract : Address
  market (protocols : P) (params : MarketParams) : Market
  position (protocols : P) (params : MarketParams) (account : Address) : MarketPosition
  borrowRateView (protocols : P) (params : MarketParams) (market : Market) : Outcome ℕ
  supplyCollateral (timestamp : ℕ) (params : MarketParams) (assets : ℕ)
    (account : Address) : P → Outcome P
  withdrawCollateral (timestamp : ℕ) (params : MarketParams) (assets : ℕ)
    (account : Address) : P → Outcome P
  borrow (timestamp : ℕ) (params : MarketParams) (assets : ℕ) (account : Address) :
    P → Outcome P
  /-- Also returns what the account pays. -/
  repay (timestamp : ℕ) (params : MarketParams) (assets shares : ℕ) (account : Address) :
    P → Outcome (P × ℕ)

/-! ### `MorphoMathLib`, `MorphoUtilsLib` and `MorphoSharesMath` -/

def wad : ℕ := 10 ^ 18

def mulDivDown (x y d : ℕ) : Outcome ℕ := do
  let product ← SafeMath.mul x y
  SafeMath.div product d

def mulDivUp (x y d : ℕ) : Outcome ℕ := do
  let product ← SafeMath.mul x y
  let roundUp ← SafeMath.sub d 1
  let sum ← SafeMath.add product roundUp
  SafeMath.div sum d

def wMulDown (x y : ℕ) : Outcome ℕ := mulDivDown x y wad

/-- The first three terms of the Taylor series of `exp (x * n) - 1`. -/
def wTaylorCompounded (x n : ℕ) : Outcome ℕ := do
  let firstTerm ← SafeMath.mul x n
  let secondTerm ← mulDivDown firstTerm firstTerm (2 * wad)
  let thirdTerm ← mulDivDown secondTerm firstTerm (3 * wad)
  let sum ← SafeMath.add firstTerm secondTerm
  SafeMath.add sum thirdTerm

def toUint128 (x : ℕ) : Outcome ℕ := do
  require (x < 2 ^ 128) "MAX_UINT128_EXCEEDED"
  pure x

/-- Unchecked addition of `uint128` values. -/
def addUint128 (a b : ℕ) : ℕ := (a + b) % 2 ^ 128

/-- Unchecked subtraction of `uint256` values. -/
def subUint256 (a b : ℕ) : ℕ := (a + 2 ^ 256 - b) % 2 ^ 256

def virtualShares : ℕ := 10 ^ 6
def virtualAssets : ℕ := 1

def toSharesDown (assets totalAssets totalShares : ℕ) : Outcome ℕ := do
  let shares ← SafeMath.add totalShares virtualShares
  let total ← SafeMath.add totalAssets virtualAssets
  mulDivDown assets shares total

def toAssetsUp (shares totalAssets totalShares : ℕ) : Outcome ℕ := do
  let total ← SafeMath.add totalAssets virtualAssets
  let allShares ← SafeMath.add totalShares virtualShares
  mulDivUp shares total allShares

/-! ### `MorphoBalancesLib` -/

/-- The supply shares that the market's fee on the interest becomes. -/
def accrueFeeShares (market : Market) (interest : ℕ) : Outcome Market :=
  if market.fee ≠ 0 then do
    let feeAmount ← wMulDown interest market.fee
    let feeShares ← toSharesDown feeAmount (subUint256 market.totalSupplyAssets feeAmount)
      market.totalSupplyShares
    let feeShares ← toUint128 feeShares
    pure { market with
      totalSupplyShares := addUint128 market.totalSupplyShares feeShares }
  else pure market

/-- The market after the interest up to now. -/
def expectedMarketBalances {P : Type} (morpho : Morpho P) (protocols : P)
    (params : MarketParams) (timestamp : ℕ) : Outcome Market := do
  let market := morpho.market protocols params
  let elapsed := subUint256 timestamp market.lastUpdate
  if elapsed ≠ 0 ∧ market.totalBorrowAssets ≠ 0 ∧ params.irm ≠ zeroAddress then do
    let borrowRate ← morpho.borrowRateView protocols params market
    let compounded ← wTaylorCompounded borrowRate elapsed
    let interest ← wMulDown market.totalBorrowAssets compounded
    let accrued ← toUint128 interest
    accrueFeeShares
      { market with
        totalBorrowAssets := addUint128 market.totalBorrowAssets accrued
        totalSupplyAssets := addUint128 market.totalSupplyAssets accrued } interest
  else pure market

/-! ## Exchanges -/

/-- What an exchange took and gave, and who it is. -/
structure TradeResult where
  counterparty : Address
  spent : ℕ
  received : ℕ

/-- The integration registry, and the exchange behind each adapter. -/
structure Exchanges where
  registry : IntegrationRegistry
  trade (adapter sendToken receiveToken setToken : Address)
    (notionalSendQuantity minNotionalReceiveQuantity : ℕ) (data : Bytes) (chain : Chain) :
    Outcome TradeResult

structure ActionInfo where
  exchangeAdapter : Address
  setTotalSupply : ℕ
  notionalSendQuantity : ℕ
  minNotionalReceiveQuantity : ℕ
  collateralAsset : Address
  borrowAsset : Address
  preTradeReceiveTokenBalance : ℕ

/-- `PROTOCOL_TRADE_FEE_INDEX` -/
def protocolTradeFeeIndex : ℕ := 0

/-- Deleted storage. -/
def noMarketParams : MarketParams := ⟨zeroAddress, zeroAddress, zeroAddress, zeroAddress, 0⟩

variable {P : Type}

/-! ## Reading the market -/

/-- Collateral, borrowed assets and borrow shares of the SetToken. -/
def getCollateralAndBorrowBalances (morpho : Morpho P) (params : MarketParams)
    (venue : Venue P) : Outcome (ℕ × ℕ × ℕ) := do
  let position := morpho.position venue.protocols params venue.setTokenAddress
  let market ← expectedMarketBalances morpho venue.protocols params venue.timestamp
  let borrowBalance ←
    toAssetsUp position.borrowShares market.totalBorrowAssets market.totalBorrowShares
  pure (position.collateral, borrowBalance, position.borrowShares)

/-- The balances spread over the shares, debt rounded up and negated. -/
def getCollateralAndBorrowPositions (morpho : Morpho P) (params : MarketParams)
    (venue : Venue P) (setTotalSupply : ℕ) : Outcome (ℤ × ℤ) :=
  if setTotalSupply = 0 then pure (0, 0)
  else do
    let (collateralBalance, borrowBalance, _) ←
      getCollateralAndBorrowBalances morpho params venue
    let collateralUnit ← preciseDiv collateralBalance setTotalSupply
    let collateralPosition ← SafeCast.toInt256 collateralUnit
    let borrowUnit ← preciseDivCeil borrowBalance setTotalSupply
    let borrowUnit ← SafeCast.toInt256 borrowUnit
    let borrowPosition ← SignedSafeMath.mul borrowUnit (-1)
    pure (collateralPosition, borrowPosition)

/-! ## Calling Morpho -/

def protocolCall (morpho : Morpho P) (module : Address) (action : ProtocolAction)
    (token : Address) (quantity : ℕ) : ProtocolCall :=
  ⟨action, module, morpho.contract, token, quantity⟩

/-- Morpho moves the exact amount of assets. -/
def exactly (assets : ℕ) (execute : P → Outcome P) (protocols : P) : Outcome (P × ℕ) := do
  let protocols ← execute protocols
  pure (protocols, assets)

def deposit (morpho : Morpho P) (module : Address) (params : MarketParams)
    (venue : Venue P) (notionalQuantity : ℕ) : Outcome (Venue P) :=
  venue.invokePaying
    (protocolCall morpho module .supply params.collateralToken notionalQuantity)
    (exactly notionalQuantity
      (morpho.supplyCollateral venue.timestamp params notionalQuantity venue.setTokenAddress))

def withdraw (morpho : Morpho P) (module : Address) (params : MarketParams)
    (venue : Venue P) (notionalQuantity : ℕ) : Outcome (Venue P) :=
  venue.invokeReceiving
    (protocolCall morpho module .withdraw params.collateralToken notionalQuantity)
    (exactly notionalQuantity
      (morpho.withdrawCollateral venue.timestamp params notionalQuantity
        venue.setTokenAddress))

def borrow (morpho : Morpho P) (module : Address) (params : MarketParams)
    (venue : Venue P) (notionalQuantity : ℕ) : Outcome (Venue P) :=
  venue.invokeReceiving
    (protocolCall morpho module .borrow params.loanToken notionalQuantity)
    (exactly notionalQuantity
      (morpho.borrow venue.timestamp params notionalQuantity venue.setTokenAddress))

/-- Repays shares if there are any to repay, assets otherwise. -/
def repayBorrow (morpho : Morpho P) (module : Address) (params : MarketParams)
    (venue : Venue P) (notionalQuantity shares : ℕ) : Outcome (Venue P) :=
  venue.invokePaying
    (protocolCall morpho module .repay params.loanToken notionalQuantity)
    (if 0 < shares then
      morpho.repay venue.timestamp params 0 shares venue.setTokenAddress
    else morpho.repay venue.timestamp params notionalQuantity 0 venue.setTokenAddress)

/-! ## Trading -/

/-- The exchange pulls at most what is approved, and pays in the other token. -/
def executeTrade (exchanges : Exchanges) (module : Address) (venue : Venue P)
    (info : ActionInfo) (sendToken receiveToken : Address) (data : Bytes) :
    Outcome (Venue P × ℕ) := do
  venue.setToken.onlyModuleWhenLockedOnlyLocker venue.controller module
  let result ← exchanges.trade info.exchangeAdapter sendToken receiveToken
    venue.setTokenAddress info.notionalSendQuantity info.minNotionalReceiveQuantity data
    venue.toChain
  require (result.spent ≤ info.notionalSendQuantity)
    "ERC20: transfer amount exceeds allowance"
  let sent ← venue.moveTokens sendToken venue.setTokenAddress result.counterparty
    result.spent
  let received ← sent.moveTokens receiveToken result.counterparty sent.setTokenAddress
    result.received
  let receiveTokenQuantity ← SafeMath.sub (received.heldBalance receiveToken)
    info.preTradeReceiveTokenBalance
  require (info.minNotionalReceiveQuantity ≤ receiveTokenQuantity) "Slippage too high"
  pure (venue.withChain received, receiveTokenQuantity)

def accrueProtocolFee (module : Address) (venue : Venue P) (receiveToken : Address)
    (exchangedQuantity : ℕ) : Outcome (Venue P × ℕ) := do
  let protocolFeeTotal ← venue.getModuleFee module protocolTradeFeeIndex exchangedQuantity
  let chain ← venue.payProtocolFeeFromSetToken module receiveToken protocolFeeTotal
  pure (venue.withChain chain, protocolFeeTotal)

def validateCommon (params : MarketParams) (info : ActionInfo) : Outcome Unit := do
  require (params.collateralToken ≠ zeroAddress) "Collateral not enabled"
  require (params.loanToken ≠ zeroAddress) "Borrow not enabled"
  require (info.collateralAsset ≠ info.borrowAsset)
    "Collateral and borrow asset must be different"
  require (0 < info.notionalSendQuantity) "Quantity is 0"

def createAndValidateActionInfoNotional (exchanges : Exchanges) (module : Address)
    (params : MarketParams) (venue : Venue P) (sendToken receiveToken : Address)
    (notionalSendQuantity minNotionalReceiveQuantity : ℕ) (tradeAdapterName : String)
    (isLever : Bool) (setTotalSupply : ℕ) : Outcome ActionInfo := do
  let exchangeAdapter ← getAndValidateAdapter exchanges.registry module tradeAdapterName
  let info : ActionInfo := {
    exchangeAdapter := exchangeAdapter
    setTotalSupply := setTotalSupply
    notionalSendQuantity := notionalSendQuantity
    minNotionalReceiveQuantity := minNotionalReceiveQuantity
    collateralAsset := if isLever = true then receiveToken else sendToken
    borrowAsset := if isLever = true then sendToken else receiveToken
    preTradeReceiveTokenBalance := venue.heldBalance receiveToken }
  validateCommon params info
  pure info

def createAndValidateActionInfo (exchanges : Exchanges) (module : Address)
    (params : MarketParams) (venue : Venue P) (sendToken receiveToken : Address)
    (sendQuantityUnits minReceiveQuantityUnits : ℕ) (tradeAdapterName : String)
    (isLever : Bool) : Outcome ActionInfo := do
  let totalSupply := venue.setToken.totalSupply
  let notionalSendQuantity ← preciseMul sendQuantityUnits totalSupply
  let minNotionalReceiveQuantity ← preciseMul minReceiveQuantityUnits totalSupply
  createAndValidateActionInfoNotional exchanges module params venue sendToken receiveToken
    notionalSendQuantity minNotionalReceiveQuantity tradeAdapterName isLever totalSupply

/-- Repay tokens beyond the debt become part of the default position. -/
def updateRepayDefaultPosition (module : Address) (venue : Venue P) (info : ActionInfo)
    (repayAsset : Address) : Outcome (Venue P) := do
  let repayAssetBalance := venue.heldBalance repayAsset
  if repayAssetBalance ≠ info.preTradeReceiveTokenBalance then do
    let (edited, _) ← Position.calculateAndEditDefaultPosition venue.setToken
      venue.controller module repayAsset repayAssetBalance info.setTotalSupply
      info.preTradeReceiveTokenBalance
    pure (venue.withChain (venue.withSetToken edited))
  else pure venue

/-! ## Syncing -/

/-- `_sync` -/
def syncPositions (morpho : Morpho P) (module : Address) (params : MarketParams)
    (venue : Venue P) : Outcome (Venue P) := do
  require (params.collateralToken ≠ zeroAddress) "Collateral not set"
  let (newCollateralPositionUnit, newBorrowPositionUnit) ←
    getCollateralAndBorrowPositions morpho params venue venue.setToken.totalSupply
  let collateralUpdated ← Position.updateExternalPosition module venue.setToken venue.controller
    params.collateralToken newCollateralPositionUnit
  let borrowUpdated ← Position.updateExternalPosition module collateralUpdated venue.controller
    params.loanToken newBorrowPositionUnit
  pure (venue.withChain (venue.withSetToken borrowUpdated))

/-- Anybody may call this. -/
def sync (morpho : Morpho P) (module : Address) (params : MarketParams)
    (venue : Venue P) : Outcome (Venue P) := do
  venue.validateOnlyValidAndInitializedSet module
  syncPositions morpho module params venue

/-! ## Leverage -/

/-- Arguments of `lever` and `delever`; `deleverToZeroBorrowBalance` has no minimum. -/
structure TradeOrder where
  sendQuantityUnits : ℕ
  minReceiveQuantityUnits : ℕ
  tradeAdapterName : String
  tradeData : Bytes

/-- Borrows, trades for collateral and deposits what remains after the fee. -/
def lever (morpho : Morpho P) (exchanges : Exchanges) (module : Address)
    (params : MarketParams) (venue : Venue P) (sender : Address) (order : TradeOrder) :
    Outcome (Venue P) := do
  venue.validateOnlyManagerAndValidSet module sender
  require (params.collateralToken ≠ zeroAddress) "Collateral not set"
  let leverInfo ← createAndValidateActionInfo exchanges module params venue
    params.loanToken params.collateralToken order.sendQuantityUnits
    order.minReceiveQuantityUnits order.tradeAdapterName true
  let borrowed ← borrow morpho module params venue leverInfo.notionalSendQuantity
  let (traded, postTradeReceiveQuantity) ← executeTrade exchanges module borrowed leverInfo
    params.loanToken params.collateralToken order.tradeData
  let (charged, protocolFee) ←
    accrueProtocolFee module traded params.collateralToken postTradeReceiveQuantity
  let postTradeCollateralQuantity ← SafeMath.sub postTradeReceiveQuantity protocolFee
  let deposited ← deposit morpho module params charged postTradeCollateralQuantity
  syncPositions morpho module params deposited

/-- Whatever collateral token the SetToken holds after delevering goes back to the
market. -/
def depositCollateralBalance (morpho : Morpho P) (module : Address)
    (params : MarketParams) (venue : Venue P) : Outcome (Venue P) :=
  let collateralBalance := venue.heldBalance params.collateralToken
  if 0 < collateralBalance then deposit morpho module params venue collateralBalance
  else pure venue

/-- Withdraws collateral, trades it for the loan token and repays. -/
def delever (morpho : Morpho P) (exchanges : Exchanges) (module : Address)
    (params : MarketParams) (venue : Venue P) (sender : Address) (order : TradeOrder) :
    Outcome (Venue P) := do
  venue.validateOnlyManagerAndValidSet module sender
  require (params.collateralToken ≠ zeroAddress) "Collateral not set"
  let deleverInfo ← createAndValidateActionInfo exchanges module params venue
    params.collateralToken params.loanToken order.sendQuantityUnits
    order.minReceiveQuantityUnits order.tradeAdapterName false
  let withdrawn ← withdraw morpho module params venue deleverInfo.notionalSendQuantity
  let (traded, postTradeReceiveQuantity) ← executeTrade exchanges module withdrawn
    deleverInfo params.collateralToken params.loanToken order.tradeData
  let (charged, protocolFee) ←
    accrueProtocolFee module traded params.loanToken postTradeReceiveQuantity
  let repayQuantity ← SafeMath.sub postTradeReceiveQuantity protocolFee
  let repaid ← repayBorrow morpho module params charged repayQuantity 0
  let updated ← updateRepayDefaultPosition module repaid deleverInfo params.loanToken
  let deposited ← depositCollateralBalance morpho module params updated
  syncPositions morpho module params deposited

/-- Sells collateral for at least the whole debt, and repays it by shares.  No
protocol fee. -/
def deleverToZeroBorrowBalance (morpho : Morpho P) (exchanges : Exchanges)
    (module : Address) (params : MarketParams) (venue : Venue P) (sender : Address)
    (redeemQuantityUnits : ℕ) (tradeAdapterName : String) (tradeData : Bytes) :
    Outcome (Venue P) := do
  venue.validateOnlyManagerAndValidSet module sender
  require (params.collateralToken ≠ zeroAddress) "Collateral not set"
  let setTotalSupply := venue.setToken.totalSupply
  let notionalRedeemQuantity ← preciseMul redeemQuantityUnits setTotalSupply
  let (_, borrowBalance, borrowShares) ← getCollateralAndBorrowBalances morpho params venue
  let deleverInfo ← createAndValidateActionInfoNotional exchanges module params venue
    params.collateralToken params.loanToken notionalRedeemQuantity borrowBalance
    tradeAdapterName false setTotalSupply
  let withdrawn ← withdraw morpho module params venue deleverInfo.notionalSendQuantity
  let (traded, _) ← executeTrade exchanges module withdrawn deleverInfo
    params.collateralToken params.loanToken tradeData
  let repaid ← repayBorrow morpho module params traded borrowBalance borrowShares
  let updated ← updateRepayDefaultPosition module repaid deleverInfo params.loanToken
  let deposited ← depositCollateralBalance morpho module params updated
  syncPositions morpho module params deposited

/-! ## Collateral without leverage -/

/-- The default position of the collateral token becomes an external one. -/
def enterCollateralPosition (morpho : Morpho P) (module : Address)
    (params : MarketParams) (venue : Venue P) (sender : Address) : Outcome (Venue P) := do
  venue.validateOnlyManagerAndValidSet module sender
  let collateralBalance := venue.heldBalance params.collateralToken
  require (0 < collateralBalance) "Collateral balance is 0"
  let deposited ← deposit morpho module params venue collateralBalance
  let edited ← Position.editDefaultPosition deposited.setToken deposited.controller module
    params.collateralToken 0
  sync morpho module params (deposited.withChain (deposited.withSetToken edited))

def exitCollateralPosition (morpho : Morpho P) (module : Address)
    (params : MarketParams) (venue : Venue P) (sender : Address) : Outcome (Venue P) := do
  venue.validateOnlyManagerAndValidSet module sender
  let position := morpho.position venue.protocols params venue.setTokenAddress
  require (position.borrowShares = 0) "Borrow balance must be 0"
  let withdrawn ← withdraw morpho module params venue position.collateral
  let synced ← syncPositions morpho module params withdrawn
  let newCollateralPosition ←
    preciseDiv (synced.heldBalance params.collateralToken) synced.setToken.totalSupply
  let edited ← Position.editDefaultPosition synced.setToken synced.controller module
    params.collateralToken newCollateralPosition
  pure (synced.withChain (synced.withSetToken edited))

/-- Called by the SetToken. -/
def removeModule (morpho : Morpho P) (unregister : Address → Venue P → Outcome (Venue P))
    (module : Address) (params : MarketParams) (venue : Venue P) :
    Outcome (Venue P × MarketParams) := do
  venue.validateOnlyValidAndInitializedSet module
  let synced ← sync morpho module params venue
  pure (synced.unregisterFromModules unregister, noMarketParams)

/-! ## Hooks of the issuance module -/

/-- Both module hooks only sync. -/
def moduleIssueHook (morpho : Morpho P) (module : Address) (params : MarketParams)
    (venue : Venue P) (sender : Address) : Outcome (Venue P) := do
  venue.validateOnlyModule sender
  sync morpho module params venue

def moduleRedeemHook (morpho : Morpho P) (module : Address) (params : MarketParams)
    (venue : Venue P) (sender : Address) : Outcome (Venue P) :=
  moduleIssueHook morpho module params venue sender

/-- The collateral of the issued shares. -/
def notionalCollateral (module : Address) (setToken : SetToken) (component : Address)
    (setTokenQuantity : ℕ) (reason : String) : Outcome ℕ := do
  let componentCollateral ← setToken.getExternalPositionRealUnit component module
  require (0 < componentCollateral) reason
  let unit ← SafeCast.toUint256 componentCollateral
  preciseMul unit setTokenQuantity

/-- The debt of the issued or redeemed shares, rounded down for both. -/
def notionalDebt (module : Address) (setToken : SetToken) (component : Address)
    (setTokenQuantity : ℕ) : Outcome ℕ := do
  let componentDebt ← setToken.getExternalPositionRealUnit component module
  require (componentDebt < 0) "Component must be negative"
  let negated ← SignedSafeMath.mul componentDebt (-1)
  let unit ← SafeCast.toUint256 negated
  preciseMul unit setTokenQuantity

def componentIssueHook (morpho : Morpho P) (module : Address) (params : MarketParams)
    (venue : Venue P) (sender : Address) (setTokenQuantity : ℕ) (component : Address)
    (isEquity : Bool) : Outcome (Venue P) := do
  venue.validateOnlyModule sender
  if isEquity = true then
    if params.collateralToken = component then do
      let collateral ← notionalCollateral module venue.setToken component setTokenQuantity
        "Component must be positive"
      deposit morpho module params venue collateral
    else pure venue
  else do
    require (params.loanToken = component) "Debt component mismatch"
    let debt ← notionalDebt module venue.setToken component setTokenQuantity
    borrow morpho module params venue debt

def componentRedeemHook (morpho : Morpho P) (module : Address) (params : MarketParams)
    (venue : Venue P) (sender : Address) (setTokenQuantity : ℕ) (component : Address)
    (isEquity : Bool) : Outcome (Venue P) := do
  venue.validateOnlyModule sender
  if isEquity = true then
    if params.collateralToken = component then do
      let collateral ← notionalCollateral module venue.setToken component setTokenQuantity
        "Component must be negative"
      withdraw morpho module params venue collateral
    else pure venue
  else do
    require (params.loanToken = component) "Debt component mismatch"
    let debt ← notionalDebt module venue.setToken component setTokenQuantity
    repayBorrow morpho module params venue debt 0

end SetProtocol.MorphoLeverageModule
