import SetProtocol.Core.Spending

/-!
# The trade module

The manager trades a token of the SetToken for another one on an exchange.  Quantities
come in units and are scaled by the supply.  The sufficiency check compares units.
-/

namespace SetProtocol.TradeModule

open Transaction PreciseUnitMath Surroundings

/-- `TRADE_MODULE_PROTOCOL_FEE_INDEX` -/
def tradeModuleProtocolFeeIndex : ℕ := 0

/-- The exchange adapters. -/
structure Exchanges (P : Type) extends Network P where
  getSpender (adapter : Address) : Address
  /-- Adapter, tokens sent and received, SetToken, quantity sent, minimum received. -/
  getTradeCalldata (adapter fromToken toToken toAddress : Address)
    (fromQuantity minToQuantity : ℕ) (data : Bytes) : P → Outcome Invocation

structure TradeInfo where
  exchangeAdapter : Address
  sendToken : Address
  receiveToken : Address
  setTotalSupply : ℕ
  totalSendQuantity : ℕ
  totalMinReceiveQuantity : ℕ
  preTradeSendTokenBalance : ℕ
  preTradeReceiveTokenBalance : ℕ

variable {P : Type}

def createTradeInfo (exchanges : Exchanges P) (module : Address) (chain : Chain)
    (exchangeName : String) (sendToken receiveToken : Address)
    (sendQuantity minReceiveQuantity : ℕ) : Outcome TradeInfo := do
  let exchangeAdapter ← getAndValidateAdapter exchanges.registry module exchangeName
  let setTotalSupply := chain.setToken.totalSupply
  let totalSendQuantity ← Position.getDefaultTotalNotional setTotalSupply sendQuantity
  let totalMinReceiveQuantity ←
    Position.getDefaultTotalNotional setTotalSupply minReceiveQuantity
  pure {
    exchangeAdapter := exchangeAdapter
    sendToken := sendToken
    receiveToken := receiveToken
    setTotalSupply := setTotalSupply
    totalSendQuantity := totalSendQuantity
    totalMinReceiveQuantity := totalMinReceiveQuantity
    preTradeSendTokenBalance := chain.heldBalance sendToken
    preTradeReceiveTokenBalance := chain.heldBalance receiveToken }

def validatePreTradeData (setToken : SetToken) (tradeInfo : TradeInfo)
    (sendQuantity : ℕ) : Outcome Unit := do
  require (0 < tradeInfo.totalSendQuantity) "Token to sell must be nonzero"
  let sufficient ← Position.hasSufficientDefaultUnits setToken tradeInfo.sendToken
    sendQuantity
  require (sufficient = true) "Unit cant be greater than existing"

/-- The exchange works with the quantity to send. -/
def executeTrade (exchanges : Exchanges P) (module : Address) (outlays : Outlays P)
    (tradeInfo : TradeInfo) (data : Bytes) : Outcome (Outlays P) := do
  let approved ← invokeApprove module outlays.toSurroundings tradeInfo.sendToken
    (exchanges.getSpender tradeInfo.exchangeAdapter) tradeInfo.totalSendQuantity
  let invocation ← exchanges.getTradeCalldata tradeInfo.exchangeAdapter
    tradeInfo.sendToken tradeInfo.receiveToken approved.setTokenAddress
    tradeInfo.totalSendQuantity tradeInfo.totalMinReceiveQuantity data approved.protocols
  let traded ← invoke exchanges.toNetwork module approved invocation
  pure ((outlays.withSurroundings traded).withSpends
    [⟨tradeInfo.sendToken, tradeInfo.totalSendQuantity⟩])

def validatePostTrade (chain : Chain) (tradeInfo : TradeInfo) : Outcome ℕ := do
  let exchangedQuantity ← SafeMath.sub (chain.heldBalance tradeInfo.receiveToken)
    tradeInfo.preTradeReceiveTokenBalance
  require (tradeInfo.totalMinReceiveQuantity ≤ exchangedQuantity)
    "Slippage greater than allowed"
  pure exchangedQuantity

def accrueProtocolFee (module : Address) (outlays : Outlays P) (tradeInfo : TradeInfo)
    (exchangedQuantity : ℕ) : Outcome (Outlays P) := do
  let protocolFeeTotal ←
    outlays.getModuleFee module tradeModuleProtocolFeeIndex exchangedQuantity
  let chain ← outlays.payProtocolFeeFromSetToken module tradeInfo.receiveToken
    protocolFeeTotal
  pure (outlays.withChain chain)

/-- The net amounts are reported, and must not be negative. -/
def updateSetTokenPositions (module : Address) (outlays : Outlays P)
    (tradeInfo : TradeInfo) : Outcome (Outlays P) := do
  let (sent, currentSendTokenBalance) ← outlays.updateDefaultPosition module
    tradeInfo.sendToken tradeInfo.setTotalSupply tradeInfo.preTradeSendTokenBalance
  let (received, currentReceiveTokenBalance) ← sent.updateDefaultPosition module
    tradeInfo.receiveToken tradeInfo.setTotalSupply tradeInfo.preTradeReceiveTokenBalance
  let _ ← SafeMath.sub tradeInfo.preTradeSendTokenBalance currentSendTokenBalance
  let _ ← SafeMath.sub currentReceiveTokenBalance tradeInfo.preTradeReceiveTokenBalance
  pure received

def trade (exchanges : Exchanges P) (module : Address) (outlays : Outlays P)
    (sender : Address) (exchangeName : String) (sendToken : Address) (sendQuantity : ℕ)
    (receiveToken : Address) (minReceiveQuantity : ℕ) (data : Bytes) :
    Outcome (Outlays P) := do
  outlays.validateOnlyManagerAndValidSet module sender
  let tradeInfo ← createTradeInfo exchanges module outlays.toChain exchangeName sendToken
    receiveToken sendQuantity minReceiveQuantity
  validatePreTradeData outlays.setToken tradeInfo sendQuantity
  let traded ← executeTrade exchanges module outlays tradeInfo data
  let exchangedQuantity ← validatePostTrade traded.toChain tradeInfo
  let charged ← accrueProtocolFee module traded tradeInfo exchangedQuantity
  updateSetTokenPositions module charged tradeInfo

/-! ## What a trade spends -/

variable {exchanges : Exchanges P} {module : Address} {outlays next : Outlays P}
variable {tradeInfo : TradeInfo}

theorem executeTrade_spends {data : Bytes}
    (hcall : executeTrade exchanges module outlays tradeInfo data = .ok next) :
    next.spends = outlays.spends ++
      [⟨tradeInfo.sendToken, tradeInfo.totalSendQuantity⟩] := by
  simp only [executeTrade, bind_eq_ok, pure_eq_ok] at hcall
  obtain ⟨_, -, _, -, _, -, rfl⟩ := hcall
  rfl

theorem accrueProtocolFee_spends {exchangedQuantity : ℕ}
    (hcall : accrueProtocolFee module outlays tradeInfo exchangedQuantity = .ok next) :
    next.spends = outlays.spends := by
  simp only [accrueProtocolFee, bind_eq_ok, pure_eq_ok] at hcall
  obtain ⟨_, -, _, -, rfl⟩ := hcall
  rfl

theorem updateSetTokenPositions_spends
    (hcall : updateSetTokenPositions module outlays tradeInfo = .ok next) :
    next.spends = outlays.spends := by
  simp only [updateSetTokenPositions, bind_eq_ok, pure_eq_ok] at hcall
  obtain ⟨sent, hsent, received, hreceived, _, -, _, -, rfl⟩ := hcall
  rw [Outlays.updateDefaultPosition_spends hreceived,
    Outlays.updateDefaultPosition_spends hsent]

end SetProtocol.TradeModule
