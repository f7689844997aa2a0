import SetProtocol.Modules.AmmModule
import SetProtocol.Modules.TradeModule
import SetProtocol.Modules.WrapModuleV2

/-!
# Managers spend what positions track

A manager asks for units of a token, a module scales them by the supply and passes the
result to another protocol.  The request is sound if that quantity stays within what the
default position tracks, and if units that the position has are never refused for being
too many.  Trades, wraps and added liquidity are sound for every supply, since they
compare units.  A removal compares the scaled quantity of pool tokens with a unit, and
is sound only where that makes no difference.
-/

namespace SetProtocol.TrackedSpending

open Transaction PreciseUnitMath

/-- What a manager asks the modules to spend. -/
inductive SpendRequest
  | trade (exchangeName : String) (sendToken : Address) (sendQuantity : ℕ)
      (receiveToken : Address) (minReceiveQuantity : ℕ) (data : Bytes)
  | wrap (underlyingToken wrappedToken : Address) (underlyingUnits : ℕ)
      (integrationName : String) (wrapData : Bytes)
  | wrapWithEther (wrappedToken : Address) (underlyingUnits : ℕ)
      (integrationName : String) (wrapData : Bytes)
  | unwrap (underlyingToken wrappedToken : Address) (wrappedUnits : ℕ)
      (integrationName : String) (unwrapData : Bytes)
  | unwrapWithEther (wrappedToken : Address) (wrappedUnits : ℕ)
      (integrationName : String) (unwrapData : Bytes)
  | addLiquidity (ammName : String) (ammPool : Address) (minPoolTokenPositionUnit : ℕ)
      (components : List Address) (maxComponentUnits : List ℕ)
  | addLiquiditySingleAsset (ammName : String) (ammPool : Address)
      (minPoolTokenPositionUnit : ℕ) (component : Address) (maxComponentUnit : ℕ)
  | removeLiquidity (ammName : String) (ammPool : Address) (poolTokenPositionUnits : ℕ)
      (components : List Address) (minComponentUnitsReceived : List ℕ)
  | removeLiquiditySingleAsset (ammName : String) (ammPool : Address)
      (poolTokenPositionUnits : ℕ) (component : Address) (minComponentUnitsReceived : ℕ)

/-- The adapters of the three modules. -/
structure Integrations (P : Type) where
  exchanges : TradeModule.Exchanges P
  wrappers : WrapModuleV2.Wrappers P
  amms : AmmModule.Amms P

variable {P : Type}

/-- The module serves the request. -/
def perform (integrations : Integrations P) (module sender : Address)
    (outlays : Outlays P) : SpendRequest → Outcome (Outlays P)
  | .trade exchangeName sendToken sendQuantity receiveToken minReceiveQuantity data =>
      TradeModule.trade integrations.exchanges module outlays sender exchangeName
        sendToken sendQuantity receiveToken minReceiveQuantity data
  | .wrap underlyingToken wrappedToken underlyingUnits integrationName wrapData =>
      WrapModuleV2.wrap integrations.wrappers module outlays sender underlyingToken
        wrappedToken underlyingUnits integrationName wrapData
  | .wrapWithEther wrappedToken underlyingUnits integrationName wrapData =>
      WrapModuleV2.wrapWithEther integrations.wrappers module outlays sender wrappedToken
        underlyingUnits integrationName wrapData
  | .unwrap underlyingToken wrappedToken wrappedUnits integrationName unwrapData =>
      WrapModuleV2.unwrap integrations.wrappers module outlays sender underlyingToken
        wrappedToken wrappedUnits integrationName unwrapData
  | .unwrapWithEther wrappedToken wrappedUnits integrationName unwrapData =>
      WrapModuleV2.unwrapWithEther integrations.wrappers module outlays sender
        wrappedToken wrappedUnits integrationName unwrapData
  | .addLiquidity ammName ammPool minPoolTokenPositionUnit components
      maxComponentUnits =>
      AmmModule.addLiquidity integrations.amms module outlays sender ammName ammPool
        minPoolTokenPositionUnit components maxComponentUnits
  | .addLiquiditySingleAsset ammName ammPool minPoolTokenPositionUnit component
      maxComponentUnit =>
      AmmModule.addLiquiditySingleAsset integrations.amms module outlays sender ammName
        ammPool minPoolTokenPositionUnit component maxComponentUnit
  | .removeLiquidity ammName ammPool poolTokenPositionUnits components
      minComponentUnitsReceived =>
      AmmModule.removeLiquidity integrations.amms module outlays sender ammName ammPool
        poolTokenPositionUnits components minComponentUnitsReceived
  | .removeLiquiditySingleAsset ammName ammPool poolTokenPositionUnits component
      minComponentUnitsReceived =>
      AmmModule.removeLiquiditySingleAsset integrations.amms module outlays sender
        ammName ammPool poolTokenPositionUnits component minComponentUnitsReceived

/-! ## What the checks let through

Each function here is the beginning of an entry point, up to the call of the other
protocol, and returns the quantities that the call is given. -/

def tradeSpends (exchanges : TradeModule.Exchanges P) (module sender : Address)
    (outlays : Outlays P) (exchangeName : String) (sendToken receiveToken : Address)
    (sendQuantity minReceiveQuantity : ℕ) : Outcome (List Spend) := do
  outlays.validateOnlyManagerAndValidSet module sender
  let tradeInfo ← TradeModule.createTradeInfo exchanges module outlays.toChain
    exchangeName sendToken receiveToken sendQuantity minReceiveQuantity
  TradeModule.validatePreTradeData outlays.setToken tradeInfo sendQuantity
  pure [⟨tradeInfo.sendToken, tradeInfo.totalSendQuantity⟩]

/-- Of a wrap or an unwrap. -/
def wrapSpends (wrappers : WrapModuleV2.Wrappers P) (module sender : Address)
    (outlays : Outlays P) (integrationName : String) (transactToken : Address)
    (units : ℕ) : Outcome (List Spend) := do
  outlays.validateOnlyManagerAndValidSet module sender
  WrapModuleV2.validateInputs outlays.setToken transactToken units
  let notional ←
    Position.getDefaultTotalNotional outlays.setToken.totalSupply units
  let _ ← getAndValidateAdapter wrappers.registry module integrationName
  pure [⟨transactToken, notional⟩]

def addSpends (amms : AmmModule.Amms P) (module sender : Address) (outlays : Outlays P)
    (ammName : String) (ammPool : Address) (minPoolTokenPositionUnit : ℕ)
    (components : List Address) (maxComponentUnits : List ℕ) : Outcome (List Spend) := do
  outlays.validateOnlyManagerAndValidSet module sender
  let actionInfo ← AmmModule.getActionInfo amms module outlays.toChain ammName ammPool
    components maxComponentUnits minPoolTokenPositionUnit
  AmmModule.validateAddLiquidity amms outlays.toSurroundings actionInfo
  pure actionInfo.provided

def removeSpends (amms : AmmModule.Amms P) (module sender : Address)
    (outlays : Outlays P) (ammName : String) (ammPool : Address)
    (poolTokenPositionUnits : ℕ) (components : List Address)
    (minComponentUnitsReceived : List ℕ) : Outcome (List Spend) := do
  outlays.validateOnlyManagerAndValidSet module sender
  let actionInfo ← AmmModule.getActionInfo amms module outlays.toChain ammName ammPool
    components minComponentUnitsReceived poolTokenPositionUnits
  AmmModule.validateRemoveLiquidity amms outlays.toSurroundings actionInfo
  pure [⟨actionInfo.liquidityToken, actionInfo.liquidityQuantity⟩]

/-- The quantities that a request has the module pass on, if its checks let it. -/
def authorize (integrations : Integrations P) (module sender : Address)
    (outlays : Outlays P) : SpendRequest → Outcome (List Spend)
  | .trade exchangeName sendToken sendQuantity receiveToken minReceiveQuantity _ =>
      tradeSpends integrations.exchanges module sender outlays exchangeName sendToken
        receiveToken sendQuantity minReceiveQuantity
  | .wrap underlyingToken _ underlyingUnits integrationName _ =>
      wrapSpends integrations.wrappers module sender outlays integrationName
        underlyingToken underlyingUnits
  | .wrapWithEther _ underlyingUnits integrationName _ =>
      wrapSpends integrations.wrappers module sender outlays integrationName
        integrations.wrappers.weth underlyingUnits
  | .unwrap _ wrappedToken wrappedUnits integrationName _ =>
      wrapSpends integrations.wrappers module sender outlays integrationName wrappedToken
        wrappedUnits
  | .unwrapWithEther wrappedToken wrappedUnits integrationName _ =>
      wrapSpends integrations.wrappers module sender outlays integrationName wrappedToken
        wrappedUnits
  | .addLiquidity ammName ammPool minPoolTokenPositionUnit components
      maxComponentUnits =>
      addSpends integrations.amms module sender outlays ammName ammPool
        minPoolTokenPositionUnit components maxComponentUnits
  | .addLiquiditySingleAsset ammName ammPool minPoolTokenPositionUnit component
      maxComponentUnit =>
      addSpends integrations.amms module sender outlays ammName ammPool
        minPoolTokenPositionUnit [component] [maxComponentUnit]
  | .removeLiquidity ammName ammPool poolTokenPositionUnits components
      minComponentUnitsReceived =>
      removeSpends integrations.amms module sender outlays ammName ammPool
        poolTokenPositionUnits components minComponentUnitsReceived
  | .removeLiquiditySingleAsset ammName ammPool poolTokenPositionUnits component
      minComponentUnitsReceived =>
      removeSpends integrations.amms module sender outlays ammName ammPool
        poolTokenPositionUnits [component] [minComponentUnitsReceived]

/-! ## What a request has to satisfy -/

/-- The tokens that a request spends, with the units asked for. -/
def requestedUnits (weth : Address) : SpendRequest → List (Address × ℕ)
  | .trade _ sendToken sendQuantity _ _ _ => [(sendToken, sendQuantity)]
  | .wrap underlyingToken _ underlyingUnits _ _ => [(underlyingToken, underlyingUnits)]
  | .wrapWithEther _ underlyingUnits _ _ => [(weth, underlyingUnits)]
  | .unwrap _ wrappedToken wrappedUnits _ _ => [(wrappedToken, wrappedUnits)]
  | .unwrapWithEther wrappedToken wrappedUnits _ _ => [(wrappedToken, wrappedUnits)]
  | .addLiquidity _ _ _ components maxComponentUnits => components.zip maxComponentUnits
  | .addLiquiditySingleAsset _ _ _ component maxComponentUnit =>
      [(component, maxComponentUnit)]
  | .removeLiquidity _ ammPool poolTokenPositionUnits _ _ =>
      [(ammPool, poolTokenPositionUnits)]
  | .removeLiquiditySingleAsset _ ammPool poolTokenPositionUnits _ _ =>
      [(ammPool, poolTokenPositionUnits)]

/-- Why a module refuses too many units. -/
def insufficientReason : SpendRequest → String
  | .trade .. | .wrap .. | .wrapWithEther .. | .unwrap .. | .unwrapWithEther .. =>
      "Unit cant be greater than existing"
  | .addLiquidity .. | .addLiquiditySingleAsset .. =>
      "Unit cant be greater than positions owned"
  | .removeLiquidity .. | .removeLiquiditySingleAsset .. =>
      "SetToken must own enough liquidity token"

/-- The units are positive and the default positions have them. -/
def UnitsCovered (setToken : SetToken) (requested : List (Address × ℕ)) : Prop :=
  ∀ entry ∈ requested, 0 < entry.2 ∧ entry.2 ≤ setToken.defaultRealUnit entry.1

/-- No more is passed on than the positions track, and nothing that they have is refused
for being too much. -/
structure SpendsOnlyTracked (integrations : Integrations P) (module sender : Address)
    (outlays : Outlays P) (request : SpendRequest) : Prop where
  bounded : ∀ spends,
    authorize integrations module sender outlays request = .ok spends →
      ∀ spend ∈ spends, spend.quantity ≤ outlays.tracked spend.token
  accepted : UnitsCovered outlays.setToken
      (requestedUnits integrations.wrappers.weth request) →
    RevertsOnly (· ≠ insufficientReason request)
      (authorize integrations module sender outlays request)

/-- Every check of a removal before the comparison passes. -/
structure ReachesComparison (amms : AmmModule.Amms P) (module sender : Address)
    (outlays : Outlays P) (ammName : String) (ammPool : Address)
    (poolTokenPositionUnits : ℕ) (components : List Address)
    (minComponentUnitsReceived : List ℕ) : Prop where
  manager : outlays.setToken.manager = sender
  valid : outlays.isSetValidAndInitialized module
  adapter : amms.registry module ammName ≠ zeroAddress
  scaled : outlays.setToken.totalSupply * poolTokenPositionUnits ≤ maxUint256
  components_scaled : ∀ unit ∈ minComponentUnitsReceived,
    outlays.setToken.totalSupply * unit ≤ maxUint256
  lengths : minComponentUnitsReceived.length = components.length
  nonzero : 0 < outlays.setToken.totalSupply * poolTokenPositionUnits / preciseUnit
  pool : amms.isValidPool (amms.registry module ammName) ammPool components
    outlays.protocols = true
  components_nonzero : ∀ unit ∈ minComponentUnitsReceived, 0 < unit
  readable : FitsInt256 (outlays.setToken.defaultPositionVirtualUnit ammPool *
    outlays.setToken.positionMultiplier)
  castable : ((outlays.setToken.totalSupply * poolTokenPositionUnits / preciseUnit : ℕ) : ℤ)
    ≤ maxInt256

/-- Where comparing the scaled quantity with a unit makes no difference: below one whole
share a quantity that passes must not exceed what is tracked, above it units that the
position has must not scale to more than one unit. -/
def MeasuredRemoval (amms : AmmModule.Amms P) (module sender : Address)
    (outlays : Outlays P) (ammName : String) (ammPool : Address)
    (poolTokenPositionUnits : ℕ) (components : List Address)
    (minComponentUnitsReceived : List ℕ) : Prop :=
  ReachesComparison amms module sender outlays ammName ammPool poolTokenPositionUnits
      components minComponentUnitsReceived →
    if outlays.setToken.totalSupply ≤ preciseUnit then
      poolTokenPositionUnits ≤ outlays.setToken.defaultRealUnit ammPool ∨
        outlays.setToken.defaultRealUnit ammPool <
          outlays.setToken.totalSupply * poolTokenPositionUnits / preciseUnit ∨
        outlays.setToken.totalSupply * poolTokenPositionUnits / preciseUnit =
          outlays.tracked ammPool
    else
      outlays.setToken.defaultRealUnit ammPool < poolTokenPositionUnits ∨
        outlays.setToken.totalSupply * poolTokenPositionUnits / preciseUnit ≤
          outlays.setToken.defaultRealUnit ammPool

/-- Only removals depend on the supply. -/
def Measured (integrations : Integrations P) (module sender : Address)
    (outlays : Outlays P) : SpendRequest → Prop
  | .removeLiquidity ammName ammPool poolTokenPositionUnits components
      minComponentUnitsReceived =>
      MeasuredRemoval integrations.amms module sender outlays ammName ammPool
        poolTokenPositionUnits components minComponentUnitsReceived
  | .removeLiquiditySingleAsset ammName ammPool poolTokenPositionUnits component
      minComponentUnitsReceived =>
      MeasuredRemoval integrations.amms module sender outlays ammName ammPool
        poolTokenPositionUnits [component] [minComponentUnitsReceived]
  | _ => True

/-! ## Modules pass on what their checks let through -/

variable {integrations : Integrations P} {module sender : Address}
variable {outlays next : Outlays P} {request : SpendRequest}

theorem trade_spends {exchanges : TradeModule.Exchanges P} {exchangeName : String}
    {sendToken receiveToken : Address} {sendQuantity minReceiveQuantity : ℕ} {data : Bytes}
    (hcall : TradeModule.trade exchanges module outlays sender exchangeName sendToken
      sendQuantity receiveToken minReceiveQuantity data = .ok next) :
    ∃ spends, tradeSpends exchanges module sender outlays exchangeName sendToken
      receiveToken sendQuantity minReceiveQuantity = .ok spends ∧
        next.spends = outlays.spends ++ spends := by
  simp only [TradeModule.trade, bind_eq_ok] at hcall
  obtain ⟨_, hmanager, tradeInfo, hinfo, _, hvalid, traded, htraded, _, -, charged,
    hcharged, hupdated⟩ := hcall
  refine ⟨[⟨tradeInfo.sendToken, tradeInfo.totalSendQuantity⟩], ?_, ?_⟩
  · simp only [tradeSpends, bind_eq_ok, pure_eq_ok]
    exact ⟨_, hmanager, tradeInfo, hinfo, _, hvalid, rfl⟩
  · rw [TradeModule.updateSetTokenPositions_spends hupdated,
      TradeModule.accrueProtocolFee_spends hcharged, TradeModule.executeTrade_spends htraded]

theorem wrapSpends_of_passesOn {wrappers : WrapModuleV2.Wrappers P} {integrationName : String}
    {token : Address} {units : ℕ}
    (hmanager : outlays.validateOnlyManagerAndValidSet module sender = .ok ())
    (hpasses : WrapModuleV2.PassesOn wrappers module outlays integrationName token units
      next) :
    ∃ spends, wrapSpends wrappers module sender outlays integrationName token units =
      .ok spends ∧ next.spends = outlays.spends ++ spends := by
  obtain ⟨notional, wrapAdapter, hvalid, hnotional, hadapter, hspends⟩ := hpasses
  refine ⟨[⟨token, notional⟩], ?_, hspends⟩
  simp only [wrapSpends, bind_eq_ok, pure_eq_ok]
  exact ⟨_, hmanager, _, hvalid, notional, hnotional, wrapAdapter, hadapter, rfl⟩

section Liquidity

variable {amms : AmmModule.Amms P} {ammName : String} {ammPool : Address}
variable {poolUnits : ℕ} {components : List Address} {units : List ℕ}
variable {execute : Outlays P → AmmModule.ActionInfo → Outcome (Outlays P)}

theorem addLiquidityBy_spends
    (hexecute : ∀ actionInfo after, execute outlays actionInfo = .ok after →
      after.spends = outlays.spends ++ actionInfo.provided)
    (hcall : AmmModule.addLiquidityBy execute amms module outlays sender ammName ammPool
      poolUnits components units = .ok next) :
    ∃ spends, addSpends amms module sender outlays ammName ammPool poolUnits components
      units = .ok spends ∧ next.spends = outlays.spends ++ spends := by
  simp only [AmmModule.addLiquidityBy, bind_eq_ok] at hcall
  obtain ⟨_, hmanager, actionInfo, hinfo, _, hvalid, provided, hprovided, _, -, updated,
    hupdated, hliquidity⟩ := hcall
  refine ⟨actionInfo.provided, ?_, ?_⟩
  · simp only [addSpends, bind_eq_ok, pure_eq_ok]
    exact ⟨_, hmanager, actionInfo, hinfo, _, hvalid, rfl⟩
  · rw [AmmModule.updateReportedPosition_spends hliquidity,
      AmmModule.updateComponentPositions_spends hupdated, hexecute actionInfo provided hprovided]

theorem removeLiquidityBy_spends
    (hexecute : ∀ actionInfo after, execute outlays actionInfo = .ok after →
      after.spends = outlays.spends ++
        [⟨actionInfo.liquidityToken, actionInfo.liquidityQuantity⟩])
    (hcall : AmmModule.removeLiquidityBy execute amms module outlays sender ammName ammPool
      poolUnits components units = .ok next) :
    ∃ spends, removeSpends amms module sender outlays ammName ammPool poolUnits components
      units = .ok spends ∧ next.spends = outlays.spends ++ spends := by
  simp only [AmmModule.removeLiquidityBy, bind_eq_ok] at hcall
  obtain ⟨_, hmanager, actionInfo, hinfo, _, hvalid, withdrawn, hwithdrawn, _, -, updated,
    hupdated, hcomponents⟩ := hcall
  refine ⟨[⟨actionInfo.liquidityToken, actionInfo.liquidityQuantity⟩], ?_, ?_⟩
  · simp only [removeSpends, bind_eq_ok, pure_eq_ok]
    exact ⟨_, hmanager, actionInfo, hinfo, _, hvalid, rfl⟩
  · rw [AmmModule.updateComponentPositions_spends hcomponents,
      AmmModule.updateReportedPosition_spends hupdated,
      hexecute actionInfo withdrawn hwithdrawn]

end Liquidity

/-- A request that is served has the module pass on what its checks let through. -/
theorem perform_spends
    (hcall : perform integrations module sender outlays request = .ok next) :
    ∃ spends, authorize integrations module sender outlays request = .ok spends ∧
      next.spends = outlays.spends ++ spends := by
  cases request with
  | trade exchangeName sendToken sendQuantity receiveToken minReceiveQuantity data =>
      exact trade_spends hcall
  | wrap underlyingToken wrappedToken underlyingUnits integrationName wrapData =>
      obtain ⟨_, hmanager, hwrap⟩ := bind_eq_ok.mp hcall
      exact wrapSpends_of_passesOn hmanager (WrapModuleV2.validateWrapAndUpdate_spends hwrap)
  | wrapWithEther wrappedToken underlyingUnits integrationName wrapData =>
      obtain ⟨_, hmanager, hwrap⟩ := bind_eq_ok.mp hcall
      exact wrapSpends_of_passesOn hmanager (WrapModuleV2.validateWrapAndUpdate_spends hwrap)
  | unwrap underlyingToken wrappedToken wrappedUnits integrationName unwrapData =>
      obtain ⟨_, hmanager, hunwrap⟩ := bind_eq_ok.mp hcall
      exact wrapSpends_of_passesOn hmanager
        (WrapModuleV2.validateUnwrapAndUpdate_spends hunwrap)
  | unwrapWithEther wrappedToken wrappedUnits integrationName unwrapData =>
      obtain ⟨_, hmanager, hunwrap⟩ := bind_eq_ok.mp hcall
      exact wrapSpends_of_passesOn hmanager
        (WrapModuleV2.validateUnwrapAndUpdate_spends hunwrap)
  | addLiquidity ammName ammPool minPoolTokenPositionUnit components maxComponentUnits =>
      exact addLiquidityBy_spends (fun _ _ => AmmModule.provideLiquidity_spends) hcall
  | addLiquiditySingleAsset ammName ammPool minPoolTokenPositionUnit component
      maxComponentUnit =>
      exact addLiquidityBy_spends (fun _ _ => AmmModule.provideLiquidity_spends) hcall
  | removeLiquidity ammName ammPool poolTokenPositionUnits components
      minComponentUnitsReceived =>
      exact removeLiquidityBy_spends (fun _ _ => AmmModule.withdrawLiquidity_spends) hcall
  | removeLiquiditySingleAsset ammName ammPool poolTokenPositionUnits component
      minComponentUnitsReceived =>
      exact removeLiquidityBy_spends (fun _ _ => AmmModule.withdrawLiquidity_spends) hcall

/-! ## Comparing units -/

section Units

variable {token : Address} {unit : ℕ} {allowed : String → Prop}

/-- Reading and comparing a unit that the position has gives no reason to revert. -/
theorem revertsOnly_sufficient {setToken : SetToken} {reason : String}
    (harithmetic : ∀ other ∈ arithmeticReasons, allowed other) (hunit : 0 < unit)
    (hcovered : unit ≤ setToken.defaultRealUnit token) :
    RevertsOnly allowed (do
      let sufficient ← Position.hasSufficientDefaultUnits setToken token unit
      require (sufficient = true) reason) := by
  refine ((Position.arithmetic_hasSufficientDefaultUnits setToken token unit).mono
    harithmetic).bind fun sufficient hsufficient => ?_
  apply revertsOnly_require
  intro hfails
  exact absurd ((Position.hasSufficientDefaultUnits_eq_ok hsufficient hunit).mpr hcovered)
    hfails

theorem revertsOnly_getAndValidateAdapter {registry : IntegrationRegistry} {name : String}
    (hadapter : allowed "Must be valid adapter") :
    RevertsOnly allowed (getAndValidateAdapter registry module name) :=
  (revertsOnly_require fun _ => hadapter).bind fun _ _ => revertsOnly_pure _

theorem revertsOnly_getActionInfo {amms : AmmModule.Amms P} {chain : Chain}
    {ammName : String} {ammPool : Address} {components : List Address} {units : List ℕ}
    {poolUnits : ℕ} (hadapter : allowed "Must be valid adapter")
    (harithmetic : ∀ reason ∈ arithmeticReasons, allowed reason) :
    RevertsOnly allowed (AmmModule.getActionInfo amms module chain ammName ammPool
      components units poolUnits) := by
  refine (revertsOnly_getAndValidateAdapter hadapter).bind fun _ _ => ?_
  refine ((Position.arithmetic_getDefaultTotalNotional _ _).mono harithmetic).bind
    fun _ _ => ?_
  refine RevertsOnly.bind (revertsOnly_mapM fun _ _ => ?_) fun _ _ => revertsOnly_pure _
  exact (Position.arithmetic_getDefaultTotalNotional _ _).mono harithmetic

theorem revertsOnly_validateCommon {amms : AmmModule.Amms P}
    {surroundings : Surroundings P} {actionInfo : AmmModule.ActionInfo}
    (hlengths : allowed "Components and units must be equal length")
    (hquantity : allowed "Token quantity must be nonzero")
    (hpool : allowed "Pool token must be enabled on the Adapter") :
    RevertsOnly allowed (AmmModule.validateCommon amms surroundings actionInfo) := by
  refine (revertsOnly_require fun _ => hlengths).bind fun _ _ => ?_
  refine (revertsOnly_require fun _ => hquantity).bind fun _ _ => ?_
  exact revertsOnly_require fun _ => hpool

end Units

/-- A trade compares the units to send. -/
theorem tradeSpends_bounded {exchanges : TradeModule.Exchanges P} {exchangeName : String}
    {sendToken receiveToken : Address} {sendQuantity minReceiveQuantity : ℕ}
    {spends : List Spend}
    (hspends : tradeSpends exchanges module sender outlays exchangeName sendToken
      receiveToken sendQuantity minReceiveQuantity = .ok spends) :
    ∀ spend ∈ spends, spend.quantity ≤ outlays.tracked spend.token := by
  simp only [tradeSpends, TradeModule.createTradeInfo, TradeModule.validatePreTradeData,
    Position.getDefaultTotalNotional, bind_eq_ok, preciseMul_eq_ok, require_eq_ok,
    pure_eq_ok] at hspends
  obtain ⟨_, -, _, ⟨_, -, _, ⟨-, rfl⟩, _, -, rfl⟩, _, ⟨_, -, _, hsufficient, rfl⟩,
    rfl⟩ := hspends
  rw [List.forall_mem_singleton]
  exact Outlays.scaled_le_tracked (Position.le_defaultRealUnit_of_sufficient hsufficient)

theorem tradeSpends_accepted {exchanges : TradeModule.Exchanges P} {exchangeName : String}
    {sendToken receiveToken : Address} {sendQuantity minReceiveQuantity : ℕ}
    (hcovered : UnitsCovered outlays.setToken [(sendToken, sendQuantity)]) :
    RevertsOnly (· ≠ "Unit cant be greater than existing")
      (tradeSpends exchanges module sender outlays exchangeName sendToken receiveToken
        sendQuantity minReceiveQuantity) := by
  obtain ⟨hunit, hunits⟩ := hcovered (sendToken, sendQuantity) (List.mem_singleton_self _)
  refine (Chain.revertsOnly_validateOnlyManagerAndValidSet (by decide)
    (by decide)).bind fun _ _ => ?_
  refine RevertsOnly.bind ?_ fun tradeInfo hinfo => ?_
  · refine (revertsOnly_getAndValidateAdapter (by decide)).bind fun _ _ => ?_
    refine ((Position.arithmetic_getDefaultTotalNotional _ _).mono (by decide)).bind
      fun _ _ => ?_
    exact ((Position.arithmetic_getDefaultTotalNotional _ _).mono (by decide)).bind
      fun _ _ => revertsOnly_pure _
  · simp only [TradeModule.createTradeInfo, bind_eq_ok, pure_eq_ok] at hinfo
    obtain ⟨_, -, _, -, _, -, rfl⟩ := hinfo
    refine RevertsOnly.bind ?_ fun _ _ => revertsOnly_pure _
    refine (revertsOnly_require fun _ => by decide).bind fun _ _ => ?_
    exact revertsOnly_sufficient (by decide) hunit hunits

/-- So do wraps and unwraps. -/
theorem wrapSpends_bounded {wrappers : WrapModuleV2.Wrappers P} {integrationName : String}
    {token : Address} {units : ℕ} {spends : List Spend}
    (hspends : wrapSpends wrappers module sender outlays integrationName token units =
      .ok spends) : ∀ spend ∈ spends, spend.quantity ≤ outlays.tracked spend.token := by
  simp only [wrapSpends, WrapModuleV2.validateInputs, Position.getDefaultTotalNotional,
    bind_eq_ok, preciseMul_eq_ok, require_eq_ok, pure_eq_ok] at hspends
  obtain ⟨_, -, _, ⟨_, -, _, -, _, -, _, hsufficient, rfl⟩, _, ⟨-, rfl⟩, _, -, rfl⟩ := hspends
  rw [List.forall_mem_singleton]
  exact Outlays.scaled_le_tracked (Position.le_defaultRealUnit_of_sufficient hsufficient)

theorem wrapSpends_accepted {wrappers : WrapModuleV2.Wrappers P} {integrationName : String}
    {token : Address} {units : ℕ} (hcovered : UnitsCovered outlays.setToken [(token, units)]) :
    RevertsOnly (· ≠ "Unit cant be greater than existing")
      (wrapSpends wrappers module sender outlays integrationName token units) := by
  obtain ⟨hunit, hunits⟩ := hcovered (token, units) (List.mem_singleton_self _)
  refine (Chain.revertsOnly_validateOnlyManagerAndValidSet (by decide)
    (by decide)).bind fun _ _ => ?_
  refine RevertsOnly.bind ?_ fun _ _ => ?_
  · refine (revertsOnly_require fun _ => by decide).bind fun _ _ => ?_
    refine ((Position.arithmetic_hasDefaultPosition _ _).mono (by decide)).bind
      fun _ _ => ?_
    refine (revertsOnly_require fun _ => by decide).bind fun _ _ => ?_
    exact revertsOnly_sufficient (by decide) hunit hunits
  · refine ((Position.arithmetic_getDefaultTotalNotional _ _).mono (by decide)).bind
      fun _ _ => ?_
    exact (revertsOnly_getAndValidateAdapter (by decide)).bind fun _ _ => revertsOnly_pure _

section Liquidity

variable {amms : AmmModule.Amms P} {ammName : String} {ammPool : Address}
variable {poolUnits : ℕ} {components : List Address} {units : List ℕ} {spends : List Spend}

/-- What `getActionInfo` makes of a request. -/
def actionInfoOf (amms : AmmModule.Amms P) (module : Address) (chain : Chain)
    (ammName : String) (ammPool : Address) (poolUnits : ℕ) (components : List Address)
    (units : List ℕ) : AmmModule.ActionInfo where
  totalSupply := chain.setToken.totalSupply
  ammAdapter := amms.registry module ammName
  liquidityToken := ammPool
  preActionLiquidityTokenBalance := chain.heldBalance ammPool
  preActionComponentBalances := AmmModule.getTokenBalances chain components
  liquidityQuantity := chain.setToken.totalSupply * poolUnits / preciseUnit
  totalNotionalComponents :=
    units.map fun unit => chain.setToken.totalSupply * unit / preciseUnit
  componentUnits := units
  components := components

theorem getActionInfo_eq_ok {chain : Chain} {actionInfo : AmmModule.ActionInfo} :
    AmmModule.getActionInfo amms module chain ammName ammPool components units poolUnits =
        .ok actionInfo ↔
      amms.registry module ammName ≠ zeroAddress ∧
      chain.setToken.totalSupply * poolUnits ≤ maxUint256 ∧
      (∀ unit ∈ units, chain.setToken.totalSupply * unit ≤ maxUint256) ∧
      actionInfoOf amms module chain ammName ammPool poolUnits components units =
        actionInfo := by
  have hnotional : ∀ unit notional,
      Position.getDefaultTotalNotional chain.setToken.totalSupply unit = .ok notional ↔
        chain.setToken.totalSupply * unit ≤ maxUint256 ∧
          chain.setToken.totalSupply * unit / preciseUnit = notional :=
    fun _ _ => preciseMul_eq_ok
  simp only [AmmModule.getActionInfo, getAndValidateAdapter,
    AmmModule.getTotalNotionalComponents, mapM_eq_ok hnotional, hnotional, bind_eq_ok,
    require_eq_ok, pure_eq_ok, actionInfoOf]
  constructor
  · rintro ⟨_, ⟨_, hadapter, rfl⟩, _, ⟨hpool, rfl⟩, _, ⟨hunits, rfl⟩, rfl⟩
    exact ⟨hadapter, hpool, hunits, rfl⟩
  · rintro ⟨hadapter, hpool, hunits, rfl⟩
    exact ⟨_, ⟨(), hadapter, rfl⟩, _, ⟨hpool, rfl⟩, _, ⟨hunits, rfl⟩, rfl⟩

/-- So does added liquidity, for each component. -/
theorem addSpends_bounded
    (hspends : addSpends amms module sender outlays ammName ammPool poolUnits components
      units = .ok spends) :
    ∀ spend ∈ spends, spend.quantity ≤ outlays.tracked spend.token := by
  simp only [addSpends, AmmModule.validateAddLiquidity, bind_eq_ok, pure_eq_ok,
    getActionInfo_eq_ok] at hspends
  obtain ⟨_, -, _, ⟨-, -, -, rfl⟩, _, ⟨_, -, hvalid⟩, rfl⟩ := hspends
  rw [forM_eq_ok] at hvalid
  intro spend hspend
  simp only [AmmModule.ActionInfo.provided, actionInfoOf, List.zip_map_right, List.map_map,
    List.mem_map, Function.comp_apply, Prod.map] at hspend
  obtain ⟨⟨component, unit⟩, hentry, rfl⟩ := hspend
  have hsufficient := hvalid (component, unit) hentry
  simp only [AmmModule.validateAddedComponent, bind_eq_ok, require_eq_ok] at hsufficient
  obtain ⟨_, hsufficient, rfl⟩ := hsufficient
  exact Outlays.scaled_le_tracked (Position.le_defaultRealUnit_of_sufficient hsufficient)

theorem addSpends_accepted
    (hcovered : UnitsCovered outlays.setToken (components.zip units)) :
    RevertsOnly (· ≠ "Unit cant be greater than positions owned")
      (addSpends amms module sender outlays ammName ammPool poolUnits components units) := by
  refine (Chain.revertsOnly_validateOnlyManagerAndValidSet (by decide)
    (by decide)).bind fun _ _ => ?_
  refine (revertsOnly_getActionInfo (by decide) (by decide)).bind fun actionInfo hinfo => ?_
  obtain ⟨-, -, -, rfl⟩ := getActionInfo_eq_ok.mp hinfo
  refine RevertsOnly.bind ?_ fun _ _ => revertsOnly_pure _
  refine (revertsOnly_validateCommon (by decide) (by decide) (by decide)).bind fun _ _ => ?_
  apply revertsOnly_forM
  intro entry hentry
  obtain ⟨hunit, hunits⟩ := hcovered entry hentry
  exact revertsOnly_sufficient (by decide) hunit hunits

/-! ## Comparing a quantity with a unit -/

/-- All that a removal has checked when it comes to compare. -/
theorem reachesComparison_of_checks {actionInfo : AmmModule.ActionInfo} {sufficient : Bool}
    (hmanager : outlays.validateOnlyManagerAndValidSet module sender = .ok ())
    (hinfo : AmmModule.getActionInfo amms module outlays.toChain ammName ammPool components
      units poolUnits = .ok actionInfo)
    (hcommon : AmmModule.validateCommon amms outlays.toSurroundings actionInfo = .ok ())
    (hunits : (actionInfo.componentUnits.forM fun unit =>
      require (0 < unit) "Component quantity must be nonzero") = .ok ())
    (hsufficient : Position.hasSufficientDefaultUnits outlays.setToken
      actionInfo.liquidityToken actionInfo.liquidityQuantity = .ok sufficient) :
    ReachesComparison amms module sender outlays ammName ammPool poolUnits components
        units ∧
      (sufficient = true ↔ outlays.setToken.totalSupply * poolUnits / preciseUnit ≤
        outlays.setToken.defaultRealUnit ammPool) := by
  obtain ⟨hadapter, hscaled, hcomponents, rfl⟩ := getActionInfo_eq_ok.mp hinfo
  simp only [Chain.validateOnlyManagerAndValidSet, bind_eq_ok, require_eq_ok] at hmanager
  obtain ⟨_, hmanager, hvalid⟩ := hmanager
  simp only [AmmModule.validateCommon, bind_eq_ok, require_eq_ok] at hcommon
  obtain ⟨_, hlengths, _, hnonzero, hpool⟩ := hcommon
  simp only [forM_eq_ok, require_eq_ok] at hunits
  refine ⟨?_, Position.hasSufficientDefaultUnits_eq_ok hsufficient hnonzero⟩
  simp only [Position.hasSufficientDefaultUnits, SetToken.getDefaultPositionRealUnit,
    SetToken.convertVirtualToRealUnit_eq_ok, SafeCast.toInt256_eq_ok,
    bind_eq_ok] at hsufficient
  obtain ⟨_, ⟨hreadable, -⟩, _, ⟨hcastable, -⟩, -⟩ := hsufficient
  exact ⟨hmanager, hvalid, hadapter, hscaled, hcomponents, hlengths, hnonzero, hpool,
    hunits, hreadable, hcastable⟩

/-- From there on it is the comparison that decides. -/
theorem removeSpends_of_reaches
    (hreaches : ReachesComparison amms module sender outlays ammName ammPool poolUnits
      components units) :
    removeSpends amms module sender outlays ammName ammPool poolUnits components units =
      (do
        require (outlays.setToken.totalSupply * poolUnits / preciseUnit ≤
          outlays.setToken.defaultRealUnit ammPool)
          "SetToken must own enough liquidity token"
        pure [⟨ammPool, outlays.setToken.totalSupply * poolUnits / preciseUnit⟩]) := by
  have hmanager : outlays.validateOnlyManagerAndValidSet module sender = .ok () := by
    simp only [Chain.validateOnlyManagerAndValidSet, bind_eq_ok, require_eq_ok]
    exact ⟨(), hreaches.manager, hreaches.valid⟩
  have hinfo : AmmModule.getActionInfo amms module outlays.toChain ammName ammPool
      components units poolUnits = .ok (actionInfoOf amms module outlays.toChain ammName
        ammPool poolUnits components units) :=
    getActionInfo_eq_ok.mpr
      ⟨hreaches.adapter, hreaches.scaled, hreaches.components_scaled, rfl⟩
  have hunits : (units.forM fun unit =>
      require (0 < unit) "Component quantity must be nonzero") = .ok () := by
    simp only [forM_eq_ok, require_eq_ok]
    exact hreaches.components_nonzero
  obtain ⟨sufficient, hsufficient⟩ : ∃ sufficient, Position.hasSufficientDefaultUnits
      outlays.setToken ammPool (outlays.setToken.totalSupply * poolUnits / preciseUnit) =
        .ok sufficient := by
    simp only [Position.hasSufficientDefaultUnits, SetToken.getDefaultPositionRealUnit,
      bind_eq_ok, SetToken.convertVirtualToRealUnit_eq_ok, SafeCast.toInt256_eq_ok,
      pure_eq_ok]
    exact ⟨_, _, ⟨hreaches.readable, rfl⟩, _, ⟨hreaches.castable, rfl⟩, rfl⟩
  have hdecides := Position.hasSufficientDefaultUnits_eq_ok hsufficient hreaches.nonzero
  have hcommon : AmmModule.validateCommon amms outlays.toSurroundings (actionInfoOf amms
      module outlays.toChain ammName ammPool poolUnits components units) = .ok () := by
    simp only [AmmModule.validateCommon, bind_eq_ok, require_eq_ok]
    exact ⟨(), hreaches.lengths, (), hreaches.nonzero, hreaches.pool⟩
  rw [removeSpends, hmanager, ok_bind, hinfo, ok_bind, AmmModule.validateRemoveLiquidity,
    hcommon, ok_bind]
  simp only [actionInfoOf, hunits, ok_bind, hsufficient]
  simp only [require, hdecides]

theorem removeSpends_eq_ok
    (hcall : removeSpends amms module sender outlays ammName ammPool poolUnits components
      units = .ok spends) :
    ReachesComparison amms module sender outlays ammName ammPool poolUnits components
        units ∧
      outlays.setToken.totalSupply * poolUnits / preciseUnit ≤
        outlays.setToken.defaultRealUnit ammPool ∧
      spends = [⟨ammPool, outlays.setToken.totalSupply * poolUnits / preciseUnit⟩] := by
  simp only [removeSpends, AmmModule.validateRemoveLiquidity, bind_eq_ok, pure_eq_ok] at hcall
  obtain ⟨_, hmanager, actionInfo, hinfo, _, ⟨_, hcommon, _, hunits, sufficient, hsufficient,
    hpasses⟩, rfl⟩ := hcall
  obtain ⟨hreaches, hdecides⟩ :=
    reachesComparison_of_checks hmanager hinfo hcommon hunits hsufficient
  obtain ⟨-, -, -, rfl⟩ := getActionInfo_eq_ok.mp hinfo
  exact ⟨hreaches, hdecides.mp (require_eq_ok.mp hpasses), rfl⟩

/-- A removal fails for want of pool tokens only where it comes to compare. -/
theorem removeSpends_insufficient
    (hcall : removeSpends amms module sender outlays ammName ammPool poolUnits components
      units = .error "SetToken must own enough liquidity token") :
    ReachesComparison amms module sender outlays ammName ammPool poolUnits components
        units ∧
      outlays.setToken.defaultRealUnit ammPool <
        outlays.setToken.totalSupply * poolUnits / preciseUnit := by
  have hreverts : RevertsOnly (fun reason =>
      reason = "SetToken must own enough liquidity token" →
        ReachesComparison amms module sender outlays ammName ammPool poolUnits components
          units ∧ outlays.setToken.defaultRealUnit ammPool <
            outlays.setToken.totalSupply * poolUnits / preciseUnit)
      (removeSpends amms module sender outlays ammName ammPool poolUnits components
        units) := by
    refine RevertsOnly.bind ?_ fun _ hmanager => ?_
    · exact Chain.revertsOnly_validateOnlyManagerAndValidSet
        (fun heq => absurd heq (by decide)) fun heq => absurd heq (by decide)
    refine RevertsOnly.bind ?_ fun actionInfo hinfo => ?_
    · exact revertsOnly_getActionInfo (fun heq => absurd heq (by decide))
        fun reason hreason heq => absurd (heq ▸ hreason) (by decide)
    refine RevertsOnly.bind ?_ fun _ _ => revertsOnly_pure _
    refine RevertsOnly.bind ?_ fun _ hcommon => ?_
    · exact revertsOnly_validateCommon (fun heq => absurd heq (by decide))
        (fun heq => absurd heq (by decide)) fun heq => absurd heq (by decide)
    refine RevertsOnly.bind ?_ fun _ hunits => ?_
    · exact revertsOnly_forM fun _ _ => revertsOnly_require fun _ heq =>
        absurd heq (by decide)
    refine RevertsOnly.bind ?_ fun sufficient hsufficient => ?_
    · exact (Position.arithmetic_hasSufficientDefaultUnits _ _ _).mono
        fun reason hreason heq => absurd (heq ▸ hreason) (by decide)
    apply revertsOnly_require
    intro hfails _
    obtain ⟨hreaches, hdecides⟩ :=
      reachesComparison_of_checks hmanager hinfo hcommon hunits hsufficient
    exact ⟨hreaches, not_le.mp fun hle => hfails (hdecides.mpr hle)⟩
  exact hreverts _ hcall rfl

/-- Below one whole share scaling lowers a quantity, above it raises it. -/
theorem scaled_le_self {supply unit : ℕ} (hsupply : supply ≤ preciseUnit) :
    supply * unit / preciseUnit ≤ unit := by
  calc supply * unit / preciseUnit
      ≤ preciseUnit * unit / preciseUnit := Nat.div_le_div_right (Nat.mul_le_mul_right _ hsupply)
    _ = unit := Nat.mul_div_cancel_left unit preciseUnit_pos

theorem self_le_scaled {supply unit : ℕ} (hsupply : preciseUnit ≤ supply) :
    unit ≤ supply * unit / preciseUnit := by
  calc unit = preciseUnit * unit / preciseUnit :=
        (Nat.mul_div_cancel_left unit preciseUnit_pos).symm
    _ ≤ supply * unit / preciseUnit := Nat.div_le_div_right (Nat.mul_le_mul_right _ hsupply)

/-- A removal is sound exactly where the comparison makes no difference. -/
theorem removal_measured_iff :
    ((∀ spends, removeSpends amms module sender outlays ammName ammPool poolUnits components
        units = .ok spends → ∀ spend ∈ spends, spend.quantity ≤ outlays.tracked spend.token) ∧
      (UnitsCovered outlays.setToken [(ammPool, poolUnits)] →
        RevertsOnly (· ≠ "SetToken must own enough liquidity token")
          (removeSpends amms module sender outlays ammName ammPool poolUnits components
            units))) ↔
      MeasuredRemoval amms module sender outlays ammName ammPool poolUnits components
        units := by
  constructor
  · rintro ⟨hbounded, haccepted⟩ hreaches
    have hcall := removeSpends_of_reaches hreaches
    split
    · by_cases hcovered : poolUnits ≤ outlays.setToken.defaultRealUnit ammPool
      · exact Or.inl hcovered
      right
      by_cases hpasses : outlays.setToken.totalSupply * poolUnits / preciseUnit ≤
          outlays.setToken.defaultRealUnit ammPool
      · right
        rw [require, if_pos hpasses, ok_bind] at hcall
        apply le_antisymm (hbounded _ hcall _ (List.mem_singleton_self _))
        exact Nat.div_le_div_right (Nat.mul_le_mul_left _ (not_le.mp hcovered).le)
      · exact Or.inl (not_le.mp hpasses)
    · by_cases hcovered : poolUnits ≤ outlays.setToken.defaultRealUnit ammPool
      · right
        by_contra hfails
        rw [require, if_neg hfails] at hcall
        have hunit : 0 < poolUnits := by
          rw [Nat.pos_iff_ne_zero]
          rintro rfl
          exact absurd hreaches.nonzero (by simp)
        refine haccepted ?_ _ hcall rfl
        rw [UnitsCovered, List.forall_mem_singleton]
        exact ⟨hunit, hcovered⟩
      · exact Or.inl (not_le.mp hcovered)
  · intro hmeasured
    constructor
    · intro spends hspends
      obtain ⟨hreaches, hpasses, rfl⟩ := removeSpends_eq_ok hspends
      rw [List.forall_mem_singleton]
      have hmeets := hmeasured hreaches
      split at hmeets
      · rcases hmeets with hcovered | hfails | hsame
        · exact Outlays.scaled_le_tracked hcovered
        · exact absurd hpasses (not_le.mpr hfails)
        · exact hsame.le
      · rename_i hsupply
        -- the quantity is at least as large as the units it comes from
        exact Outlays.scaled_le_tracked
          ((self_le_scaled (not_le.mp hsupply).le).trans hpasses)
    · intro hcovered reason hcall heq
      rw [UnitsCovered, List.forall_mem_singleton] at hcovered
      rw [heq] at hcall
      obtain ⟨hreaches, hfails⟩ := removeSpends_insufficient hcall
      have hmeets := hmeasured hreaches
      split at hmeets
      · rename_i hsupply
        exact absurd (scaled_le_self hsupply) (not_le.mpr (hcovered.2.trans_lt hfails))
      · rcases hmeets with hmore | hpasses
        · exact absurd hcovered.2 (not_le.mpr hmore)
        · exact absurd hpasses (not_le.mpr hfails)

end Liquidity

/-! ## All requests -/

/-- Served requests pass on what their checks let through, which is sound for every
request other than a removal, and for a removal exactly where comparing a scaled quantity
with a unit makes no difference. -/
theorem spendsOnlyTracked_iff (integrations : Integrations P) (module sender : Address)
    (outlays : Outlays P) (request : SpendRequest) :
    (∀ next, perform integrations module sender outlays request = .ok next →
      ∃ spends, authorize integrations module sender outlays request = .ok spends ∧
        next.spends = outlays.spends ++ spends) ∧
    (SpendsOnlyTracked integrations module sender outlays request ↔
      Measured integrations module sender outlays request) := by
  refine ⟨fun next hcall => perform_spends hcall, ?_⟩
  cases request with
  | trade exchangeName sendToken sendQuantity receiveToken minReceiveQuantity data =>
      exact iff_of_true ⟨fun _ => tradeSpends_bounded, tradeSpends_accepted⟩ trivial
  | wrap underlyingToken wrappedToken underlyingUnits integrationName wrapData =>
      exact iff_of_true ⟨fun _ => wrapSpends_bounded, wrapSpends_accepted⟩ trivial
  | wrapWithEther wrappedToken underlyingUnits integrationName wrapData =>
      exact iff_of_true ⟨fun _ => wrapSpends_bounded, wrapSpends_accepted⟩ trivial
  | unwrap underlyingToken wrappedToken wrappedUnits integrationName unwrapData =>
      exact iff_of_true ⟨fun _ => wrapSpends_bounded, wrapSpends_accepted⟩ trivial
  | unwrapWithEther wrappedToken wrappedUnits integrationName unwrapData =>
      exact iff_of_true ⟨fun _ => wrapSpends_bounded, wrapSpends_accepted⟩ trivial
  | addLiquidity ammName ammPool minPoolTokenPositionUnit components maxComponentUnits =>
      exact iff_of_true ⟨fun _ => addSpends_bounded, addSpends_accepted⟩ trivial
  | addLiquiditySingleAsset ammName ammPool minPoolTokenPositionUnit component
      maxComponentUnit =>
      refine iff_of_true ⟨fun _ => addSpends_bounded, fun hcovered => ?_⟩ trivial
      have hsingle : UnitsCovered outlays.setToken ([component].zip [maxComponentUnit]) :=
        hcovered
      exact addSpends_accepted hsingle
  | removeLiquidity ammName ammPool poolTokenPositionUnits components
      minComponentUnitsReceived =>
      refine Iff.trans ?_ removal_measured_iff
      exact ⟨fun hsound => ⟨hsound.bounded, hsound.accepted⟩,
        fun hsound => ⟨hsound.1, hsound.2⟩⟩
  | removeLiquiditySingleAsset ammName ammPool poolTokenPositionUnits component
      minComponentUnitsReceived =>
      refine Iff.trans ?_ removal_measured_iff
      exact ⟨fun hsound => ⟨hsound.bounded, hsound.accepted⟩,
        fun hsound => ⟨hsound.1, hsound.2⟩⟩

/-- A pool at account 20 takes all pool tokens that it may, which are tokens 10, and pays
as many of token 11. -/
def poolNetwork : Network Unit where
  registry := fun _ _ => 21
  weth := 30
  execute := fun _ surroundings => do
    let quantity := surroundings.allowances 10 20
    let burnt ← surroundings.moveTokens 10 surroundings.setTokenAddress 20 quantity
    let paid ← burnt.moveTokens 11 20 surroundings.setTokenAddress quantity
    pure (surroundings.withChain paid)

def poolIntegrations : Integrations Unit where
  exchanges :=
    { poolNetwork with
      getSpender := fun _ => 20
      getTradeCalldata := fun _ _ _ _ _ _ _ _ => .ok ⟨20, 0, []⟩ }
  wrappers :=
    { poolNetwork with
      ethTokenAddress := fun _ => 31
      getWrapCallData := fun _ _ _ _ _ _ _ => .ok ⟨20, 0, []⟩
      getUnwrapCallData := fun _ _ _ _ _ _ _ => .ok ⟨20, 0, []⟩
      getSpenderAddress := fun _ _ _ => 20 }
  amms :=
    { poolNetwork with
      getProvideLiquidityCalldata := fun _ _ _ _ _ _ _ => .ok ⟨20, 0, []⟩
      getProvideLiquiditySingleAssetCalldata := fun _ _ _ _ _ _ _ => .ok ⟨20, 0, []⟩
      getRemoveLiquidityCalldata := fun _ _ _ _ _ _ _ => .ok ⟨20, 0, []⟩
      getRemoveLiquiditySingleAssetCalldata := fun _ _ _ _ _ _ _ => .ok ⟨20, 0, []⟩
      getSpenderAddress := fun _ _ => 20
      isValidPool := fun _ _ _ _ => true }

/-- One pool token for each share, and some more in the SetToken. -/
def poolWorld (totalSupply held : ℕ) : Outlays Unit where
  controller := { Controller.deploy 1 2 with
    isSet := fun setToken => setToken == 9
    isModule := fun module => module == 5 }
  setTokenAddress := 9
  setToken := { SetToken.deploy [10] [1000000000000000000] [5] 7 with
    moduleStates := fun module => if module = 5 then .INITIALIZED else .NONE
    totalSupply := totalSupply }
  balances := fun token holder =>
    if token = 10 ∧ holder = 9 then held
    else if token = 11 ∧ holder = 20 then 1000000000000000000000 else 0
  timestamp := 0
  protocols := ()
  ether := fun _ => 0
  allowances := fun _ _ => 0
  spends := []

/-- Half a share tracks half a pool token, and a manager who asks for two units burns a
whole one.  With two shares a manager cannot burn the unit that the position has. -/
theorem removal_compares_quantities :
    ¬SpendsOnlyTracked poolIntegrations 5 7
        (poolWorld 500000000000000000 1000000000000000000)
        (.removeLiquidity "pool" 10 2000000000000000000 [11] [1]) ∧
      Returns (perform poolIntegrations 5 7
        (poolWorld 500000000000000000 1000000000000000000)
        (.removeLiquidity "pool" 10 2000000000000000000 [11] [1]))
        (fun next => next.spends = [⟨10, 1000000000000000000⟩] ∧ next.heldBalance 10 = 0) ∧
      (poolWorld 500000000000000000 1000000000000000000).tracked 10 =
        500000000000000000 ∧
      ¬SpendsOnlyTracked poolIntegrations 5 7
        (poolWorld 2000000000000000000 2000000000000000000)
        (.removeLiquidity "pool" 10 1000000000000000000 [11] [1]) ∧
      Reverts (perform poolIntegrations 5 7
        (poolWorld 2000000000000000000 2000000000000000000)
        (.removeLiquidity "pool" 10 1000000000000000000 [11] [1]))
        "SetToken must own enough liquidity token" := by
  refine ⟨fun hsound => ?_, by decide +kernel, by decide +kernel, fun hsound => ?_,
    by decide +kernel⟩
  · obtain ⟨spends, hspends, hquantity⟩ := returns_iff.mp (by decide +kernel :
      Returns (authorize poolIntegrations 5 7
        (poolWorld 500000000000000000 1000000000000000000)
        (.removeLiquidity "pool" 10 2000000000000000000 [11] [1]))
        (· = [⟨10, 1000000000000000000⟩]))
    subst hquantity
    exact absurd (hsound.bounded _ hspends _ (List.mem_singleton_self _))
      (by decide +kernel)
  · have hcovered : UnitsCovered (poolWorld 2000000000000000000 2000000000000000000).setToken
        [(10, 1000000000000000000)] := by
      rw [UnitsCovered, List.forall_mem_singleton]
      decide +kernel
    have hrefused := reverts_iff.mp (by decide +kernel :
      Reverts (authorize poolIntegrations 5 7
        (poolWorld 2000000000000000000 2000000000000000000)
        (.removeLiquidity "pool" 10 1000000000000000000 [11] [1]))
        "SetToken must own enough liquidity token")
    exact hsound.accepted hcovered _ hrefused rfl

end SetProtocol.TrackedSpending
