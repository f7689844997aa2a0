import SetProtocol.Core.Spending

/-!
# The AMM module

The manager provides components of the SetToken to a liquidity pool, or burns its pool
tokens for components.  An `ActionInfo` holds the units as given and the notional
quantities they scale to.  The check of added components compares units; the check of
burned pool tokens compares their notional quantity with a unit.
-/

namespace SetProtocol.AmmModule

open Transaction PreciseUnitMath Surroundings

/-- The AMM adapters. -/
structure Amms (P : Type) extends Network P where
  /-- Adapter, SetToken, pool, components, most or least quantities of them, quantity of
  the pool token. -/
  getProvideLiquidityCalldata (adapter setToken pool : Address)
    (components : List Address) (maxTokensIn : List ℕ) (minLiquidity : ℕ) :
    P → Outcome Invocation
  getProvideLiquiditySingleAssetCalldata (adapter setToken pool component : Address)
    (maxTokenIn minLiquidity : ℕ) : P → Outcome Invocation
  getRemoveLiquidityCalldata (adapter setToken pool : Address)
    (components : List Address) (minTokensOut : List ℕ) (liquidity : ℕ) :
    P → Outcome Invocation
  getRemoveLiquiditySingleAssetCalldata (adapter setToken pool component : Address)
    (minTokenOut liquidity : ℕ) : P → Outcome Invocation
  getSpenderAddress (adapter pool : Address) : Address
  isValidPool (adapter pool : Address) (components : List Address) : P → Bool

structure ActionInfo where
  totalSupply : ℕ
  ammAdapter : Address
  liquidityToken : Address
  preActionLiquidityTokenBalance : ℕ
  preActionComponentBalances : List ℕ
  /-- The least to receive when adding, what to burn when removing. -/
  liquidityQuantity : ℕ
  totalNotionalComponents : List ℕ
  componentUnits : List ℕ
  components : List Address

/-- What a pool is to take of the components. -/
def ActionInfo.provided (actionInfo : ActionInfo) : List Spend :=
  (actionInfo.components.zip actionInfo.totalNotionalComponents).map fun spent =>
    ⟨spent.1, spent.2⟩

variable {P : Type}

def getTokenBalances (chain : Chain) (tokens : List Address) : List ℕ :=
  tokens.map chain.heldBalance

def getTotalNotionalComponents (setToken : SetToken) (tokenAmounts : List ℕ) :
    Outcome (List ℕ) :=
  tokenAmounts.mapM (Position.getDefaultTotalNotional setToken.totalSupply)

def getActionInfo (amms : Amms P) (module : Address) (chain : Chain)
    (integrationName : String) (ammPool : Address) (components : List Address)
    (componentUnits : List ℕ) (poolTokenInPositionUnit : ℕ) : Outcome ActionInfo := do
  let ammAdapter ← getAndValidateAdapter amms.registry module integrationName
  let liquidityQuantity ← Position.getDefaultTotalNotional chain.setToken.totalSupply
    poolTokenInPositionUnit
  let totalNotionalComponents ← getTotalNotionalComponents chain.setToken componentUnits
  pure {
    totalSupply := chain.setToken.totalSupply
    ammAdapter := ammAdapter
    liquidityToken := ammPool
    preActionLiquidityTokenBalance := chain.heldBalance ammPool
    preActionComponentBalances := getTokenBalances chain components
    liquidityQuantity := liquidityQuantity
    totalNotionalComponents := totalNotionalComponents
    componentUnits := componentUnits
    components := components }

/-! ## Checks before the call -/

def validateCommon (amms : Amms P) (surroundings : Surroundings P)
    (actionInfo : ActionInfo) : Outcome Unit := do
  require (actionInfo.componentUnits.length = actionInfo.components.length)
    "Components and units must be equal length"
  require (0 < actionInfo.liquidityQuantity) "Token quantity must be nonzero"
  require (amms.isValidPool actionInfo.ammAdapter actionInfo.liquidityToken
    actionInfo.components surroundings.protocols = true)
    "Pool token must be enabled on the Adapter"

/-- Body of the loop over the added components. -/
def validateAddedComponent (setToken : SetToken) (componentAndUnit : Address × ℕ) :
    Outcome Unit := do
  let sufficient ← Position.hasSufficientDefaultUnits setToken componentAndUnit.1
    componentAndUnit.2
  require (sufficient = true) "Unit cant be greater than positions owned"

def validateAddLiquidity (amms : Amms P) (surroundings : Surroundings P)
    (actionInfo : ActionInfo) : Outcome Unit := do
  validateCommon amms surroundings actionInfo
  (actionInfo.components.zip actionInfo.componentUnits).forM
    (validateAddedComponent surroundings.setToken)

/-- The quantity of pool tokens is compared with a unit. -/
def validateRemoveLiquidity (amms : Amms P) (surroundings : Surroundings P)
    (actionInfo : ActionInfo) : Outcome Unit := do
  validateCommon amms surroundings actionInfo
  actionInfo.componentUnits.forM fun unit =>
    require (0 < unit) "Component quantity must be nonzero"
  let sufficient ← Position.hasSufficientDefaultUnits surroundings.setToken
    actionInfo.liquidityToken actionInfo.liquidityQuantity
  require (sufficient = true) "SetToken must own enough liquidity token"

/-! ## The call -/

/-- The allowance of each component is reset, then set. -/
def executeComponentApprovals (amms : Amms P) (module : Address)
    (surroundings : Surroundings P) (actionInfo : ActionInfo) :
    Outcome (Surroundings P) :=
  let spender := amms.getSpenderAddress actionInfo.ammAdapter actionInfo.liquidityToken
  (actionInfo.components.zip actionInfo.totalNotionalComponents).foldlM
    (fun current componentAndNotional => do
      let reset ← invokeApprove module current componentAndNotional.1 spender 0
      invokeApprove module reset componentAndNotional.1 spender componentAndNotional.2)
    surroundings

/-- The pool works with the notional quantities of the components. -/
def provideLiquidity (amms : Amms P) (module : Address) (outlays : Outlays P)
    (actionInfo : ActionInfo) (getCalldata : P → Outcome Invocation) :
    Outcome (Outlays P) := do
  let invocation ← getCalldata outlays.protocols
  let approved ← executeComponentApprovals amms module outlays.toSurroundings actionInfo
  let provided ← invoke amms.toNetwork module approved invocation
  pure ((outlays.withSurroundings provided).withSpends actionInfo.provided)

/-- The pool works with the quantity of pool tokens to burn. -/
def withdrawLiquidity (amms : Amms P) (module : Address) (outlays : Outlays P)
    (actionInfo : ActionInfo) (getCalldata : P → Outcome Invocation) :
    Outcome (Outlays P) := do
  let invocation ← getCalldata outlays.protocols
  let approved ← invokeApprove module outlays.toSurroundings actionInfo.liquidityToken
    (amms.getSpenderAddress actionInfo.ammAdapter actionInfo.liquidityToken)
    actionInfo.liquidityQuantity
  let withdrawn ← invoke amms.toNetwork module approved invocation
  pure ((outlays.withSurroundings withdrawn).withSpends
    [⟨actionInfo.liquidityToken, actionInfo.liquidityQuantity⟩])

def executeAddLiquidity (amms : Amms P) (module : Address) (outlays : Outlays P)
    (actionInfo : ActionInfo) : Outcome (Outlays P) :=
  provideLiquidity amms module outlays actionInfo
    (amms.getProvideLiquidityCalldata actionInfo.ammAdapter outlays.setTokenAddress
      actionInfo.liquidityToken actionInfo.components actionInfo.totalNotionalComponents
      actionInfo.liquidityQuantity)

/-- The lists have one entry. -/
def executeAddLiquiditySingleAsset (amms : Amms P) (module : Address)
    (outlays : Outlays P) (actionInfo : ActionInfo) : Outcome (Outlays P) :=
  provideLiquidity amms module outlays actionInfo
    (amms.getProvideLiquiditySingleAssetCalldata actionInfo.ammAdapter
      outlays.setTokenAddress actionInfo.liquidityToken
      (actionInfo.components.headD zeroAddress)
      (actionInfo.totalNotionalComponents.headD 0) actionInfo.liquidityQuantity)

def executeRemoveLiquidity (amms : Amms P) (module : Address) (outlays : Outlays P)
    (actionInfo : ActionInfo) : Outcome (Outlays P) :=
  withdrawLiquidity amms module outlays actionInfo
    (amms.getRemoveLiquidityCalldata actionInfo.ammAdapter outlays.setTokenAddress
      actionInfo.liquidityToken actionInfo.components actionInfo.totalNotionalComponents
      actionInfo.liquidityQuantity)

def executeRemoveLiquiditySingleAsset (amms : Amms P) (module : Address)
    (outlays : Outlays P) (actionInfo : ActionInfo) : Outcome (Outlays P) :=
  withdrawLiquidity amms module outlays actionInfo
    (amms.getRemoveLiquiditySingleAssetCalldata actionInfo.ammAdapter
      outlays.setTokenAddress actionInfo.liquidityToken
      (actionInfo.components.headD zeroAddress)
      (actionInfo.totalNotionalComponents.headD 0) actionInfo.liquidityQuantity)

/-! ## Checks and bookkeeping after the call -/

def validateMinimumLiquidityReceived (chain : Chain) (actionInfo : ActionInfo) :
    Outcome Unit := do
  let required ← SafeMath.add actionInfo.liquidityQuantity
    actionInfo.preActionLiquidityTokenBalance
  require (required ≤ chain.heldBalance actionInfo.liquidityToken)
    "Liquidity tokens received must be greater than minimum specified"

def validateMinimumUnderlyingReceived (chain : Chain) (actionInfo : ActionInfo) :
    Outcome Unit :=
  (actionInfo.components.zip (actionInfo.totalNotionalComponents.zip
    actionInfo.preActionComponentBalances)).forM fun entry => do
      let required ← SafeMath.add entry.2.1 entry.2.2
      require (required ≤ chain.heldBalance entry.1)
        "Underlying tokens received must be greater than minimum specified"

/-- One position; the change of its balance is reported as a signed number. -/
def updateReportedPosition (module : Address) (setTotalSupply : ℕ) (outlays : Outlays P)
    (tokenAndBalance : Address × ℕ) : Outcome (Outlays P) := do
  let (updated, currentBalance) ← outlays.updateDefaultPosition module tokenAndBalance.1
    setTotalSupply tokenAndBalance.2
  let current ← SafeCast.toInt256 currentBalance
  let previous ← SafeCast.toInt256 tokenAndBalance.2
  let _ ← SignedSafeMath.sub current previous
  pure updated

def updateComponentPositions (module : Address) (outlays : Outlays P)
    (actionInfo : ActionInfo) : Outcome (Outlays P) :=
  (actionInfo.components.zip actionInfo.preActionComponentBalances).foldlM
    (updateReportedPosition module actionInfo.totalSupply) outlays

def updateLiquidityTokenPositions (module : Address) (outlays : Outlays P)
    (actionInfo : ActionInfo) : Outcome (Outlays P) :=
  updateReportedPosition module actionInfo.totalSupply outlays
    (actionInfo.liquidityToken, actionInfo.preActionLiquidityTokenBalance)

/-! ## Entry points -/

/-- Both ways to add liquidity differ in the call alone. -/
def addLiquidityBy (execute : Outlays P → ActionInfo → Outcome (Outlays P))
    (amms : Amms P) (module : Address) (outlays : Outlays P) (sender : Address)
    (ammName : String) (ammPool : Address) (minPoolTokenPositionUnit : ℕ)
    (components : List Address) (maxComponentUnits : List ℕ) : Outcome (Outlays P) := do
  outlays.validateOnlyManagerAndValidSet module sender
  let actionInfo ← getActionInfo amms module outlays.toChain ammName ammPool components
    maxComponentUnits minPoolTokenPositionUnit
  validateAddLiquidity amms outlays.toSurroundings actionInfo
  let provided ← execute outlays actionInfo
  validateMinimumLiquidityReceived provided.toChain actionInfo
  let updated ← updateComponentPositions module provided actionInfo
  updateLiquidityTokenPositions module updated actionInfo

def removeLiquidityBy (execute : Outlays P → ActionInfo → Outcome (Outlays P))
    (amms : Amms P) (module : Address) (outlays : Outlays P) (sender : Address)
    (ammName : String) (ammPool : Address) (poolTokenPositionUnits : ℕ)
    (components : List Address) (minComponentUnitsReceived : List ℕ) :
    Outcome (Outlays P) := do
  outlays.validateOnlyManagerAndValidSet module sender
  let actionInfo ← getActionInfo amms module outlays.toChain ammName ammPool components
    minComponentUnitsReceived poolTokenPositionUnits
  validateRemoveLiquidity amms outlays.toSurroundings actionInfo
  let withdrawn ← execute outlays actionInfo
  validateMinimumUnderlyingReceived withdrawn.toChain actionInfo
  let updated ← updateLiquidityTokenPositions module withdrawn actionInfo
  updateComponentPositions module updated actionInfo

def addLiquidity (amms : Amms P) (module : Address) (outlays : Outlays P)
    (sender : Address) (ammName : String) (ammPool : Address)
    (minPoolTokenPositionUnit : ℕ) (components : List Address)
    (maxComponentUnits : List ℕ) : Outcome (Outlays P) :=
  addLiquidityBy (executeAddLiquidity amms module) amms module outlays sender ammName
    ammPool minPoolTokenPositionUnit components maxComponentUnits

def addLiquiditySingleAsset (amms : Amms P) (module : Address) (outlays : Outlays P)
    (sender : Address) (ammName : String) (ammPool : Address)
    (minPoolTokenPositionUnit : ℕ) (component : Address) (maxComponentUnit : ℕ) :
    Outcome (Outlays P) :=
  addLiquidityBy (executeAddLiquiditySingleAsset amms module) amms module outlays sender
    ammName ammPool minPoolTokenPositionUnit [component] [maxComponentUnit]

def removeLiquidity (amms : Amms P) (module : Address) (outlays : Outlays P)
    (sender : Address) (ammName : String) (ammPool : Address)
    (poolTokenPositionUnits : ℕ) (components : List Address)
    (minComponentUnitsReceived : List ℕ) : Outcome (Outlays P) :=
  removeLiquidityBy (executeRemoveLiquidity amms module) amms module outlays sender
    ammName ammPool poolTokenPositionUnits components minComponentUnitsReceived

def removeLiquiditySingleAsset (amms : Amms P) (module : Address) (outlays : Outlays P)
    (sender : Address) (ammName : String) (ammPool : Address)
    (poolTokenPositionUnits : ℕ) (component : Address) (minComponentUnitsReceived : ℕ) :
    Outcome (Outlays P) :=
  removeLiquidityBy (executeRemoveLiquiditySingleAsset amms module) amms module outlays
    sender ammName ammPool poolTokenPositionUnits [component] [minComponentUnitsReceived]

/-! ## What the calls spend -/

variable {amms : Amms P} {module : Address} {outlays next : Outlays P}
variable {actionInfo : ActionInfo}

theorem provideLiquidity_spends {getCalldata : P → Outcome Invocation}
    (hcall : provideLiquidity amms module outlays actionInfo getCalldata = .ok next) :
    next.spends = outlays.spends ++ actionInfo.provided := by
  simp only [provideLiquidity, bind_eq_ok, pure_eq_ok] at hcall
  obtain ⟨_, -, _, -, _, -, rfl⟩ := hcall
  rfl

theorem withdrawLiquidity_spends {getCalldata : P → Outcome Invocation}
    (hcall : withdrawLiquidity amms module outlays actionInfo getCalldata = .ok next) :
    next.spends = outlays.spends ++
      [⟨actionInfo.liquidityToken, actionInfo.liquidityQuantity⟩] := by
  simp only [withdrawLiquidity, bind_eq_ok, pure_eq_ok] at hcall
  obtain ⟨_, -, _, -, _, -, rfl⟩ := hcall
  rfl

theorem updateReportedPosition_spends {setTotalSupply : ℕ} {tokenAndBalance : Address × ℕ}
    (hcall : updateReportedPosition module setTotalSupply outlays tokenAndBalance =
      .ok next) : next.spends = outlays.spends := by
  simp only [updateReportedPosition, bind_eq_ok, pure_eq_ok] at hcall
  obtain ⟨updated, hupdated, _, -, _, -, _, -, rfl⟩ := hcall
  exact Outlays.updateDefaultPosition_spends hupdated

theorem updateComponentPositions_spends
    (hcall : updateComponentPositions module outlays actionInfo = .ok next) :
    next.spends = outlays.spends := by
  have hturn : ∀ entry ∈ actionInfo.components.zip actionInfo.preActionComponentBalances,
      ∀ current after : Outlays P, current.spends = outlays.spends →
        updateReportedPosition module actionInfo.totalSupply current entry = .ok after →
        after.spends = outlays.spends := by
    intro entry _ current after hbefore hturn
    exact (updateReportedPosition_spends hturn).trans hbefore
  exact foldlM_preserves hturn rfl hcall

end SetProtocol.AmmModule
