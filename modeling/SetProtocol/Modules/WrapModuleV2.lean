import SetProtocol.Core.Spending

/-!
# The wrap module

The manager turns units of a component into a wrapped token, or back.  A protocol that
takes Ether is served by unwrapping WETH first, and one that pays Ether by wrapping all
Ether that the SetToken then has.
-/

namespace SetProtocol.WrapModuleV2

open Transaction PreciseUnitMath Surroundings

/-- The wrap adapters. -/
structure Wrappers (P : Type) extends Network P where
  ethTokenAddress (adapter : Address) : Address
  /-- Adapter, underlying token, wrapped token, quantity to wrap, SetToken. -/
  getWrapCallData (adapter underlyingToken wrappedToken : Address)
    (underlyingUnits : ℕ) (target : Address) (data : Bytes) : P → Outcome Invocation
  getUnwrapCallData (adapter underlyingToken wrappedToken : Address)
    (wrappedTokenUnits : ℕ) (target : Address) (data : Bytes) : P → Outcome Invocation
  getSpenderAddress (adapter underlyingToken wrappedToken : Address) : Address

variable {P : Type}

def validateInputs (setToken : SetToken) (transactPosition : Address)
    (transactPositionUnits : ℕ) : Outcome Unit := do
  require (0 < transactPositionUnits) "Target position units must be > 0"
  let hasPosition ← Position.hasDefaultPosition setToken transactPosition
  require (hasPosition = true) "Target default position must be component"
  let sufficient ← Position.hasSufficientDefaultUnits setToken transactPosition
    transactPositionUnits
  require (sufficient = true) "Unit cant be greater than existing"

/-- Balances of the underlying and of the wrapped token. -/
def snapshotTargetAssetsBalance (chain : Chain) (underlyingToken wrappedToken : Address) :
    ℕ × ℕ :=
  (chain.heldBalance underlyingToken, chain.heldBalance wrappedToken)

/-- Unlike `calculateAndEditDefaultPosition`, this divides a zero balance as well. -/
def updatePosition (module : Address) (outlays : Outlays P) (token : Address)
    (preActionTokenBalance postActionTokenBalance : ℕ) : Outcome (Outlays P) := do
  let realUnit ← outlays.setToken.getDefaultPositionRealUnit token
  let positionUnit ← SafeCast.toUint256 realUnit
  let newUnit ← Position.calculateDefaultEditPositionUnit outlays.setToken.totalSupply
    preActionTokenBalance postActionTokenBalance positionUnit
  let setToken ← Position.editDefaultPosition outlays.setToken outlays.controller module
    token newUnit
  pure (outlays.withChain (outlays.withSetToken setToken))

/-- The protocol works with the notional underlying. -/
def createWrapDataAndInvoke (wrappers : Wrappers P) (module : Address)
    (surroundings : Surroundings P) (wrapAdapter underlyingToken wrappedToken : Address)
    (notionalUnderlying : ℕ) (data : Bytes) : Outcome (Surroundings P) := do
  let invocation ← wrappers.getWrapCallData wrapAdapter underlyingToken wrappedToken
    notionalUnderlying surroundings.setTokenAddress data surroundings.protocols
  invoke wrappers.toNetwork module surroundings invocation

def createUnwrapDataAndInvoke (wrappers : Wrappers P) (module : Address)
    (surroundings : Surroundings P) (wrapAdapter underlyingToken wrappedToken : Address)
    (notionalWrapped : ℕ) (data : Bytes) : Outcome (Surroundings P) := do
  let invocation ← wrappers.getUnwrapCallData wrapAdapter underlyingToken wrappedToken
    notionalWrapped surroundings.setTokenAddress data surroundings.protocols
  invoke wrappers.toNetwork module surroundings invocation

/-- WETH is unwrapped for a protocol that takes Ether; any other protocol is approved. -/
def prepareWrap (wrappers : Wrappers P) (module : Address) (surroundings : Surroundings P)
    (wrapAdapter underlyingToken wrappedToken : Address) (notionalUnderlying : ℕ)
    (usesEther : Bool) : Outcome (Surroundings P) :=
  if usesEther = true then
    invokeUnwrapWETH module surroundings wrappers.weth notionalUnderlying
  else
    invokeApprove module surroundings underlyingToken
      (wrappers.getSpenderAddress wrapAdapter underlyingToken wrappedToken)
      notionalUnderlying

/-- `_usesEther ? wrapAdapter.ETH_TOKEN_ADDRESS() : _underlyingToken` -/
def adapterUnderlying (wrappers : Wrappers P) (wrapAdapter underlyingToken : Address)
    (usesEther : Bool) : Address :=
  if usesEther = true then wrappers.ethTokenAddress wrapAdapter else underlyingToken

/-- The positions of both tokens after a wrap or an unwrap. -/
def updatePositions (module : Address) (outlays : Outlays P)
    (underlyingToken wrappedToken : Address) (before : ℕ × ℕ) :
    Outcome (Outlays P × ℕ × ℕ) := do
  let after := snapshotTargetAssetsBalance outlays.toChain underlyingToken wrappedToken
  let updated ← updatePosition module outlays underlyingToken before.1 after.1
  let updated ← updatePosition module updated wrappedToken before.2 after.2
  pure (updated, after)

/-- `type(uint256).max` is approved to an unwrapping protocol, and revoked at the end. -/
def executeUnwrap (wrappers : Wrappers P) (module : Address)
    (surroundings : Surroundings P) (wrapAdapter underlyingToken wrappedToken : Address)
    (notionalWrapped : ℕ) (data : Bytes) (usesEther : Bool) :
    Outcome (Surroundings P) := do
  let spender := wrappers.getSpenderAddress wrapAdapter underlyingToken wrappedToken
  let approved ← invokeApprove module surroundings wrappedToken spender maxUint256
  let unwrapped ← createUnwrapDataAndInvoke wrappers module approved wrapAdapter
    (adapterUnderlying wrappers wrapAdapter underlyingToken usesEther) wrappedToken
    notionalWrapped data
  let collected ← (
    if usesEther = true then
      invokeWrapWETH module unwrapped wrappers.weth
        (unwrapped.ether unwrapped.setTokenAddress)
    else .ok unwrapped)
  invokeApprove module collected wrappedToken spender 0

def validateWrapAndUpdate (wrappers : Wrappers P) (module : Address)
    (outlays : Outlays P) (integrationName : String)
    (underlyingToken wrappedToken : Address) (underlyingUnits : ℕ) (data : Bytes)
    (usesEther : Bool) : Outcome (Outlays P) := do
  validateInputs outlays.setToken underlyingToken underlyingUnits
  let before := snapshotTargetAssetsBalance outlays.toChain underlyingToken wrappedToken
  let notionalUnderlying ←
    Position.getDefaultTotalNotional outlays.setToken.totalSupply underlyingUnits
  let wrapAdapter ← getAndValidateAdapter wrappers.registry module integrationName
  let prepared ← prepareWrap wrappers module outlays.toSurroundings wrapAdapter
    underlyingToken wrappedToken notionalUnderlying usesEther
  let wrapped ← createWrapDataAndInvoke wrappers module prepared wrapAdapter
    (adapterUnderlying wrappers wrapAdapter underlyingToken usesEther) wrappedToken
    notionalUnderlying data
  let spent := (outlays.withSurroundings wrapped).withSpends
    [⟨underlyingToken, notionalUnderlying⟩]
  let (updated, after) ← updatePositions module spent underlyingToken wrappedToken before
  let _ ← SafeMath.sub before.1 after.1
  let _ ← SafeMath.sub after.2 before.2
  pure updated

def validateUnwrapAndUpdate (wrappers : Wrappers P) (module : Address)
    (outlays : Outlays P) (integrationName : String)
    (underlyingToken wrappedToken : Address) (wrappedTokenUnits : ℕ) (data : Bytes)
    (usesEther : Bool) : Outcome (Outlays P) := do
  validateInputs outlays.setToken wrappedToken wrappedTokenUnits
  let before := snapshotTargetAssetsBalance outlays.toChain underlyingToken wrappedToken
  let notionalWrappedToken ←
    Position.getDefaultTotalNotional outlays.setToken.totalSupply wrappedTokenUnits
  let wrapAdapter ← getAndValidateAdapter wrappers.registry module integrationName
  let unwrapped ← executeUnwrap wrappers module outlays.toSurroundings wrapAdapter
    underlyingToken wrappedToken notionalWrappedToken data usesEther
  let spent := (outlays.withSurroundings unwrapped).withSpends
    [⟨wrappedToken, notionalWrappedToken⟩]
  let (updated, after) ← updatePositions module spent underlyingToken wrappedToken before
  let _ ← SafeMath.sub after.1 before.1
  let _ ← SafeMath.sub before.2 after.2
  pure updated

def wrap (wrappers : Wrappers P) (module : Address) (outlays : Outlays P)
    (sender underlyingToken wrappedToken : Address) (underlyingUnits : ℕ)
    (integrationName : String) (wrapData : Bytes) : Outcome (Outlays P) := do
  outlays.validateOnlyManagerAndValidSet module sender
  validateWrapAndUpdate wrappers module outlays integrationName underlyingToken
    wrappedToken underlyingUnits wrapData false

def wrapWithEther (wrappers : Wrappers P) (module : Address) (outlays : Outlays P)
    (sender wrappedToken : Address) (underlyingUnits : ℕ) (integrationName : String)
    (wrapData : Bytes) : Outcome (Outlays P) := do
  outlays.validateOnlyManagerAndValidSet module sender
  validateWrapAndUpdate wrappers module outlays integrationName wrappers.weth
    wrappedToken underlyingUnits wrapData true

def unwrap (wrappers : Wrappers P) (module : Address) (outlays : Outlays P)
    (sender underlyingToken wrappedToken : Address) (wrappedUnits : ℕ)
    (integrationName : String) (unwrapData : Bytes) : Outcome (Outlays P) := do
  outlays.validateOnlyManagerAndValidSet module sender
  validateUnwrapAndUpdate wrappers module outlays integrationName underlyingToken
    wrappedToken wrappedUnits unwrapData false

def unwrapWithEther (wrappers : Wrappers P) (module : Address) (outlays : Outlays P)
    (sender wrappedToken : Address) (wrappedUnits : ℕ) (integrationName : String)
    (unwrapData : Bytes) : Outcome (Outlays P) := do
  outlays.validateOnlyManagerAndValidSet module sender
  validateUnwrapAndUpdate wrappers module outlays integrationName wrappers.weth
    wrappedToken wrappedUnits unwrapData true

/-! ## What wrapping spends -/

variable {wrappers : Wrappers P} {module underlyingToken wrappedToken : Address}
variable {outlays next : Outlays P} {integrationName : String} {units : ℕ} {data : Bytes}
variable {usesEther : Bool}

theorem updatePosition_spends {token : Address} {before after : ℕ}
    (hcall : updatePosition module outlays token before after = .ok next) :
    next.spends = outlays.spends := by
  simp only [updatePosition, bind_eq_ok, pure_eq_ok] at hcall
  obtain ⟨_, -, _, -, _, -, _, -, rfl⟩ := hcall
  rfl

theorem updatePositions_spends {before : ℕ × ℕ} {result : Outlays P × ℕ × ℕ}
    (hcall : updatePositions module outlays underlyingToken wrappedToken before =
      .ok result) : result.1.spends = outlays.spends := by
  simp only [updatePositions, bind_eq_ok, pure_eq_ok] at hcall
  obtain ⟨first, hfirst, second, hsecond, rfl⟩ := hcall
  exact (updatePosition_spends hsecond).trans (updatePosition_spends hfirst)

/-- The checks of both calls have been passed, and the notional quantity of the token that
is given up is passed on. -/
def PassesOn (wrappers : Wrappers P) (module : Address) (outlays : Outlays P)
    (integrationName : String) (token : Address) (units : ℕ) (next : Outlays P) : Prop :=
  ∃ notional wrapAdapter, validateInputs outlays.setToken token units = .ok () ∧
    Position.getDefaultTotalNotional outlays.setToken.totalSupply units = .ok notional ∧
    getAndValidateAdapter wrappers.registry module integrationName = .ok wrapAdapter ∧
    next.spends = outlays.spends ++ [⟨token, notional⟩]

theorem validateWrapAndUpdate_spends
    (hcall : validateWrapAndUpdate wrappers module outlays integrationName
      underlyingToken wrappedToken units data usesEther = .ok next) :
    PassesOn wrappers module outlays integrationName underlyingToken units next := by
  simp only [validateWrapAndUpdate, bind_eq_ok, pure_eq_ok] at hcall
  obtain ⟨_, hvalid, notional, hnotional, adapter, hadapter, _, -, wrapped, -, updated,
    hupdated, _, -, _, -, rfl⟩ := hcall
  exact ⟨notional, adapter, hvalid, hnotional, hadapter, updatePositions_spends hupdated⟩

theorem validateUnwrapAndUpdate_spends
    (hcall : validateUnwrapAndUpdate wrappers module outlays integrationName
      underlyingToken wrappedToken units data usesEther = .ok next) :
    PassesOn wrappers module outlays integrationName wrappedToken units next := by
  simp only [validateUnwrapAndUpdate, bind_eq_ok, pure_eq_ok] at hcall
  obtain ⟨_, hvalid, notional, hnotional, adapter, hadapter, unwrapped, -, updated,
    hupdated, _, -, _, -, rfl⟩ := hcall
  exact ⟨notional, adapter, hvalid, hnotional, hadapter, updatePositions_spends hupdated⟩

end SetProtocol.WrapModuleV2
