import SetProtocol.Core.Venue

/-!
# The Aave V3 leverage module

A SetToken holds aTokens as default positions and owes variable debt, kept as negative
external positions of the module.  The lending pool is a parameter: it moves the
borrowed tokens, and its variable debt tokens tell what is owed.  Syncing, the hooks of
the issuance module and the removal of the module follow here.
-/

namespace SetProtocol.AaveV3LeverageModule

open Transaction PreciseUnitMath

/-- The lending pool at a block time, for an account. -/
structure Aave (P : Type) where
  pool : Address
  /-- `balanceOf` of a variable debt token. -/
  debtBalance (protocols : P) (timestamp : ℕ) (debtToken account : Address) : ℕ
  usageAsCollateralEnabled (protocols : P) (asset account : Address) : Bool
  setUserUseReserveAsCollateral (timestamp : ℕ) (asset account : Address)
    (useAsCollateral : Bool) : P → Outcome P
  borrow (timestamp : ℕ) (asset : Address) (amount : ℕ) (account : Address) :
    P → Outcome P
  /-- Also returns what the account pays: the pool takes no more than the debt. -/
  repay (timestamp : ℕ) (asset : Address) (amount : ℕ) (account : Address) :
    P → Outcome (P × ℕ)

structure ReserveTokens where
  aToken : Address
  variableDebtToken : Address

/-- The storage of the module for one SetToken. -/
structure EnabledAssets where
  collateralAssets : List Address
  borrowAssets : List Address
  collateralAssetEnabled : Address → Bool
  borrowAssetEnabled : Address → Bool

variable {P : Type}

def protocolCall (aave : Aave P) (module : Address) (action : ProtocolAction)
    (token : Address) (quantity : ℕ) : ProtocolCall :=
  ⟨action, module, aave.pool, token, quantity⟩

/-! ## Syncing -/

/-- What the SetToken owes of an asset. -/
def borrowBalance (aave : Aave P) (underlyingToReserveTokens : Address → ReserveTokens)
    (venue : Venue P) (asset : Address) : ℕ :=
  aave.debtBalance venue.protocols venue.timestamp
    (underlyingToReserveTokens asset).variableDebtToken venue.setTokenAddress

def getCollateralPosition (venue : Venue P) (aToken : Address) (setTotalSupply : ℕ) :
    Outcome ℕ :=
  preciseDiv (venue.heldBalance aToken) setTotalSupply

/-- The debt spread over the shares, rounded up and negated. -/
def getBorrowPosition (aave : Aave P) (underlyingToReserveTokens : Address → ReserveTokens)
    (venue : Venue P) (borrowAsset : Address) (setTotalSupply : ℕ) : Outcome ℤ := do
  let unit ← preciseDivCeil (borrowBalance aave underlyingToReserveTokens venue borrowAsset)
    setTotalSupply
  let unit ← SafeCast.toInt256 unit
  SignedSafeMath.mul unit (-1)

/-- Body of the loop over the collateral assets. -/
def syncCollateralAsset (module : Address)
    (underlyingToReserveTokens : Address → ReserveTokens) (venue : Venue P)
    (setToken : SetToken) (collateralAsset : Address) : Outcome SetToken := do
  let aToken := (underlyingToReserveTokens collateralAsset).aToken
  let realUnit ← setToken.getDefaultPositionRealUnit aToken
  let previousPositionUnit ← SafeCast.toUint256 realUnit
  let newPositionUnit ← getCollateralPosition venue aToken setToken.totalSupply
  if previousPositionUnit ≠ newPositionUnit then
    Position.editDefaultPosition setToken venue.controller module aToken newPositionUnit
  else pure setToken

/-- Body of the loop over the borrow assets. -/
def syncBorrowAsset (aave : Aave P) (module : Address)
    (underlyingToReserveTokens : Address → ReserveTokens) (venue : Venue P)
    (setToken : SetToken) (borrowAsset : Address) : Outcome SetToken := do
  let newPositionUnit ← getBorrowPosition aave underlyingToReserveTokens venue borrowAsset
    setToken.totalSupply
  Position.updateExternalPosition module setToken venue.controller borrowAsset
    newPositionUnit

/-- Positions are only written while there are shares. -/
def sync (aave : Aave P) (module : Address)
    (underlyingToReserveTokens : Address → ReserveTokens) (enabled : EnabledAssets)
    (venue : Venue P) : Outcome (Venue P) := do
  venue.validateOnlyValidAndInitializedSet module
  if 0 < venue.setToken.totalSupply then do
    let collateralSynced ← enabled.collateralAssets.foldlM
      (syncCollateralAsset module underlyingToReserveTokens venue) venue.setToken
    let synced ← enabled.borrowAssets.foldlM
      (syncBorrowAsset aave module underlyingToReserveTokens venue) collateralSynced
    pure (venue.withChain (venue.withSetToken synced))
  else pure venue

/-! ## Hooks of the issuance module -/

/-- Both module hooks only sync. -/
def moduleIssueHook (aave : Aave P) (module : Address)
    (underlyingToReserveTokens : Address → ReserveTokens) (enabled : EnabledAssets)
    (venue : Venue P) (sender : Address) : Outcome (Venue P) := do
  venue.validateOnlyModule sender
  sync aave module underlyingToReserveTokens enabled venue

def moduleRedeemHook (aave : Aave P) (module : Address)
    (underlyingToReserveTokens : Address → ReserveTokens) (enabled : EnabledAssets)
    (venue : Venue P) (sender : Address) : Outcome (Venue P) :=
  moduleIssueHook aave module underlyingToReserveTokens enabled venue sender

/-- `_borrow` -/
def borrow (aave : Aave P) (module : Address) (venue : Venue P) (asset : Address)
    (notionalQuantity : ℕ) : Outcome (Venue P) :=
  venue.invokeReceiving (protocolCall aave module .borrow asset notionalQuantity)
    (fun protocols => do
      let protocols ← aave.borrow venue.timestamp asset notionalQuantity
        venue.setTokenAddress protocols
      pure (protocols, notionalQuantity))

def repayBorrow (aave : Aave P) (module : Address) (venue : Venue P) (asset : Address)
    (notionalQuantity : ℕ) : Outcome (Venue P) :=
  venue.invokePaying (protocolCall aave module .repay asset notionalQuantity)
    (aave.repay venue.timestamp asset notionalQuantity venue.setTokenAddress)

/-- The debt unit of a component. -/
def componentDebtUnit (module : Address) (setToken : SetToken) (component : Address) :
    Outcome ℕ := do
  let componentDebt ← setToken.getExternalPositionRealUnit component module
  require (componentDebt < 0) "CMBN"
  let negated ← SignedSafeMath.mul componentDebt (-1)
  SafeCast.toUint256 negated

/-- Borrows the debt of the issued shares, rounded down.  Nothing happens for equity. -/
def componentIssueHook (aave : Aave P) (module : Address) (venue : Venue P)
    (sender : Address) (setTokenQuantity : ℕ) (component : Address) (isEquity : Bool) :
    Outcome (Venue P) := do
  venue.validateOnlyModule sender
  if isEquity = false then do
    let unit ← componentDebtUnit module venue.setToken component
    let notionalDebt ← preciseMul unit setTokenQuantity
    borrow aave module venue component notionalDebt
  else pure venue

/-- Repays the debt of the redeemed shares, rounded up. -/
def componentRedeemHook (aave : Aave P) (module : Address) (venue : Venue P)
    (sender : Address) (setTokenQuantity : ℕ) (component : Address) (isEquity : Bool) :
    Outcome (Venue P) := do
  venue.validateOnlyModule sender
  if isEquity = false then do
    let unit ← componentDebtUnit module venue.setToken component
    let notionalDebt ← preciseMulCeil unit setTokenQuantity
    repayBorrow aave module venue component notionalDebt
  else pure venue

/-! ## Removal -/

/-- Aave is only called if the flag differs and there are aTokens. -/
def updateUseReserveAsCollateral (aave : Aave P) (module : Address)
    (underlyingToReserveTokens : Address → ReserveTokens) (useAsCollateral : Bool)
    (venue : Venue P) (asset : Address) : Outcome (Venue P) :=
  if aave.usageAsCollateralEnabled venue.protocols asset venue.setTokenAddress ≠
        useAsCollateral ∧
      0 < venue.heldBalance (underlyingToReserveTokens asset).aToken then do
    venue.setToken.onlyModuleWhenLockedOnlyLocker venue.controller module
    let protocols ← aave.setUserUseReserveAsCollateral venue.timestamp asset
      venue.setTokenAddress useAsCollateral venue.protocols
    pure { venue with protocols := protocols }
  else pure venue

/-- Called by the SetToken.  Debt of an enabled asset stops the removal. -/
def removeModule (aave : Aave P) (unregister : Address → Venue P → Outcome (Venue P))
    (module : Address) (underlyingToReserveTokens : Address → ReserveTokens)
    (enabled : EnabledAssets) (venue : Venue P) : Outcome (Venue P × EnabledAssets) := do
  venue.validateOnlyValidAndInitializedSet module
  let synced ← sync aave module underlyingToReserveTokens enabled venue
  let borrowAssetEnabled ← enabled.borrowAssets.foldlM
    (fun flags borrowAsset => do
      require (borrowBalance aave underlyingToReserveTokens synced borrowAsset = 0) "VDR"
      pure (Function.update flags borrowAsset false))
    enabled.borrowAssetEnabled
  let disabled ← enabled.collateralAssets.foldlM
    (updateUseReserveAsCollateral aave module underlyingToReserveTokens false) synced
  let collateralAssetEnabled := enabled.collateralAssets.foldl
    (fun flags collateralAsset => Function.update flags collateralAsset false)
    enabled.collateralAssetEnabled
  pure (disabled.unregisterFromModules unregister,
    ⟨[], [], collateralAssetEnabled, borrowAssetEnabled⟩)

end SetProtocol.AaveV3LeverageModule
