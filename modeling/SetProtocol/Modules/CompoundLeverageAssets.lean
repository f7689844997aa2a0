import SetProtocol.Modules.CompoundLeverageModule

/-!
# Assets of the Compound leverage module

The manager enables collateral and borrow assets, and the module enters their markets at
the Comptroller for the SetToken.  The cTokens that are in use stand in two arrays with a
flag map each; a third array holds the borrowed underlyings, in the order of the
borrowed cTokens, so that `sync` can write the debts.  Governance edits the map from
underlyings to cTokens.
-/

namespace SetProtocol.CompoundLeverageModule

open Transaction PreciseUnitMath

/-! ## The Comptroller -/

/-- The module only compares a code with `NO_ERROR`, which is zero. -/
inductive ComptrollerError
  | NO_ERROR
  | REJECTION
  | MARKET_NOT_LISTED
  | NONZERO_BORROW_BALANCE
  | TOO_MANY_ASSETS
  deriving DecidableEq

/-- The storage of the Comptroller, next to that of the cTokens, `M`. -/
structure CompoundStorage (M : Type) where
  isListed : Address → Bool
  /-- cToken, then account. -/
  accountMembership : Address → Address → Bool
  accountAssets : Address → List Address
  maxAssets : ℕ
  cTokens : M

/-- What the Comptroller and the module ask the cTokens. -/
structure CTokens (M : Type) where
  /-- Whether the snapshot fails, the tokens held and the amount owed. -/
  getAccountSnapshot (storage : CompoundStorage M) (cToken account : Address) :
    Bool × ℕ × ℕ
  redeemAllowed (storage : CompoundStorage M) (cToken account : Address)
    (redeemTokens : ℕ) : Bool
  borrowBalanceStored (cTokens : M) (cToken account : Address) : Outcome ℕ
  /-- Accrues interest first. -/
  borrowBalanceCurrent (timestamp : ℕ) (cToken account : Address) : M → Outcome (M × ℕ)

variable {M : Type}

/-- One turn of `enterMarkets`. -/
def addToMarketInternal (storage : CompoundStorage M) (cToken borrower : Address) :
    CompoundStorage M × ComptrollerError :=
  if storage.isListed cToken = false then (storage, .MARKET_NOT_LISTED)
  else if storage.accountMembership cToken borrower = true then (storage, .NO_ERROR)
  else if storage.maxAssets ≤ (storage.accountAssets borrower).length then
    (storage, .TOO_MANY_ASSETS)
  else
    ({ storage with
      accountMembership := Function.update storage.accountMembership cToken
        (Function.update (storage.accountMembership cToken) borrower true)
      accountAssets := Function.update storage.accountAssets borrower
        (storage.accountAssets borrower ++ [cToken]) }, .NO_ERROR)

def exitMarket (cTokens : CTokens M) (storage : CompoundStorage M)
    (cToken account : Address) : Outcome (CompoundStorage M × ComptrollerError) := do
  let (fails, tokensHeld, amountOwed) := cTokens.getAccountSnapshot storage cToken account
  require (fails = false) "exitMarket: getAccountSnapshot failed"
  if amountOwed ≠ 0 then pure (storage, .NONZERO_BORROW_BALANCE)
  else if cTokens.redeemAllowed storage cToken account tokensHeld = false then
    pure (storage, .REJECTION)
  else if storage.accountMembership cToken account = false then pure (storage, .NO_ERROR)
  else do
    let userAssetList := storage.accountAssets account
    let assetIndex := userAssetList.idxOf cToken
    require (assetIndex < userAssetList.length) "invalid opcode"
    let last ← AddressArrayUtils.readEntry userAssetList (userAssetList.length - 1)
    pure ({ storage with
      accountMembership := Function.update storage.accountMembership cToken
        (Function.update (storage.accountMembership cToken) account false)
      accountAssets := Function.update storage.accountAssets account
        (SwapRemoval.swapRemove userAssetList assetIndex last) }, .NO_ERROR)

/-! ## The storage of the module -/

/-- `EnabledAssets` of one SetToken, and the flags of its cTokens. -/
structure EnabledAssets where
  collateralCTokens : List Address
  borrowCTokens : List Address
  /-- In the order of `borrowCTokens`. -/
  borrowAssets : List Address
  collateralCTokenEnabled : Address → Bool
  borrowCTokenEnabled : Address → Bool

/-- What a call of the asset functions reads and writes, for one SetToken. -/
structure World (M : Type) extends Venue (CompoundStorage M) where
  owner : Address
  underlyingToCToken : Address → Address
  enabledAssets : EnabledAssets
  allowedSetToken : Bool
  anySetAllowed : Bool
  integrations : IntegrationRegistry

/-- Deleted storage. -/
def noEnabledAssets : EnabledAssets := ⟨[], [], [], fun _ => false, fun _ => false⟩

/-- `DEFAULT_ISSUANCE_MODULE_NAME` -/
def defaultIssuanceModuleName : String := "DefaultIssuanceModule"

def World.withVenue (world : World M) (venue : Venue (CompoundStorage M)) : World M :=
  { world with toVenue := venue }

def World.withChain (world : World M) (chain : Chain) : World M :=
  world.withVenue (world.toVenue.withChain chain)

def World.withAssets (world : World M) (enabledAssets : EnabledAssets) : World M :=
  { world with enabledAssets := enabledAssets }

def invokeEnterMarkets (module : Address) (world : World M) (cToken : Address) :
    Outcome (World M) := do
  world.setToken.onlyModuleWhenLockedOnlyLocker world.controller module
  let entered := addToMarketInternal world.protocols cToken world.setTokenAddress
  require (entered.2 = .NO_ERROR) "Entering failed"
  pure (world.withVenue { world.toVenue with protocols := entered.1 })

def invokeExitMarket (cTokens : CTokens M) (module : Address) (world : World M)
    (cToken : Address) : Outcome (World M) := do
  world.setToken.onlyModuleWhenLockedOnlyLocker world.controller module
  let exited ← exitMarket cTokens world.protocols cToken world.setTokenAddress
  require (exited.2 = .NO_ERROR) "Exiting failed"
  pure (world.withVenue { world.toVenue with protocols := exited.1 })

/-! ## Syncing -/

def getCollateralPosition (venue : Venue (CompoundStorage M)) (cToken : Address)
    (setTotalSupply : ℕ) : Outcome ℕ :=
  preciseDiv (venue.heldBalance cToken) setTotalSupply

/-- The debt spread over the shares, rounded up and negated.  Also returns the storage of
the cTokens, for the case that interest accrues. -/
def getBorrowPosition (cTokens : CTokens M) (venue : Venue (CompoundStorage M))
    (cToken : Address) (setTotalSupply : ℕ) (shouldAccrueInterest : Bool) :
    Outcome (M × ℤ) := do
  let (accrued, borrowNotionalBalance) ← (
    if shouldAccrueInterest = true then
      cTokens.borrowBalanceCurrent venue.timestamp cToken venue.setTokenAddress
        venue.protocols.cTokens
    else do
      let stored ← cTokens.borrowBalanceStored venue.protocols.cTokens cToken
        venue.setTokenAddress
      pure (venue.protocols.cTokens, stored))
  let unit ← preciseDivCeil borrowNotionalBalance setTotalSupply
  let unit ← SafeCast.toInt256 unit
  let borrowPositionUnit ← SignedSafeMath.mul unit (-1)
  pure (accrued, borrowPositionUnit)

/-- Body of the loop over the collateral assets. -/
def syncCollateralCToken (module : Address) (venue : Venue (CompoundStorage M))
    (cToken : Address) : Outcome (Venue (CompoundStorage M)) := do
  let realUnit ← venue.setToken.getDefaultPositionRealUnit cToken
  let previousPositionUnit ← SafeCast.toUint256 realUnit
  let newPositionUnit ← getCollateralPosition venue cToken venue.setToken.totalSupply
  if previousPositionUnit ≠ newPositionUnit then do
    let setToken ← Position.editDefaultPosition venue.setToken venue.controller module cToken
      newPositionUnit
    pure (venue.withChain (venue.withSetToken setToken))
  else pure venue

/-- Body of the loop over the borrow assets: a cToken and its index. -/
def syncBorrowCToken (cTokens : CTokens M) (module : Address) (borrowAssets : List Address)
    (shouldAccrueInterest : Bool) (venue : Venue (CompoundStorage M))
    (entry : Address × ℕ) : Outcome (Venue (CompoundStorage M)) := do
  let borrowAsset ← AddressArrayUtils.readEntry borrowAssets entry.2
  let (accrued, newPositionUnit) ← getBorrowPosition cTokens venue entry.1
    venue.setToken.totalSupply shouldAccrueInterest
  let setToken ← Position.updateExternalPosition module venue.setToken venue.controller
    borrowAsset newPositionUnit
  pure { venue.withChain (venue.withSetToken setToken) with
    protocols := { venue.protocols with cTokens := accrued } }

def sync (cTokens : CTokens M) (module : Address) (world : World M)
    (shouldAccrueInterest : Bool) : Outcome (World M) := do
  world.validateOnlyValidAndInitializedSet module
  if 0 < world.setToken.totalSupply then do
    let collateralSynced ← world.enabledAssets.collateralCTokens.foldlM
      (syncCollateralCToken module) world.toVenue
    let synced ← world.enabledAssets.borrowCTokens.zipIdx.foldlM
      (syncBorrowCToken cTokens module world.enabledAssets.borrowAssets shouldAccrueInterest)
      collateralSynced
    pure (world.withVenue synced)
  else pure world

/-! ## Collateral assets -/

/-- Body of the loop of `addCollateralAssets`. -/
def addCollateralAsset (module : Address) (world : World M) (newCollateralAsset : Address) :
    Outcome (World M) := do
  let cToken := world.underlyingToCToken newCollateralAsset
  let enabled := world.enabledAssets
  require (cToken ≠ zeroAddress) "cToken must exist"
  require (enabled.collateralCTokenEnabled cToken = false) "Collateral enabled"
  let entered ← (
    if enabled.borrowCTokenEnabled cToken = false then
      invokeEnterMarkets module world cToken
    else pure world)
  pure (entered.withAssets { enabled with
    collateralCTokenEnabled := Function.update enabled.collateralCTokenEnabled cToken true
    collateralCTokens := enabled.collateralCTokens ++ [cToken] })

def addCollateralAssets (module : Address) (world : World M) (sender : Address)
    (newCollateralAssets : List Address) : Outcome (World M) := do
  world.validateOnlyManagerAndValidSet module sender
  newCollateralAssets.foldlM (addCollateralAsset module) world

/-- Body of the loop of `removeCollateralAssets`. -/
def removeCollateralAsset (cTokens : CTokens M) (module : Address) (world : World M)
    (collateralAsset : Address) : Outcome (World M) := do
  let cToken := world.underlyingToCToken collateralAsset
  let enabled := world.enabledAssets
  require (enabled.collateralCTokenEnabled cToken = true) "Collateral not enabled"
  let exited ← (
    if enabled.borrowCTokenEnabled cToken = false then
      invokeExitMarket cTokens module world cToken
    else pure world)
  let collateralCTokens ←
    AddressArrayUtils.removeStorage enabled.collateralCTokens cToken
  pure (exited.withAssets { enabled with
    collateralCTokenEnabled := Function.update enabled.collateralCTokenEnabled cToken false
    collateralCTokens := collateralCTokens })

def removeCollateralAssets (cTokens : CTokens M) (module : Address) (world : World M)
    (sender : Address) (collateralAssets : List Address) : Outcome (World M) := do
  world.validateOnlyManagerAndValidSet module sender
  let synced ← sync cTokens module world true
  collateralAssets.foldlM (removeCollateralAsset cTokens module) synced

/-! ## Borrow assets -/

/-- The storage of one more borrow asset. -/
def EnabledAssets.addBorrow (enabled : EnabledAssets) (cToken newBorrowAsset : Address) :
    EnabledAssets :=
  { enabled with
    borrowCTokenEnabled := Function.update enabled.borrowCTokenEnabled cToken true
    borrowCTokens := enabled.borrowCTokens ++ [cToken]
    borrowAssets := enabled.borrowAssets ++ [newBorrowAsset] }

/-- Body of the loop of `addBorrowAssets`. -/
def addBorrowAsset (module : Address) (world : World M) (newBorrowAsset : Address) :
    Outcome (World M) := do
  let cToken := world.underlyingToCToken newBorrowAsset
  let enabled := world.enabledAssets
  require (cToken ≠ zeroAddress) "cToken must exist"
  require (enabled.borrowCTokenEnabled cToken = false) "Borrow enabled"
  let entered ← (
    if enabled.collateralCTokenEnabled cToken = false then
      invokeEnterMarkets module world cToken
    else pure world)
  pure (entered.withAssets (enabled.addBorrow cToken newBorrowAsset))

def addBorrowAssets (module : Address) (world : World M) (sender : Address)
    (newBorrowAssets : List Address) : Outcome (World M) := do
  world.validateOnlyManagerAndValidSet module sender
  newBorrowAssets.foldlM (addBorrowAsset module) world

/-- The storage without a borrow asset: two searches, for the cToken and for the asset. -/
def EnabledAssets.removeBorrow (enabled : EnabledAssets) (cToken borrowAsset : Address) :
    Outcome EnabledAssets := do
  let borrowCTokens ← AddressArrayUtils.removeStorage enabled.borrowCTokens cToken
  let borrowAssets ← AddressArrayUtils.removeStorage enabled.borrowAssets borrowAsset
  pure { enabled with
    borrowCTokenEnabled := Function.update enabled.borrowCTokenEnabled cToken false
    borrowCTokens := borrowCTokens
    borrowAssets := borrowAssets }

/-- Body of the loop of `removeBorrowAssets`. -/
def removeBorrowAsset (cTokens : CTokens M) (module : Address) (world : World M)
    (borrowAsset : Address) : Outcome (World M) := do
  let cToken := world.underlyingToCToken borrowAsset
  let enabled := world.enabledAssets
  require (enabled.borrowCTokenEnabled cToken = true) "Borrow not enabled"
  let exited ← (
    if enabled.collateralCTokenEnabled cToken = false then
      invokeExitMarket cTokens module world cToken
    else pure world)
  let removed ← enabled.removeBorrow cToken borrowAsset
  pure (exited.withAssets removed)

def removeBorrowAssets (cTokens : CTokens M) (module : Address) (world : World M)
    (sender : Address) (borrowAssets : List Address) : Outcome (World M) := do
  world.validateOnlyManagerAndValidSet module sender
  let synced ← sync cTokens module world true
  borrowAssets.foldlM (removeBorrowAsset cTokens module) synced

/-! ## Initialization, removal and governance -/

/-- `initialize` of the module.  It tries to register at every module of the SetToken, and
ignores the ones that revert. -/
def initializeModule (register : Address → Venue (CompoundStorage M) →
      Outcome (Venue (CompoundStorage M))) (module : Address) (world : World M)
    (sender : Address) (collateralAssets borrowAssets : List Address) :
    Outcome (World M) := do
  world.validateOnlySetManager sender
  world.validateOnlyValidAndPendingSet module
  require (world.anySetAllowed = true ∨ world.allowedSetToken = true) "Not allowed SetToken"
  let setToken ← world.setToken.initializeModule module
  let initialized := world.withChain (world.withSetToken setToken)
  let issuanceModule ←
    getAndValidateAdapter world.integrations module defaultIssuanceModuleName
  require (setToken.moduleStates issuanceModule = .INITIALIZED) "Issuance not initialized"
  let registered := initialized.withVenue
    (run register initialized.setToken.modules initialized.toVenue)
  let collateralAdded ← addCollateralAssets module registered sender collateralAssets
  addBorrowAssets module collateralAdded sender borrowAssets

/-- Body of the loop over the borrowed cTokens of `removeModule`. -/
def leaveBorrowCToken (cTokens : CTokens M) (module : Address) (world : World M)
    (cToken : Address) : Outcome (World M) := do
  let exited ← (
    if world.enabledAssets.collateralCTokenEnabled cToken = false then
      invokeExitMarket cTokens module world cToken
    else pure world)
  pure (exited.withAssets { world.enabledAssets with
    borrowCTokenEnabled :=
      Function.update world.enabledAssets.borrowCTokenEnabled cToken false })

/-- Body of the loop over the collateral cTokens of `removeModule`. -/
def leaveCollateralCToken (cTokens : CTokens M) (module : Address) (world : World M)
    (cToken : Address) : Outcome (World M) := do
  let exited ← invokeExitMarket cTokens module world cToken
  pure (exited.withAssets { world.enabledAssets with
    collateralCTokenEnabled :=
      Function.update world.enabledAssets.collateralCTokenEnabled cToken false })

/-- Called by the SetToken that removes the module. -/
def removeModule (cTokens : CTokens M) (unregister : Address → Venue (CompoundStorage M) →
      Outcome (Venue (CompoundStorage M))) (module : Address) (world : World M) :
    Outcome (World M) := do
  world.validateOnlyValidAndInitializedSet module
  let synced ← sync cTokens module world true
  let borrowsLeft ← synced.enabledAssets.borrowCTokens.foldlM
    (leaveBorrowCToken cTokens module) synced
  let left ← borrowsLeft.enabledAssets.collateralCTokens.foldlM
    (leaveCollateralCToken cTokens module) borrowsLeft
  let deleted := left.withAssets { left.enabledAssets with
    collateralCTokens := []
    borrowCTokens := []
    borrowAssets := [] }
  pure (deleted.withVenue (deleted.toVenue.unregisterFromModules unregister))

def addCompoundMarket (world : World M) (sender cToken underlying : Address) :
    Outcome (World M) := do
  require (world.owner = sender) "Ownable: caller is not the owner"
  require (world.underlyingToCToken underlying = zeroAddress) "Already added"
  pure { world with
    underlyingToCToken := Function.update world.underlyingToCToken underlying cToken }

def removeCompoundMarket (world : World M) (sender underlying : Address) :
    Outcome (World M) := do
  require (world.owner = sender) "Ownable: caller is not the owner"
  require (world.underlyingToCToken underlying ≠ zeroAddress) "Not added"
  pure { world with
    underlyingToCToken := Function.update world.underlyingToCToken underlying zeroAddress }

end SetProtocol.CompoundLeverageModule
