import SetProtocol.Core.PerpV2Library

/-!
# The Perp leverage module

The manager trades perpetual positions with collateral that the SetToken has deposited
with Perp.  The module lists the base tokens of open positions.  Issuance and redemption
trade into and out of every listed position, and set the external position of the
collateral to the account value that one share is then worth.
-/

namespace SetProtocol.PerpV2LeverageModuleV2

open Transaction PreciseUnitMath UnitConversionUtils

/-- `PROTOCOL_TRADE_FEE_INDEX` -/
def protocolTradeFeeIndex : ℕ := 0

/-- What a call of this module reads and writes. -/
structure World (P : Type) extends PerpAccount P where
  /-- Base tokens of open positions. -/
  positions : List Address
  maxPerpPositionsPerSet : ℕ

/-- In precise units. -/
structure AccountInfo where
  collateralBalance : ℤ
  owedRealizedPnl : ℤ
  /-- A positive payment is credited on settlement. -/
  pendingFundingPayments : ℤ
  netQuoteBalance : ℤ

variable {P : Type}

def World.withAccount (world : World P) (account : PerpAccount P) : World P :=
  { world with toPerpAccount := account }

def World.withChain (world : World P) (chain : Chain) : World P :=
  world.withAccount (world.toPerpAccount.withChain chain)

def World.withPositions (world : World P) (positions : List Address) : World P :=
  { world with positions := positions }

/-! ## Views -/

def getAccountInfo (perp : Perp P) (world : World P) : Outcome AccountInfo := do
  let collateralBalance ← toPreciseUnitsFromDecimalsInt
    (perp.getBalance world.protocol) perp.collateralDecimals
  let pendingFundingPayments ← neg (perp.getAllPendingFundingPayment world.protocol)
  let netQuoteBalance ← world.getNetQuoteBalance perp world.positions
  pure ⟨collateralBalance, perp.owedRealizedPnl world.protocol, pendingFundingPayments,
    netQuoteBalance⟩

/-- Collateral, profits, funding and quote together, for one share. -/
def calculatePartialAccountValuePositionUnit (perp : Perp P) (world : World P) :
    Outcome ℤ := do
  let accountInfo ← getAccountInfo perp world
  let value ← SignedSafeMath.add accountInfo.collateralBalance accountInfo.owedRealizedPnl
  let value ← SignedSafeMath.add value accountInfo.pendingFundingPayments
  let value ← SignedSafeMath.add value accountInfo.netQuoteBalance
  let totalSupply ← SafeCast.toInt256 world.setToken.totalSupply
  preciseDivInt value totalSupply

/-! ## The list of positions -/

/-- A balance of more than one position unit, long or short. -/
def hasBaseBalance (perp : Perp P) (world : World P) (baseToken : Address) :
    Outcome Bool := do
  let totalSupply ← SafeCast.toInt256 world.setToken.totalSupply
  let baseBalanceUnit ← preciseDivInt (perp.getBase baseToken world.protocol) totalSupply
  pure (decide (1 < baseBalanceUnit ∨ baseBalanceUnit < -1))

/-- After a trade in one base token. -/
def updatePositionList (perp : Perp P) (world : World P) (baseToken : Address) :
    Outcome (World P) := do
  if AddressArrayUtils.contains world.positions baseToken = true then do
    let hasBalance ← hasBaseBalance perp world baseToken
    if hasBalance = false then do
      let positions ← AddressArrayUtils.removeStorage world.positions baseToken
      pure (world.withPositions positions)
    else pure world
  else do
    require (world.positions.length < world.maxPerpPositionsPerSet)
      "Exceeds max perpetual positions per set"
    pure (world.withPositions (world.positions ++ [baseToken]))

/-- Body of the loop over a snapshot of the list. -/
def syncPosition (perp : Perp P) (world : World P) (currPosition : Address) :
    Outcome (World P) := do
  let hasBalance ← hasBaseBalance perp world currPosition
  if hasBalance = false then do
    let positions ← AddressArrayUtils.removeStorage world.positions currPosition
    pure (world.withPositions positions)
  else pure world

def syncPositionList (perp : Perp P) (world : World P) : Outcome (World P) :=
  world.positions.foldlM (syncPosition perp) world

/-! ## Trades -/

def createActionInfoNotional (baseToken : Address) (baseTokenQuantity : ℤ)
    (quoteReceiveQuantity : ℕ) : Outcome PerpActionInfo := do
  let baseTokenAmount ← abs baseTokenQuantity
  pure ⟨baseToken, decide (0 < baseTokenQuantity), baseTokenAmount, quoteReceiveQuantity⟩

/-- Giving back the whole unit of a position closes it. -/
def createAndValidateActionInfo (perp : Perp P) (world : World P) (baseToken : Address)
    (baseQuantityUnits : ℤ) (quoteReceiveUnits : ℕ) : Outcome PerpActionInfo := do
  require (baseQuantityUnits ≠ 0) "Amount is 0"
  require (perp.hasPool baseToken world.protocol = true) "Base token does not exist"
  let totalSupply ← SafeCast.toInt256 world.setToken.totalSupply
  let baseBalance := perp.getBase baseToken world.protocol
  let basePositionUnit ← preciseDivInt baseBalance totalSupply
  let closingUnits ← neg basePositionUnit
  let baseNotional ← (
    if baseQuantityUnits = closingUnits then neg baseBalance
    else preciseMulInt baseQuantityUnits totalSupply)
  let quoteNotional ← preciseMul quoteReceiveUnits world.setToken.totalSupply
  createActionInfoNotional baseToken baseNotional quoteNotional

def executeTrade (perp : Perp P) (module : Address) (world : World P)
    (actionInfo : PerpActionInfo) : Outcome (World P × ℕ) := do
  let (account, _, deltaQuote) ← world.toPerpAccount.executeTrade perp module actionInfo
  pure (world.withAccount account, deltaQuote)

/-- The part of the account value that a quantity of shares is given, with the quote that
their part of one position is traded for. -/
def replicatePosition (perp : Perp P) (module : Address)
    (setTokenQuantity totalSupply : ℤ) (isIssue isSimulation : Bool)
    (progress : World P × ℤ) (position : PositionNotionalInfo) :
    Outcome (World P × ℤ) := do
  let baseUnit ← preciseDivInt position.baseBalance totalSupply
  let baseTradeNotionalQuantity ← preciseMulInt baseUnit setTokenQuantity
  let traded ← (
    if isIssue = true then .ok baseTradeNotionalQuantity
    else neg baseTradeNotionalQuantity)
  let actionInfo ← createActionInfoNotional position.baseToken traded 0
  let (world, deltaQuote) ← (
    if isSimulation = true then do
      let (_, deltaQuote) ← progress.1.simulateTrade perp module actionInfo
      pure (progress.1, deltaQuote)
    else executeTrade perp module progress.1 actionInfo)
  let delta ← SafeCast.toInt256 deltaQuote
  let accountValue ← (
    if 0 ≤ baseTradeNotionalQuantity then SignedSafeMath.add progress.2 delta
    else SignedSafeMath.sub progress.2 delta)
  pure (world, accountValue)

/-- A bankrupt account is worth nothing.  Issuers pay a unit that is rounded up. -/
def accountValueUnit (perp : Perp P) (accountValueIssued setTokenQuantity : ℤ)
    (isIssue : Bool) : Outcome ℤ :=
  if accountValueIssued ≤ 0 then .ok 0
  else do
    let unit ← (
      if isIssue = true then preciseDivCeilInt accountValueIssued setTokenQuantity
      else preciseDivInt accountValueIssued setTokenQuantity)
    fromPreciseUnitToDecimalsInt unit perp.collateralDecimals

/-- Returns the account value of one share, in decimals of the collateral. -/
def executePositionTrades (perp : Perp P) (module : Address) (world : World P)
    (setTokenQuantity : ℕ) (isIssue isSimulation : Bool) : Outcome (World P × ℤ) := do
  let synced ← syncPositionList perp world
  let setTokenQuantityInt ← SafeCast.toInt256 setTokenQuantity
  let partialUnit ← calculatePartialAccountValuePositionUnit perp synced
  let accountValueIssued ← preciseMulInt partialUnit setTokenQuantityInt
  let positionInfo := synced.getPositionNotionalInfo perp synced.positions
  let totalSupply ← SafeCast.toInt256 synced.setToken.totalSupply
  let (traded, accountValueIssued) ← positionInfo.foldlM
    (replicatePosition perp module setTokenQuantityInt totalSupply isIssue isSimulation)
    (synced, accountValueIssued)
  let unit ← accountValueUnit perp accountValueIssued setTokenQuantityInt isIssue
  pure (traded, unit)

/-! ## Collateral -/

/-- `_deposit` -/
def depositCollateral (perp : Perp P) (module : Address) (world : World P)
    (collateralNotionalQuantity : ℕ) : Outcome (World P) := do
  let account ← world.invokeDeposit perp module collateralNotionalQuantity
  pure (world.withAccount account)

/-- `_withdraw` -/
def withdrawCollateral (perp : Perp P) (module : Address) (world : World P)
    (collateralNotionalQuantity : ℕ) : Outcome (World P) :=
  if collateralNotionalQuantity = 0 then .ok world
  else do
    let account ← world.invokeWithdraw perp module collateralNotionalQuantity
    pure (world.withAccount account)

/-- The unit is that of the collateral in the vault. -/
def updateExternalPositionUnit (perp : Perp P) (module : Address) (world : World P) :
    Outcome (World P) := do
  let balance ← toPreciseUnitsFromDecimalsInt (perp.getBalance world.protocol)
    perp.collateralDecimals
  let totalSupply ← SafeCast.toInt256 world.setToken.totalSupply
  let unit ← preciseDivInt balance totalSupply
  let collateralValueUnit ← fromPreciseUnitToDecimalsInt unit perp.collateralDecimals
  let setToken ← Position.editExternalPosition world.setToken world.controller module
    perp.collateralToken module collateralValueUnit []
  pure (world.withChain (world.withSetToken setToken))

/-- Both positions of the collateral, after it has moved. -/
def updateCollateralPositions (perp : Perp P) (module : Address) (world : World P)
    (initialCollateralPositionBalance : ℕ) : Outcome (World P) := do
  let (setToken, _, _) ← Position.calculateAndEditDefaultPosition world.setToken
    world.controller module perp.collateralToken (world.heldBalance perp.collateralToken)
    world.setToken.totalSupply initialCollateralPositionBalance
  updateExternalPositionUnit perp module (world.withChain (world.withSetToken setToken))

def depositAndUpdatePositions (perp : Perp P) (module : Address) (world : World P)
    (collateralQuantityUnits : ℕ) : Outcome (World P) := do
  let initialCollateralPositionBalance := world.heldBalance perp.collateralToken
  let collateralNotionalQuantity ←
    preciseMul collateralQuantityUnits world.setToken.totalSupply
  let deposited ← depositCollateral perp module world collateralNotionalQuantity
  updateCollateralPositions perp module deposited initialCollateralPositionBalance

/-- The notional quantity is rounded up. -/
def withdrawAndUpdatePositions (perp : Perp P) (module : Address) (world : World P)
    (collateralQuantityUnits : ℕ) : Outcome (World P) := do
  let initialCollateralPositionBalance := world.heldBalance perp.collateralToken
  let collateralNotionalQuantity ←
    preciseMulCeil collateralQuantityUnits world.setToken.totalSupply
  let withdrawn ← withdrawCollateral perp module world collateralNotionalQuantity
  updateCollateralPositions perp module withdrawn initialCollateralPositionBalance

/-- The fee of a trade is withdrawn from the vault. -/
def accrueProtocolFee (perp : Perp P) (module : Address) (world : World P)
    (exchangedQuantity : ℕ) : Outcome (World P) := do
  let protocolFee ← world.getModuleFee module protocolTradeFeeIndex exchangedQuantity
  let protocolFeeInPreciseUnits ←
    fromPreciseUnitToDecimals protocolFee perp.collateralDecimals
  let withdrawn ← withdrawCollateral perp module world protocolFeeInPreciseUnits
  let chain ← withdrawn.payProtocolFeeFromSetToken module perp.collateralToken
    protocolFeeInPreciseUnits
  pure (withdrawn.withChain chain)

/-! ## Calls of the manager -/

def trade (perp : Perp P) (module : Address) (world : World P) (sender baseToken : Address)
    (baseQuantityUnits : ℤ) (quoteBoundQuantityUnits : ℕ) : Outcome (World P) := do
  world.validateOnlyManagerAndValidSet module sender
  let actionInfo ← createAndValidateActionInfo perp world baseToken baseQuantityUnits
    quoteBoundQuantityUnits
  let (traded, deltaQuote) ← executeTrade perp module world actionInfo
  let charged ← accrueProtocolFee perp module traded deltaQuote
  updatePositionList perp charged baseToken

def deposit (perp : Perp P) (module : Address) (world : World P) (sender : Address)
    (collateralQuantityUnits : ℕ) : Outcome (World P) := do
  world.validateOnlyManagerAndValidSet module sender
  require (0 < collateralQuantityUnits) "Deposit amount is 0"
  let realUnit ← world.setToken.getDefaultPositionRealUnit perp.collateralToken
  let unit ← SafeCast.toUint256 realUnit
  require (collateralQuantityUnits ≤ unit) "Amount too high"
  depositAndUpdatePositions perp module world collateralQuantityUnits

def withdraw (perp : Perp P) (module : Address) (world : World P) (sender : Address)
    (collateralQuantityUnits : ℕ) : Outcome (World P) := do
  world.validateOnlyManagerAndValidSet module sender
  require (0 < collateralQuantityUnits) "Withdraw amount is 0"
  withdrawAndUpdatePositions perp module world collateralQuantityUnits

/-! ## Hooks of the issuance module -/

/-- The new unit is what the issuance module charges or pays. -/
def editCollateralUnit (perp : Perp P) (module : Address) (world : World P)
    (newExternalPositionUnit : ℤ) : Outcome (World P) := do
  let setToken ← world.setToken.editExternalPositionUnit world.controller module
    perp.collateralToken module newExternalPositionUnit
  pure (world.withChain (world.withSetToken setToken))

/-- Both hooks replicate positions only for shares that have a Perp account. -/
def replicates (perp : Perp P) (world : World P) : Prop :=
  world.setToken.totalSupply ≠ 0 ∧
    Position.hasExternalPosition world.setToken perp.collateralToken = true

instance (perp : Perp P) (world : World P) : Decidable (replicates perp world) :=
  inferInstanceAs (Decidable (_ ∧ _))

def moduleIssueHook (perp : Perp P) (module : Address) (world : World P)
    (sender : Address) (setTokenQuantity : ℕ) : Outcome (World P) := do
  world.validateOnlyModule sender
  if replicates perp world then do
    let (traded, newExternalPositionUnit) ←
      executePositionTrades perp module world setTokenQuantity true false
    editCollateralUnit perp module traded newExternalPositionUnit
  else pure world

def moduleRedeemHook (perp : Perp P) (module : Address) (world : World P)
    (sender : Address) (setTokenQuantity : ℕ) : Outcome (World P) := do
  world.validateOnlyModule sender
  if replicates perp world then do
    let (traded, newExternalPositionUnit) ←
      executePositionTrades perp module world setTokenQuantity false false
    editCollateralUnit perp module traded newExternalPositionUnit
  else pure world

def componentIssueHook (perp : Perp P) (module : Address) (world : World P)
    (sender : Address) (setTokenQuantity : ℕ) (component : Address) (isEquity : Bool) :
    Outcome (World P) := do
  world.validateOnlyModule sender
  if isEquity = true then do
    let externalPositionUnit ← world.setToken.getExternalPositionRealUnit component module
    let unit ← SafeCast.toUint256 externalPositionUnit
    let usdcTransferInNotionalQuantity ← preciseMulCeil setTokenQuantity unit
    depositCollateral perp module world usdcTransferInNotionalQuantity
  else pure world

def componentRedeemHook (perp : Perp P) (module : Address) (world : World P)
    (sender : Address) (setTokenQuantity : ℕ) (component : Address) (isEquity : Bool) :
    Outcome (World P) := do
  world.validateOnlyModule sender
  if isEquity = true then do
    let externalPositionUnit ← world.setToken.getExternalPositionRealUnit component module
    let unit ← SafeCast.toUint256 externalPositionUnit
    let usdcTransferOutNotionalQuantity ← preciseMul setTokenQuantity unit
    withdrawCollateral perp module world usdcTransferOutNotionalQuantity
  else pure world

/-! ## Previews for the issuance module -/

def formatAdjustments (perp : Perp P) (module : Address) (setToken : SetToken)
    (newExternalPositionUnit : ℤ) : Outcome (List ℤ × List ℤ) := do
  let currentExternalPositionUnit ←
    setToken.getExternalPositionRealUnit perp.collateralToken module
  PerpAccount.formatAdjustments setToken perp.collateralToken currentExternalPositionUnit
    newExternalPositionUnit

/-- The simulation prunes the list of positions, and may be called in a transaction. -/
def getIssuanceAdjustments (perp : Perp P) (module : Address) (world : World P)
    (setTokenQuantity : ℕ) : Outcome (World P × List ℤ × List ℤ) := do
  let (simulated, newExternalPositionUnit) ← (
    if 0 < world.positions.length then
      executePositionTrades perp module world setTokenQuantity true true
    else .ok (world, 0))
  let adjustments ← formatAdjustments perp module simulated.setToken newExternalPositionUnit
  pure (simulated, adjustments)

def getRedemptionAdjustments (perp : Perp P) (module : Address) (world : World P)
    (setTokenQuantity : ℕ) : Outcome (World P × List ℤ × List ℤ) := do
  let (simulated, newExternalPositionUnit) ← (
    if 0 < world.positions.length then
      executePositionTrades perp module world setTokenQuantity false true
    else .ok (world, 0))
  let adjustments ← formatAdjustments perp module simulated.setToken newExternalPositionUnit
  pure (simulated, adjustments)

/-! ## What the functions do -/

variable {perp : Perp P} {module : Address} {world next : World P}

/-- More than one position unit, as a statement about the balance. -/
def ExceedsUnit (perp : Perp P) (world : World P) (baseToken : Address) : Prop :=
  1 < (perp.getBase baseToken world.protocol * preciseUnitInt).tdiv
      world.setToken.totalSupply ∨
    (perp.getBase baseToken world.protocol * preciseUnitInt).tdiv
      world.setToken.totalSupply < -1

instance (perp : Perp P) (world : World P) (baseToken : Address) :
    Decidable (ExceedsUnit perp world baseToken) :=
  inferInstanceAs (Decidable (_ ∨ _))

theorem hasBaseBalance_eq_ok {baseToken : Address} {hasBalance : Bool}
    (hcall : hasBaseBalance perp world baseToken = .ok hasBalance) :
    0 < world.setToken.totalSupply ∧
      hasBalance = decide (ExceedsUnit perp world baseToken) := by
  simp only [hasBaseBalance, bind_eq_ok, SafeCast.toInt256_eq_ok, pure_eq_ok] at hcall
  obtain ⟨_, ⟨-, rfl⟩, unit, hunit, rfl⟩ := hcall
  have hsupply : 0 < world.setToken.totalSupply := by
    rw [Nat.pos_iff_ne_zero]
    intro hzero
    simp [preciseDivInt, bind_eq_ok, SignedSafeMath.div, hzero] at hunit
  obtain ⟨-, rfl⟩ := (preciseDivInt_eq_ok (Nat.cast_pos.mpr hsupply)).mp hunit
  exact ⟨hsupply, rfl⟩

/-- Pruning looks at the shares and at Perp, and writes the list alone. -/
theorem syncPosition_eq_ok {baseToken : Address}
    (hcall : syncPosition perp world baseToken = .ok next) :
    next = world.withPositions next.positions ∧
      (ExceedsUnit perp world baseToken ∧ next.positions = world.positions ∨
        ¬ExceedsUnit perp world baseToken ∧ baseToken ∈ world.positions ∧
          next.positions.Perm (world.positions.erase baseToken)) := by
  simp only [syncPosition, bind_eq_ok] at hcall
  obtain ⟨hasBalance, hbalance, hcall⟩ := hcall
  obtain ⟨-, rfl⟩ := hasBaseBalance_eq_ok hbalance
  by_cases hexceeds : ExceedsUnit perp world baseToken
  · simp only [hexceeds, decide_true, Bool.true_eq_false, if_false, pure_eq_ok] at hcall
    subst hcall
    exact ⟨rfl, Or.inl ⟨hexceeds, rfl⟩⟩
  · simp only [hexceeds, decide_false, if_true, bind_eq_ok, pure_eq_ok] at hcall
    obtain ⟨positions, hremoved, rfl⟩ := hcall
    obtain ⟨hmem, hperm⟩ := AddressArrayUtils.removeStorage_eq_ok hremoved
    exact ⟨rfl, Or.inr ⟨hexceeds, hmem, hperm⟩⟩

/-- The loop over the snapshot leaves exactly the positions above one unit, however often
a token is listed. -/
theorem syncPositions_eq_ok {kept items : List Address}
    (hkept : ∀ baseToken ∈ kept, ExceedsUnit perp world baseToken)
    (hlisted : world.positions.Perm (kept ++ items))
    (hcall : items.foldlM (syncPosition perp) world = .ok next) :
    next = world.withPositions next.positions ∧
      next.positions.Perm
        (kept ++ items.filter fun baseToken => ExceedsUnit perp world baseToken) := by
  induction items generalizing world kept with
  | nil =>
      rw [List.foldlM_nil, pure_eq_ok] at hcall
      subst hcall
      exact ⟨rfl, by simpa using hlisted⟩
  | cons baseToken items ih =>
      rw [List.foldlM_cons, bind_eq_ok] at hcall
      obtain ⟨middle, hturn, hrest⟩ := hcall
      obtain ⟨hmiddle, hcases⟩ := syncPosition_eq_ok hturn
      have hsame : ∀ other, ExceedsUnit perp middle other ↔ ExceedsUnit perp world other := by
        intro other
        rw [hmiddle]
        rfl
      have hfilter : (items.filter fun other => ExceedsUnit perp middle other) =
          items.filter fun other => ExceedsUnit perp world other := by
        simp only [hsame]
      rcases hcases with ⟨hexceeds, hpositions⟩ | ⟨hdust, hmem, hperm⟩
      · have hkept' : ∀ other ∈ kept ++ [baseToken], ExceedsUnit perp middle other := by
          intro other hother
          rw [hsame]
          rcases List.mem_append.mp hother with hother | hother
          · exact hkept other hother
          · rwa [List.mem_singleton.mp hother]
        obtain ⟨hnext, hresult⟩ := ih hkept' (by
          rw [hpositions, List.append_assoc]
          exact hlisted) hrest
        refine ⟨?_, ?_⟩
        · rw [hnext, hmiddle]
          rfl
        · rw [hfilter, List.append_assoc] at hresult
          rwa [List.filter_cons_of_pos (by simpa using hexceeds)]
      · have hnot : baseToken ∉ kept := fun hmem => hdust (hkept baseToken hmem)
        obtain ⟨hnext, hresult⟩ := ih (fun other hother => (hsame other).mpr
            (hkept other hother)) (by
          refine hperm.trans ((hlisted.erase baseToken).trans ?_)
          rw [List.erase_append_right _ hnot, List.erase_cons_head]) hrest
        refine ⟨?_, ?_⟩
        · rw [hnext, hmiddle]
          rfl
        · rw [hfilter] at hresult
          rwa [List.filter_cons_of_neg (by simpa using hdust)]

theorem syncPositionList_eq_ok (hcall : syncPositionList perp world = .ok next) :
    next = world.withPositions next.positions ∧
      next.positions.Perm
        (world.positions.filter fun baseToken => ExceedsUnit perp world baseToken) := by
  have hnone : ∀ baseToken ∈ ([] : List Address), ExceedsUnit perp world baseToken :=
    fun _ hmem => absurd hmem List.not_mem_nil
  exact syncPositions_eq_ok hnone (List.Perm.refl _) hcall

/-- After a trade a token is dropped as dust, kept or added. -/
theorem updatePositionList_eq_ok {baseToken : Address}
    (hcall : updatePositionList perp world baseToken = .ok next) :
    next = world.withPositions next.positions ∧
      (baseToken ∈ world.positions ∧ next.positions = world.positions ∨
        0 < world.setToken.totalSupply ∧ ¬ExceedsUnit perp world baseToken ∧
          next.positions.Perm (world.positions.erase baseToken) ∨
        baseToken ∉ world.positions ∧ next.positions = world.positions ++ [baseToken]) := by
  simp only [updatePositionList] at hcall
  split at hcall
  · rename_i hlisted
    rw [AddressArrayUtils.contains_eq_true] at hlisted
    simp only [bind_eq_ok] at hcall
    obtain ⟨hasBalance, hbalance, hcall⟩ := hcall
    obtain ⟨hsupply, rfl⟩ := hasBaseBalance_eq_ok hbalance
    split at hcall
    · rename_i hdust
      rw [decide_eq_false_iff_not] at hdust
      simp only [bind_eq_ok, pure_eq_ok] at hcall
      obtain ⟨positions, hremoved, rfl⟩ := hcall
      obtain ⟨-, hperm⟩ := AddressArrayUtils.removeStorage_eq_ok hremoved
      exact ⟨rfl, Or.inr (Or.inl ⟨hsupply, hdust, hperm⟩)⟩
    · rw [pure_eq_ok] at hcall
      subst hcall
      exact ⟨rfl, Or.inl ⟨hlisted, rfl⟩⟩
  · rename_i hnew
    rw [AddressArrayUtils.contains_eq_true] at hnew
    simp only [bind_eq_ok, pure_eq_ok] at hcall
    obtain ⟨_, -, rfl⟩ := hcall
    exact ⟨rfl, Or.inr (Or.inr ⟨hnew, rfl⟩)⟩

theorem withdrawCollateral_setToken {quantity : ℕ}
    (hcall : withdrawCollateral perp module world quantity = .ok next) :
    next.setToken = world.setToken := by
  rw [withdrawCollateral] at hcall
  split at hcall
  · cases hcall
    rfl
  · simp only [bind_eq_ok, pure_eq_ok] at hcall
    obtain ⟨account, hwithdrawn, rfl⟩ := hcall
    obtain ⟨-, -, hsame⟩ := PerpAccount.invokeWithdraw_eq_ok hwithdrawn
    exact hsame.setToken

theorem executeTrade_frame {actionInfo : PerpActionInfo} {deltaQuote : ℕ}
    (hcall : executeTrade perp module world actionInfo = .ok (next, deltaQuote)) :
    next.toChain = world.toChain ∧ next.positions = world.positions := by
  simp only [executeTrade, bind_eq_ok, pure_eq_ok, Prod.mk.injEq] at hcall
  obtain ⟨⟨account, deltaBase, quote⟩, htraded, rfl, -⟩ := hcall
  exact ⟨(PerpAccount.executeTrade_eq_ok htraded).2.2, rfl⟩

/-- Replicating a position changes what Perp stores, if anything. -/
theorem replicatePosition_frame {setTokenQuantity totalSupply : ℤ}
    {isIssue isSimulation : Bool} {progress result : World P × ℤ}
    {position : PositionNotionalInfo}
    (hcall : replicatePosition perp module setTokenQuantity totalSupply isIssue isSimulation
      progress position = .ok result) :
    result.1.toChain = progress.1.toChain ∧ result.1.positions = progress.1.positions := by
  simp only [replicatePosition, bind_eq_ok, pure_eq_ok] at hcall
  obtain ⟨_, -, _, -, _, -, actionInfo, -, ⟨traded, deltaQuote⟩, htraded, _, -, _, -,
    rfl⟩ := hcall
  split at htraded
  · simp only [bind_eq_ok, pure_eq_ok, Prod.mk.injEq] at htraded
    obtain ⟨_, -, rfl, -⟩ := htraded
    exact ⟨rfl, rfl⟩
  · exact executeTrade_frame htraded

/-- What both hooks do to a share: nothing, or the trades and then the edit. -/
inductive Replicated (perp : Perp P) (module : Address) (world : World P)
    (setTokenQuantity : ℕ) (isIssue : Bool) : World P → Prop
  | idle (hidle : ¬replicates perp world) :
      Replicated perp module world setTokenQuantity isIssue world
  | traded {traded edited : World P} {unit : ℤ} (hreplicates : replicates perp world)
      (htraded : executePositionTrades perp module world setTokenQuantity isIssue false =
        .ok (traded, unit))
      (hedited : editCollateralUnit perp module traded unit = .ok edited) :
      Replicated perp module world setTokenQuantity isIssue edited

variable {sender : Address} {setTokenQuantity : ℕ}

theorem replicated_of_issue
    (hcall : moduleIssueHook perp module world sender setTokenQuantity = .ok next) :
    Replicated perp module world setTokenQuantity true next := by
  simp only [moduleIssueHook, bind_eq_ok] at hcall
  obtain ⟨_, -, hcall⟩ := hcall
  split at hcall
  · rename_i hreplicates
    simp only [bind_eq_ok] at hcall
    obtain ⟨⟨traded, unit⟩, htraded, hedited⟩ := hcall
    exact .traded hreplicates htraded hedited
  · rename_i hidle
    rw [pure_eq_ok] at hcall
    exact hcall ▸ .idle hidle

theorem replicated_of_redeem
    (hcall : moduleRedeemHook perp module world sender setTokenQuantity = .ok next) :
    Replicated perp module world setTokenQuantity false next := by
  simp only [moduleRedeemHook, bind_eq_ok] at hcall
  obtain ⟨_, -, hcall⟩ := hcall
  split at hcall
  · rename_i hreplicates
    simp only [bind_eq_ok] at hcall
    obtain ⟨⟨traded, unit⟩, htraded, hedited⟩ := hcall
    exact .traded hreplicates htraded hedited
  · rename_i hidle
    rw [pure_eq_ok] at hcall
    exact hcall ▸ .idle hidle

end SetProtocol.PerpV2LeverageModuleV2
