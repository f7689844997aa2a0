import SetProtocol.Core.Chain
import SetProtocol.Arithmetic.UnitConversionUtils

/-!
# The Perp account of a SetToken

Perp is code outside of the repository: `P` is the storage of its contracts, and `Perp`
has their functions as the account of the SetToken meets them.  The helpers of
`PerpV2LibraryV2` and `PerpV2Positions` call them for the SetToken.  Every call that
changes the storage is recorded with the funding payment that it settles.
-/

namespace SetProtocol

open Transaction PreciseUnitMath UnitConversionUtils

/-- `IClearingHouse.OpenPositionParams`, less the constants that modules pass. -/
structure OpenPositionParams where
  baseToken : Address
  isBaseToQuote : Bool
  isExactInput : Bool
  amount : ℕ
  oppositeAmountBound : ℕ

/-- `IQuoter.SwapParams` -/
structure SwapParams where
  baseToken : Address
  isBaseToQuote : Bool
  isExactInput : Bool
  amount : ℕ

structure Perp (P : Type) where
  collateralToken : Address
  collateralDecimals : ℕ
  perpVault : Address
  /-- `IAccountBalance`, by base token. -/
  getBase : Address → P → ℤ
  getQuote : Address → P → ℤ
  owedRealizedPnl : P → ℤ
  /-- A positive payment is owed by the account. -/
  getAllPendingFundingPayment : P → ℤ
  /-- Of the vault, in decimals of the collateral. -/
  getBalance : P → ℤ
  hasPool : Address → P → Bool
  deposit : ℕ → P → Outcome P
  withdraw : ℕ → P → Outcome P
  /-- Returns the quantities of base and quote that moved. -/
  openPosition : OpenPositionParams → P → Outcome (P × ℕ × ℕ)
  /-- The quoter undoes what it does. -/
  swap : SwapParams → P → Outcome (ℕ × ℕ)

inductive FundingEvent
  /-- Perp credits a funding payment, or debits it if it is negative. -/
  | settled (payment : ℤ)
  /-- A manager takes out funding. -/
  | withdrawn (quantity : ℕ)
  deriving DecidableEq

structure PerpAccount (P : Type) extends Chain where
  protocol : P
  /-- Oldest first. -/
  fundingEvents : List FundingEvent

/-- `PerpV2LibraryV2.ActionInfo` -/
structure PerpActionInfo where
  baseToken : Address
  isBuy : Bool
  baseTokenAmount : ℕ
  oppositeAmountBound : ℕ

/-- `PerpV2Positions.PositionNotionalInfo` -/
structure PositionNotionalInfo where
  baseToken : Address
  baseBalance : ℤ
  quoteBalance : ℤ

namespace PerpAccount

variable {P : Type}

def withChain (account : PerpAccount P) (chain : Chain) : PerpAccount P :=
  { account with toChain := chain }

/-- A call settles as much as the pending payment shrinks. -/
def settledBy (perp : Perp P) (before after : P) : FundingEvent :=
  .settled (perp.getAllPendingFundingPayment after - perp.getAllPendingFundingPayment before)

/-- The storage after a call. -/
def withProtocol (perp : Perp P) (account : PerpAccount P) (protocol : P) :
    PerpAccount P :=
  { account with
    protocol := protocol
    fundingEvents := account.fundingEvents ++ [settledBy perp account.protocol protocol] }

/-! ## PerpV2LibraryV2 -/

/-- The vault pulls what the SetToken deposits. -/
def invokeDeposit (perp : Perp P) (module : Address) (account : PerpAccount P)
    (amountNotional : ℕ) : Outcome (PerpAccount P) := do
  account.setToken.onlyModuleWhenLockedOnlyLocker account.controller module
  let protocol ← perp.deposit amountNotional account.protocol
  let chain ← account.moveTokens perp.collateralToken account.setTokenAddress
    perp.perpVault amountNotional
  pure ((account.withProtocol perp protocol).withChain chain)

def invokeWithdraw (perp : Perp P) (module : Address) (account : PerpAccount P)
    (amountNotional : ℕ) : Outcome (PerpAccount P) := do
  account.setToken.onlyModuleWhenLockedOnlyLocker account.controller module
  let protocol ← perp.withdraw amountNotional account.protocol
  let chain ← account.moveTokens perp.collateralToken perp.perpVault
    account.setTokenAddress amountNotional
  pure ((account.withProtocol perp protocol).withChain chain)

/-- Returns the quantity of quote that moved, besides that of base. -/
def executeTrade (perp : Perp P) (module : Address) (account : PerpAccount P)
    (actionInfo : PerpActionInfo) : Outcome (PerpAccount P × ℕ × ℕ) := do
  account.setToken.onlyModuleWhenLockedOnlyLocker account.controller module
  let (protocol, deltaBase, deltaQuote) ← perp.openPosition {
    baseToken := actionInfo.baseToken
    isBaseToQuote := !actionInfo.isBuy
    isExactInput := !actionInfo.isBuy
    amount := actionInfo.baseTokenAmount
    oppositeAmountBound := actionInfo.oppositeAmountBound } account.protocol
  pure (account.withProtocol perp protocol, deltaBase, deltaQuote)

def simulateTrade (perp : Perp P) (module : Address) (account : PerpAccount P)
    (actionInfo : PerpActionInfo) : Outcome (ℕ × ℕ) := do
  account.setToken.onlyModuleWhenLockedOnlyLocker account.controller module
  perp.swap {
    baseToken := actionInfo.baseToken
    isBaseToQuote := !actionInfo.isBuy
    isExactInput := !actionInfo.isBuy
    amount := actionInfo.baseTokenAmount } account.protocol

/-! ## PerpV2Positions -/

def getNetQuoteBalance (perp : Perp P) (account : PerpAccount P)
    (baseTokens : List Address) : Outcome ℤ :=
  baseTokens.foldlM (fun netQuoteBalance baseToken =>
    SignedSafeMath.add netQuoteBalance (perp.getQuote baseToken account.protocol)) 0

def getPositionNotionalInfo (perp : Perp P) (account : PerpAccount P)
    (baseTokens : List Address) : List PositionNotionalInfo :=
  baseTokens.map fun baseToken =>
    ⟨baseToken, perp.getBase baseToken account.protocol,
      perp.getQuote baseToken account.protocol⟩

/-- One entry for each component, all zero but that of the adjusted component; and no
debt. -/
def formatAdjustments (setToken : SetToken) (adjustComponent : Address)
    (currentExternalPositionUnit newExternalPositionUnit : ℤ) :
    Outcome (List ℤ × List ℤ) := do
  let components := setToken.components
  let zeros := components.map fun _ => (0 : ℤ)
  let (index, isIn) := AddressArrayUtils.indexOf components adjustComponent
  let equityAdjustments ← (
    if isIn = true then do
      let adjustment ←
        SignedSafeMath.sub newExternalPositionUnit currentExternalPositionUnit
      pure (zeros.set index adjustment)
    else .ok zeros)
  pure (equityAdjustments, zeros)

/-! ## What the calls leave alone -/

variable {perp : Perp P} {module : Address} {account next : PerpAccount P}

/-- Tokens may have moved, the SetToken's own storage is the same. -/
structure SameSetToken (account next : PerpAccount P) : Prop where
  setToken : next.setToken = account.setToken
  setTokenAddress : next.setTokenAddress = account.setTokenAddress
  controller : next.controller = account.controller

theorem invokeDeposit_eq_ok {amountNotional : ℕ}
    (hcall : account.invokeDeposit perp module amountNotional = .ok next) :
    perp.deposit amountNotional account.protocol = .ok next.protocol ∧
      next.fundingEvents = account.fundingEvents ++
        [settledBy perp account.protocol next.protocol] ∧
      SameSetToken account next := by
  simp only [invokeDeposit, bind_eq_ok, pure_eq_ok, Chain.moveTokens_eq_ok] at hcall
  obtain ⟨_, -, protocol, hprotocol, chain, ⟨-, rfl⟩, rfl⟩ := hcall
  exact ⟨hprotocol, rfl, ⟨rfl, rfl, rfl⟩⟩

theorem invokeWithdraw_eq_ok {amountNotional : ℕ}
    (hcall : account.invokeWithdraw perp module amountNotional = .ok next) :
    perp.withdraw amountNotional account.protocol = .ok next.protocol ∧
      next.fundingEvents = account.fundingEvents ++
        [settledBy perp account.protocol next.protocol] ∧
      SameSetToken account next := by
  simp only [invokeWithdraw, bind_eq_ok, pure_eq_ok, Chain.moveTokens_eq_ok] at hcall
  obtain ⟨_, -, protocol, hprotocol, chain, ⟨-, rfl⟩, rfl⟩ := hcall
  exact ⟨hprotocol, rfl, ⟨rfl, rfl, rfl⟩⟩

theorem executeTrade_eq_ok {actionInfo : PerpActionInfo} {deltaBase deltaQuote : ℕ}
    (hcall : account.executeTrade perp module actionInfo = .ok (next, deltaBase, deltaQuote)) :
    perp.openPosition {
        baseToken := actionInfo.baseToken
        isBaseToQuote := !actionInfo.isBuy
        isExactInput := !actionInfo.isBuy
        amount := actionInfo.baseTokenAmount
        oppositeAmountBound := actionInfo.oppositeAmountBound } account.protocol =
      .ok (next.protocol, deltaBase, deltaQuote) ∧
    next.fundingEvents = account.fundingEvents ++
      [settledBy perp account.protocol next.protocol] ∧
    next.toChain = account.toChain := by
  simp only [executeTrade, bind_eq_ok, pure_eq_ok, Prod.mk.injEq] at hcall
  obtain ⟨_, -, ⟨protocol, base, quote⟩, hopened, rfl, rfl, rfl⟩ := hcall
  exact ⟨hopened, rfl, rfl⟩

end PerpAccount

end SetProtocol
