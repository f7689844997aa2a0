import SetProtocol.Core.Chain

/-!
# The Notional trade module

A SetToken may hold fixed-rate debt claims of Notional as wrapped fCash.  After its maturity
fCash no longer earns anything, and anyone may have the matured positions of a SetToken
redeemed.  The wrappers and their factory are code outside of the repository.
-/

namespace SetProtocol.NotionalTradeModule

open Transaction PreciseUnitMath

/-- What the module asks a wrapper to redeem.  The implied rate is not limited. -/
structure RedeemOrder where
  fCashPosition : Address
  fCashAmount : ℕ
  receiver : Address
  toUnderlying : Bool

/-- What a wrapper burns of the SetToken's fCash and pays for it. -/
structure Redeemed where
  burned : ℕ
  received : ℕ

/-- The wrapped fCash contracts, the factory that deploys them, and the WETH contract. -/
structure Notional (P : Type) where
  weth : Address
  isContract : Address → Bool
  /-- Currency and maturity, within a gas limit. -/
  getDecodedID (fCashPosition : Address) (gasLimit : ℕ) : Outcome (ℕ × ℕ)
  computeAddress (currencyId maturity : ℕ) : Outcome Address
  hasMatured (fCashPosition : Address) (timestamp : ℕ) : Outcome Bool
  /-- The underlying or the asset token, and whether it is Ether. -/
  getToken (fCashPosition : Address) (useUnderlying : Bool) : Outcome (Address × Bool)
  redeem : RedeemOrder → P → Outcome (P × Redeemed)

/-- The event of a redemption. -/
structure FCashRedeemed where
  fCashPosition : Address
  receiveToken : Address
  fCashAmount : ℕ
  receivedAmount : ℕ

/-- What a call of this module reads and writes, for one SetToken, with the redemptions that
have been emitted. -/
structure World (P : Type) extends Chain where
  /-- Storage of the wrappers. -/
  protocols : P
  redemptionHookDisabled : Bool
  redeemToUnderlying : Bool
  decodedIdGasLimit : ℕ
  redeemed : List FCashRedeemed

variable {P : Type}

def World.withChain (world : World P) (chain : Chain) : World P :=
  { world with toChain := chain }

/-- A contract that the factory deploys for the identifier it decodes to.  A call that
reverts counts as a no. -/
def isWrappedFCash (notional : Notional P) (gasLimit : ℕ) (fCashPosition : Address) : Bool :=
  if notional.isContract fCashPosition = false then false
  else match notional.getDecodedID fCashPosition gasLimit with
    | .error _ => false
    | .ok (currencyId, maturity) =>
        match notional.computeAddress currencyId maturity with
        | .error _ => false
        | .ok computedAddress => decide (fCashPosition = computedAddress)

/-- The SetToken has the wrapper redeem.  It burns fCash of the SetToken and pays in the token
that it names. -/
def redeem (notional : Notional P) (module : Address) (world : World P)
    (fCashPosition receiveToken : Address) (fCashAmount : ℕ) (toUnderlying : Bool) :
    Outcome (World P) := do
  world.setToken.onlyModuleWhenLockedOnlyLocker world.controller module
  let (protocols, redeemed) ← notional.redeem
    ⟨fCashPosition, fCashAmount, world.setTokenAddress, toUnderlying⟩ world.protocols
  require (redeemed.burned ≤ world.heldBalance fCashPosition)
    "ERC20: burn amount exceeds balance"
  let burnt := world.withLedger fCashPosition
    (Ledger.debit (world.balances fCashPosition) world.setTokenAddress redeemed.burned)
  let paid := burnt.withLedger receiveToken
    (Ledger.credit (burnt.balances receiveToken) burnt.setTokenAddress redeemed.received)
  pure { world.withChain paid with protocols := protocols }

/-- Returns the amounts sent and received as well. -/
def updateSetTokenPositions (module : Address) (world : World P) (sendToken : Address)
    (preTradeSendTokenBalance : ℕ) (receiveToken : Address)
    (preTradeReceiveTokenBalance : ℕ) : Outcome (World P × ℕ × ℕ) := do
  let setTotalSupply := world.setToken.totalSupply
  let currentSendTokenBalance := world.heldBalance sendToken
  let (sent, _) ← Position.calculateAndEditDefaultPosition world.setToken world.controller
    module sendToken currentSendTokenBalance setTotalSupply preTradeSendTokenBalance
  let currentReceiveTokenBalance := world.heldBalance receiveToken
  let (received, _) ← Position.calculateAndEditDefaultPosition sent world.controller module
    receiveToken currentReceiveTokenBalance setTotalSupply preTradeReceiveTokenBalance
  let sentAmount ← SafeMath.sub preTradeSendTokenBalance currentSendTokenBalance
  let receivedAmount ← SafeMath.sub currentReceiveTokenBalance preTradeReceiveTokenBalance
  pure (world.withChain (world.withSetToken received), sentAmount, receivedAmount)

def redeemFCashPosition (notional : Notional P) (module : Address) (world : World P)
    (fCashPosition receiveToken : Address) (fCashAmount minReceiveAmount : ℕ)
    (toUnderlying : Bool) : Outcome (World P × ℕ) :=
  if fCashAmount = 0 then pure (world, 0)
  else do
    let preTradeReceiveTokenBalance := world.heldBalance receiveToken
    let preTradeSendTokenBalance := world.heldBalance fCashPosition
    let redeemed ← redeem notional module world fCashPosition receiveToken fCashAmount
      toUnderlying
    let (updated, _, receivedAmount) ← updateSetTokenPositions module redeemed fCashPosition
      preTradeSendTokenBalance receiveToken preTradeReceiveTokenBalance
    require (minReceiveAmount ≤ receivedAmount) "Not enough received amount"
    pure ({ updated with
      redeemed := updated.redeemed ++
        [⟨fCashPosition, receiveToken, fCashAmount, receivedAmount⟩] }, receivedAmount)

/-- Ether is received as WETH. -/
def getReceiveToken (notional : Notional P) (fCashPosition : Address) (toUnderlying : Bool) :
    Outcome Address := do
  let (receiveToken, isEth) ← notional.getToken fCashPosition toUnderlying
  pure (if isEth = true then notional.weth else receiveToken)

/-- Body of the loop of `_redeemMaturedPositions`.  Of a position only the sign of its unit is
looked at, not whether it is a default position. -/
def redeemIfMatured (notional : Notional P) (module : Address) (toUnderlying : Bool)
    (world : World P) (position : SetToken.Position) : Outcome (World P) :=
  if 0 < position.unit then
    if isWrappedFCash notional world.decodedIdGasLimit position.component = true then do
      let matured ← notional.hasMatured position.component world.timestamp
      if matured = true then do
        let receiveToken ← getReceiveToken notional position.component toUnderlying
        let totalfCashAmount ← Position.getDefaultTotalNotional world.setToken.totalSupply
          position.unit.toNat
        let (next, _) ← redeemFCashPosition notional module world position.component
          receiveToken totalfCashAmount 0 toUnderlying
        pure next
      else pure world
    else pure world
  else pure world

/-- `_redeemMaturedPositions`: the list of positions is taken before the first redemption. -/
def redeemAllMatured (notional : Notional P) (module : Address) (world : World P) :
    Outcome (World P) := do
  let positions ← world.setToken.getPositions
  positions.foldlM (redeemIfMatured notional module world.redeemToUnderlying) world

/-- Callable by anybody. -/
def redeemMaturedPositions (notional : Notional P) (module : Address) (world : World P) :
    Outcome (World P) := do
  world.validateOnlyValidAndInitializedSet module
  redeemAllMatured notional module world

/-- The hooks before an issuance and before a redemption are alike. -/
def redeemUnlessDisabled (notional : Notional P) (module : Address) (world : World P)
    (sender : Address) : Outcome (World P) := do
  world.validateOnlyModule sender
  if world.redemptionHookDisabled = true then pure world
  else redeemAllMatured notional module world

def moduleIssueHook (notional : Notional P) (module : Address) (world : World P)
    (sender : Address) : Outcome (World P) :=
  redeemUnlessDisabled notional module world sender

def moduleRedeemHook (notional : Notional P) (module : Address) (world : World P)
    (sender : Address) : Outcome (World P) :=
  redeemUnlessDisabled notional module world sender

end SetProtocol.NotionalTradeModule
