import SetProtocol.Core.Venue

/-!
# The hooks of the Compound leverage module

A SetToken owes the underlying of Compound markets, kept as negative external positions
of the module.  The markets are a parameter.  One of them, for ether, pays and takes
ether itself, which the SetToken wraps and unwraps.
-/

namespace SetProtocol.CompoundLeverageModule

open Transaction PreciseUnitMath

/-- The markets at a block time, for an account. -/
structure Compound (P : Type) where
  weth : Address
  cEther : Address
  /-- The ledger of balances has ether among its tokens. -/
  ether : Address
  /-- Also returns an error code. -/
  borrow (timestamp : ℕ) (cToken : Address) (amount : ℕ) (account : Address) :
    P → Outcome (P × ℕ)
  /-- Also returns an error code, and what the account pays. -/
  repayBorrow (timestamp : ℕ) (cToken : Address) (amount : ℕ) (account : Address) :
    P → Outcome (P × ℕ × ℕ)
  /-- Takes the ether that comes with the call. -/
  repayBorrowEther (timestamp : ℕ) (amount : ℕ) (account : Address) : P → Outcome P

variable {P : Type}

/-! ## Calling the markets -/

/-- `invokeWrapWETH` -/
def wrapWETH (compound : Compound P) (module : Address) (venue : Venue P) (quantity : ℕ) :
    Outcome (Venue P) := do
  venue.setToken.onlyModuleWhenLockedOnlyLocker venue.controller module
  let paid ← venue.moveTokens compound.ether venue.setTokenAddress compound.weth quantity
  pure (venue.withChain (paid.withLedger compound.weth
    (Ledger.credit (paid.balances compound.weth) venue.setTokenAddress quantity)))

/-- `invokeUnwrapWETH` -/
def unwrapWETH (compound : Compound P) (module : Address) (venue : Venue P)
    (quantity : ℕ) : Outcome (Venue P) := do
  venue.setToken.onlyModuleWhenLockedOnlyLocker venue.controller module
  require (quantity ≤ venue.heldBalance compound.weth) Chain.insufficientBalance
  let burnt := venue.withLedger compound.weth
    (Ledger.debit (venue.balances compound.weth) venue.setTokenAddress quantity)
  let chain ← burnt.moveTokens compound.ether compound.weth venue.setTokenAddress quantity
  pure (venue.withChain chain)

/-- The code zero stands for success. -/
def checked (reason : String) (quantity : ℕ) (result : P × ℕ) : Outcome (P × ℕ) := do
  require (result.2 = 0) reason
  pure (result.1, quantity)

/-- `_borrow` -/
def borrow (compound : Compound P) (module : Address) (venue : Venue P)
    (cToken component : Address) (notionalBorrowQuantity : ℕ) : Outcome (Venue P) := do
  let call : ProtocolCall := ⟨.borrow, module, cToken, component, notionalBorrowQuantity⟩
  let execute := fun protocols => do
    let result ← compound.borrow venue.timestamp cToken notionalBorrowQuantity
      venue.setTokenAddress protocols
    checked "Borrow failed" notionalBorrowQuantity result
  if cToken = compound.cEther then do
    venue.setToken.onlyModuleWhenLockedOnlyLocker venue.controller module
    let executed ← execute venue.protocols
    let chain ← venue.moveTokens compound.ether cToken venue.setTokenAddress executed.2
    wrapWETH compound module ((venue.withChain chain).withCall executed.1 call)
      notionalBorrowQuantity
  else venue.invokeReceiving call execute

def repayBorrow (compound : Compound P) (module : Address) (venue : Venue P)
    (cToken component : Address) (repayNotional : ℕ) : Outcome (Venue P) := do
  let call : ProtocolCall := ⟨.repay, module, cToken, component, repayNotional⟩
  if cToken = compound.cEther then do
    let unwrapped ← unwrapWETH compound module venue repayNotional
    unwrapped.setToken.onlyModuleWhenLockedOnlyLocker unwrapped.controller module
    let protocols ← compound.repayBorrowEther venue.timestamp repayNotional
      venue.setTokenAddress unwrapped.protocols
    let chain ← unwrapped.moveTokens compound.ether unwrapped.setTokenAddress cToken
      repayNotional
    pure ((unwrapped.withChain chain).withCall protocols call)
  else venue.invokePaying call fun protocols => do
    let result ← compound.repayBorrow venue.timestamp cToken repayNotional
      venue.setTokenAddress protocols
    checked "Repay failed" result.2.2 (result.1, result.2.1)

/-! ## Hooks of the issuance module -/

/-- The debt unit of a component. -/
def componentDebtUnit (module : Address) (setToken : SetToken) (component : Address) :
    Outcome ℕ := do
  let componentDebt ← setToken.getExternalPositionRealUnit component module
  require (componentDebt < 0) "Component must be negative"
  let negated ← SignedSafeMath.mul componentDebt (-1)
  SafeCast.toUint256 negated

/-- The flag for equity is not looked at. -/
def componentIssueHook (compound : Compound P) (underlyingToCToken : Address → Address)
    (module : Address) (venue : Venue P) (sender : Address) (setTokenQuantity : ℕ)
    (component : Address) (_isEquity : Bool) : Outcome (Venue P) := do
  venue.validateOnlyModule sender
  let unit ← componentDebtUnit module venue.setToken component
  let notionalDebt ← preciseMul unit setTokenQuantity
  borrow compound module venue (underlyingToCToken component) component notionalDebt

def componentRedeemHook (compound : Compound P) (underlyingToCToken : Address → Address)
    (module : Address) (venue : Venue P) (sender : Address) (setTokenQuantity : ℕ)
    (component : Address) (_isEquity : Bool) : Outcome (Venue P) := do
  venue.validateOnlyModule sender
  let unit ← componentDebtUnit module venue.setToken component
  let notionalDebt ← preciseMulCeil unit setTokenQuantity
  repayBorrow compound module venue (underlyingToCToken component) component notionalDebt

/-! ## What the calls do -/

variable {compound : Compound P} {module cToken component : Address} {quantity : ℕ}
variable {venue next : Venue P}

/-- Wrapping moves tokens only. -/
theorem wrapWETH_eq_ok (hcall : wrapWETH compound module venue quantity = .ok next) :
    ∃ balances, next = venue.withChain { venue.toChain with balances := balances } := by
  simp only [wrapWETH, bind_eq_ok, Chain.moveTokens_eq_ok, pure_eq_ok] at hcall
  obtain ⟨_, -, _, ⟨-, rfl⟩, rfl⟩ := hcall
  exact ⟨_, rfl⟩

theorem unwrapWETH_eq_ok (hcall : unwrapWETH compound module venue quantity = .ok next) :
    ∃ balances, next = venue.withChain { venue.toChain with balances := balances } := by
  simp only [unwrapWETH, bind_eq_ok, Chain.moveTokens_eq_ok, pure_eq_ok] at hcall
  obtain ⟨_, -, _, -, _, ⟨-, rfl⟩, rfl⟩ := hcall
  exact ⟨_, rfl⟩

theorem borrow_eq_ok
    (hcall : borrow compound module venue cToken component quantity = .ok next) :
    venue.SameSetToken next ∧ next.protocolCalls = venue.protocolCalls ++
      [⟨.borrow, module, cToken, component, quantity⟩] := by
  simp only [borrow] at hcall
  split at hcall
  · simp only [bind_eq_ok, Chain.moveTokens_eq_ok] at hcall
    obtain ⟨_, -, _, -, _, ⟨-, rfl⟩, hwrapped⟩ := hcall
    obtain ⟨_, rfl⟩ := wrapWETH_eq_ok hwrapped
    exact ⟨⟨rfl, rfl, rfl⟩, rfl⟩
  · obtain ⟨protocols, _, chain, -, hmoved, rfl⟩ := Venue.invokeReceiving_eq_ok hcall
    exact ⟨Venue.sameSetToken_of_moveTokens hmoved protocols _, rfl⟩

theorem repayBorrow_eq_ok
    (hcall : repayBorrow compound module venue cToken component quantity = .ok next) :
    venue.SameSetToken next ∧ next.protocolCalls = venue.protocolCalls ++
      [⟨.repay, module, cToken, component, quantity⟩] := by
  simp only [repayBorrow] at hcall
  split at hcall
  · simp only [bind_eq_ok, Chain.moveTokens_eq_ok, pure_eq_ok] at hcall
    obtain ⟨_, hunwrapped, _, -, _, -, _, ⟨-, rfl⟩, rfl⟩ := hcall
    obtain ⟨_, rfl⟩ := unwrapWETH_eq_ok hunwrapped
    exact ⟨⟨rfl, rfl, rfl⟩, rfl⟩
  · obtain ⟨protocols, _, chain, -, -, hmoved, rfl⟩ := Venue.invokePaying_eq_ok hcall
    exact ⟨Venue.sameSetToken_of_moveTokens hmoved protocols _, rfl⟩

end SetProtocol.CompoundLeverageModule
