import SetProtocol.Core.Bookkeeping
import SetProtocol.Library.Backing
import SetProtocol.Library.Ledger

/-!
# The chain around one SetToken

Modules act on a SetToken, on the Controller and on the balances of tokens.  A
`Chain` holds these together, with the SetToken's own shares in the same ledger
as every other token.  Tokens move exactly the requested amounts, and holders
have approved the modules they call.  The helpers of `ModuleBase`, `Invoke` and
`ExplicitERC20` follow, each with the equation that says what it does.
-/

namespace SetProtocol

open Transaction

/-- What the modules read and write, apart from their own storage. -/
structure Chain where
  controller : Controller
  setTokenAddress : Address
  setToken : SetToken
  /-- Token, then holder. -/
  balances : Address → Address → ℕ
  timestamp : ℕ

namespace Chain

/-- Reverting for lack of balance, as token contracts do. -/
def insufficientBalance : String := "ERC20: transfer amount exceeds balance"

def balanceOf (chain : Chain) (token holder : Address) : ℕ :=
  chain.balances token holder

/-- The balance of the SetToken itself. -/
def heldBalance (chain : Chain) (token : Address) : ℕ :=
  chain.balances token chain.setTokenAddress

/-- One token's ledger replaced. -/
def withLedger (chain : Chain) (token : Address) (ledger : Address → ℕ) : Chain :=
  { chain with balances := Function.update chain.balances token ledger }

def withSetToken (chain : Chain) (setToken : SetToken) : Chain :=
  { chain with setToken := setToken }

/-! ## Token transfers -/

/-- A transfer inside a token contract. -/
def moveTokens (chain : Chain) (token source target : Address) (quantity : ℕ) :
    Outcome Chain := do
  require (quantity ≤ chain.balanceOf token source) insufficientBalance
  pure (chain.withLedger token
    (Ledger.move (chain.balances token) source target quantity))

/-- `ExplicitERC20.transferFrom`: the receiver must gain the exact quantity. -/
def transferFrom (chain : Chain) (token source target : Address) (quantity : ℕ) :
    Outcome Chain :=
  if 0 < quantity then do
    let existingBalance := chain.balanceOf token target
    let moved ← chain.moveTokens token source target quantity
    let newBalance := moved.balanceOf token target
    let expected ← SafeMath.add existingBalance quantity
    require (newBalance = expected) "Invalid post transfer balance"
    pure moved
  else pure chain

/-- The SetToken transfers a token on behalf of a module. -/
def invokeTransfer (chain : Chain) (module token target : Address) (quantity : ℕ) :
    Outcome Chain :=
  if 0 < quantity then do
    chain.setToken.onlyModuleWhenLockedOnlyLocker chain.controller module
    chain.moveTokens token chain.setTokenAddress target quantity
  else pure chain

/-- As `invokeTransfer`, and the SetToken must lose the exact quantity. -/
def strictInvokeTransfer (chain : Chain) (module token target : Address)
    (quantity : ℕ) : Outcome Chain :=
  if 0 < quantity then do
    let existingBalance := chain.heldBalance token
    let moved ← chain.invokeTransfer module token target quantity
    let newBalance := moved.heldBalance token
    let expected ← SafeMath.sub existingBalance quantity
    require (newBalance = expected) "Invalid post transfer balance"
    pure moved
  else pure chain

/-! ## Shares -/

/-- The ERC20 mint of the SetToken, called by a module. -/
def mint (chain : Chain) (module account : Address) (quantity : ℕ) :
    Outcome Chain := do
  chain.setToken.onlyModuleWhenLockedOnlyLocker chain.controller module
  require (account ≠ zeroAddress) "ERC20: mint to the zero address"
  let totalSupply ← SafeMath.add chain.setToken.totalSupply quantity
  let _ ← SafeMath.add (chain.balanceOf chain.setTokenAddress account) quantity
  let minted := chain.withLedger chain.setTokenAddress
    (Ledger.credit (chain.balances chain.setTokenAddress) account quantity)
  pure (minted.withSetToken { chain.setToken with totalSupply := totalSupply })

/-- The ERC20 burn of the SetToken, called by a module. -/
def burn (chain : Chain) (module account : Address) (quantity : ℕ) :
    Outcome Chain := do
  chain.setToken.onlyModuleWhenLockedOnlyLocker chain.controller module
  require (account ≠ zeroAddress) "ERC20: burn from the zero address"
  require (quantity ≤ chain.balanceOf chain.setTokenAddress account)
    "ERC20: burn amount exceeds balance"
  let totalSupply ← SafeMath.sub chain.setToken.totalSupply quantity
  let burnt := chain.withLedger chain.setTokenAddress
    (Ledger.debit (chain.balances chain.setTokenAddress) account quantity)
  pure (burnt.withSetToken { chain.setToken with totalSupply := totalSupply })

/-! ## What modules check -/

def isSetValidAndInitialized (chain : Chain) (module : Address) : Prop :=
  chain.controller.isSet chain.setTokenAddress = true ∧
    chain.setToken.moduleStates module = .INITIALIZED

instance (chain : Chain) (module : Address) :
    Decidable (chain.isSetValidAndInitialized module) :=
  inferInstanceAs (Decidable (_ ∧ _))

def validateOnlyManagerAndValidSet (chain : Chain) (module sender : Address) :
    Outcome Unit := do
  require (chain.setToken.manager = sender) "Must be the SetToken manager"
  require (chain.isSetValidAndInitialized module)
    "Must be a valid and initialized SetToken"

def validateOnlySetManager (chain : Chain) (caller : Address) : Outcome Unit :=
  require (chain.setToken.manager = caller) "Must be the SetToken manager"

def validateOnlyValidAndInitializedSet (chain : Chain) (module : Address) :
    Outcome Unit :=
  require (chain.isSetValidAndInitialized module)
    "Must be a valid and initialized SetToken"

def validateOnlyModule (chain : Chain) (sender : Address) : Outcome Unit :=
  chain.setToken.validateOnlyModule chain.controller sender

def validateOnlyValidAndPendingSet (chain : Chain) (module : Address) :
    Outcome Unit := do
  require (chain.controller.isSet chain.setTokenAddress = true)
    "Must be controller-enabled SetToken"
  require (chain.setToken.moduleStates module = .PENDING)
    "Must be pending initialization"

/-- The fee of one type that a module takes of a quantity. -/
def getModuleFee (chain : Chain) (module : Address) (feeIndex quantity : ℕ) :
    Outcome ℕ :=
  PreciseUnitMath.preciseMul quantity (chain.controller.getModuleFee module feeIndex)

def payProtocolFeeFromSetToken (chain : Chain) (module token : Address)
    (feeQuantity : ℕ) : Outcome Chain :=
  if 0 < feeQuantity then
    chain.strictInvokeTransfer module token chain.controller.feeRecipient feeQuantity
  else pure chain

/-- The SetToken holds, for each component, at least what its default position
promises to all shares together. -/
def Collateralized (chain : Chain) : Prop :=
  ∀ component ∈ chain.setToken.components,
    Backing.Backed PreciseUnitMath.preciseUnit chain.setToken.totalSupply
      (chain.setToken.defaultRealUnit component) (chain.heldBalance component)

/-- The SetToken holds what `getDefaultTrackedBalance` says of each component. -/
def Tracked (chain : Chain) : Prop :=
  ∀ component ∈ chain.setToken.components,
    chain.setToken.totalSupply * chain.setToken.defaultRealUnit component /
      PreciseUnitMath.preciseUnit ≤ chain.heldBalance component

/-! ## What the helpers do -/

variable {chain next : Chain} {token source target module account : Address}
variable {quantity : ℕ}

@[simp]
theorem balanceOf_withLedger_self {ledger : Address → ℕ} {holder : Address} :
    (chain.withLedger token ledger).balanceOf token holder = ledger holder := by
  simp [balanceOf, withLedger]

@[simp]
theorem heldBalance_withLedger_self {ledger : Address → ℕ} :
    (chain.withLedger token ledger).heldBalance token =
      ledger chain.setTokenAddress := by
  simp [heldBalance, withLedger]

@[simp]
theorem heldBalance_withLedger_of_ne {ledger : Address → ℕ} {other : Address}
    (hne : other ≠ token) :
    (chain.withLedger token ledger).heldBalance other = chain.heldBalance other := by
  simp [heldBalance, withLedger, hne]

@[simp]
theorem heldBalance_withSetToken {setToken : SetToken} :
    (chain.withSetToken setToken).heldBalance token = chain.heldBalance token := rfl

theorem moveTokens_eq_ok :
    chain.moveTokens token source target quantity = .ok next ↔
      quantity ≤ chain.balanceOf token source ∧
        chain.withLedger token
          (Ledger.move (chain.balances token) source target quantity) = next := by
  simp only [moveTokens, bind_eq_ok, require_eq_ok, pure_eq_ok, exists_const]

/-- A transfer in of a positive quantity comes from another account. -/
theorem transferFrom_eq_ok (hquantity : 0 < quantity)
    (hcall : chain.transferFrom token source target quantity = .ok next) :
    source ≠ target ∧ quantity ≤ chain.balanceOf token source ∧
      next = chain.withLedger token
        (Ledger.move (chain.balances token) source target quantity) := by
  simp only [transferFrom, hquantity, if_true, bind_eq_ok, moveTokens_eq_ok,
    SafeMath.add_eq_ok, require_eq_ok, exists_const, pure_eq_ok] at hcall
  obtain ⟨_, ⟨hfunds, rfl⟩, _, ⟨-, rfl⟩, hexact, rfl⟩ := hcall
  refine ⟨?_, hfunds, rfl⟩
  rintro rfl
  simp only [balanceOf_withLedger_self] at hexact
  simp only [balanceOf] at hexact hfunds
  rw [Ledger.move_self hfunds] at hexact
  omega

/-- A transfer out of a positive quantity goes to another account. -/
theorem strictInvokeTransfer_eq_ok (hquantity : 0 < quantity)
    (hcall : chain.strictInvokeTransfer module token target quantity = .ok next) :
    chain.setTokenAddress ≠ target ∧ quantity ≤ chain.heldBalance token ∧
      next = chain.withLedger token
        (Ledger.move (chain.balances token) chain.setTokenAddress target quantity) := by
  simp only [strictInvokeTransfer, invokeTransfer, hquantity, if_true, bind_eq_ok,
    moveTokens_eq_ok, SafeMath.sub_eq_ok, require_eq_ok, exists_const,
    pure_eq_ok] at hcall
  obtain ⟨_, ⟨_, -, hfunds, rfl⟩, _, ⟨-, rfl⟩, hexact, rfl⟩ := hcall
  refine ⟨?_, hfunds, rfl⟩
  intro hself
  rw [heldBalance_withLedger_self, hself,
    Ledger.move_self (by rw [← hself]; exact hfunds), ← hself] at hexact
  simp only [balanceOf, heldBalance] at hexact hfunds
  omega

theorem strictInvokeTransfer_returns
    (hguard : chain.setToken.onlyModuleWhenLockedOnlyLocker chain.controller module = .ok ())
    (hother : 0 < quantity → chain.setTokenAddress ≠ target)
    (hfunds : quantity ≤ chain.heldBalance token) :
    ∃ next, chain.strictInvokeTransfer module token target quantity = .ok next := by
  by_cases hquantity : 0 < quantity
  · have hmoved : (chain.withLedger token (Ledger.move (chain.balances token)
        chain.setTokenAddress target quantity)).heldBalance token =
          chain.heldBalance token - quantity := by
      rw [heldBalance_withLedger_self]
      exact Ledger.move_source (hother hquantity)
    refine ⟨chain.withLedger token (Ledger.move (chain.balances token)
      chain.setTokenAddress target quantity), ?_⟩
    simp only [strictInvokeTransfer, invokeTransfer, hquantity, if_true, hguard,
      ok_bind, bind_eq_ok, moveTokens_eq_ok, SafeMath.sub_eq_ok, require_eq_ok,
      exists_const, pure_eq_ok]
    exact ⟨_, ⟨hfunds, rfl⟩, _, ⟨hfunds, rfl⟩, hmoved, rfl⟩
  · exact ⟨chain, by rw [strictInvokeTransfer, if_neg hquantity]; rfl⟩

/-- A transfer in changes balances only. -/
theorem transferFrom_frame (hcall : chain.transferFrom token source target quantity =
    .ok next) : ∃ balances, next = { chain with balances := balances } := by
  by_cases hquantity : 0 < quantity
  · obtain ⟨-, -, rfl⟩ := transferFrom_eq_ok hquantity hcall
    exact ⟨_, rfl⟩
  · rw [transferFrom, if_neg hquantity, pure_eq_ok] at hcall
    exact ⟨_, hcall.symm⟩

/-- A transfer out changes balances only. -/
theorem strictInvokeTransfer_frame
    (hcall : chain.strictInvokeTransfer module token target quantity = .ok next) :
    ∃ balances, next = { chain with balances := balances } := by
  by_cases hquantity : 0 < quantity
  · obtain ⟨-, -, rfl⟩ := strictInvokeTransfer_eq_ok hquantity hcall
    exact ⟨_, rfl⟩
  · rw [strictInvokeTransfer, if_neg hquantity, pure_eq_ok] at hcall
    exact ⟨_, hcall.symm⟩

/-- A transfer of nothing does nothing, so that looking at the quantity first changes
nothing. -/
theorem transferFrom_if_pos :
    (if 0 < quantity then chain.transferFrom token source target quantity else .ok chain) =
      chain.transferFrom token source target quantity := by
  by_cases hquantity : 0 < quantity
  · rw [if_pos hquantity]
  · rw [if_neg hquantity, transferFrom, if_neg hquantity]
    rfl

theorem strictInvokeTransfer_if_pos :
    (if 0 < quantity then chain.strictInvokeTransfer module token target quantity
      else pure chain) = chain.strictInvokeTransfer module token target quantity := by
  by_cases hquantity : 0 < quantity
  · rw [if_pos hquantity]
  · rw [if_neg hquantity, strictInvokeTransfer, if_neg hquantity]

/-- The protocol fee is a transfer to its recipient. -/
theorem payProtocolFeeFromSetToken_eq :
    chain.payProtocolFeeFromSetToken module token quantity =
      chain.strictInvokeTransfer module token chain.controller.feeRecipient quantity :=
  strictInvokeTransfer_if_pos

/-- A transfer to the SetToken raises its balance of that token only. -/
theorem heldBalance_of_transferFrom
    (hcall : chain.transferFrom token source chain.setTokenAddress quantity = .ok next) :
    next.heldBalance token = chain.heldBalance token + quantity ∧
      ∀ other, other ≠ token → next.heldBalance other = chain.heldBalance other := by
  by_cases hquantity : 0 < quantity
  · obtain ⟨hothers, -, rfl⟩ := transferFrom_eq_ok hquantity hcall
    refine ⟨?_, fun other hother => heldBalance_withLedger_of_ne hother⟩
    rw [heldBalance_withLedger_self]
    exact Ledger.move_target hothers
  · rw [transferFrom, if_neg hquantity, pure_eq_ok] at hcall
    subst hcall
    exact ⟨by omega, fun _ _ => rfl⟩

/-- A transfer among other accounts never lowers a balance of the SetToken. -/
theorem heldBalance_le_of_transferFrom (hsource : source ≠ chain.setTokenAddress)
    (hcall : chain.transferFrom token source target quantity = .ok next) :
    chain.heldBalance token ≤ next.heldBalance token ∧
      ∀ other, other ≠ token → next.heldBalance other = chain.heldBalance other := by
  by_cases hquantity : 0 < quantity
  · obtain ⟨-, -, rfl⟩ := transferFrom_eq_ok hquantity hcall
    refine ⟨?_, fun other hother => heldBalance_withLedger_of_ne hother⟩
    rw [heldBalance_withLedger_self]
    refine le_of_eq_of_le ?_ (Ledger.le_credit _ _ _ _)
    exact (Ledger.debit_of_ne hsource.symm).symm
  · rw [transferFrom, if_neg hquantity, pure_eq_ok] at hcall
    subst hcall
    exact ⟨le_rfl, fun _ _ => rfl⟩

/-- A transfer from the SetToken lowers its balance of that token only. -/
theorem heldBalance_of_strictInvokeTransfer
    (hcall : chain.strictInvokeTransfer module token target quantity = .ok next) :
    quantity ≤ chain.heldBalance token ∧
      next.heldBalance token = chain.heldBalance token - quantity ∧
      ∀ other, other ≠ token → next.heldBalance other = chain.heldBalance other := by
  by_cases hquantity : 0 < quantity
  · obtain ⟨hothers, hfunds, rfl⟩ := strictInvokeTransfer_eq_ok hquantity hcall
    refine ⟨hfunds, ?_, fun other hother => heldBalance_withLedger_of_ne hother⟩
    rw [heldBalance_withLedger_self]
    exact Ledger.move_source hothers
  · rw [strictInvokeTransfer, if_neg hquantity, pure_eq_ok] at hcall
    subst hcall
    exact ⟨by omega, by omega, fun _ _ => rfl⟩

/-- The receiver of a transfer from the SetToken gains what is sent. -/
theorem balanceOf_of_strictInvokeTransfer
    (hcall : chain.strictInvokeTransfer module token target quantity = .ok next) :
    next.balanceOf token target = chain.balanceOf token target + quantity ∧
      ∀ holder, holder ≠ chain.setTokenAddress → holder ≠ target →
        next.balanceOf token holder = chain.balanceOf token holder := by
  by_cases hquantity : 0 < quantity
  · obtain ⟨hothers, -, rfl⟩ := strictInvokeTransfer_eq_ok hquantity hcall
    refine ⟨?_, fun holder hsource htarget => ?_⟩
    · rw [balanceOf_withLedger_self]
      exact Ledger.move_target hothers
    · rw [balanceOf_withLedger_self]
      exact Ledger.move_of_ne hsource htarget
  · rw [strictInvokeTransfer, if_neg hquantity, pure_eq_ok] at hcall
    subst hcall
    exact ⟨by omega, fun _ _ _ => rfl⟩

/-- A transfer from the SetToken leaves the other tokens alone. -/
theorem ledger_of_strictInvokeTransfer {other : Address} (hother : other ≠ token)
    (hcall : chain.strictInvokeTransfer module token target quantity = .ok next) :
    next.balances other = chain.balances other := by
  by_cases hquantity : 0 < quantity
  · obtain ⟨-, -, rfl⟩ := strictInvokeTransfer_eq_ok hquantity hcall
    simp [withLedger, hother]
  · rw [strictInvokeTransfer, if_neg hquantity, pure_eq_ok] at hcall
    rw [hcall]

/-- The checks of a manager's call revert for their own reasons. -/
theorem revertsOnly_validateOnlyManagerAndValidSet {allowed : String → Prop}
    {sender : Address} (hmanager : allowed "Must be the SetToken manager")
    (hvalid : allowed "Must be a valid and initialized SetToken") :
    RevertsOnly allowed (chain.validateOnlyManagerAndValidSet module sender) :=
  (revertsOnly_require fun _ => hmanager).bind fun _ _ => revertsOnly_require fun _ => hvalid

/-- A call that never reverts for lack of balance. -/
abbrev Funded {A : Type} (call : Outcome A) : Prop :=
  RevertsOnly (fun reason => reason ≠ insufficientBalance) call

theorem funded_of_arithmetic {A : Type} {call : Outcome A} (hcall : Arithmetic call) :
    Funded call :=
  hcall.mono (by decide)

theorem funded_guard {setToken : SetToken} {controller : Controller} {sender : Address} :
    Funded (setToken.onlyModuleWhenLockedOnlyLocker controller sender) :=
  (SetToken.revertsOnly_guard setToken controller sender).mono (by decide)

theorem funded_strictInvokeTransfer (hfunds : quantity ≤ chain.heldBalance token) :
    Funded (chain.strictInvokeTransfer module token target quantity) := by
  refine RevertsOnly.ite (fun hquantity => ?_) fun _ => revertsOnly_pure _
  refine RevertsOnly.bind ?_ fun moved _ => ?_
  · rw [invokeTransfer, if_pos hquantity]
    exact funded_guard.bind fun _ _ =>
      (revertsOnly_require fun hlacking => absurd hfunds hlacking).bind fun _ _ =>
        revertsOnly_pure _
  · exact (funded_of_arithmetic (SafeMath.arithmetic_sub _ _)).bind fun _ _ =>
      (revertsOnly_require fun _ => by decide).bind fun _ _ => revertsOnly_pure _

theorem funded_mint : Funded (chain.mint module account quantity) := by
  refine funded_guard.bind fun _ _ => ?_
  refine (revertsOnly_require fun _ => by decide).bind fun _ _ => ?_
  refine (funded_of_arithmetic (SafeMath.arithmetic_add _ _)).bind fun _ _ => ?_
  exact (funded_of_arithmetic (SafeMath.arithmetic_add _ _)).bind fun _ _ =>
    revertsOnly_pure _

theorem funded_burn : Funded (chain.burn module account quantity) := by
  refine funded_guard.bind fun _ _ => ?_
  refine (revertsOnly_require fun _ => by decide).bind fun _ _ => ?_
  refine (revertsOnly_require fun _ => by decide).bind fun _ _ => ?_
  exact (funded_of_arithmetic (SafeMath.arithmetic_sub _ _)).bind fun _ _ =>
    revertsOnly_pure _

theorem mint_eq_ok (hcall : chain.mint module account quantity = .ok next) :
    chain.setToken.onlyModuleWhenLockedOnlyLocker chain.controller module = .ok () ∧
      chain.setToken.totalSupply + quantity ≤ maxUint256 ∧
      next = (chain.withLedger chain.setTokenAddress
        (Ledger.credit (chain.balances chain.setTokenAddress) account quantity)
          ).withSetToken
            { chain.setToken with
              totalSupply := chain.setToken.totalSupply + quantity } := by
  simp only [mint, bind_eq_ok, require_eq_ok, SafeMath.add_eq_ok, pure_eq_ok] at hcall
  obtain ⟨_, hguard, _, -, _, ⟨hfits, rfl⟩, _, -, rfl⟩ := hcall
  exact ⟨hguard, hfits, rfl⟩

/-- A mint that fits returns. -/
theorem mint_of_fits
    (hguard : chain.setToken.onlyModuleWhenLockedOnlyLocker chain.controller module =
      .ok ())
    (haccount : account ≠ zeroAddress)
    (hsupply : chain.setToken.totalSupply + quantity ≤ maxUint256)
    (hbalance : chain.balanceOf chain.setTokenAddress account + quantity ≤ maxUint256) :
    ∃ minted, chain.mint module account quantity = .ok minted := by
  simp only [mint, bind_eq_ok, require_eq_ok, SafeMath.add_eq_ok, pure_eq_ok]
  exact ⟨_, (), hguard, (), haccount, _, ⟨hsupply, rfl⟩, _, ⟨hbalance, rfl⟩, rfl⟩

theorem mint_checks (hcall : chain.mint module account quantity = .ok next) :
    chain.setToken.onlyModuleWhenLockedOnlyLocker chain.controller module = .ok () ∧
      account ≠ zeroAddress := by
  simp only [mint, bind_eq_ok, require_eq_ok] at hcall
  obtain ⟨_, hguard, _, haccount, -⟩ := hcall
  exact ⟨hguard, haccount⟩

theorem burn_eq_ok (hcall : chain.burn module account quantity = .ok next) :
    chain.setToken.onlyModuleWhenLockedOnlyLocker chain.controller module = .ok () ∧
      quantity ≤ chain.balanceOf chain.setTokenAddress account ∧
      quantity ≤ chain.setToken.totalSupply ∧
      next = (chain.withLedger chain.setTokenAddress
        (Ledger.debit (chain.balances chain.setTokenAddress) account quantity)
          ).withSetToken
            { chain.setToken with
              totalSupply := chain.setToken.totalSupply - quantity } := by
  simp only [burn, bind_eq_ok, require_eq_ok, SafeMath.sub_eq_ok, pure_eq_ok] at hcall
  obtain ⟨_, hguard, _, -, _, hfunds, _, ⟨hsupply, rfl⟩, rfl⟩ := hcall
  exact ⟨hguard, hfunds, hsupply, rfl⟩

/-- A mint raises the supply, and no balance of the SetToken falls. -/
theorem mint_holdings (hcall : chain.mint module account quantity = .ok next) :
    next.setTokenAddress = chain.setTokenAddress ∧
      next.setToken = { chain.setToken with
        totalSupply := chain.setToken.totalSupply + quantity } ∧
      ∀ token, chain.heldBalance token ≤ next.heldBalance token := by
  obtain ⟨-, -, rfl⟩ := mint_eq_ok hcall
  refine ⟨rfl, rfl, fun token => ?_⟩
  by_cases hshare : token = chain.setTokenAddress
  · subst hshare
    rw [heldBalance_withSetToken, heldBalance_withLedger_self]
    exact Ledger.le_credit (chain.balances chain.setTokenAddress) account _ quantity
  · simp [hshare]

/-- Shares are minted in their own ledger. -/
theorem mint_other_tokens (hcall : chain.mint module account quantity = .ok next)
    (hother : token ≠ chain.setTokenAddress) :
    next.heldBalance token = chain.heldBalance token := by
  obtain ⟨-, -, rfl⟩ := mint_eq_ok hcall
  rw [heldBalance_withSetToken, heldBalance_withLedger_of_ne hother]

/-- A burn lowers the supply; it only takes from the SetToken if the SetToken gives
up shares of its own. -/
theorem burn_holdings (hcall : chain.burn module account quantity = .ok next) :
    next.setTokenAddress = chain.setTokenAddress ∧
      quantity ≤ chain.setToken.totalSupply ∧
      next.setToken = { chain.setToken with
        totalSupply := chain.setToken.totalSupply - quantity } ∧
      ∀ token, (account = chain.setTokenAddress → token ≠ chain.setTokenAddress) →
        next.heldBalance token = chain.heldBalance token := by
  obtain ⟨-, -, hsupply, rfl⟩ := burn_eq_ok hcall
  refine ⟨rfl, hsupply, rfl, fun token houtside => ?_⟩
  by_cases hshare : token = chain.setTokenAddress
  · subst hshare
    have hother : chain.setTokenAddress ≠ account := fun heq => houtside heq.symm rfl
    rw [heldBalance_withSetToken, heldBalance_withLedger_self, Ledger.debit_of_ne hother]
    rfl
  · simp [hshare]

end Chain

end SetProtocol
