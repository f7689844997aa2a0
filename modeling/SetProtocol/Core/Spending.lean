import SetProtocol.Core.Venue

/-!
# Spending the tokens of a SetToken

Manager modules make the SetToken call other protocols and tell them how much of its
tokens to use.  Such a call may do anything to the world around it, so it is a function
of the environment.  What the modules pass on is kept in a record, and calls of other
contracts have no access to it.
-/

namespace SetProtocol

open Transaction

/-- A call made by the SetToken. -/
structure Invocation where
  target : Address
  value : ℕ
  data : Bytes

/-- How much of a token a module passes to another protocol. -/
structure Spend where
  token : Address
  quantity : ℕ
  deriving DecidableEq

/-- What a call made by the SetToken can reach. -/
structure Surroundings (P : Type) extends Chain where
  /-- Storage of the other protocols. -/
  protocols : P
  ether : Address → ℕ
  /-- What others may pull from the SetToken: token, then spender. -/
  allowances : Address → Address → ℕ

structure Outlays (P : Type) extends Surroundings P where
  /-- Oldest first. -/
  spends : List Spend

/-- The integration registry, and the code outside of the repository. -/
structure Network (P : Type) where
  registry : IntegrationRegistry
  weth : Address
  execute : Invocation → Surroundings P → Outcome (Surroundings P)

namespace Surroundings

variable {P : Type}

def withChain (surroundings : Surroundings P) (chain : Chain) : Surroundings P :=
  { surroundings with toChain := chain }

def withEther (surroundings : Surroundings P) (ether : Address → ℕ) : Surroundings P :=
  { surroundings with ether := ether }

/-- The SetToken calls a contract, and sends Ether along. -/
def invoke (network : Network P) (module : Address) (surroundings : Surroundings P)
    (invocation : Invocation) : Outcome (Surroundings P) := do
  surroundings.setToken.onlyModuleWhenLockedOnlyLocker surroundings.controller module
  require (invocation.value ≤ surroundings.ether surroundings.setTokenAddress)
    "Address: insufficient balance for call"
  network.execute invocation (surroundings.withEther
    (Ledger.move surroundings.ether surroundings.setTokenAddress invocation.target
      invocation.value))

def invokeApprove (module : Address) (surroundings : Surroundings P)
    (token spender : Address) (quantity : ℕ) : Outcome (Surroundings P) := do
  surroundings.setToken.onlyModuleWhenLockedOnlyLocker surroundings.controller module
  pure { surroundings with
    allowances := Function.update surroundings.allowances token
      (Function.update (surroundings.allowances token) spender quantity) }

/-- `WETH9.withdraw`, called by the SetToken. -/
def invokeUnwrapWETH (module : Address) (surroundings : Surroundings P) (weth : Address)
    (quantity : ℕ) : Outcome (Surroundings P) := do
  surroundings.setToken.onlyModuleWhenLockedOnlyLocker surroundings.controller module
  require (quantity ≤ surroundings.heldBalance weth ∧ quantity ≤ surroundings.ether weth)
    "Address: low-level call with value failed"
  let chain := surroundings.withLedger weth
    (Ledger.debit (surroundings.balances weth) surroundings.setTokenAddress quantity)
  pure ((surroundings.withChain chain).withEther
    (Ledger.move surroundings.ether weth surroundings.setTokenAddress quantity))

/-- `WETH9.deposit`, called by the SetToken. -/
def invokeWrapWETH (module : Address) (surroundings : Surroundings P) (weth : Address)
    (quantity : ℕ) : Outcome (Surroundings P) := do
  surroundings.setToken.onlyModuleWhenLockedOnlyLocker surroundings.controller module
  require (quantity ≤ surroundings.ether surroundings.setTokenAddress)
    "Address: insufficient balance for call"
  let chain := surroundings.withLedger weth
    (Ledger.credit (surroundings.balances weth) surroundings.setTokenAddress quantity)
  pure ((surroundings.withChain chain).withEther
    (Ledger.move surroundings.ether surroundings.setTokenAddress weth quantity))

end Surroundings

namespace Outlays

variable {P : Type}

def withSurroundings (outlays : Outlays P) (surroundings : Surroundings P) : Outlays P :=
  { outlays with toSurroundings := surroundings }

/-- Other contracts get to work with these quantities. -/
def withSpends (outlays : Outlays P) (spends : List Spend) : Outlays P :=
  { outlays with spends := outlays.spends ++ spends }

def withChain (outlays : Outlays P) (chain : Chain) : Outlays P :=
  outlays.withSurroundings (outlays.toSurroundings.withChain chain)

/-- Recompute the default position of a component from its current balance.  Returns
that balance as well. -/
def updateDefaultPosition (outlays : Outlays P) (module component : Address)
    (setTotalSupply componentPreviousBalance : ℕ) :
    Outcome (Outlays P × ℕ) := do
  let currentBalance := outlays.heldBalance component
  let (setToken, _, _) ← Position.calculateAndEditDefaultPosition outlays.setToken
    outlays.controller module component currentBalance setTotalSupply
    componentPreviousBalance
  pure (outlays.withChain (outlays.withSetToken setToken), currentBalance)

/-- What `getDefaultTrackedBalance` says of a token. -/
def tracked (outlays : Outlays P) (token : Address) : ℕ :=
  outlays.setToken.totalSupply * outlays.setToken.defaultRealUnit token /
    PreciseUnitMath.preciseUnit

@[simp]
theorem withSurroundings_spends (outlays : Outlays P) (surroundings : Surroundings P) :
    (outlays.withSurroundings surroundings).spends = outlays.spends := rfl

@[simp]
theorem withChain_spends (outlays : Outlays P) (chain : Chain) :
    (outlays.withChain chain).spends = outlays.spends := rfl

@[simp]
theorem withSpends_spends (outlays : Outlays P) (spends : List Spend) :
    (outlays.withSpends spends).spends = outlays.spends ++ spends := rfl

/-- Units that the position has scale to no more than it tracks. -/
theorem scaled_le_tracked {outlays : Outlays P} {token : Address} {unit : ℕ}
    (hcovered : unit ≤ outlays.setToken.defaultRealUnit token) :
    outlays.setToken.totalSupply * unit / PreciseUnitMath.preciseUnit ≤
      outlays.tracked token :=
  Nat.div_le_div_right (Nat.mul_le_mul_left _ hcovered)

theorem updateDefaultPosition_spends {module component : Address}
    {outlays : Outlays P} {setTotalSupply previousBalance : ℕ} {result : Outlays P × ℕ}
    (hcall : outlays.updateDefaultPosition module component setTotalSupply
      previousBalance = .ok result) : result.1.spends = outlays.spends := by
  simp only [updateDefaultPosition, bind_eq_ok, pure_eq_ok] at hcall
  obtain ⟨_, -, rfl⟩ := hcall
  rfl

end Outlays

namespace Position

variable {setToken : SetToken} {component : Address} {unit : ℕ} {sufficient : Bool}

/-- The check is about units. -/
theorem hasSufficientDefaultUnits_eq_ok
    (hcall : hasSufficientDefaultUnits setToken component unit = .ok sufficient)
    (hunit : 0 < unit) :
    sufficient = true ↔ unit ≤ setToken.defaultRealUnit component := by
  simp only [hasSufficientDefaultUnits, bind_eq_ok, SafeCast.toInt256_eq_ok,
    pure_eq_ok] at hcall
  obtain ⟨realUnit, hreal, _, ⟨-, rfl⟩, rfl⟩ := hcall
  rw [decide_eq_true_iff, SetToken.defaultRealUnit,
    ← SetToken.getDefaultPositionRealUnit_eq_ok hreal]
  omega

/-- What passes the check is covered. -/
theorem le_defaultRealUnit_of_sufficient
    (hcall : hasSufficientDefaultUnits setToken component unit = .ok true) :
    unit ≤ setToken.defaultRealUnit component := by
  rcases Nat.eq_zero_or_pos unit with rfl | hunit
  · exact Nat.zero_le _
  · exact (hasSufficientDefaultUnits_eq_ok hcall hunit).mp rfl

theorem arithmetic_hasSufficientDefaultUnits (setToken : SetToken) (component : Address)
    (unit : ℕ) : Arithmetic (hasSufficientDefaultUnits setToken component unit) := by
  refine (SetToken.arithmetic_convertVirtualToRealUnit _ _).bind fun _ _ => ?_
  exact (SafeCast.arithmetic_toInt256 unit).bind fun _ _ => revertsOnly_pure _

theorem arithmetic_hasDefaultPosition (setToken : SetToken) (component : Address) :
    Arithmetic (hasDefaultPosition setToken component) :=
  (SetToken.arithmetic_convertVirtualToRealUnit _ _).bind fun _ _ => revertsOnly_pure _

theorem arithmetic_getDefaultTotalNotional (setTokenSupply positionUnit : ℕ) :
    Arithmetic (getDefaultTotalNotional setTokenSupply positionUnit) :=
  PreciseUnitMath.arithmetic_preciseMul setTokenSupply positionUnit

end Position

end SetProtocol
