import SetProtocol.Core.Chain

/-!
# The basic issuance module

The module for Sets with default positions only.  Issuing takes every component in,
rounded up, and mints; redeeming burns, and pays every component out, rounded down.  The
manager's hook is code that the module does not know; it acts on the world before anything
moves.
-/

namespace SetProtocol.BasicIssuanceModule

open Transaction PreciseUnitMath

/-- What a call of this module reads and writes. -/
structure World (E : Type) extends Chain where
  managerIssuanceHook : Address
  environment : E

variable {E : Type}

def World.withChain (world : World E) (chain : Chain) : World E :=
  { world with toChain := chain }

/-- The managers' contracts: hook, quantity, caller and receiver. -/
abbrev PreIssueHooks (E : Type) :=
  Address → ℕ → Address → Address → World E → Outcome (World E)

def onlyDefaultPositions : String := "Only default positions are supported"

def componentUnitsForIssue (setToken : SetToken) (quantity : ℕ) (component : Address) :
    Outcome (Address × ℕ) := do
  require (Position.hasExternalPosition setToken component = false) onlyDefaultPositions
  let unit ← setToken.getDefaultPositionRealUnit component
  let unit ← SafeCast.toUint256 unit
  let notionalUnits ← preciseMulCeil unit quantity
  pure (component, notionalUnits)

def getRequiredComponentUnitsForIssue (module : Address) (chain : Chain) (quantity : ℕ) :
    Outcome (List (Address × ℕ)) := do
  chain.validateOnlyValidAndInitializedSet module
  chain.setToken.components.mapM (componentUnitsForIssue chain.setToken quantity)

def callPreIssueHooks (hooks : PreIssueHooks E) (world : World E) (quantity : ℕ)
    (caller target : Address) : Outcome (World E) :=
  if world.managerIssuanceHook ≠ zeroAddress then
    hooks world.managerIssuanceHook quantity caller target world
  else pure world

def collectComponent (sender : Address) (chain : Chain) (entry : Address × ℕ) :
    Outcome Chain :=
  chain.transferFrom entry.1 sender chain.setTokenAddress entry.2

def issue (hooks : PreIssueHooks E) (module : Address) (world : World E) (sender : Address)
    (quantity : ℕ) (target : Address) : Outcome (World E) := do
  world.validateOnlyValidAndInitializedSet module
  require (0 < quantity) "Issue quantity must be > 0"
  let world ← callPreIssueHooks hooks world quantity sender target
  let required ← getRequiredComponentUnitsForIssue module world.toChain quantity
  let chain ← required.foldlM (collectComponent sender) world.toChain
  let chain ← chain.mint module target quantity
  pure (world.withChain chain)

/-- One turn of the loop of `redeem`. -/
def payComponent (module target : Address) (quantity : ℕ) (chain : Chain)
    (component : Address) : Outcome Chain := do
  require (Position.hasExternalPosition chain.setToken component = false)
    onlyDefaultPositions
  let unit ← chain.setToken.getDefaultPositionRealUnit component
  let unit ← SafeCast.toUint256 unit
  let componentQuantity ← preciseMul quantity unit
  chain.strictInvokeTransfer module component target componentQuantity

def redeem (module : Address) (world : World E) (sender : Address) (quantity : ℕ)
    (target : Address) : Outcome (World E) := do
  world.validateOnlyValidAndInitializedSet module
  require (0 < quantity) "Redeem quantity must be > 0"
  let chain ← world.burn module sender quantity
  let chain ← chain.setToken.components.foldlM (payComponent module target quantity) chain
  pure (world.withChain chain)

def initializeModule (module : Address) (world : World E) (sender preIssueHook : Address) :
    Outcome (World E) := do
  world.validateOnlySetManager sender
  world.validateOnlyValidAndPendingSet module
  let setToken ← world.setToken.initializeModule module
  pure { world.withChain (world.withSetToken setToken) with
    managerIssuanceHook := preIssueHook }

/-- Called by the SetToken: refuses, so that holders always have a way to redeem. -/
def removeModule (_ : World E) : Outcome (World E) :=
  .error "The BasicIssuanceModule module cannot be removed"

/-- `removeModule` of the SetToken, with the callback of this module. -/
def leaveSetToken (module : Address) (world : World E) (sender : Address) :
    Outcome (World E) := do
  world.setToken.validateRemoveModule sender module
  let world ← removeModule world
  let setToken ← world.setToken.forgetModule module
  pure (world.withChain (world.withSetToken setToken))

end SetProtocol.BasicIssuanceModule
