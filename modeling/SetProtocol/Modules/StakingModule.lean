import SetProtocol.Core.Venue

/-!
# The staking module

The manager stakes units of a component in staking contracts.  The module remembers the
staked units for each contract, and the SetToken holds their sum as an external position
of the module.  Issuance and redemption replicate every staked position.
-/

namespace SetProtocol.StakingModule

open Transaction

structure StakingPosition where
  /-- An adapter is found by the hash of its name. -/
  adapterName : String
  componentPositionUnits : ℕ

/-- The staked positions of one component. -/
structure ComponentPositions where
  stakingContracts : List Address
  positions : Address → StakingPosition

structure World (P : Type) extends Venue P where
  /-- By component. -/
  stakingPositions : Address → ComponentPositions

/-- The integration registry, and the staking contracts behind the adapters.  The calls
are made for an account and return what it pays or receives. -/
structure Staking (P : Type) where
  registry : IntegrationRegistry
  stake (adapter stakeContract : Address) (notionalQuantity : ℕ) (account : Address) :
    P → Outcome (P × ℕ)
  unstake (adapter stakeContract : Address) (notionalQuantity : ℕ) (account : Address) :
    P → Outcome (P × ℕ)

/-- Deleted storage. -/
def noStakingPosition : StakingPosition := ⟨"", 0⟩

variable {P : Type}

def World.withVenue (world : World P) (venue : Venue P) : World P :=
  { world with toVenue := venue }

/-- The positions of one component replaced. -/
def World.withPositions (world : World P) (component : Address)
    (positions : ComponentPositions) : World P :=
  { world with
    stakingPositions := Function.update world.stakingPositions component positions }

/-! ## Views -/

def getStakingContracts (world : World P) (component : Address) : List Address :=
  (world.stakingPositions component).stakingContracts

def hasStakingPosition (world : World P) (component stakeContract : Address) : Bool :=
  AddressArrayUtils.contains (getStakingContracts world component) stakeContract

def getStakingPosition (world : World P) (component stakeContract : Address) :
    StakingPosition :=
  (world.stakingPositions component).positions stakeContract

def getStakingPositionUnit (world : World P) (component stakeContract : Address) : ℕ :=
  (getStakingPosition world component stakeContract).componentPositionUnits

/-! ## Calling the staking contracts -/

/-- `_stake` -/
def invokeStake (staking : Staking P) (module : Address) (venue : Venue P)
    (stakeContract component adapter : Address)
    (componentPositionUnits setTokenStakeQuantity : ℕ) : Outcome (Venue P) := do
  let notionalStakeQuantity ←
    Position.getDefaultTotalNotional setTokenStakeQuantity componentPositionUnits
  venue.invokePaying ⟨.stake, module, stakeContract, component, notionalStakeQuantity⟩
    (staking.stake adapter stakeContract notionalStakeQuantity venue.setTokenAddress)

/-- `_unstake` -/
def invokeUnstake (staking : Staking P) (module : Address) (venue : Venue P)
    (stakeContract component adapter : Address)
    (componentPositionUnits setTokenUnstakeQuantity : ℕ) : Outcome (Venue P) := do
  let preActionBalance := venue.heldBalance component
  let notionalUnstakeQuantity ←
    Position.getDefaultTotalNotional setTokenUnstakeQuantity componentPositionUnits
  let unstaked ← venue.invokeReceiving
    ⟨.unstake, module, stakeContract, component, notionalUnstakeQuantity⟩
    (staking.unstake adapter stakeContract notionalUnstakeQuantity venue.setTokenAddress)
  let required ← SafeMath.add preActionBalance notionalUnstakeQuantity
  require (required ≤ unstaked.heldBalance component)
    "Not enough tokens returned from stake contract"
  pure unstaked

/-! ## Bookkeeping -/

/-- The module adds to a position, or opens one. -/
def addStakingUnits (positions : ComponentPositions) (stakeContract : Address)
    (adapterName : String) (componentPositionUnits : ℕ) : Outcome ComponentPositions :=
  if AddressArrayUtils.contains positions.stakingContracts stakeContract = true then do
    let position := positions.positions stakeContract
    let units ← SafeMath.add componentPositionUnits position.componentPositionUnits
    pure { positions with
      positions := Function.update positions.positions stakeContract
        { position with componentPositionUnits := units } }
  else pure {
    stakingContracts := positions.stakingContracts ++ [stakeContract]
    positions := Function.update positions.positions stakeContract
      ⟨adapterName, componentPositionUnits⟩ }

/-- The module pares a position down, or closes it. -/
def removeStakingUnits (positions : ComponentPositions) (stakeContract : Address)
    (componentPositionUnits : ℕ) : Outcome ComponentPositions := do
  let position := positions.positions stakeContract
  let remainingPositionUnits ←
    SafeMath.sub position.componentPositionUnits componentPositionUnits
  if 0 < remainingPositionUnits then
    pure { positions with
      positions := Function.update positions.positions stakeContract
        { position with componentPositionUnits := remainingPositionUnits } }
  else do
    let stakingContracts ← AddressArrayUtils.remove positions.stakingContracts stakeContract
    pure {
      stakingContracts := stakingContracts
      positions := Function.update positions.positions stakeContract noStakingPosition }

/-- `_updateStakeState` -/
def updateStakeState (module : Address) (world : World P)
    (stakeContract component : Address) (adapterName : String)
    (componentPositionUnits : ℕ) : Outcome (World P) := do
  let positions ← addStakingUnits (world.stakingPositions component) stakeContract
    adapterName componentPositionUnits
  let realUnit ← world.setToken.getDefaultPositionRealUnit component
  let defaultTokenUnit ← SafeCast.toUint256 realUnit
  let newDefaultTokenUnit ← SafeMath.sub defaultTokenUnit componentPositionUnits
  let edited ← Position.editDefaultPosition world.setToken world.controller module component
    newDefaultTokenUnit
  let externalTokenUnit ← edited.getExternalPositionRealUnit component module
  let stakedUnits ← SafeCast.toInt256 componentPositionUnits
  let newExternalTokenUnit ← SignedSafeMath.add externalTokenUnit stakedUnits
  let edited ← Position.editExternalPosition edited world.controller module component module
    newExternalTokenUnit []
  pure ((world.withPositions component positions).withVenue
    (world.withChain (world.withSetToken edited)))

/-- `_updateUnstakeState` -/
def updateUnstakeState (module : Address) (world : World P)
    (stakeContract component : Address) (componentPositionUnits : ℕ) :
    Outcome (World P) := do
  let positions ← removeStakingUnits (world.stakingPositions component) stakeContract
    componentPositionUnits
  let realUnit ← world.setToken.getDefaultPositionRealUnit component
  let defaultTokenUnit ← SafeCast.toUint256 realUnit
  let newTokenUnit ← SafeMath.add defaultTokenUnit componentPositionUnits
  let edited ← Position.editDefaultPosition world.setToken world.controller module component
    newTokenUnit
  let externalTokenUnit ← edited.getExternalPositionRealUnit component module
  let unstakedUnits ← SafeCast.toInt256 componentPositionUnits
  let newExternalTokenUnit ← SignedSafeMath.sub externalTokenUnit unstakedUnits
  let edited ← Position.editExternalPosition edited world.controller module component module
    newExternalTokenUnit []
  pure ((world.withPositions component positions).withVenue
    (world.withChain (world.withSetToken edited)))

/-! ## Staking and unstaking -/

def stake (staking : Staking P) (module : Address) (world : World P) (sender : Address)
    (stakeContract component : Address) (adapterName : String)
    (componentPositionUnits : ℕ) : Outcome (World P) := do
  world.validateOnlyManagerAndValidSet module sender
  let sufficient ← Position.hasSufficientDefaultUnits world.setToken component
    componentPositionUnits
  require (sufficient = true) "Not enough component to stake"
  let adapter ← getAndValidateAdapter staking.registry module adapterName
  let staked ← invokeStake staking module world.toVenue stakeContract component adapter
    componentPositionUnits world.setToken.totalSupply
  updateStakeState module (world.withVenue staked) stakeContract component adapterName
    componentPositionUnits

def unstake (staking : Staking P) (module : Address) (world : World P) (sender : Address)
    (stakeContract component : Address) (adapterName : String)
    (componentPositionUnits : ℕ) : Outcome (World P) := do
  world.validateOnlyManagerAndValidSet module sender
  require (componentPositionUnits ≤ getStakingPositionUnit world component stakeContract)
    "Not enough component tokens staked"
  let adapter ← getAndValidateAdapter staking.registry module adapterName
  let unstaked ← invokeUnstake staking module world.toVenue stakeContract component adapter
    componentPositionUnits world.setToken.totalSupply
  updateUnstakeState module (world.withVenue unstaked) stakeContract component
    componentPositionUnits

/-! ## Hooks of the issuance module -/

/-- Body of the loop over the staking contracts of a component. -/
def replicateStake (staking : Staking P) (module : Address)
    (stakingPositions : ComponentPositions) (component : Address) (setTokenQuantity : ℕ)
    (venue : Venue P) (stakeContract : Address) : Outcome (Venue P) := do
  let position := stakingPositions.positions stakeContract
  let adapter ← getAndValidateAdapter staking.registry module position.adapterName
  invokeStake staking module venue stakeContract component adapter
    position.componentPositionUnits setTokenQuantity

def replicateUnstake (staking : Staking P) (module : Address)
    (stakingPositions : ComponentPositions) (component : Address) (setTokenQuantity : ℕ)
    (venue : Venue P) (stakeContract : Address) : Outcome (Venue P) := do
  let position := stakingPositions.positions stakeContract
  let adapter ← getAndValidateAdapter staking.registry module position.adapterName
  invokeUnstake staking module venue stakeContract component adapter
    position.componentPositionUnits setTokenQuantity

/-- The flag for equity is not looked at. -/
def componentIssueHook (staking : Staking P) (module : Address) (world : World P)
    (sender : Address) (setTokenQuantity : ℕ) (component : Address) (_isEquity : Bool) :
    Outcome (World P) := do
  world.validateOnlyModule sender
  let staked ← (getStakingContracts world component).foldlM
    (replicateStake staking module (world.stakingPositions component) component
      setTokenQuantity) world.toVenue
  pure (world.withVenue staked)

def componentRedeemHook (staking : Staking P) (module : Address) (world : World P)
    (sender : Address) (setTokenQuantity : ℕ) (component : Address) (_isEquity : Bool) :
    Outcome (World P) := do
  world.validateOnlyModule sender
  let unstaked ← (getStakingContracts world component).foldlM
    (replicateUnstake staking module (world.stakingPositions component) component
      setTokenQuantity) world.toVenue
  pure (world.withVenue unstaked)

/-- Called by the SetToken: refuses to leave open positions of its components. -/
def removeModule (world : World P) : Outcome (World P) := do
  require (∀ component ∈ world.setToken.components,
    (getStakingContracts world component).length = 0) "Open positions must be closed"
  pure world

/-! ## What the hooks do -/

open PreciseUnitMath Venue

variable {staking : Staking P} {module sender stakeContract component adapter : Address}
variable {venue after : Venue P} {world next : World P} {staked quantity : ℕ}

/-- Calling a staking contract leaves the SetToken's own storage alone. -/
theorem invokeStake_same
    (hcall : invokeStake staking module venue stakeContract component adapter staked
      quantity = .ok after) :
    SameSetToken venue after ∧ after.protocolCalls = venue.protocolCalls ++
      [⟨.stake, module, stakeContract, component, quantity * staked / preciseUnit⟩] := by
  simp only [invokeStake, Position.getDefaultTotalNotional, bind_eq_ok,
    preciseMul_eq_ok] at hcall
  obtain ⟨_, ⟨-, rfl⟩, hpaid⟩ := hcall
  obtain ⟨protocols, _, chain, -, -, hmoved, rfl⟩ := invokePaying_eq_ok hpaid
  exact ⟨sameSetToken_of_moveTokens hmoved _ _, rfl⟩

theorem invokeUnstake_same
    (hcall : invokeUnstake staking module venue stakeContract component adapter staked
      quantity = .ok after) :
    SameSetToken venue after ∧ after.protocolCalls = venue.protocolCalls ++
      [⟨.unstake, module, stakeContract, component, quantity * staked / preciseUnit⟩] := by
  simp only [invokeUnstake, Position.getDefaultTotalNotional, bind_eq_ok,
    preciseMul_eq_ok, pure_eq_ok] at hcall
  obtain ⟨_, ⟨-, rfl⟩, _, hreceived, _, -, _, -, rfl⟩ := hcall
  obtain ⟨protocols, _, chain, -, hmoved, rfl⟩ := invokeReceiving_eq_ok hreceived
  exact ⟨sameSetToken_of_moveTokens hmoved _ _, rfl⟩

/-- One call for each staking contract of a component. -/
def replicaCalls (action : ProtocolAction) (module : Address)
    (stakingPositions : ComponentPositions) (component : Address) (quantity : ℕ) :
    List ProtocolCall :=
  stakingPositions.stakingContracts.map fun stakeContract =>
    ⟨action, module, stakeContract, component,
      quantity * (stakingPositions.positions stakeContract).componentPositionUnits /
        preciseUnit⟩

theorem componentIssueHook_eq_ok {isEquity : Bool}
    (hcall : componentIssueHook staking module world sender quantity component isEquity =
      .ok next) :
    SameSetToken world.toVenue next.toVenue ∧
      next.stakingPositions = world.stakingPositions ∧
      next.protocolCalls = world.protocolCalls ++ replicaCalls .stake module
        (world.stakingPositions component) component quantity := by
  simp only [componentIssueHook, bind_eq_ok, pure_eq_ok] at hcall
  obtain ⟨_, -, staked, hstaked, rfl⟩ := hcall
  have hturn : ∀ stakeContract ∈ getStakingContracts world component, ∀ venue after,
      SameSetToken world.toVenue venue →
      replicateStake staking module (world.stakingPositions component) component quantity
        venue stakeContract = .ok after →
      SameSetToken world.toVenue after ∧ after.protocolCalls = venue.protocolCalls ++
        [⟨.stake, module, stakeContract, component,
          quantity * getStakingPositionUnit world component stakeContract /
            preciseUnit⟩] := by
    intro stakeContract _ venue after hbefore hturn
    simp only [replicateStake, bind_eq_ok] at hturn
    obtain ⟨_, -, hturn⟩ := hturn
    obtain ⟨hsame, hcalls⟩ := invokeStake_same hturn
    exact ⟨hbefore.trans hsame, hcalls⟩
  obtain ⟨hsame, hcalls⟩ := foldlM_appends Venue.protocolCalls _ hturn
    (SameSetToken.refl world.toVenue) hstaked
  refine ⟨hsame, rfl, ?_⟩
  rw [replicaCalls, List.map_eq_flatMap]
  exact hcalls

theorem componentRedeemHook_eq_ok {isEquity : Bool}
    (hcall : componentRedeemHook staking module world sender quantity component isEquity =
      .ok next) :
    SameSetToken world.toVenue next.toVenue ∧
      next.stakingPositions = world.stakingPositions ∧
      next.protocolCalls = world.protocolCalls ++ replicaCalls .unstake module
        (world.stakingPositions component) component quantity := by
  simp only [componentRedeemHook, bind_eq_ok, pure_eq_ok] at hcall
  obtain ⟨_, -, unstaked, hunstaked, rfl⟩ := hcall
  have hturn : ∀ stakeContract ∈ getStakingContracts world component, ∀ venue after,
      SameSetToken world.toVenue venue →
      replicateUnstake staking module (world.stakingPositions component) component quantity
        venue stakeContract = .ok after →
      SameSetToken world.toVenue after ∧ after.protocolCalls = venue.protocolCalls ++
        [⟨.unstake, module, stakeContract, component,
          quantity * getStakingPositionUnit world component stakeContract /
            preciseUnit⟩] := by
    intro stakeContract _ venue after hbefore hturn
    simp only [replicateUnstake, bind_eq_ok] at hturn
    obtain ⟨_, -, hturn⟩ := hturn
    obtain ⟨hsame, hcalls⟩ := invokeUnstake_same hturn
    exact ⟨hbefore.trans hsame, hcalls⟩
  obtain ⟨hsame, hcalls⟩ := foldlM_appends Venue.protocolCalls _ hturn
    (SameSetToken.refl world.toVenue) hunstaked
  refine ⟨hsame, rfl, ?_⟩
  rw [replicaCalls, List.map_eq_flatMap]
  exact hcalls

end SetProtocol.StakingModule
