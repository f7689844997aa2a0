import SetProtocol.Modules.AaveV3LeverageModule
import SetProtocol.Modules.CompoundLeverageModule
import SetProtocol.Modules.DebtIssuanceUnits
import SetProtocol.Modules.MorphoLeverageModule
import SetProtocol.Modules.StakingModule

/-!
# Modules behind the external positions

The debt issuance module calls the modules of the external positions through their
hooks.  Here these are the staking module and the leverage modules for Compound, Aave
and Morpho, all acting on one store of protocols and one record of calls.  A replica of
a position is what one turn of its module calls for the shares issued or redeemed.
-/

namespace SetProtocol

namespace ExternalHooks

open Transaction PreciseUnitMath DebtIssuanceModule

variable {P : Type}

/-- A module with what it has stored for the SetToken; its hooks only read that. -/
inductive Integration (P : Type)
  | staking (staking : StakingModule.Staking P)
      (stakingPositions : Address → StakingModule.ComponentPositions)
  | compound (compound : CompoundLeverageModule.Compound P)
      (underlyingToCToken : Address → Address)
  | aave (aave : AaveV3LeverageModule.Aave P)
      (underlyingToReserveTokens : Address → AaveV3LeverageModule.ReserveTokens)
  | morpho (morpho : MorphoLeverageModule.Morpho P)
      (marketParams : MorphoLeverageModule.MarketParams)

/-- The storage of the protocols, and the calls made of them. -/
structure Protocols (P : Type) where
  protocols : P
  protocolCalls : List ProtocolCall

def toVenue (world : World (Protocols P)) : Venue P where
  toChain := world.toChain
  protocols := world.environment.protocols
  protocolCalls := world.environment.protocolCalls

def withVenue (world : World (Protocols P)) (venue : Venue P) : World (Protocols P) :=
  { world with
    toChain := venue.toChain
    environment := ⟨venue.protocols, venue.protocolCalls⟩ }

namespace Integration

def componentIssueHook (integration : Integration P) (module : Address) (venue : Venue P)
    (sender : Address) (quantity : ℕ) (component : Address) (isEquity : Bool) :
    Outcome (Venue P) :=
  match integration with
  | .staking contracts stakingPositions => do
    let world ← StakingModule.componentIssueHook contracts module ⟨venue, stakingPositions⟩
      sender quantity component isEquity
    pure world.toVenue
  | .compound markets underlyingToCToken =>
    CompoundLeverageModule.componentIssueHook markets underlyingToCToken module venue sender
      quantity component isEquity
  | .aave pool _ =>
    AaveV3LeverageModule.componentIssueHook pool module venue sender quantity component
      isEquity
  | .morpho markets marketParams =>
    MorphoLeverageModule.componentIssueHook markets module marketParams venue sender quantity
      component isEquity

def componentRedeemHook (integration : Integration P) (module : Address) (venue : Venue P)
    (sender : Address) (quantity : ℕ) (component : Address) (isEquity : Bool) :
    Outcome (Venue P) :=
  match integration with
  | .staking contracts stakingPositions => do
    let world ← StakingModule.componentRedeemHook contracts module ⟨venue, stakingPositions⟩
      sender quantity component isEquity
    pure world.toVenue
  | .compound markets underlyingToCToken =>
    CompoundLeverageModule.componentRedeemHook markets underlyingToCToken module venue sender
      quantity component isEquity
  | .aave pool _ =>
    AaveV3LeverageModule.componentRedeemHook pool module venue sender quantity component
      isEquity
  | .morpho markets marketParams =>
    MorphoLeverageModule.componentRedeemHook markets module marketParams venue sender quantity
      component isEquity

def componentHook (integration : Integration P) (isIssue : Bool) :
    Address → Venue P → Address → ℕ → Address → Bool → Outcome (Venue P) :=
  if isIssue = true then integration.componentIssueHook else integration.componentRedeemHook

end Integration

/-- The hooks that the issuance module calls, on top of those that only sync. -/
def integrationHooks (integrations : Address → Integration P) (issuanceModule : Address)
    (syncing : Hooks (Protocols P)) : Hooks (Protocols P) :=
  { syncing with
    componentIssueHook := fun hook quantity component isEquity world => do
      let venue ← (integrations hook).componentIssueHook hook (toVenue world) issuanceModule
        quantity component isEquity
      pure (withVenue world venue)
    componentRedeemHook := fun hook quantity component isEquity world => do
      let venue ← (integrations hook).componentRedeemHook hook (toVenue world) issuanceModule
        quantity component isEquity
      pure (withVenue world venue) }

/-! ## What one hook does -/

open Venue

variable {integration : Integration P} {module sender component : Address}
variable {quantity : ℕ} {isIssue isEquity : Bool} {venue next : Venue P}

def debtAction (isIssue : Bool) : ProtocolAction :=
  if isIssue = true then .borrow else .repay

/-- The calls that replicate a module's position once. -/
def Integration.replica (integration : Integration P) (setToken : SetToken)
    (module : Address) (quantity : ℕ) (component : Address) (isIssue : Bool) :
    List ProtocolCall :=
  match integration with
  | .staking _ stakingPositions =>
    StakingModule.replicaCalls (if isIssue = true then .stake else .unstake) module
      (stakingPositions component) component quantity
  | .compound _ underlyingToCToken =>
    [⟨debtAction isIssue, module, underlyingToCToken component, component,
      notionalDebt (setToken.externalDebtUnit component module) quantity isIssue⟩]
  | .aave pool _ =>
    [⟨debtAction isIssue, module, pool.pool, component,
      notionalDebt (setToken.externalDebtUnit component module) quantity isIssue⟩]
  | .morpho markets _ =>
    if 0 < setToken.externalRealUnit component module then
      [⟨if isIssue = true then .supply else .withdraw, module, markets.contract, component,
        setToken.externalEquityUnit component module * quantity / preciseUnit⟩]
    else
      -- rounded down for repayments too
      [⟨debtAction isIssue, module, markets.contract, component,
        setToken.externalDebtUnit component module * quantity / preciseUnit⟩]

/-- Whether a hook does anything for its flag. -/
def Integration.acts (integration : Integration P) (component : Address)
    (isEquity : Bool) : Bool :=
  match integration with
  | .staking _ _ => true
  | .compound _ _ => true
  | .aave _ _ => !isEquity
  | .morpho _ marketParams => !isEquity || marketParams.collateralToken == component

/-- The leverage modules read their debt alike. -/
theorem externalDebtUnit_of_ok {setToken : SetToken} {debt : ℤ} {unit : ℕ}
    (hdebt : setToken.getExternalPositionRealUnit component module = .ok debt)
    (hnegative : debt < 0) (hunit : debt * -1 = (unit : ℤ)) :
    setToken.externalRealUnit component module < 0 ∧
      unit = setToken.externalDebtUnit component module := by
  obtain rfl := SetToken.getExternalPositionRealUnit_eq_ok hdebt
  refine ⟨hnegative, ?_⟩
  rw [SetToken.externalDebtUnit]
  omega

/-- The record of calls grew by these, and the SetToken's own storage is the same. -/
def Records (venue next : Venue P) (calls : List ProtocolCall) : Prop :=
  SameSetToken venue next ∧ next.protocolCalls = venue.protocolCalls ++ calls

theorem records_of_paying {call : ProtocolCall} {execute : P → Outcome (P × ℕ)}
    (hcall : venue.invokePaying call execute = .ok next) : Records venue next [call] := by
  obtain ⟨protocols, _, chain, -, -, hmoved, rfl⟩ := invokePaying_eq_ok hcall
  exact ⟨sameSetToken_of_moveTokens hmoved protocols call, rfl⟩

theorem records_of_receiving {call : ProtocolCall} {execute : P → Outcome (P × ℕ)}
    (hcall : venue.invokeReceiving call execute = .ok next) : Records venue next [call] := by
  obtain ⟨protocols, _, chain, -, hmoved, rfl⟩ := invokeReceiving_eq_ok hcall
  exact ⟨sameSetToken_of_moveTokens hmoved protocols call, rfl⟩

theorem records_nothing (venue : Venue P) : Records venue venue [] :=
  ⟨SameSetToken.refl venue, (List.append_nil _).symm⟩

theorem componentHook_staking {contracts : StakingModule.Staking P}
    {stakingPositions : Address → StakingModule.ComponentPositions}
    (hcall : (Integration.staking contracts stakingPositions).componentHook isIssue module
      venue sender quantity component isEquity = .ok next) :
    Records venue next ((Integration.staking contracts stakingPositions).replica
      venue.setToken module quantity component isIssue) := by
  cases isIssue
  · simp only [Integration.componentHook, Integration.componentRedeemHook,
      Bool.false_eq_true, if_false, bind_eq_ok, pure_eq_ok] at hcall
    obtain ⟨world, hworld, rfl⟩ := hcall
    obtain ⟨hsame, -, hcalls⟩ := StakingModule.componentRedeemHook_eq_ok hworld
    exact ⟨hsame, hcalls⟩
  · simp only [Integration.componentHook, Integration.componentIssueHook,
      if_true, bind_eq_ok, pure_eq_ok] at hcall
    obtain ⟨world, hworld, rfl⟩ := hcall
    obtain ⟨hsame, -, hcalls⟩ := StakingModule.componentIssueHook_eq_ok hworld
    exact ⟨hsame, hcalls⟩

theorem componentHook_compound {markets : CompoundLeverageModule.Compound P}
    {underlyingToCToken : Address → Address}
    (hcall : (Integration.compound markets underlyingToCToken).componentHook isIssue module
      venue sender quantity component isEquity = .ok next) :
    Records venue next ((Integration.compound markets underlyingToCToken).replica
      venue.setToken module quantity component isIssue) := by
  cases isIssue
  · simp only [Integration.componentHook, Integration.componentRedeemHook,
      CompoundLeverageModule.componentRedeemHook, CompoundLeverageModule.componentDebtUnit,
      Bool.false_eq_true, if_false, bind_eq_ok, require_eq_ok, SignedSafeMath.mul_eq_ok,
      SafeCast.toUint256_eq_ok, preciseMulCeil_eq_ok] at hcall
    obtain ⟨_, -, unit, ⟨debt, hdebt, _, hnegative, _, ⟨-, rfl⟩, hunit⟩, _, ⟨-, rfl⟩,
      hrepaid⟩ := hcall
    obtain ⟨-, rfl⟩ := externalDebtUnit_of_ok hdebt hnegative hunit
    rw [Integration.replica, notionalDebt_redeem]
    exact CompoundLeverageModule.repayBorrow_eq_ok hrepaid
  · simp only [Integration.componentHook, Integration.componentIssueHook,
      CompoundLeverageModule.componentIssueHook, CompoundLeverageModule.componentDebtUnit,
      if_true, bind_eq_ok, require_eq_ok, SignedSafeMath.mul_eq_ok,
      SafeCast.toUint256_eq_ok, preciseMul_eq_ok] at hcall
    obtain ⟨_, -, unit, ⟨debt, hdebt, _, hnegative, _, ⟨-, rfl⟩, hunit⟩, _, ⟨-, rfl⟩,
      hborrowed⟩ := hcall
    obtain ⟨-, rfl⟩ := externalDebtUnit_of_ok hdebt hnegative hunit
    rw [Integration.replica, notionalDebt_issue]
    exact CompoundLeverageModule.borrow_eq_ok hborrowed

theorem componentHook_aave {pool : AaveV3LeverageModule.Aave P}
    {reserveTokens : Address → AaveV3LeverageModule.ReserveTokens}
    (hcall : (Integration.aave pool reserveTokens).componentHook isIssue module venue sender
      quantity component false = .ok next) :
    venue.setToken.externalRealUnit component module < 0 ∧
      Records venue next ((Integration.aave pool reserveTokens).replica venue.setToken
        module quantity component isIssue) := by
  cases isIssue
  · simp only [Integration.componentHook, Integration.componentRedeemHook,
      AaveV3LeverageModule.componentRedeemHook, AaveV3LeverageModule.componentDebtUnit,
      Bool.false_eq_true, if_false, if_true, bind_eq_ok, require_eq_ok,
      SignedSafeMath.mul_eq_ok, SafeCast.toUint256_eq_ok, preciseMulCeil_eq_ok] at hcall
    obtain ⟨_, -, unit, ⟨debt, hdebt, _, hnegative, _, ⟨-, rfl⟩, hunit⟩, _, ⟨-, rfl⟩,
      hrepaid⟩ := hcall
    obtain ⟨howes, rfl⟩ := externalDebtUnit_of_ok hdebt hnegative hunit
    rw [Integration.replica, notionalDebt_redeem]
    exact ⟨howes, records_of_paying hrepaid⟩
  · simp only [Integration.componentHook, Integration.componentIssueHook,
      AaveV3LeverageModule.componentIssueHook, AaveV3LeverageModule.componentDebtUnit,
      if_true, bind_eq_ok, require_eq_ok, SignedSafeMath.mul_eq_ok,
      SafeCast.toUint256_eq_ok, preciseMul_eq_ok] at hcall
    obtain ⟨_, -, unit, ⟨debt, hdebt, _, hnegative, _, ⟨-, rfl⟩, hunit⟩, _, ⟨-, rfl⟩,
      hborrowed⟩ := hcall
    obtain ⟨howes, rfl⟩ := externalDebtUnit_of_ok hdebt hnegative hunit
    rw [Integration.replica, notionalDebt_issue]
    exact ⟨howes, records_of_receiving hborrowed⟩

theorem notionalCollateral_eq_ok {setToken : SetToken} {reason : String} {notional : ℕ}
    (hcall : MorphoLeverageModule.notionalCollateral module setToken component quantity
      reason = .ok notional) :
    0 < setToken.externalRealUnit component module ∧
      notional = setToken.externalEquityUnit component module * quantity / preciseUnit := by
  simp only [MorphoLeverageModule.notionalCollateral, bind_eq_ok, require_eq_ok,
    SafeCast.toUint256_eq_ok, preciseMul_eq_ok] at hcall
  obtain ⟨collateral, hcollateral, _, hpositive, unit, rfl, -, rfl⟩ := hcall
  have hunit := SetToken.getExternalPositionRealUnit_eq_ok hcollateral
  rw [SetToken.externalEquityUnit, ← hunit, Int.toNat_natCast]
  exact ⟨hpositive, rfl⟩

theorem morphoDebt_eq_ok {setToken : SetToken} {notional : ℕ}
    (hcall : MorphoLeverageModule.notionalDebt module setToken component quantity =
      .ok notional) :
    setToken.externalRealUnit component module < 0 ∧
      notional = setToken.externalDebtUnit component module * quantity / preciseUnit := by
  simp only [MorphoLeverageModule.notionalDebt, bind_eq_ok, require_eq_ok,
    SignedSafeMath.mul_eq_ok, SafeCast.toUint256_eq_ok, preciseMul_eq_ok] at hcall
  obtain ⟨debt, hdebt, _, hnegative, _, ⟨-, rfl⟩, unit, hunit, -, rfl⟩ := hcall
  obtain ⟨howes, rfl⟩ := externalDebtUnit_of_ok hdebt hnegative hunit
  exact ⟨howes, rfl⟩

/-- For equity Morpho is only called with the collateral token. -/
theorem componentHook_morpho_equity {markets : MorphoLeverageModule.Morpho P}
    {marketParams : MorphoLeverageModule.MarketParams}
    (hcollateral : marketParams.collateralToken = component)
    (hcall : (Integration.morpho markets marketParams).componentHook isIssue module venue
      sender quantity component true = .ok next) :
    0 < venue.setToken.externalRealUnit component module ∧
      Records venue next ((Integration.morpho markets marketParams).replica venue.setToken
        module quantity component isIssue) := by
  cases isIssue
  · simp only [Integration.componentHook, Integration.componentRedeemHook,
      MorphoLeverageModule.componentRedeemHook, Bool.false_eq_true, if_false, if_true,
      hcollateral, bind_eq_ok] at hcall
    obtain ⟨_, -, notional, hnotional, hwithdrawn⟩ := hcall
    obtain ⟨hholds, rfl⟩ := notionalCollateral_eq_ok hnotional
    have hrecords := records_of_receiving hwithdrawn
    rw [MorphoLeverageModule.protocolCall, hcollateral] at hrecords
    rw [Integration.replica, if_pos hholds, if_neg Bool.false_ne_true]
    exact ⟨hholds, hrecords⟩
  · simp only [Integration.componentHook, Integration.componentIssueHook,
      MorphoLeverageModule.componentIssueHook, if_true, hcollateral, bind_eq_ok] at hcall
    obtain ⟨_, -, notional, hnotional, hdeposited⟩ := hcall
    obtain ⟨hholds, rfl⟩ := notionalCollateral_eq_ok hnotional
    have hrecords := records_of_paying hdeposited
    rw [MorphoLeverageModule.protocolCall, hcollateral] at hrecords
    rw [Integration.replica, if_pos hholds, if_pos rfl]
    exact ⟨hholds, hrecords⟩

theorem componentHook_morpho_debt {markets : MorphoLeverageModule.Morpho P}
    {marketParams : MorphoLeverageModule.MarketParams}
    (hcall : (Integration.morpho markets marketParams).componentHook isIssue module venue
      sender quantity component false = .ok next) :
    marketParams.loanToken = component ∧
      venue.setToken.externalRealUnit component module < 0 ∧
      Records venue next ((Integration.morpho markets marketParams).replica venue.setToken
        module quantity component isIssue) := by
  cases isIssue
  · simp only [Integration.componentHook, Integration.componentRedeemHook,
      MorphoLeverageModule.componentRedeemHook, Bool.false_eq_true, if_false, bind_eq_ok,
      require_eq_ok] at hcall
    obtain ⟨_, -, _, hloan, notional, hnotional, hrepaid⟩ := hcall
    obtain ⟨howes, rfl⟩ := morphoDebt_eq_ok hnotional
    have hrecords := records_of_paying hrepaid
    rw [MorphoLeverageModule.protocolCall, hloan] at hrecords
    rw [Integration.replica, if_neg howes.le.not_gt]
    exact ⟨hloan, howes, hrecords⟩
  · simp only [Integration.componentHook, Integration.componentIssueHook,
      MorphoLeverageModule.componentIssueHook, Bool.false_eq_true, if_false, if_true,
      bind_eq_ok, require_eq_ok] at hcall
    obtain ⟨_, -, _, hloan, notional, hnotional, hborrowed⟩ := hcall
    obtain ⟨howes, rfl⟩ := morphoDebt_eq_ok hnotional
    have hrecords := records_of_receiving hborrowed
    rw [MorphoLeverageModule.protocolCall, hloan] at hrecords
    rw [Integration.replica, if_neg howes.le.not_gt]
    exact ⟨hloan, howes, hrecords⟩

/-- A hook with nothing to do only checks its caller. -/
theorem componentHook_idle (hidle : integration.acts component isEquity = false) :
    integration.componentHook isIssue module venue sender quantity component isEquity =
      (do
        venue.validateOnlyModule sender
        pure venue) := by
  cases integration with
  | staking contracts stakingPositions => cases hidle
  | compound markets underlyingToCToken => cases hidle
  | aave pool reserveTokens =>
    cases isEquity with
    | false => cases hidle
    | true => cases isIssue <;> rfl
  | morpho markets marketParams =>
    cases isEquity with
    | false => cases hidle
    | true =>
      have hother : marketParams.collateralToken ≠ component := by
        simpa [Integration.acts] using hidle
      cases isIssue
      · simp only [Integration.componentHook, Integration.componentRedeemHook,
          MorphoLeverageModule.componentRedeemHook, Bool.false_eq_true, if_false, if_true,
          hother]
      · simp only [Integration.componentHook, Integration.componentIssueHook,
          MorphoLeverageModule.componentIssueHook, if_true, if_false, hother]

/-- A hook that returns either replicated the position once, or called nothing. -/
theorem componentHook_eq_ok
    (hcall : integration.componentHook isIssue module venue sender quantity component
      isEquity = .ok next) :
    Records venue next (if integration.acts component isEquity = true then
      integration.replica venue.setToken module quantity component isIssue else []) := by
  by_cases hacts : integration.acts component isEquity = true
  · rw [if_pos hacts]
    cases integration with
    | staking contracts stakingPositions => exact componentHook_staking hcall
    | compound markets underlyingToCToken => exact componentHook_compound hcall
    | aave pool reserveTokens =>
      cases isEquity with
      | false => exact (componentHook_aave hcall).2
      | true => cases hacts
    | morpho markets marketParams =>
      cases isEquity with
      | false => exact (componentHook_morpho_debt hcall).2.2
      | true =>
        have hcollateral : marketParams.collateralToken = component := by
          simpa [Integration.acts] using hacts
        exact (componentHook_morpho_equity hcollateral hcall).2
  · rw [if_neg hacts]
    rw [componentHook_idle (Bool.eq_false_iff.mpr hacts), bind_eq_ok] at hcall
    obtain ⟨_, -, hsame⟩ := hcall
    rw [pure_eq_ok] at hsame
    exact hsame ▸ records_nothing venue

/-- Replicas are calls about their component. -/
theorem token_of_mem_replica {setToken : SetToken} {call : ProtocolCall}
    (hcall : call ∈ integration.replica setToken module quantity component isIssue) :
    call.token = component := by
  cases integration with
  | staking contracts stakingPositions =>
    obtain ⟨stakeContract, -, rfl⟩ := List.mem_map.mp hcall
    rfl
  | compound markets underlyingToCToken =>
    rw [List.mem_singleton.mp hcall]
  | aave pool reserveTokens =>
    rw [List.mem_singleton.mp hcall]
  | morpho markets marketParams =>
    rw [Integration.replica] at hcall
    split at hcall
    · rw [List.mem_singleton.mp hcall]
    · rw [List.mem_singleton.mp hcall]

/-! ## What the loops over the modules record -/

variable {integrations : Address → Integration P} {issuanceModule target : Address}
variable {syncing : Hooks (Protocols P)} {world after : World (Protocols P)}

/-- The calls of one component, oldest first. -/
def callsOf (world : World (Protocols P)) (component : Address) : List ProtocolCall :=
  world.environment.protocolCalls.filter fun call => call.token = component

/-- What the hooks of a component call in one flow. -/
def turnCalls (integrations : Address → Integration P) (setToken : SetToken)
    (quantity : ℕ) (component : Address) (isIssue isEquity : Bool) : List ProtocolCall :=
  (setToken.getExternalPositionModules component).flatMap fun module =>
    if (integrations module).acts component isEquity = true then
      (integrations module).replica setToken module quantity component isIssue
    else []

theorem token_of_mem_turnCalls {setToken : SetToken} {call : ProtocolCall}
    (hcall : call ∈ turnCalls integrations setToken quantity component isIssue isEquity) :
    call.token = component := by
  obtain ⟨module, -, hcall⟩ := List.mem_flatMap.mp hcall
  split at hcall
  · exact token_of_mem_replica hcall
  · exact absurd hcall List.not_mem_nil

/-- Nothing but the record of calls, the protocols and balances has changed. -/
structure SameBook (world after : World (Protocols P)) : Prop where
  setToken : after.setToken = world.setToken
  setTokenAddress : after.setTokenAddress = world.setTokenAddress

theorem SameBook.refl (world : World (Protocols P)) : SameBook world world := ⟨rfl, rfl⟩

theorem SameBook.trans {middle : World (Protocols P)} (hfirst : SameBook world middle)
    (hsecond : SameBook middle after) : SameBook world after :=
  ⟨hsecond.setToken.trans hfirst.setToken,
    hsecond.setTokenAddress.trans hfirst.setTokenAddress⟩

theorem executeExternalPositionHooks_eq_ok
    (hcall : executeExternalPositionHooks
      (integrationHooks integrations issuanceModule syncing) world quantity component isIssue
      isEquity = .ok after) :
    SameBook world after ∧ after.environment.protocolCalls =
      world.environment.protocolCalls ++
        turnCalls integrations world.setToken quantity component isIssue isEquity := by
  have hturn : ∀ module ∈ world.setToken.getExternalPositionModules component,
      ∀ state next : World (Protocols P), SameBook world state →
      (if isIssue = true then
        (integrationHooks integrations issuanceModule syncing).componentIssueHook module
          quantity component isEquity state
      else (integrationHooks integrations issuanceModule syncing).componentRedeemHook module
          quantity component isEquity state) = .ok next →
      SameBook world next ∧ next.environment.protocolCalls =
        state.environment.protocolCalls ++
          if (integrations module).acts component isEquity = true then
            (integrations module).replica world.setToken module quantity component isIssue
          else [] := by
    intro module _ state next hbefore hhook
    have hvenue : ∃ venue, (integrations module).componentHook isIssue module (toVenue state)
        issuanceModule quantity component isEquity = .ok venue ∧
        withVenue state venue = next := by
      cases isIssue <;> simpa only [integrationHooks, Integration.componentHook, if_true,
        Bool.false_eq_true, if_false, bind_eq_ok, pure_eq_ok] using hhook
    obtain ⟨venue, hvenue, rfl⟩ := hvenue
    obtain ⟨hsame, hcalls⟩ := componentHook_eq_ok hvenue
    have hbook : SameBook state (withVenue state venue) :=
      ⟨hsame.setToken, hsame.setTokenAddress⟩
    have hsetToken : (toVenue state).setToken = world.setToken := hbefore.setToken
    rw [hsetToken] at hcalls
    exact ⟨hbefore.trans hbook, hcalls⟩
  exact foldlM_appends (fun state : World (Protocols P) => state.environment.protocolCalls) _
    hturn (SameBook.refl world) hcall

end ExternalHooks

end SetProtocol
