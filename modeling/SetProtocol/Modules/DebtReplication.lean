import SetProtocol.Modules.PositionReplication

/-!
# Replication of debt

The issuance module adds up the debt of all modules and rounds once, each module rounds
its own.  On issue both round down, so the modules may borrow less than is handed out.
On redeem the amount is rounded up, and Aave's repayments are, but Morpho's are rounded
down; and Aave takes no more than is owed.
-/

namespace SetProtocol.ExternalHooks

open Transaction PreciseUnitMath DebtIssuanceModule Venue

variable {P : Type} {integrations : Address → Integration P} {integration : Integration P}
variable {issuanceModule component module sender : Address}
variable {syncing : Hooks (Protocols P)} {world next after : World (Protocols P)}
variable {quantity : ℕ} {isIssue : Bool} {units : ComponentUnits}

/-! ## The lenders -/

/-- The pool takes the repayment, or the debt if that is less. -/
def RepaysUpToDebt (pool : AaveV3LeverageModule.Aave P)
    (reserveTokens : Address → AaveV3LeverageModule.ReserveTokens) : Prop :=
  ∀ timestamp asset amount account protocols afterwards paid,
    pool.repay timestamp asset amount account protocols = .ok (afterwards, paid) →
    paid = min amount (pool.debtBalance protocols timestamp
      (reserveTokens asset).variableDebtToken account)

/-- Assets are repaid as they are. -/
def RepaysAssets (markets : MorphoLeverageModule.Morpho P) : Prop :=
  ∀ timestamp marketParams assets account protocols afterwards paid,
    markets.repay timestamp marketParams assets 0 account protocols =
      .ok (afterwards, paid) → paid = assets

/-- A leverage module for Aave or Morpho, and its lender. -/
def Integration.Lends (integration : Integration P) (setTokenAddress : Address) : Prop :=
  match integration with
  | .aave pool reserveTokens =>
    pool.pool ≠ setTokenAddress ∧ RepaysUpToDebt pool reserveTokens
  | .morpho markets _ => markets.contract ≠ setTokenAddress ∧ RepaysAssets markets
  | _ => False

def Integration.lender (integration : Integration P) : Address :=
  match integration with
  | .aave pool _ => pool.pool
  | .morpho markets _ => markets.contract
  | _ => zeroAddress

/-- Repayments to Aave are rounded up. -/
def Integration.roundsUp (integration : Integration P) : Bool :=
  match integration with
  | .aave _ _ => true
  | _ => false

/-- What a hook borrows or repays for the units of its debt. -/
def Integration.hookDebt (integration : Integration P) (unit quantity : ℕ)
    (isIssue : Bool) : ℕ :=
  if isIssue = false ∧ integration.roundsUp = true then unit * quantity ⌈/⌉ preciseUnit
  else unit * quantity / preciseUnit

/-- Aave is owed at least what the hook is to repay. -/
def Integration.OwesEnough (integration : Integration P) (setToken : SetToken)
    (module component : Address) (quantity : ℕ) (world : World (Protocols P)) : Prop :=
  match integration with
  | .aave pool reserveTokens =>
    integration.hookDebt (setToken.externalDebtUnit component module) quantity false ≤
      pool.debtBalance world.environment.protocols world.timestamp
        (reserveTokens component).variableDebtToken world.setTokenAddress
  | _ => True

/-! ## One hook -/

/-- Body of the loop over the modules, in the flow of debt. -/
def debtHook (hooks : Hooks (Protocols P)) (quantity : ℕ) (component : Address)
    (isIssue : Bool) (world : World (Protocols P)) (module : Address) :
    Outcome (World (Protocols P)) :=
  if isIssue = true then hooks.componentIssueHook module quantity component false world
  else hooks.componentRedeemHook module quantity component false world

def hookCall (integrations : Address → Integration P) (setToken : SetToken)
    (quantity : ℕ) (component : Address) (isIssue : Bool) (module : Address) : ProtocolCall :=
  ⟨debtAction isIssue, module, (integrations module).lender, component,
    (integrations module).hookDebt (setToken.externalDebtUnit component module) quantity
      isIssue⟩

theorem lendingHook_records {setTokenAddress : Address} {venue lent : Venue P}
    (hlends : (integrations module).Lends setTokenAddress)
    (hcall : (integrations module).componentHook isIssue module venue sender quantity
      component false = .ok lent) :
    venue.setToken.externalRealUnit component module < 0 ∧
      Records venue lent
        [hookCall integrations venue.setToken quantity component isIssue module] := by
  rw [hookCall]
  cases hintegration : integrations module with
  | staking contracts stakingPositions =>
    rw [hintegration] at hlends
    cases hlends
  | compound markets underlyingToCToken =>
    rw [hintegration] at hlends
    cases hlends
  | aave pool reserveTokens =>
    rw [hintegration] at hcall
    obtain ⟨howes, hrecords⟩ := componentHook_aave hcall
    have hdebt : (Integration.aave pool reserveTokens).hookDebt
        (venue.setToken.externalDebtUnit component module) quantity isIssue =
        notionalDebt (venue.setToken.externalDebtUnit component module) quantity isIssue := by
      cases isIssue <;> simp [Integration.hookDebt, Integration.roundsUp, notionalDebt]
    rw [hdebt]
    exact ⟨howes, hrecords⟩
  | morpho markets marketParams =>
    rw [hintegration] at hcall
    obtain ⟨-, howes, hrecords⟩ := componentHook_morpho_debt hcall
    rw [Integration.replica, if_neg howes.le.not_gt] at hrecords
    have hdebt : (Integration.morpho markets marketParams).hookDebt
        (venue.setToken.externalDebtUnit component module) quantity isIssue =
        venue.setToken.externalDebtUnit component module * quantity / preciseUnit := by
      rw [Integration.hookDebt, if_neg (by simp [Integration.roundsUp])]
    rw [hdebt]
    exact ⟨howes, hrecords⟩

/-- A lender hands out what is borrowed. -/
theorem lendingHook_borrows {venue lent : Venue P}
    (hlends : (integrations module).Lends venue.setTokenAddress)
    (hcall : (integrations module).componentHook true module venue sender quantity component
      false = .ok lent) :
    lent.heldBalance component = venue.heldBalance component +
      (integrations module).hookDebt (venue.setToken.externalDebtUnit component module)
        quantity true := by
  rw [Integration.hookDebt, if_neg (by simp)]
  cases hintegration : integrations module with
  | staking contracts stakingPositions =>
    rw [hintegration] at hlends
    cases hlends
  | compound markets underlyingToCToken =>
    rw [hintegration] at hlends
    cases hlends
  | aave pool reserveTokens =>
    rw [hintegration] at hcall hlends
    simp only [Integration.componentHook, Integration.componentIssueHook,
      AaveV3LeverageModule.componentIssueHook, AaveV3LeverageModule.componentDebtUnit,
      if_true, bind_eq_ok, require_eq_ok, SignedSafeMath.mul_eq_ok,
      SafeCast.toUint256_eq_ok, preciseMul_eq_ok] at hcall
    obtain ⟨_, -, unit, ⟨debt, hdebt, _, hnegative, _, ⟨-, rfl⟩, hunit⟩, _, ⟨-, rfl⟩,
      hborrowed⟩ := hcall
    obtain ⟨-, rfl⟩ := externalDebtUnit_of_ok hdebt hnegative hunit
    refine heldBalance_of_receiving hlends.1 (fun protocols afterwards received hexecuted => ?_)
      hborrowed
    simp only [bind_eq_ok, pure_eq_ok, Prod.mk.injEq] at hexecuted
    obtain ⟨_, -, -, hreceived⟩ := hexecuted
    exact hreceived.symm
  | morpho markets marketParams =>
    rw [hintegration] at hcall hlends
    simp only [Integration.componentHook, Integration.componentIssueHook,
      MorphoLeverageModule.componentIssueHook, Bool.false_eq_true, if_false, if_true,
      bind_eq_ok, require_eq_ok] at hcall
    obtain ⟨_, -, _, hloan, notional, hnotional, hborrowed⟩ := hcall
    obtain ⟨-, rfl⟩ := morphoDebt_eq_ok hnotional
    have hraised := heldBalance_of_receiving hlends.1
      (fun protocols afterwards received hexecuted => by
        simp only [MorphoLeverageModule.exactly, bind_eq_ok, pure_eq_ok,
          Prod.mk.injEq] at hexecuted
        obtain ⟨_, -, -, hreceived⟩ := hexecuted
        exact hreceived.symm) hborrowed
    rw [MorphoLeverageModule.protocolCall, hloan] at hraised
    exact hraised

/-- A lender takes what is repaid if it is owed enough, and less otherwise. -/
theorem lendingHook_repays {lent : Venue P}
    (hlends : (integrations module).Lends world.setTokenAddress)
    (hcall : (integrations module).componentHook false module (toVenue world) sender quantity
      component false = .ok lent) :
    ∃ paid, lent.heldBalance component + paid = world.heldBalance component ∧
      paid ≤ (integrations module).hookDebt
        (world.setToken.externalDebtUnit component module) quantity false ∧
      (paid = (integrations module).hookDebt
          (world.setToken.externalDebtUnit component module) quantity false ↔
        (integrations module).OwesEnough world.setToken module component quantity world) := by
  cases hintegration : integrations module with
  | staking contracts stakingPositions =>
    rw [hintegration] at hlends
    cases hlends
  | compound markets underlyingToCToken =>
    rw [hintegration] at hlends
    cases hlends
  | aave pool reserveTokens =>
    rw [hintegration] at hcall hlends
    simp only [Integration.componentHook, Integration.componentRedeemHook,
      AaveV3LeverageModule.componentRedeemHook, AaveV3LeverageModule.componentDebtUnit,
      Bool.false_eq_true, if_false, if_true, bind_eq_ok, require_eq_ok,
      SignedSafeMath.mul_eq_ok, SafeCast.toUint256_eq_ok, preciseMulCeil_eq_ok] at hcall
    obtain ⟨_, -, unit, ⟨debt, hdebt, _, hnegative, _, ⟨-, rfl⟩, hunit⟩, _, ⟨-, rfl⟩,
      hrepaid⟩ := hcall
    obtain ⟨-, rfl⟩ := externalDebtUnit_of_ok hdebt hnegative hunit
    obtain ⟨_, paid, hexecuted, hpaid, hheld⟩ := heldBalance_of_paying hlends.1 hrepaid
    have hmin := hlends.2 _ _ _ _ _ _ _ hexecuted
    rw [AaveV3LeverageModule.protocolCall] at hheld hpaid
    have hdebt : ∀ unit, (Integration.aave pool reserveTokens).hookDebt unit quantity false =
        unit * quantity ⌈/⌉ preciseUnit := fun unit => if_pos ⟨rfl, rfl⟩
    simp only [Integration.OwesEnough, hdebt]
    refine ⟨paid, hheld, hpaid, ?_⟩
    rw [hmin]
    exact min_eq_left_iff
  | morpho markets marketParams =>
    rw [hintegration] at hcall hlends
    simp only [Integration.componentHook, Integration.componentRedeemHook,
      MorphoLeverageModule.componentRedeemHook, Bool.false_eq_true, if_false, bind_eq_ok,
      require_eq_ok] at hcall
    obtain ⟨_, -, _, hloan, notional, hnotional, hrepaid⟩ := hcall
    obtain ⟨-, rfl⟩ := morphoDebt_eq_ok hnotional
    obtain ⟨_, paid, hexecuted, hpaid, hheld⟩ := heldBalance_of_paying hlends.1 hrepaid
    rw [if_neg (lt_irrefl 0)] at hexecuted
    have hassets := hlends.2 _ _ _ _ _ _ _ hexecuted
    rw [MorphoLeverageModule.protocolCall, hloan] at hheld
    have hdebt : ∀ unit, (Integration.morpho markets marketParams).hookDebt unit quantity
        false = unit * quantity / preciseUnit := fun unit =>
      if_neg (by simp [Integration.roundsUp])
    simp only [Integration.OwesEnough, hdebt]
    exact ⟨paid, hheld, hassets.le, iff_true_intro hassets⟩

theorem debtHook_eq_ok
    (hcall : debtHook (integrationHooks integrations issuanceModule syncing) quantity
      component isIssue world module = .ok next) :
    ∃ venue, (integrations module).componentHook isIssue module (toVenue world)
      issuanceModule quantity component false = .ok venue ∧ next = withVenue world venue := by
  cases isIssue with
  | false =>
    simp only [debtHook, integrationHooks, Bool.false_eq_true, if_false, bind_eq_ok,
      pure_eq_ok] at hcall
    obtain ⟨venue, hvenue, rfl⟩ := hcall
    exact ⟨venue, hvenue, rfl⟩
  | true =>
    simp only [debtHook, integrationHooks, if_true, bind_eq_ok, pure_eq_ok] at hcall
    obtain ⟨venue, hvenue, rfl⟩ := hcall
    exact ⟨venue, hvenue, rfl⟩

/-! ## The loop over the modules -/

theorem debtHook_records (hlends : (integrations module).Lends world.setTokenAddress)
    (hcall : debtHook (integrationHooks integrations issuanceModule syncing) quantity
      component isIssue world module = .ok next) :
    SameBook world next ∧ next.environment.protocolCalls =
      world.environment.protocolCalls ++
        [hookCall integrations world.setToken quantity component isIssue module] := by
  obtain ⟨venue, hvenue, rfl⟩ := debtHook_eq_ok hcall
  obtain ⟨-, hsame, hcalls⟩ := lendingHook_records hlends hvenue
  exact ⟨⟨hsame.setToken, hsame.setTokenAddress⟩, hcalls⟩

/-- What all modules borrow or repay. -/
def hooksDebt (integrations : Address → Integration P) (setToken : SetToken)
    (modules : List Address) (quantity : ℕ) (component : Address) (isIssue : Bool) : ℕ :=
  Tally.total modules fun module => (integrations module).hookDebt
    (setToken.externalDebtUnit component module) quantity isIssue

theorem debtHooks_records {modules : List Address}
    (hlends : ∀ module ∈ modules, (integrations module).Lends world.setTokenAddress)
    (hcall : modules.foldlM (debtHook (integrationHooks integrations issuanceModule syncing)
      quantity component isIssue) world = .ok after) :
    SameBook world after ∧ after.environment.protocolCalls =
      world.environment.protocolCalls ++
        modules.map (hookCall integrations world.setToken quantity component isIssue) := by
  have hturn : ∀ module ∈ modules, ∀ state next, SameBook world state →
      debtHook (integrationHooks integrations issuanceModule syncing) quantity component
        isIssue state module = .ok next →
      SameBook world next ∧ next.environment.protocolCalls =
        state.environment.protocolCalls ++
          [hookCall integrations world.setToken quantity component isIssue module] := by
    intro module hmodule state next hbefore hnext
    have hlent := hlends module hmodule
    rw [← hbefore.setTokenAddress] at hlent
    obtain ⟨hbook, hcalls⟩ := debtHook_records hlent hnext
    rw [hbefore.setToken] at hcalls
    exact ⟨hbefore.trans hbook, hcalls⟩
  rw [List.map_eq_flatMap]
  exact foldlM_appends (fun state : World (Protocols P) => state.environment.protocolCalls) _
    hturn (SameBook.refl world) hcall

theorem debtHooks_borrow {modules : List Address}
    (hlends : ∀ module ∈ modules, (integrations module).Lends world.setTokenAddress)
    (hcall : modules.foldlM (debtHook (integrationHooks integrations issuanceModule syncing)
      quantity component true) world = .ok after) :
    after.heldBalance component = world.heldBalance component +
      hooksDebt integrations world.setToken modules quantity component true := by
  induction modules generalizing world with
  | nil =>
    rw [List.foldlM_nil, pure_eq_ok] at hcall
    subst hcall
    rfl
  | cons module modules ih =>
    rw [List.foldlM_cons, bind_eq_ok] at hcall
    obtain ⟨next, hnext, hrest⟩ := hcall
    have hlent := hlends module List.mem_cons_self
    obtain ⟨hbook, -⟩ := debtHook_records hlent hnext
    have hlater := ih (fun other hother => by
      rw [hbook.setTokenAddress]
      exact hlends other (List.mem_cons_of_mem module hother)) hrest
    obtain ⟨venue, hvenue, rfl⟩ := debtHook_eq_ok hnext
    have hraised : venue.heldBalance component = world.heldBalance component + _ :=
      lendingHook_borrows hlent hvenue
    change after.heldBalance component = venue.heldBalance component + _ at hlater
    rw [hbook.setToken, hraised] at hlater
    rw [hlater, hooksDebt, hooksDebt, Tally.total, Tally.total, List.map_cons, List.sum_cons,
      Nat.add_assoc]
    rfl

/-- Together the lenders take what is repaid if each is owed enough in its turn. -/
theorem debtHooks_repay {modules : List Address}
    (hlends : ∀ module ∈ modules, (integrations module).Lends world.setTokenAddress)
    (hcall : modules.foldlM (debtHook (integrationHooks integrations issuanceModule syncing)
      quantity component false) world = .ok after) :
    ∃ paid, after.heldBalance component + paid = world.heldBalance component ∧
      paid ≤ hooksDebt integrations world.setToken modules quantity component false ∧
      (paid = hooksDebt integrations world.setToken modules quantity component false ↔
        EachTurn (fun module => (integrations module).OwesEnough world.setToken module
            component quantity)
          (debtHook (integrationHooks integrations issuanceModule syncing) quantity component
            false) modules world) := by
  induction modules generalizing world with
  | nil =>
    rw [List.foldlM_nil, pure_eq_ok] at hcall
    subst hcall
    exact ⟨0, rfl, le_rfl, iff_of_true rfl trivial⟩
  | cons module modules ih =>
    rw [List.foldlM_cons, bind_eq_ok] at hcall
    obtain ⟨next, hnext, hrest⟩ := hcall
    have hlent := hlends module List.mem_cons_self
    obtain ⟨hbook, -⟩ := debtHook_records hlent hnext
    obtain ⟨paidLater, hheldLater, hleLater, hiffLater⟩ := ih (fun other hother => by
      rw [hbook.setTokenAddress]
      exact hlends other (List.mem_cons_of_mem module hother)) hrest
    rw [hbook.setToken] at hleLater hiffLater
    obtain ⟨venue, hvenue, hwith⟩ := debtHook_eq_ok hnext
    obtain ⟨paid, hheld, hle, hiff⟩ := lendingHook_repays hlent hvenue
    have hheldNext : next.heldBalance component + paid = world.heldBalance component := by
      rw [hwith]
      exact hheld
    have htotal : hooksDebt integrations world.setToken (module :: modules) quantity component
        false = (integrations module).hookDebt
          (world.setToken.externalDebtUnit component module) quantity false +
        hooksDebt integrations world.setToken modules quantity component false := by
      rw [hooksDebt, Tally.total, List.map_cons, List.sum_cons]
      rfl
    refine ⟨paid + paidLater, by omega, by omega, ?_⟩
    rw [htotal, EachTurn, ← hiff]
    constructor
    · intro hall
      refine ⟨by omega, fun other hother => ?_⟩
      rw [hnext, Except.ok.injEq] at hother
      rw [← hother]
      exact hiffLater.mp (by omega)
    · rintro ⟨hfirst, hothers⟩
      have hlater := hiffLater.mpr (hothers next hnext)
      omega

/-! ## The turn over a component -/

/-- The hooks borrow or repay in total what is handed out or collected, and the SetToken
holds as much of the component as before. -/
structure DebtReplicated (world after : World (Protocols P)) (units : ComponentUnits)
    (isIssue : Bool) : Prop where
  replicated : ∃ calls, after.environment.protocolCalls =
      world.environment.protocolCalls ++ calls ∧
    (∀ call ∈ calls, call.action = debtAction isIssue ∧ call.token = units.component) ∧
    (calls.map ProtocolCall.quantity).sum = units.debt
  untouched : after.heldBalance units.component = world.heldBalance units.component

/-- The remainders of the single debts do not add up to a share of their own: on issue
they stay below one, on redeem as many debts round up as they make up. -/
def EvenShares (integrations : Address → Integration P) (setToken : SetToken)
    (component : Address) (quantity : ℕ) (isIssue : Bool) : Prop :=
  let modules := setToken.getExternalPositionModules component
  let rest := Tally.remainders modules (setToken.externalDebtUnit component) quantity
    preciseUnit
  if isIssue = true then rest < preciseUnit
  else Tally.roundedUp modules (fun module => (integrations module).roundsUp)
    (setToken.externalDebtUnit component) quantity preciseUnit = rest ⌈/⌉ preciseUnit

/-- When the redeemer has paid, each hook in its turn meets a debt of at least what it
is to repay. -/
def OwedInFull (integrations : Address → Integration P) (hooks : Hooks (Protocols P))
    (world : World (Protocols P)) (sender : Address) (quantity : ℕ)
    (units : ComponentUnits) : Prop :=
  0 < units.debt → ∀ chain,
    world.transferFrom units.component sender world.setTokenAddress units.debt = .ok chain →
    EachTurn (fun module => (integrations module).OwesEnough world.setToken module
        units.component quantity)
      (debtHook hooks quantity units.component false)
      (world.setToken.getExternalPositionModules units.component) (world.withChain chain)

theorem evenShares_iff {setToken : SetToken} :
    hooksDebt integrations setToken (setToken.getExternalPositionModules component) quantity
        component isIssue = notionalDebt (debtUnits setToken component) quantity isIssue ↔
      EvenShares integrations setToken component quantity isIssue := by
  cases isIssue with
  | true =>
    have hhooks : hooksDebt integrations setToken
        (setToken.getExternalPositionModules component) quantity component true =
        Tally.total (setToken.getExternalPositionModules component) fun module =>
          setToken.externalDebtUnit component module * quantity / preciseUnit := by
      apply Tally.total_congr
      intro module _
      rw [Integration.hookDebt, if_neg (by simp)]
    rw [hhooks, notionalDebt_issue, debtUnits, Tally.total_scaled_eq_iff _ preciseUnit_pos,
      EvenShares, if_pos rfl]
  | false =>
    have hhooks : hooksDebt integrations setToken
        (setToken.getExternalPositionModules component) quantity component false =
        Tally.total (setToken.getExternalPositionModules component) fun module =>
          if (integrations module).roundsUp = true then
            setToken.externalDebtUnit component module * quantity ⌈/⌉ preciseUnit
          else setToken.externalDebtUnit component module * quantity / preciseUnit := by
      apply Tally.total_congr
      intro module _
      simp [Integration.hookDebt]
    rw [hhooks, notionalDebt_redeem, debtUnits,
      Tally.total_rounded_eq_iff (fun module => (integrations module).roundsUp) _
        preciseUnit_pos, EvenShares, if_neg Bool.false_ne_true]

theorem sum_hookCalls {setToken : SetToken} {modules : List Address} :
    ((modules.map (hookCall integrations setToken quantity component isIssue)).map
      ProtocolCall.quantity).sum =
        hooksDebt integrations setToken modules quantity component isIssue := by
  rw [List.map_map, hooksDebt, Tally.total]
  rfl

/-- Without a debt amount the hooks have nothing to round. -/
theorem hooksDebt_eq_zero {setToken : SetToken}
    (hnone : notionalDebt (debtUnits setToken component) quantity isIssue = 0) :
    hooksDebt integrations setToken (setToken.getExternalPositionModules component) quantity
      component isIssue = 0 := by
  apply Nat.eq_zero_of_not_pos
  rw [hooksDebt, Tally.total_pos_iff]
  rintro ⟨module, hmodule, hpositive⟩
  have hle : setToken.externalDebtUnit component module * quantity ≤
      debtUnits setToken component * quantity :=
    Nat.mul_le_mul_right _ (Tally.le_total hmodule)
  have hscale := preciseUnit_pos
  cases isIssue with
  | true =>
    rw [notionalDebt_issue, Nat.div_eq_zero_iff_lt hscale] at hnone
    rw [Integration.hookDebt, if_neg (by simp), Nat.div_eq_of_lt (hle.trans_lt hnone)] at hpositive
    exact lt_irrefl 0 hpositive
  | false =>
    rw [notionalDebt_redeem] at hnone
    have hceil := Backing.le_ceilDiv_mul (debtUnits setToken component * quantity) hscale
    rw [hnone, Nat.zero_mul] at hceil
    have hzero : setToken.externalDebtUnit component module * quantity = 0 := by omega
    rw [Integration.hookDebt, hzero] at hpositive
    simp at hpositive

/-- The recorded calls are those of the hooks. -/
theorem replicated_iff {modules : List Address}
    (hcalls : after.environment.protocolCalls = world.environment.protocolCalls ++
      modules.map
        (hookCall integrations world.setToken quantity units.component isIssue)) :
    (∃ calls, after.environment.protocolCalls = world.environment.protocolCalls ++ calls ∧
      (∀ call ∈ calls, call.action = debtAction isIssue ∧ call.token = units.component) ∧
      (calls.map ProtocolCall.quantity).sum = units.debt) ↔
    hooksDebt integrations world.setToken modules quantity units.component isIssue =
      units.debt := by
  rw [← sum_hookCalls]
  constructor
  · rintro ⟨calls, happended, -, hsum⟩
    rw [hcalls, List.append_cancel_left_eq] at happended
    rw [happended, hsum]
  · intro hsum
    refine ⟨_, hcalls, fun call hcall => ?_, hsum⟩
    obtain ⟨module, -, rfl⟩ := List.mem_map.mp hcall
    exact ⟨rfl, rfl⟩

/-- Debt is replicated exactly if the shares are even and the lenders are owed in full. -/
theorem debtReplicated_iff {required : List ComponentUnits} (hkept : Bookkept world.setToken)
    (hlends : ∀ module ∈ world.setToken.getExternalPositionModules units.component,
      (integrations module).Lends world.setTokenAddress)
    (hrequired : calculateRequiredComponentIssuanceUnits world.setToken quantity isIssue =
      .ok required) (hunits : units ∈ required)
    (hcall : resolveDebtPosition (integrationHooks integrations issuanceModule syncing)
      issuanceModule sender quantity isIssue world units = .ok after) :
    DebtReplicated world after units isIssue ↔
      EvenShares integrations world.setToken units.component quantity isIssue ∧
        (isIssue = false → OwedInFull integrations
          (integrationHooks integrations issuanceModule syncing) world sender quantity
            units) := by
  have hdebt := ((requiredComponentUnits_eq_ok hkept hrequired).2 units hunits).2
  rw [← evenShares_iff, ← hdebt]
  unfold resolveDebtPosition at hcall
  split at hcall
  · rename_i hpositive
    cases isIssue with
    | true =>
      simp only [if_true, bind_eq_ok, pure_eq_ok] at hcall
      obtain ⟨hooked, hhooks, chain, htransfer, rfl⟩ := hcall
      obtain ⟨hbook, hcalls⟩ := debtHooks_records hlends hhooks
      have hborrowed := debtHooks_borrow hlends hhooks
      rw [← hbook.setTokenAddress] at hlends
      obtain ⟨hfunds, hlowered, -⟩ := Chain.heldBalance_of_strictInvokeTransfer htransfer
      constructor
      · intro hreplicated
        exact ⟨(replicated_iff hcalls).mp hreplicated.replicated, nofun⟩
      · rintro ⟨heven, -⟩
        refine ⟨(replicated_iff hcalls).mpr heven, ?_⟩
        change chain.heldBalance units.component = _
        rw [hlowered, hborrowed, heven, Nat.add_sub_cancel]
    | false =>
      simp only [Bool.false_eq_true, if_false, bind_eq_ok] at hcall
      obtain ⟨chain, htransfer, hhooks⟩ := hcall
      obtain ⟨hraised, -⟩ := Chain.heldBalance_of_transferFrom htransfer
      have hsetToken : (world.withChain chain).setToken = world.setToken := by
        obtain ⟨balances, rfl⟩ := Chain.transferFrom_frame htransfer
        rfl
      have haddress : (world.withChain chain).setTokenAddress = world.setTokenAddress := by
        obtain ⟨balances, rfl⟩ := Chain.transferFrom_frame htransfer
        rfl
      have hlendsPaid : ∀ module ∈ world.setToken.getExternalPositionModules units.component,
          (integrations module).Lends (world.withChain chain).setTokenAddress := by
        rw [haddress]
        exact hlends
      rw [executeExternalPositionHooks, hsetToken] at hhooks
      obtain ⟨-, hcalls⟩ := debtHooks_records hlendsPaid hhooks
      obtain ⟨paid, hheld, -, hpaid⟩ := debtHooks_repay hlendsPaid hhooks
      rw [hsetToken] at hcalls hpaid
      change _ = chain.heldBalance units.component at hheld
      have howed : OwedInFull integrations
          (integrationHooks integrations issuanceModule syncing) world sender quantity units ↔
          EachTurn (fun module => (integrations module).OwesEnough world.setToken module
              units.component quantity)
            (debtHook (integrationHooks integrations issuanceModule syncing) quantity
              units.component false)
            (world.setToken.getExternalPositionModules units.component)
            (world.withChain chain) := by
        constructor
        · exact fun howed => howed hpositive chain htransfer
        · intro heach _ other hother
          rw [htransfer, Except.ok.injEq] at hother
          exact hother ▸ heach
      rw [howed, ← hpaid]
      constructor
      · intro hreplicated
        have heven := (replicated_iff hcalls).mp hreplicated.replicated
        have huntouched := hreplicated.untouched
        exact ⟨heven, fun _ => by omega⟩
      · rintro ⟨heven, hfull⟩
        have hpaidAll := hfull rfl
        exact ⟨(replicated_iff hcalls).mpr heven, by omega⟩
  · rename_i hzero
    rw [pure_eq_ok] at hcall
    subst hcall
    have hnone : units.debt = 0 := by omega
    rw [hdebt] at hnone
    refine iff_of_true ⟨⟨[], (List.append_nil _).symm, ?_, ?_⟩, rfl⟩ ⟨?_, ?_⟩
    · exact fun call hcall => absurd hcall List.not_mem_nil
    · rw [hdebt, hnone]
      rfl
    · rw [hooksDebt_eq_zero hnone, hdebt, hnone]
    · exact fun _ hpositive => absurd hpositive hzero

/-! ## Two pools, and a Morpho market -/

theorem repaysUpToDebt_debtPool : RepaysUpToDebt debtPool debtTokens := by
  intro timestamp asset amount account debt afterwards paid hrepaid
  rw [debtPool, Except.ok.injEq, Prod.mk.injEq] at hrepaid
  exact hrepaid.2.symm

def onAave (_module : Address) : Integration ℕ := .aave debtPool debtTokens

/-- Twenty and twenty-one owed on Aave, one and a half shares issued. -/
theorem debtReplicated_on_aave : ∃ after,
    resolveDebtPosition (integrationHooks onAave 3 passingHooks) 3 7 (15 * 10 ^ 17) true
      (heldWorld [(5, -20), (6, -21)]) ⟨10, 75, 61⟩ = .ok after ∧
    (DebtReplicated (heldWorld [(5, -20), (6, -21)]) after ⟨10, 75, 61⟩ true ↔
      EvenShares onAave (heldSetToken [(5, -20), (6, -21)]) 10 (15 * 10 ^ 17) true ∧
        (true = false → OwedInFull onAave (integrationHooks onAave 3 passingHooks)
          (heldWorld [(5, -20), (6, -21)]) 7 (15 * 10 ^ 17) ⟨10, 75, 61⟩)) := by
  obtain ⟨after, hresolved, -⟩ := returns_iff.mp (by decide +kernel :
    Returns (resolveDebtPosition (integrationHooks onAave 3 passingHooks) 3 7 (15 * 10 ^ 17)
      true (heldWorld [(5, -20), (6, -21)]) ⟨10, 75, 61⟩) fun _ => True)
  have hrequired : calculateRequiredComponentIssuanceUnits
      (heldSetToken [(5, -20), (6, -21)]) (15 * 10 ^ 17) true = .ok [⟨10, 75, 61⟩] := by
    decide +kernel
  exact ⟨after, hresolved, debtReplicated_iff (bookkept_heldSetToken _)
    (fun _ _ => ⟨by decide, repaysUpToDebt_debtPool⟩) hrequired
    (List.mem_singleton.mpr rfl) hresolved⟩

/-- A market that keeps the debt. -/
def loanMarket : MorphoLeverageModule.Morpho ℕ where
  contract := 30
  market debt _ := ⟨0, 0, debt, 0, 1, 0⟩
  position _ _ _ := ⟨0, 0, 0⟩
  borrowRateView _ _ _ := .ok 0
  supplyCollateral _ _ _ _ debt := .ok debt
  withdrawCollateral _ _ _ _ debt := .ok debt
  borrow _ _ assets _ debt := .ok (debt + assets)
  repay _ _ assets _ _ debt := .ok (debt - assets, assets)

def onMorpho (_module : Address) : Integration ℕ := .morpho loanMarket ⟨10, 11, 0, 0, 0⟩

/-- Of thirty-two collected, thirty-one are repaid to Morpho. -/
theorem morpho_leaves_repayment_behind :
    calculateRequiredComponentIssuanceUnits (heldSetToken [(5, -21)]) (15 * 10 ^ 17) false =
      .ok [⟨10, 75, 32⟩] ∧ ∃ after,
    resolveDebtPosition (integrationHooks onMorpho 3 passingHooks) 3 7 (15 * 10 ^ 17) false
      (heldWorld [(5, -21)]) ⟨10, 75, 32⟩ = .ok after ∧
    callsOf after 10 = [⟨.repay, 5, 30, 10, 31⟩] ∧
    after.heldBalance 10 = (heldWorld [(5, -21)]).heldBalance 10 + 1 ∧
    ¬DebtReplicated (heldWorld [(5, -21)]) after ⟨10, 75, 32⟩ false := by
  obtain ⟨after, hresolved, hcalls, hheld⟩ := returns_iff.mp (by decide +kernel :
    Returns (resolveDebtPosition (integrationHooks onMorpho 3 passingHooks) 3 7
      (15 * 10 ^ 17) false (heldWorld [(5, -21)]) ⟨10, 75, 32⟩) fun after =>
        callsOf after 10 = [⟨.repay, 5, 30, 10, 31⟩] ∧
        after.heldBalance 10 = (heldWorld [(5, -21)]).heldBalance 10 + 1)
  refine ⟨by decide +kernel, after, hresolved, hcalls, hheld, fun hreplicated => ?_⟩
  exact Nat.succ_ne_self _ (hheld.symm.trans hreplicated.untouched)

end SetProtocol.ExternalHooks
