import SetProtocol.Core.PositionHistory
import SetProtocol.Modules.DebtIssuanceSupply
import SetProtocol.Modules.ExternalHooks

/-!
# Replication of external positions

Issuing and redeeming call all modules of a component once for its equity and once for
its debt, if there is any.  A hook should replicate its position in the flow of its
sign, and do nothing in the other.  Compound and staking act in both flows, and Morpho
refuses the flow of debt for its collateral.
-/

namespace SetProtocol.ExternalHooks

open Transaction PreciseUnitMath DebtIssuanceModule Venue

variable {P : Type} {integrations : Address → Integration P}
variable {issuanceModule component module sender target : Address}
variable {syncing : Hooks (Protocols P)} {world after : World (Protocols P)}
variable {quantity : ℕ} {isIssue isEquity : Bool} {units : ComponentUnits}

/-! ## The loops over the components -/

/-- The amount of equity or debt that is moved. -/
def flowAmount (units : ComponentUnits) (isEquity : Bool) : ℕ :=
  if isEquity = true then units.equity else units.debt

/-- The units behind that amount. -/
def flowUnits (setToken : SetToken) (component : Address) (isEquity : Bool) : ℕ :=
  if isEquity = true then equityUnits setToken component else debtUnits setToken component

/-- What one turn over a component records, if its amount is not zero. -/
def flowCalls (integrations : Address → Integration P) (setToken : SetToken)
    (quantity : ℕ) (isIssue isEquity : Bool) (units : ComponentUnits) : List ProtocolCall :=
  if 0 < flowAmount units isEquity then
    turnCalls integrations setToken quantity units.component isIssue isEquity
  else []

/-- The hooks record their calls, and the transfer before them none. -/
theorem transferIn_records {token : Address} {amount : ℕ}
    (hcall : (do
      let chain ← world.transferFrom token sender world.setTokenAddress amount
      executeExternalPositionHooks (integrationHooks integrations issuanceModule syncing)
        (world.withChain chain) quantity token isIssue isEquity) = .ok after) :
    SameBook world after ∧ after.environment.protocolCalls =
      world.environment.protocolCalls ++
        turnCalls integrations world.setToken quantity token isIssue isEquity := by
  simp only [bind_eq_ok] at hcall
  obtain ⟨chain, htransfer, hhooks⟩ := hcall
  obtain ⟨_, rfl⟩ := Chain.transferFrom_frame htransfer
  obtain ⟨hbook, hcalls⟩ := executeExternalPositionHooks_eq_ok hhooks
  exact ⟨⟨hbook.setToken, hbook.setTokenAddress⟩, hcalls⟩

theorem transferOut_records {token : Address} {amount : ℕ}
    (hcall : (do
      let hooked ← executeExternalPositionHooks
        (integrationHooks integrations issuanceModule syncing) world quantity token isIssue
        isEquity
      let chain ← hooked.strictInvokeTransfer module token target amount
      pure (hooked.withChain chain)) = .ok after) :
    SameBook world after ∧ after.environment.protocolCalls =
      world.environment.protocolCalls ++
        turnCalls integrations world.setToken quantity token isIssue isEquity := by
  simp only [bind_eq_ok, pure_eq_ok] at hcall
  obtain ⟨hooked, hhooks, chain, htransfer, rfl⟩ := hcall
  obtain ⟨_, rfl⟩ := Chain.strictInvokeTransfer_frame htransfer
  obtain ⟨hbook, hcalls⟩ := executeExternalPositionHooks_eq_ok hhooks
  exact ⟨⟨hbook.setToken, hbook.setTokenAddress⟩, hcalls⟩

theorem resolveEquityPosition_records
    (hcall : resolveEquityPosition (integrationHooks integrations issuanceModule syncing)
      issuanceModule sender target quantity isIssue world units = .ok after) :
    SameBook world after ∧ after.environment.protocolCalls =
      world.environment.protocolCalls ++
        flowCalls integrations world.setToken quantity isIssue true units := by
  unfold resolveEquityPosition at hcall
  rw [flowCalls, flowAmount, if_pos rfl]
  split at hcall
  · rename_i hpositive
    rw [if_pos hpositive]
    cases isIssue with
    | true => exact transferIn_records hcall
    | false => exact transferOut_records hcall
  · rename_i hzero
    rw [pure_eq_ok] at hcall
    subst hcall
    rw [if_neg hzero]
    exact ⟨SameBook.refl world, (List.append_nil _).symm⟩

/-- Debt flows the other way. -/
theorem resolveDebtPosition_records
    (hcall : resolveDebtPosition (integrationHooks integrations issuanceModule syncing)
      issuanceModule sender quantity isIssue world units = .ok after) :
    SameBook world after ∧ after.environment.protocolCalls =
      world.environment.protocolCalls ++
        flowCalls integrations world.setToken quantity isIssue false units := by
  unfold resolveDebtPosition at hcall
  rw [flowCalls, flowAmount, if_neg Bool.false_ne_true]
  split at hcall
  · rename_i hpositive
    rw [if_pos hpositive]
    cases isIssue with
    | true => exact transferOut_records hcall
    | false => exact transferIn_records hcall
  · rename_i hzero
    rw [pure_eq_ok] at hcall
    subst hcall
    rw [if_neg hzero]
    exact ⟨SameBook.refl world, (List.append_nil _).symm⟩

/-- A loop over components that each occur once records the calls of each. -/
theorem callsOf_foldlM {body : World (Protocols P) → ComponentUnits →
      Outcome (World (Protocols P))} {required : List ComponentUnits}
    (hbody : ∀ units state next, body state units = .ok next →
      SameBook state next ∧ next.environment.protocolCalls =
        state.environment.protocolCalls ++
          flowCalls integrations state.setToken quantity isIssue isEquity units)
    (hnodup : (required.map ComponentUnits.component).Nodup)
    (hfold : required.foldlM body world = .ok after) :
    SameBook world after ∧ ∀ units ∈ required,
      callsOf after units.component = callsOf world units.component ++
        flowCalls integrations world.setToken quantity isIssue isEquity units := by
  have hturn : ∀ units ∈ required, ∀ state next, SameBook world state →
      body state units = .ok next → SameBook world next ∧
        callsOf next units.component = callsOf state units.component ++
          flowCalls integrations world.setToken quantity isIssue isEquity units ∧
        ∀ other, other ≠ units.component → callsOf next other = callsOf state other := by
    intro units _ state next hbefore hnext
    obtain ⟨hbook, hcalls⟩ := hbody units state next hnext
    rw [hbefore.setToken] at hcalls
    have htoken : ∀ call ∈ flowCalls integrations world.setToken quantity isIssue isEquity
        units, call.token = units.component := by
      intro call hcall
      rw [flowCalls] at hcall
      split at hcall
      · exact token_of_mem_turnCalls hcall
      · exact absurd hcall List.not_mem_nil
    refine ⟨hbefore.trans hbook, ?_, fun other hother => ?_⟩
    · rw [callsOf, hcalls, List.filter_append, callsOf, List.append_cancel_left_eq,
        List.filter_eq_self]
      exact fun call hcall => decide_eq_true (htoken call hcall)
    · have hnone : (flowCalls integrations world.setToken quantity isIssue isEquity
          units).filter (fun call => call.token = other) = [] := by
        rw [List.filter_eq_nil_iff]
        intro call hcall hsame
        exact hother ((of_decide_eq_true hsame).symm.trans (htoken call hcall))
      rw [callsOf, hcalls, List.filter_append, hnone, List.append_nil, callsOf]
  obtain ⟨hbook, hcalls, -⟩ := foldlM_keyed ComponentUnits.component callsOf
    (SameBook world)
    (fun units before afterwards => afterwards = before ++
      flowCalls integrations world.setToken quantity isIssue isEquity units)
    hturn hnodup (SameBook.refl world) hfold
  exact ⟨hbook, hcalls⟩

/-- The two loops of `issue`, and in the other order those of `redeem`. -/
def resolvePositions {E : Type} (hooks : Hooks E) (module : Address) (world : World E)
    (sender : Address) (quantity : ℕ) (target : Address) (isIssue : Bool)
    (required : List ComponentUnits) : Outcome (World E) :=
  if isIssue = true then do
    let world ← resolveEquityPositions hooks module world sender quantity target true required
    resolveDebtPositions hooks module world sender quantity true required
  else do
    let world ← resolveDebtPositions hooks module world sender quantity false required
    resolveEquityPositions hooks module world sender quantity target false required

theorem resolvePositions_of_issue {E : Type} {hooks : Hooks E} {world reached : World E}
    {fees : TotalFees}
    (hcall : collectForIssue hooks module world sender quantity target =
      .ok (reached, fees)) :
    ∃ synced required, calculateRequiredComponentIssuanceUnits synced.setToken
        fees.totalQuantity true = .ok required ∧
      resolvePositions hooks module synced sender fees.totalQuantity target true required =
        .ok reached := by
  simp only [collectForIssue, bind_eq_ok, pure_eq_ok, Prod.mk.injEq] at hcall
  obtain ⟨_, -, _, -, _, -, synced, -, fees, -, required, hrequired, equity, hequity, debt,
    hdebt, rfl, rfl⟩ := hcall
  refine ⟨synced, required, hrequired, ?_⟩
  rw [resolvePositions, if_pos rfl, bind_eq_ok]
  exact ⟨equity, hequity, hdebt⟩

theorem resolvePositions_of_redeem {E : Type} {hooks : Hooks E} {world reached : World E}
    {fees : TotalFees}
    (hcall : releaseForRedeem hooks module world sender quantity target =
      .ok (reached, fees)) :
    ∃ synced required, calculateRequiredComponentIssuanceUnits synced.setToken
        fees.totalQuantity false = .ok required ∧
      resolvePositions hooks module synced sender fees.totalQuantity target false required =
        .ok reached := by
  simp only [releaseForRedeem, bind_eq_ok, pure_eq_ok, Prod.mk.injEq] at hcall
  obtain ⟨_, -, _, -, _, -, _, -, fees, -, required, hrequired, debt, hdebt, equity, hequity,
    rfl, rfl⟩ := hcall
  refine ⟨_, required, hrequired, ?_⟩
  rw [resolvePositions, if_neg Bool.false_ne_true, bind_eq_ok]
  exact ⟨debt, hdebt, hequity⟩

/-! ## Once, and in the flow of its sign -/

/-- The positions that a module writes: what is staked, borrowed, or supplied to Morpho. -/
def Integration.Holds (integration : Integration P) (setToken : SetToken)
    (module component : Address) : Prop :=
  match integration with
  | .staking _ stakingPositions => 0 < setToken.externalRealUnit component module ∧
      (stakingPositions component).stakingContracts ≠ []
  | .compound _ _ => setToken.externalRealUnit component module < 0
  | .aave _ _ => setToken.externalRealUnit component module < 0
  | .morpho _ marketParams =>
      (marketParams.collateralToken = component ∧
        0 < setToken.externalRealUnit component module) ∨
      (marketParams.loanToken = component ∧
        setToken.externalRealUnit component module < 0)

/-- Positive units belong to the flow of equity, negative ones to that of debt. -/
def onSide (setToken : SetToken) (component : Address) (isEquity : Bool)
    (module : Address) : Bool :=
  if isEquity = true then decide (0 < setToken.externalRealUnit component module)
  else decide (setToken.externalRealUnit component module < 0)

/-- One replica of each position of one sign. -/
def sideCalls (integrations : Address → Integration P) (setToken : SetToken)
    (quantity : ℕ) (component : Address) (isIssue isEquity : Bool) : List ProtocolCall :=
  ((setToken.getExternalPositionModules component).filter
    (onSide setToken component isEquity)).flatMap fun module =>
      (integrations module).replica setToken module quantity component isIssue

/-- Each position of a component is replicated once, in the flow of its sign, and its
module lets the other flow pass. -/
structure ReplicatedOnce (integrations : Address → Integration P)
    (issuanceModule : Address) (syncing : Hooks (Protocols P)) (world : World (Protocols P))
    (quantity : ℕ) (isIssue : Bool) (required : List ComponentUnits)
    (units : ComponentUnits) : Prop where
  once : ∀ module ∈ world.setToken.getExternalPositionModules units.component,
    ∀ isEquity venue next, 0 < flowAmount units isEquity →
      onSide world.setToken units.component isEquity module = true →
      SameSetToken (toVenue world) venue →
      (integrations module).componentHook isIssue module venue issuanceModule quantity
        units.component isEquity = .ok next →
      Records venue next ((integrations module).replica world.setToken module quantity
        units.component isIssue)
  idle : ∀ module ∈ world.setToken.getExternalPositionModules units.component,
    ∀ isEquity venue, 0 < flowAmount units isEquity →
      onSide world.setToken units.component isEquity module = false →
      SameSetToken (toVenue world) venue →
      venue.validateOnlyModule issuanceModule = .ok () →
      (integrations module).componentHook isIssue module venue issuanceModule quantity
        units.component isEquity = .ok venue
  recorded : ∀ sender target after,
    resolvePositions (integrationHooks integrations issuanceModule syncing) issuanceModule
      world sender quantity target isIssue required = .ok after →
    callsOf after units.component = callsOf world units.component ++
      if isIssue = true then
        sideCalls integrations world.setToken quantity units.component true true ++
          sideCalls integrations world.setToken quantity units.component true false
      else
        sideCalls integrations world.setToken quantity units.component false false ++
          sideCalls integrations world.setToken quantity units.component false true

/-- A component that some module owes is no positive position of another, and only owed
on Aave or on a Morpho market with another collateral if it is equity at all. -/
structure SeparateSides (integrations : Address → Integration P) (setToken : SetToken)
    (component : Address) : Prop where
  owed : ∀ debtor ∈ setToken.getExternalPositionModules component,
    setToken.externalRealUnit component debtor < 0 →
    ∀ module ∈ setToken.getExternalPositionModules component,
      ¬0 < setToken.externalRealUnit component module
  equity : 0 < equityUnits setToken component →
    ∀ debtor ∈ setToken.getExternalPositionModules component,
      setToken.externalRealUnit component debtor < 0 →
      (∃ pool reserveTokens, integrations debtor = .aave pool reserveTokens) ∨
        ∃ markets marketParams, integrations debtor = .morpho markets marketParams ∧
          marketParams.collateralToken ≠ component

variable {integration : Integration P} {setToken : SetToken}

theorem replica_ne_nil (hheld : integration.Holds setToken module component) :
    integration.replica setToken module quantity component isIssue ≠ [] := by
  cases integration with
  | staking contracts stakingPositions =>
    intro hnil
    exact hheld.2 (List.map_eq_nil_iff.mp hnil)
  | compound markets underlyingToCToken => exact List.cons_ne_nil _ _
  | aave pool reserveTokens => exact List.cons_ne_nil _ _
  | morpho markets marketParams =>
    rw [Integration.replica]
    split
    · exact List.cons_ne_nil _ _
    · exact List.cons_ne_nil _ _

/-- A hook that acts cannot let a flow pass. -/
theorem not_acts_of_idle {venue : Venue P}
    (hheld : integration.Holds venue.setToken module component)
    (hidle : integration.componentHook isIssue module venue sender quantity component
      isEquity = .ok venue) : integration.acts component isEquity = false := by
  by_contra hacts
  obtain ⟨-, hcalls⟩ := componentHook_eq_ok hidle
  rw [if_pos (Bool.of_not_eq_false hacts)] at hcalls
  exact replica_ne_nil hheld (List.append_right_eq_self.mp hcalls.symm)

/-- Under separate sides a hook acts exactly in the flow of its sign. -/
theorem acts_eq_onSide (hsides : SeparateSides integrations setToken component)
    (hmodule : module ∈ setToken.getExternalPositionModules component)
    (hheld : (integrations module).Holds setToken module component)
    (hunits : 0 < flowUnits setToken component isEquity) :
    (integrations module).acts component isEquity =
      onSide setToken component isEquity module := by
  cases isEquity with
  | true =>
    have hblind := hsides.equity hunits module hmodule
    cases hintegration : integrations module with
    | staking contracts stakingPositions =>
      rw [hintegration] at hheld
      exact (decide_eq_true hheld.1).symm
    | compound markets underlyingToCToken =>
      rw [hintegration] at hheld hblind
      obtain ⟨_, _, hpool⟩ | ⟨_, _, hmorpho, -⟩ := hblind hheld
      · cases hpool
      · cases hmorpho
    | aave pool reserveTokens =>
      rw [hintegration] at hheld
      have howed : setToken.externalRealUnit component module < 0 := hheld
      exact (decide_eq_false (not_lt.mpr howed.le)).symm
    | morpho markets marketParams =>
      rw [hintegration] at hheld hblind
      rcases hheld with ⟨hcollateral, hpositive⟩ | ⟨-, hnegative⟩
      · simp [Integration.acts, onSide, hcollateral, hpositive]
      · obtain ⟨_, _, hpool⟩ | ⟨_, _, hmorpho, hother⟩ := hblind hnegative
        · cases hpool
        · cases hmorpho
          simp [Integration.acts, onSide, hother, not_lt.mpr hnegative.le]
  | false =>
    obtain ⟨debtor, hdebtor, howes⟩ := debtUnits_pos_iff.mp hunits
    have hnone := hsides.owed debtor hdebtor howes module hmodule
    cases hintegration : integrations module with
    | staking contracts stakingPositions =>
      rw [hintegration] at hheld
      exact absurd hheld.1 hnone
    | compound markets underlyingToCToken =>
      rw [hintegration] at hheld
      have howed : setToken.externalRealUnit component module < 0 := hheld
      exact (decide_eq_true howed).symm
    | aave pool reserveTokens =>
      rw [hintegration] at hheld
      have howed : setToken.externalRealUnit component module < 0 := hheld
      exact (decide_eq_true howed).symm
    | morpho markets marketParams =>
      rw [hintegration] at hheld
      rcases hheld with ⟨-, hpositive⟩ | ⟨-, hnegative⟩
      · exact absurd hpositive hnone
      · exact (decide_eq_true hnegative).symm

theorem sideCalls_eq_turnCalls
    (hacts : ∀ module ∈ setToken.getExternalPositionModules component,
      (integrations module).acts component isEquity =
        onSide setToken component isEquity module) :
    sideCalls integrations setToken quantity component isIssue isEquity =
      turnCalls integrations setToken quantity component isIssue isEquity := by
  rw [sideCalls, turnCalls]
  generalize setToken.getExternalPositionModules component = modules at hacts
  induction modules with
  | nil => rfl
  | cons module modules ih =>
    rw [List.flatMap_cons, hacts module List.mem_cons_self,
      ← ih fun other hother => hacts other (List.mem_cons_of_mem module hother)]
    by_cases hside : onSide setToken component isEquity module = true
    · rw [List.filter_cons_of_pos hside, if_pos hside, List.flatMap_cons]
    · rw [List.filter_cons_of_neg hside, if_neg hside, List.nil_append]

/-- No position has the sign of a flow without units. -/
theorem sideCalls_eq_nil
    (hnone : flowUnits setToken component isEquity = 0) :
    sideCalls integrations setToken quantity component isIssue isEquity = [] := by
  have hempty : (setToken.getExternalPositionModules component).filter
      (onSide setToken component isEquity) = [] := by
    rw [List.filter_eq_nil_iff]
    intro module hmodule hside
    cases isEquity with
    | true =>
      have hpositive : 0 < setToken.externalRealUnit component module :=
        of_decide_eq_true hside
      have htotal : 0 < Tally.total (setToken.getExternalPositionModules component)
          (setToken.externalEquityUnit component) :=
        Tally.total_pos_iff.mpr ⟨module, hmodule, by rw [SetToken.externalEquityUnit]; omega⟩
      rw [flowUnits, if_pos rfl, equityUnits] at hnone
      omega
    | false =>
      have hnegative : setToken.externalRealUnit component module < 0 :=
        of_decide_eq_true hside
      have htotal := debtUnits_pos_iff.mpr ⟨module, hmodule, hnegative⟩
      rw [flowUnits, if_neg Bool.false_ne_true] at hnone
      omega
  rw [sideCalls, hempty, List.flatMap_nil]

/-- Nothing is moved without units. -/
theorem flowUnits_pos (hkept : Bookkept setToken) {required : List ComponentUnits}
    (hrequired : calculateRequiredComponentIssuanceUnits setToken quantity isIssue =
      .ok required) (hunits : units ∈ required) (hamount : 0 < flowAmount units isEquity) :
    0 < flowUnits setToken units.component isEquity := by
  obtain ⟨-, hcharged⟩ := requiredComponentUnits_eq_ok hkept hrequired
  obtain ⟨hequity, hdebt⟩ := hcharged units hunits
  by_contra hnone
  have hzero : flowUnits setToken units.component isEquity = 0 := by omega
  cases isEquity with
  | true =>
    change equityUnits setToken units.component = 0 at hzero
    change 0 < units.equity at hamount
    rw [hequity, hzero] at hamount
    cases isIssue <;> simp [notional] at hamount
  | false =>
    change debtUnits setToken units.component = 0 at hzero
    change 0 < units.debt at hamount
    rw [hdebt, hzero] at hamount
    cases isIssue <;> simp [notionalDebt] at hamount

/-- No hook lets the flow of debt pass. -/
theorem acts_for_debt : integration.acts component false = true := by
  cases integration <;> rfl

/-- Every position is replicated once, in the flow of its sign, exactly if the sides are
separate. -/
theorem replicatedOnce_iff {required : List ComponentUnits}
    (hkept : Bookkept world.setToken)
    (hmodule : world.validateOnlyModule issuanceModule = .ok ())
    (hheld : ∀ module ∈ world.setToken.getExternalPositionModules units.component,
      (integrations module).Holds world.setToken module units.component)
    (hrequired : calculateRequiredComponentIssuanceUnits world.setToken quantity isIssue =
      .ok required) (hunits : units ∈ required)
    (hmoved : ∀ isEquity, 0 < flowUnits world.setToken units.component isEquity →
      0 < flowAmount units isEquity) :
    ReplicatedOnce integrations issuanceModule syncing world quantity isIssue required
        units ↔ SeparateSides integrations world.setToken units.component := by
  constructor
  · intro honce
    have hpass : ∀ module ∈ world.setToken.getExternalPositionModules units.component,
        ∀ isEquity, 0 < flowUnits world.setToken units.component isEquity →
        onSide world.setToken units.component isEquity module = false →
        (integrations module).acts units.component isEquity = false := by
      intro module hmem isEquity hflow hother
      have hidle := honce.idle module hmem isEquity (toVenue world) (hmoved isEquity hflow)
        hother (SameSetToken.refl _) hmodule
      exact not_acts_of_idle (hheld module hmem) hidle
    refine ⟨fun debtor hdebtor howes module hmem hpositive => ?_,
      fun hequity debtor hdebtor howes => ?_⟩
    · have hidle := hpass module hmem false (debtUnits_pos_iff.mpr ⟨debtor, hdebtor, howes⟩)
        (decide_eq_false (not_lt.mpr hpositive.le))
      rw [acts_for_debt] at hidle
      cases hidle
    · have hidle := hpass debtor hdebtor true hequity
        (decide_eq_false (not_lt.mpr howes.le))
      cases hintegration : integrations debtor with
      | staking contracts stakingPositions =>
        rw [hintegration] at hidle
        cases hidle
      | compound markets underlyingToCToken =>
        rw [hintegration] at hidle
        cases hidle
      | aave pool reserveTokens => exact Or.inl ⟨pool, reserveTokens, rfl⟩
      | morpho markets marketParams =>
        rw [hintegration] at hidle
        exact Or.inr ⟨markets, marketParams, rfl, by simpa [Integration.acts] using hidle⟩
  · intro hsides
    have hacts : ∀ module ∈ world.setToken.getExternalPositionModules units.component,
        ∀ isEquity, 0 < flowAmount units isEquity →
        (integrations module).acts units.component isEquity =
          onSide world.setToken units.component isEquity module := by
      intro module hmem isEquity hamount
      exact acts_eq_onSide hsides hmem (hheld module hmem)
        (flowUnits_pos hkept hrequired hunits hamount)
    have hflow : ∀ isEquity, flowCalls integrations world.setToken quantity isIssue isEquity
        units = sideCalls integrations world.setToken quantity units.component isIssue
          isEquity := by
      intro isEquity
      rw [flowCalls]
      split
      · rename_i hamount
        exact (sideCalls_eq_turnCalls fun module hmem =>
          hacts module hmem isEquity hamount).symm
      · rename_i hnone
        refine (sideCalls_eq_nil (Nat.eq_zero_of_not_pos fun hflow => ?_)).symm
        exact hnone (hmoved isEquity hflow)
    refine ⟨?_, ?_, ?_⟩
    · intro module hmem isEquity venue next hamount hside hsame hcall
      have hrecords := componentHook_eq_ok hcall
      have hsetToken : venue.setToken = world.setToken := hsame.setToken
      rw [hacts module hmem isEquity hamount, if_pos hside, hsetToken] at hrecords
      exact hrecords
    · intro module hmem isEquity venue hamount hside hsame hvalid
      rw [componentHook_idle ((hacts module hmem isEquity hamount).trans hside), hvalid]
      rfl
    · intro sender target after hcall
      have hnodup : (required.map ComponentUnits.component).Nodup := by
        rw [(requiredComponentUnits_eq_ok hkept hrequired).1]
        exact hkept.components.nodup
      unfold resolvePositions at hcall
      cases isIssue with
      | true =>
        rw [if_pos rfl, bind_eq_ok] at hcall
        obtain ⟨middle, hequity, hdebt⟩ := hcall
        obtain ⟨hbook, hfirst⟩ := callsOf_foldlM (fun _ _ _ hturn =>
          resolveEquityPosition_records hturn) hnodup hequity
        obtain ⟨-, hsecond⟩ := callsOf_foldlM (fun _ _ _ hturn =>
          resolveDebtPosition_records hturn) hnodup hdebt
        rw [hsecond units hunits, hfirst units hunits, hbook.setToken, hflow, hflow, if_pos rfl,
          List.append_assoc]
      | false =>
        rw [if_neg Bool.false_ne_true, bind_eq_ok] at hcall
        obtain ⟨middle, hdebt, hequity⟩ := hcall
        obtain ⟨hbook, hfirst⟩ := callsOf_foldlM (fun _ _ _ hturn =>
          resolveDebtPosition_records hturn) hnodup hdebt
        obtain ⟨-, hsecond⟩ := callsOf_foldlM (fun _ _ _ hturn =>
          resolveEquityPosition_records hturn) hnodup hequity
        rw [hsecond units hunits, hfirst units hunits, hbook.setToken, hflow, hflow,
          if_neg Bool.false_ne_true, List.append_assoc]

/-! ## One component, held and owed -/

/-- Module 3 issues, modules 5 and 6 hold external positions. -/
def enablingController : Controller :=
  { Controller.deploy 1 2 with
    isSet := fun setToken => setToken == 9
    isModule := fun module => module == 3 || module == 5 || module == 6 }

/-- Component 10 with fifty default units, and external units of module 5 and 6. -/
def heldSetToken (edits : List (Address × ℤ)) : SetToken :=
  run PositionHistory.perform
    (edits.map fun edit =>
      (enablingController, .editExternalPosition edit.1 10 edit.1 edit.2 []))
    { SetToken.deploy [10] [50] [3, 5, 6] 7 with
      modules := [3, 5, 6]
      moduleStates := fun module =>
        if module = 3 ∨ module = 5 ∨ module = 6 then .INITIALIZED else .NONE
      totalSupply := 1000 * 10 ^ 18 }

theorem bookkept_heldSetToken (edits : List (Address × ℤ)) :
    Bookkept (heldSetToken edits) := by
  refine run_preserves Bookkept (fun call _ => PositionHistory.perform_preserves call) ?_
  exact (SetTokenCreator.bookkept_deploy rfl (by decide) (by decide) :
    Bookkept (SetToken.deploy [10] [50] [3, 5, 6] 7)).of_same_positions rfl rfl rfl

/-- Lending contracts hold plenty of the component, and so does the issuer. -/
def heldWorld (edits : List (Address × ℤ)) : World (Protocols ℕ) where
  controller := enablingController
  setTokenAddress := 9
  setToken := heldSetToken edits
  balances := fun token holder =>
    if token = 10 then (if holder = 9 then 50000 else 10 ^ 9) else 0
  timestamp := 1
  issuanceSettings := noSettings
  environment := ⟨20000, []⟩

/-- A market that keeps the debt. -/
def debtMarket : CompoundLeverageModule.Compound ℕ where
  weth := 40
  cEther := 41
  ether := 42
  borrow _ _ amount _ debt := .ok (debt + amount, 0)
  repayBorrow _ _ amount _ debt := .ok (debt - amount, 0, amount)
  repayBorrowEther _ amount _ debt := .ok (debt - amount)

def debtPool : AaveV3LeverageModule.Aave ℕ where
  pool := 30
  debtBalance debt _ _ _ := debt
  usageAsCollateralEnabled _ _ _ := true
  setUserUseReserveAsCollateral _ _ _ _ debt := .ok debt
  borrow _ _ amount _ debt := .ok (debt + amount)
  repay _ _ amount _ debt := .ok (debt - amount, min amount debt)

def debtTokens (asset : Address) : AaveV3LeverageModule.ReserveTokens := ⟨asset + 50, asset + 100⟩

def compoundOrAave (module : Address) : Integration ℕ :=
  if module = 5 then .compound debtMarket fun _ => 31 else .aave debtPool debtTokens

deriving instance DecidableEq for ComponentUnits

theorem holds_of_debt {edits : List (Address × ℤ)}
    (howes : ∀ module ∈ (heldSetToken edits).getExternalPositionModules 10,
      (heldSetToken edits).externalRealUnit 10 module < 0) :
    ∀ module ∈ (heldSetToken edits).getExternalPositionModules 10,
      (compoundOrAave module).Holds (heldSetToken edits) module 10 := by
  intro module hmodule
  rw [compoundOrAave]
  split
  · exact howes module hmodule
  · exact howes module hmodule

/-- Fifty default units, and twenty owed on Aave. -/
theorem replicatedOnce_default_and_aave :
    ReplicatedOnce compoundOrAave 3 passingHooks (heldWorld [(6, -20)]) (10 ^ 18) true
        [⟨10, 50, 20⟩] ⟨10, 50, 20⟩ ↔
      SeparateSides compoundOrAave (heldSetToken [(6, -20)]) 10 := by
  apply replicatedOnce_iff (bookkept_heldSetToken _)
  · rfl
  · exact holds_of_debt (by decide +kernel)
  · decide +kernel
  · exact List.mem_singleton.mpr rfl
  · decide +kernel

/-- The same owed on Compound is borrowed twice, and the SetToken keeps the first
borrowing. -/
theorem compound_borrows_for_equity :
    calculateRequiredComponentIssuanceUnits (heldSetToken [(5, -20)]) (10 ^ 18) true =
      .ok [⟨10, 50, 20⟩] ∧ ∃ after,
    resolvePositions (integrationHooks compoundOrAave 3 passingHooks) 3
      (heldWorld [(5, -20)]) 7 (10 ^ 18) 7 true [⟨10, 50, 20⟩] = .ok after ∧
    callsOf after 10 = [⟨.borrow, 5, 31, 10, 20⟩, ⟨.borrow, 5, 31, 10, 20⟩] ∧
    ¬ReplicatedOnce compoundOrAave 3 passingHooks (heldWorld [(5, -20)]) (10 ^ 18) true
      [⟨10, 50, 20⟩] ⟨10, 50, 20⟩ := by
  obtain ⟨after, hresolved, hcalls⟩ := returns_iff.mp (by decide +kernel :
    Returns (resolvePositions (integrationHooks compoundOrAave 3 passingHooks) 3
      (heldWorld [(5, -20)]) 7 (10 ^ 18) 7 true [⟨10, 50, 20⟩]) fun after =>
        callsOf after 10 = [⟨.borrow, 5, 31, 10, 20⟩, ⟨.borrow, 5, 31, 10, 20⟩])
  refine ⟨by decide +kernel, after, hresolved, hcalls, fun honce => ?_⟩
  have hrecorded := honce.recorded 7 7 after hresolved
  change callsOf after 10 = _ at hrecorded
  rw [hcalls] at hrecorded
  exact absurd hrecorded (by decide +kernel)

end SetProtocol.ExternalHooks
