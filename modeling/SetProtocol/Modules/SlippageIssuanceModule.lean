import SetProtocol.Core.UnitRoundTrip
import SetProtocol.Library.Loops
import SetProtocol.Modules.DebtIssuanceTransfers
import SetProtocol.Modules.DebtIssuanceUnits

/-!
# The slippage issuance module

Issuance and redemption of Sets that trade in order to replicate their positions.  The
caller bounds what is moved, and a caller outside of the chain can ask beforehand.  The
answer adds up how each registered module says that it is going to adjust the units.
-/

namespace SetProtocol.SlippageIssuanceModule

open Transaction PreciseUnitMath DebtIssuanceModule

/-- `IModuleIssuanceHookV2`.  The answers are lists over the components, first for the
equity and then for the debt, and the call may leave something behind. -/
structure HooksV2 (E : Type) extends Hooks E where
  getIssuanceAdjustments (hook : Address) (quantity : ℕ) :
    World E → Outcome (World E × List ℤ × List ℤ)
  getRedemptionAdjustments (hook : Address) (quantity : ℕ) :
    World E → Outcome (World E × List ℤ × List ℤ)

variable {E : Type}

/-! ## Issue and redeem -/

def issue (_quantity : ℕ) (_recipient : Address) : Outcome (World E) :=
  .error "Call issueWithSlippage instead"

def redeem (_quantity : ℕ) (_recipient : Address) : Outcome (World E) :=
  .error "Call redeemWithSlippage instead"

def validateInputs (setQuantity : ℕ) (components : List Address)
    (componentLimits : List ℕ) : Outcome Unit := do
  require (0 < setQuantity) "SetToken quantity must be > 0"
  require (components.length = componentLimits.length) "Array length mismatch"
  if 0 < components.length then do
    let duplicate ← AddressArrayUtils.hasDuplicate components
    require (duplicate = false) "Cannot duplicate addresses"
  else pure ()

/-- One turn of `_validateTokenTransferLimits`. -/
def validateTokenTransferLimit (components : List ComponentUnits) (isIssue : Bool)
    (checkedComponent : Address) (tokenTransferLimit : ℕ) : Outcome Unit := do
  let (componentIndex, isIn) := AddressArrayUtils.indexOf
    (components.map ComponentUnits.component) checkedComponent
  require (isIn = true) "Limit passed for invalid component"
  match components[componentIndex]? with
  | none => .error "invalid opcode"
  | some units =>
      if isIssue = true then
        require (units.equity ≤ tokenTransferLimit) "Too many tokens required for issuance"
      else
        require (tokenTransferLimit ≤ units.equity) "Too few tokens returned for redemption"

def validateTokenTransferLimits (components : List ComponentUnits) (isIssue : Bool)
    (limits : List (Address × ℕ)) : Outcome Unit :=
  limits.forM fun limit => validateTokenTransferLimit components isIssue limit.1 limit.2

/-- What is decided before tokens move. -/
structure Prepared where
  fees : TotalFees
  components : List ComponentUnits

/-- `issueWithSlippage`, up to the point where tokens move. -/
def prepareForIssue (hooks : HooksV2 E) (module : Address) (world : World E)
    (sender : Address) (setQuantity : ℕ) (checkedComponents : List Address)
    (maxTokenAmountsIn : List ℕ) (recipient : Address) : Outcome (World E × Prepared) := do
  world.validateOnlyValidAndInitializedSet module
  validateInputs setQuantity checkedComponents maxTokenAmountsIn
  let called ← callManagerPreIssueHooks hooks.toHooks world setQuantity sender recipient
  let fees ← calculateTotalFees module called setQuantity true
  let ready ← callModulePreIssueHooks hooks.toHooks called fees.totalQuantity
  let components ←
    calculateRequiredComponentIssuanceUnits ready.setToken fees.totalQuantity true
  validateTokenTransferLimits components true (checkedComponents.zip maxTokenAmountsIn)
  pure (ready, ⟨fees, components⟩)

def pullEquity (hooks : HooksV2 E) (module : Address) (ready : World E)
    (sender recipient : Address) (prepared : Prepared) : Outcome (World E) :=
  resolveEquityPositions hooks.toHooks module ready sender prepared.fees.totalQuantity
    recipient true prepared.components

def returnDebt (hooks : HooksV2 E) (module : Address) (pulled : World E)
    (sender : Address) (prepared : Prepared) : Outcome (World E) :=
  resolveDebtPositions hooks.toHooks module pulled sender prepared.fees.totalQuantity true
    prepared.components

/-- The rest of `issueWithSlippage`. -/
def completeIssue (hooks : HooksV2 E) (module : Address) (ready : World E)
    (sender : Address) (setQuantity : ℕ) (recipient : Address) (prepared : Prepared) :
    Outcome (World E) := do
  let pulled ← pullEquity hooks module ready sender recipient prepared
  let returned ← returnDebt hooks module pulled sender prepared
  let charged ← resolveFees module returned prepared.fees.managerFee
    prepared.fees.protocolFee
  let chain ← charged.mint module recipient setQuantity
  pure (charged.withChain chain)

def issueWithSlippage (hooks : HooksV2 E) (module : Address) (world : World E)
    (sender : Address) (setQuantity : ℕ) (checkedComponents : List Address)
    (maxTokenAmountsIn : List ℕ) (recipient : Address) : Outcome (World E) := do
  let (ready, prepared) ← prepareForIssue hooks module world sender setQuantity
    checkedComponents maxTokenAmountsIn recipient
  completeIssue hooks module ready sender setQuantity recipient prepared

/-- `redeemWithSlippage`, up to the point where tokens move. -/
def prepareForRedeem (hooks : HooksV2 E) (module : Address) (world : World E)
    (sender : Address) (setQuantity : ℕ) (checkedComponents : List Address)
    (minTokenAmountsOut : List ℕ) : Outcome (World E × Prepared) := do
  world.validateOnlyValidAndInitializedSet module
  validateInputs setQuantity checkedComponents minTokenAmountsOut
  let fees ← calculateTotalFees module world setQuantity false
  let called ← callModulePreRedeemHooks hooks.toHooks world fees.totalQuantity
  -- burning after the hooks: they sync positions by the supply
  let chain ← called.burn module sender setQuantity
  let ready := called.withChain chain
  let components ←
    calculateRequiredComponentIssuanceUnits ready.setToken fees.totalQuantity false
  validateTokenTransferLimits components false (checkedComponents.zip minTokenAmountsOut)
  pure (ready, ⟨fees, components⟩)

def collectDebt (hooks : HooksV2 E) (module : Address) (ready : World E)
    (sender : Address) (prepared : Prepared) : Outcome (World E) :=
  resolveDebtPositions hooks.toHooks module ready sender prepared.fees.totalQuantity false
    prepared.components

def payEquity (hooks : HooksV2 E) (module : Address) (collected : World E)
    (sender recipient : Address) (prepared : Prepared) : Outcome (World E) :=
  resolveEquityPositions hooks.toHooks module collected sender prepared.fees.totalQuantity
    recipient false prepared.components

/-- The rest of `redeemWithSlippage`. -/
def completeRedeem (hooks : HooksV2 E) (module : Address) (ready : World E)
    (sender recipient : Address) (prepared : Prepared) : Outcome (World E) := do
  let collected ← collectDebt hooks module ready sender prepared
  let paid ← payEquity hooks module collected sender recipient prepared
  resolveFees module paid prepared.fees.managerFee prepared.fees.protocolFee

def redeemWithSlippage (hooks : HooksV2 E) (module : Address) (world : World E)
    (sender : Address) (setQuantity : ℕ) (checkedComponents : List Address)
    (minTokenAmountsOut : List ℕ) (recipient : Address) : Outcome (World E) := do
  let (ready, prepared) ← prepareForRedeem hooks module world sender setQuantity
    checkedComponents minTokenAmountsOut
  completeRedeem hooks module ready sender recipient prepared

/-! ## Previews -/

/-- One turn of the inner loop of `_calculateAdjustments`, for the equity and the debt of a
component. -/
def addAdjustment (cumulative adjustment : ℤ × ℤ) : Outcome (ℤ × ℤ) := do
  let equity ← SignedSafeMath.add cumulative.1 adjustment.1
  let debt ← SignedSafeMath.add cumulative.2 adjustment.2
  pure (equity, debt)

/-- One turn of the outer loop. -/
def addHookAdjustments (hooks : HooksV2 E) (quantity : ℕ) (isIssue : Bool)
    (progress : World E × List (ℤ × ℤ)) (hook : Address) :
    Outcome (World E × List (ℤ × ℤ)) := do
  let (world, equityAdjustments, debtAdjustments) ← (
    if isIssue = true then hooks.getIssuanceAdjustments hook quantity progress.1
    else hooks.getRedemptionAdjustments hook quantity progress.1)
  let cumulative ← mapAlong "invalid opcode" addAdjustment progress.2
    (equityAdjustments.zip debtAdjustments)
  pure (world, cumulative)

/-- The adjustments of equity and debt, component by component. -/
def calculateAdjustments (hooks : HooksV2 E) (world : World E) (quantity : ℕ)
    (isIssue : Bool) : Outcome (World E × List (ℤ × ℤ)) :=
  world.issuanceSettings.moduleIssuanceHooks.foldlM
    (addHookAdjustments hooks quantity isIssue)
    (world, world.setToken.components.map fun _ => (0, 0))

/-- One turn of `_calculateAdjustedComponentIssuanceUnits`.  More debt is a negative
adjustment. -/
def adjustedIssuanceUnits (quantity : ℕ) (isIssue : Bool) (units : ComponentUnits)
    (adjustment : ℤ × ℤ) : Outcome ComponentUnits := do
  let equity ← SafeCast.toInt256 units.equity
  let adjustedEquity ← SignedSafeMath.add equity adjustment.1
  let adjustedEquityUnits ← SafeCast.toUint256 adjustedEquity
  let totalEquityUnits ← (
    if isIssue = true then preciseMulCeil adjustedEquityUnits quantity
    else preciseMul adjustedEquityUnits quantity)
  let debt ← SafeCast.toInt256 units.debt
  let adjustedDebt ← SignedSafeMath.sub debt adjustment.2
  let adjustedDebtUnits ← SafeCast.toUint256 adjustedDebt
  let totalDebtUnits ← (
    if isIssue = true then preciseMul adjustedDebtUnits quantity
    else preciseMulCeil adjustedDebtUnits quantity)
  pure ⟨units.component, totalEquityUnits, totalDebtUnits⟩

def calculateAdjustedComponentIssuanceUnits (setToken : SetToken) (quantity : ℕ)
    (isIssue : Bool) (adjustments : List (ℤ × ℤ)) : Outcome (List ComponentUnits) := do
  let units ← getTotalIssuanceUnits setToken
  mapAlong "invalid opcode" (adjustedIssuanceUnits quantity isIssue) units adjustments

/-- What both getters do. -/
def getRequiredComponentUnitsOffChain (hooks : HooksV2 E) (module : Address)
    (world : World E) (quantity : ℕ) (isIssue : Bool) :
    Outcome (World E × List ComponentUnits) := do
  let fees ← calculateTotalFees module world quantity isIssue
  let (asked, adjustments) ← calculateAdjustments hooks world fees.totalQuantity isIssue
  let components ← calculateAdjustedComponentIssuanceUnits asked.setToken
    fees.totalQuantity isIssue adjustments
  pure (asked, components)

def getRequiredComponentIssuanceUnitsOffChain (hooks : HooksV2 E) (module : Address)
    (world : World E) (quantity : ℕ) : Outcome (World E × List ComponentUnits) :=
  getRequiredComponentUnitsOffChain hooks module world quantity true

def getRequiredComponentRedemptionUnitsOffChain (hooks : HooksV2 E) (module : Address)
    (world : World E) (quantity : ℕ) : Outcome (World E × List ComponentUnits) :=
  getRequiredComponentUnitsOffChain hooks module world quantity false

/-- What a caller learns and then issues: the amounts of the preview are those that are
worked with, and move. -/
def IssuesAsPreviewed (hooks : HooksV2 E) (module : Address) (world : World E)
    (setQuantity : ℕ) : Prop :=
  ∀ sender checkedComponents maxTokenAmountsIn recipient asked quote next,
    getRequiredComponentIssuanceUnitsOffChain hooks module world setQuantity =
      .ok (asked, quote) →
    issueWithSlippage hooks module world sender setQuantity checkedComponents
      maxTokenAmountsIn recipient = .ok next →
    ∃ ready fees pulled returned,
      prepareForIssue hooks module world sender setQuantity checkedComponents
        maxTokenAmountsIn recipient = .ok (ready, ⟨fees, quote⟩) ∧
      completeIssue hooks module ready sender setQuantity recipient ⟨fees, quote⟩ =
        .ok next ∧
      pullEquity hooks module ready sender recipient ⟨fees, quote⟩ = .ok pulled ∧
      returnDebt hooks module pulled sender ⟨fees, quote⟩ = .ok returned ∧
      (Spares hooks.toHooks sender → ∀ units ∈ quote,
        accountBalance sender ready units.component =
            accountBalance sender pulled units.component + units.equity ∧
          accountBalance sender returned units.component =
            accountBalance sender pulled units.component + units.debt)

/-- The same for a redemption. -/
def RedeemsAsPreviewed (hooks : HooksV2 E) (module : Address) (world : World E)
    (setQuantity : ℕ) : Prop :=
  ∀ sender checkedComponents minTokenAmountsOut recipient asked quote next,
    getRequiredComponentRedemptionUnitsOffChain hooks module world setQuantity =
      .ok (asked, quote) →
    redeemWithSlippage hooks module world sender setQuantity checkedComponents
      minTokenAmountsOut recipient = .ok next →
    ∃ ready fees collected paid,
      prepareForRedeem hooks module world sender setQuantity checkedComponents
        minTokenAmountsOut = .ok (ready, ⟨fees, quote⟩) ∧
      completeRedeem hooks module ready sender recipient ⟨fees, quote⟩ = .ok next ∧
      collectDebt hooks module ready sender ⟨fees, quote⟩ = .ok collected ∧
      payEquity hooks module collected sender recipient ⟨fees, quote⟩ = .ok paid ∧
      (Spares hooks.toHooks sender → ∀ units ∈ quote,
        accountBalance sender ready units.component =
          accountBalance sender collected units.component + units.debt) ∧
      (Spares hooks.toHooks recipient → ∀ units ∈ quote,
        accountBalance recipient paid units.component =
          accountBalance recipient collected units.component + units.equity)

/-! ## What the units come to -/

variable {setToken before after : SetToken} {component : Address} {quantity : ℕ}
variable {isIssue : Bool} {adjustment : Address → ℤ}

/-- The equity of one share.  It is negative only for a SetToken that cannot be issued. -/
def equityUnit (setToken : SetToken) (component : Address) : ℤ :=
  realUnit setToken.positionMultiplier (setToken.defaultPositionVirtualUnit component) +
    Tally.total (setToken.getExternalPositionModules component)
      (setToken.externalEquityUnit component)

/-- The notional amounts of a component with this much equity. -/
def requiredUnits (setToken : SetToken) (quantity : ℕ) (isIssue : Bool)
    (equity : Address → ℤ) (component : Address) : ComponentUnits :=
  ⟨component, notional (equity component).toNat quantity isIssue,
    notionalDebt (debtUnits setToken component) quantity isIssue⟩

theorem totalUnits_eq_ok {units : ComponentUnits}
    (hcall : totalIssuanceUnits setToken component = .ok units) :
    units.component = component ∧ (units.equity : ℤ) = equityUnit setToken component ∧
      units.debt = debtUnits setToken component := by
  simp only [totalIssuanceUnits, bind_eq_ok, SignedSafeMath.mul_eq_ok,
    SafeCast.toUint256_eq_ok, pure_eq_ok] at hcall
  obtain ⟨unit, hunit, ⟨equity, debt⟩, hloop, equityUnits, hequity, _, ⟨-, rfl⟩, debtUnits,
    hdebt, rfl⟩ := hcall
  obtain ⟨hequities, hdebts⟩ := addExternalUnit_foldlM hloop
  obtain rfl := SetToken.getDefaultPositionRealUnit_eq_ok hunit
  change equity = _ at hequity
  change equity = _ at hequities
  change debt = 0 - _ at hdebts
  refine ⟨rfl, ?_, ?_⟩
  · rw [equityUnit, ← hequity, hequities]
  · change debtUnits = DebtIssuanceModule.debtUnits setToken component
    rw [DebtIssuanceModule.debtUnits]
    omega

theorem totals_eq_ok {totals : List ComponentUnits}
    (hcall : getTotalIssuanceUnits setToken = .ok totals) :
    totals = setToken.components.map fun component =>
      ⟨component, (equityUnit setToken component).toNat, debtUnits setToken component⟩ := by
  rw [← List.map_id totals]
  apply map_of_mapM_eq_ok _ id _ hcall
  intro component _ units hunits
  obtain ⟨hcomponent, hequity, hdebt⟩ := totalUnits_eq_ok hunits
  rw [← hequity, ← hdebt, ← hcomponent, Int.toNat_natCast]
  rfl

theorem required_eq_ok {required : List ComponentUnits}
    (hcall : calculateRequiredComponentIssuanceUnits setToken quantity isIssue =
      .ok required) :
    required = setToken.components.map
      (requiredUnits setToken quantity isIssue (equityUnit setToken)) := by
  simp only [calculateRequiredComponentIssuanceUnits, bind_eq_ok] at hcall
  obtain ⟨totals, htotals, hrequired⟩ := hcall
  rw [totals_eq_ok htotals] at hrequired
  have hunits := map_of_mapM_eq_ok (fun total : ComponentUnits => ComponentUnits.mk
    total.component (notional total.equity quantity isIssue)
    (notionalDebt total.debt quantity isIssue)) id
    (fun total _ units hunits => requiredUnits_eq_ok hunits) hrequired
  rw [List.map_id, List.map_map] at hunits
  exact hunits

/-! ## What is previewed -/

theorem adjustedUnits_eq_ok {units required : ComponentUnits} {equityAdjustment : ℤ}
    (hcall : adjustedIssuanceUnits quantity isIssue units (equityAdjustment, 0) =
      .ok required) :
    required = ⟨units.component,
      notional (units.equity + equityAdjustment).toNat quantity isIssue,
      notionalDebt units.debt quantity isIssue⟩ := by
  simp only [adjustedIssuanceUnits, bind_eq_ok, SafeCast.toInt256_eq_ok,
    SignedSafeMath.add_eq_ok, SignedSafeMath.sub_eq_ok, SafeCast.toUint256_eq_ok,
    pure_eq_ok] at hcall
  obtain ⟨_, ⟨-, rfl⟩, _, ⟨-, rfl⟩, equity, hequity, totalEquity, hcharged, _, ⟨-, rfl⟩, _,
    ⟨-, rfl⟩, debt, hdebt, totalDebt, howed, rfl⟩ := hcall
  rw [sub_zero, Nat.cast_inj] at hdebt
  have hrequired : requiredIssuanceUnits quantity isIssue ⟨units.component, equity, debt⟩ =
      .ok ⟨units.component, totalEquity, totalDebt⟩ := by
    rw [requiredIssuanceUnits, hcharged, ok_bind, howed, ok_bind]
    rfl
  rw [requiredUnits_eq_ok hrequired, hequity, hdebt, Int.toNat_natCast]

/-- The equity is refused if it is negative. -/
theorem equityUnit_nonneg {totals : List ComponentUnits}
    (hcall : getTotalIssuanceUnits setToken = .ok totals)
    (hmem : component ∈ setToken.components) : 0 ≤ equityUnit setToken component := by
  obtain ⟨units, hunits⟩ := ok_of_mapM_eq_ok hcall hmem
  rw [← (totalUnits_eq_ok hunits).2.1]
  exact Int.natCast_nonneg _

theorem adjusted_eq_ok {quote : List ComponentUnits}
    (hcall : calculateAdjustedComponentIssuanceUnits setToken quantity isIssue
      (setToken.components.map fun component => (adjustment component, 0)) = .ok quote) :
    quote = setToken.components.map
      (requiredUnits setToken quantity isIssue fun component =>
        equityUnit setToken component + adjustment component) := by
  simp only [calculateAdjustedComponentIssuanceUnits, bind_eq_ok] at hcall
  obtain ⟨totals, htotals, hquote⟩ := hcall
  have hnonneg : ∀ component ∈ setToken.components,
      ((equityUnit setToken component).toNat : ℤ) = equityUnit setToken component :=
    fun component hmem => Int.toNat_of_nonneg (equityUnit_nonneg htotals hmem)
  rw [totals_eq_ok htotals, mapAlong_map] at hquote
  have hunits := map_of_mapM_eq_ok (requiredUnits setToken quantity isIssue fun component =>
    equityUnit setToken component + adjustment component) id
    (fun component hmem units hunits => by
      rw [id, adjustedUnits_eq_ok hunits, requiredUnits, hnonneg component hmem]) hquote
  rwa [List.map_id] at hunits

/-! ## The preview of a hook -/

/-- A hook changes the equity units by these adjustments and the debt not at all. -/
structure Adjusts (before after : SetToken) (adjustment : Address → ℤ) : Prop where
  components : after.components = before.components
  equity : ∀ component ∈ before.components,
    equityUnit after component = equityUnit before component + adjustment component
  debt : ∀ component ∈ before.components,
    debtUnits after component = debtUnits before component

theorem Adjusts.quote_eq (hadjusts : Adjusts before after adjustment)
    {quote required : List ComponentUnits}
    (hquote : calculateAdjustedComponentIssuanceUnits before quantity isIssue
      (before.components.map fun component => (adjustment component, 0)) = .ok quote)
    (hrequired : calculateRequiredComponentIssuanceUnits after quantity isIssue =
      .ok required) : required = quote := by
  rw [adjusted_eq_ok hquote, required_eq_ok hrequired, hadjusts.components]
  apply List.map_congr_left
  intro component hmem
  rw [requiredUnits, requiredUnits, hadjusts.equity component hmem,
    hadjusts.debt component hmem]

theorem Adjusts.congr {other : Address → ℤ} (hadjusts : Adjusts before after adjustment)
    (hsame : ∀ component ∈ before.components, other component = adjustment component) :
    Adjusts before after other where
  components := hadjusts.components
  equity component hmem := by rw [hadjusts.equity component hmem, hsame component hmem]
  debt := hadjusts.debt

theorem Adjusts.none (hcomponents : after.components = before.components)
    (hequity : ∀ component ∈ before.components,
      equityUnit after component = equityUnit before component)
    (hdebt : ∀ component ∈ before.components,
      debtUnits after component = debtUnits before component) :
    Adjusts before after fun _ => 0 where
  components := hcomponents
  equity component hmem := by rw [hequity component hmem, add_zero]
  debt := hdebt

/-! ## Overwriting an external unit -/

variable {controller : Controller} {sender hook collateral : Address} {unit : ℤ}

theorem externalRealUnit_of_unit (hmultiplier : setToken.positionMultiplier = preciseUnitInt)
    (component hook : Address) : setToken.externalRealUnit component hook =
      setToken.externalPositionVirtualUnit component hook := by
  rw [SetToken.externalRealUnit, realUnit, hmultiplier,
    Int.mul_ediv_cancel _ preciseUnitInt_pos.ne']

/-- With a multiplier of one a unit is stored as it is. -/
theorem editExternalPositionUnit_of_unit
    (hmultiplier : setToken.positionMultiplier = preciseUnitInt)
    (hcall : setToken.editExternalPositionUnit controller sender collateral hook unit =
      .ok after) :
    after = setToken.withExternalPosition collateral hook
      { (setToken.componentPositions collateral).externalPositions hook with
        virtualUnit := unit } := by
  obtain ⟨-, virtualUnit, hconvert, rfl⟩ :=
    SetToken.editExternalPositionUnit_eq_ok.mp hcall
  have hpositive : 0 < setToken.positionMultiplier := hmultiplier ▸ preciseUnitInt_pos
  rw [(SetToken.convertRealToVirtualUnit_sign hpositive hconvert).1, hmultiplier,
    Int.mul_ediv_cancel _ preciseUnitInt_pos.ne']

/-- Only the one unit is another one. -/
structure Overwrites (before after : SetToken) (collateral hook : Address) (unit : ℤ) :
    Prop where
  components : after.components = before.components
  multiplier : after.positionMultiplier = before.positionMultiplier
  defaults : ∀ component,
    after.defaultPositionVirtualUnit component = before.defaultPositionVirtualUnit component
  modules : ∀ component,
    after.getExternalPositionModules component = before.getExternalPositionModules component
  written : after.externalRealUnit collateral hook = unit
  others : ∀ component other, component ≠ collateral ∨ other ≠ hook →
    after.externalRealUnit component other = before.externalRealUnit component other

theorem overwrites_of_edit (hmultiplier : setToken.positionMultiplier = preciseUnitInt)
    (hcall : setToken.editExternalPositionUnit controller sender collateral hook unit =
      .ok after) : Overwrites setToken after collateral hook unit := by
  have hafter := editExternalPositionUnit_of_unit hmultiplier hcall
  have hkept : after.positionMultiplier = preciseUnitInt := by rw [hafter]; exact hmultiplier
  have hposition : ∀ component, component ≠ collateral →
      after.componentPositions component = setToken.componentPositions component := by
    intro component hother
    rw [hafter]
    exact Function.update_of_ne hother _ _
  have hcollateral : after.componentPositions collateral =
      { setToken.componentPositions collateral with
        externalPositions := Function.update
          (setToken.componentPositions collateral).externalPositions hook
          { (setToken.componentPositions collateral).externalPositions hook with
            virtualUnit := unit } } := by
    rw [hafter]
    exact Function.update_self _ _ _
  constructor
  · rw [hafter]; rfl
  · rw [hkept, hmultiplier]
  · intro component
    rw [SetToken.defaultPositionVirtualUnit, SetToken.defaultPositionVirtualUnit]
    by_cases hsame : component = collateral
    · rw [hsame, hcollateral]
    · rw [hposition component hsame]
  · intro component
    rw [SetToken.getExternalPositionModules, SetToken.getExternalPositionModules]
    by_cases hsame : component = collateral
    · rw [hsame, hcollateral]
    · rw [hposition component hsame]
  · rw [externalRealUnit_of_unit hkept, SetToken.externalPositionVirtualUnit, hcollateral]
    simp only [Function.update_self]
  · intro component other hother
    rw [externalRealUnit_of_unit hkept, externalRealUnit_of_unit hmultiplier,
      SetToken.externalPositionVirtualUnit, SetToken.externalPositionVirtualUnit]
    by_cases hsame : component = collateral
    · have hne : other ≠ hook := hother.resolve_left (absurd hsame)
      rw [hsame, hcollateral]
      simp only [Function.update_of_ne hne]
    · rw [hposition component hsame]

theorem Overwrites.equityUnit_other (hoverwrites : Overwrites before after collateral hook unit)
    (hother : component ≠ collateral) :
    equityUnit after component = equityUnit before component := by
  have hunits : after.externalEquityUnit component = before.externalEquityUnit component := by
    funext other
    rw [SetToken.externalEquityUnit, SetToken.externalEquityUnit,
      hoverwrites.others component other (Or.inl hother)]
  rw [equityUnit, equityUnit, hoverwrites.multiplier, hoverwrites.defaults,
    hoverwrites.modules, hunits]

theorem Overwrites.debtUnits_other (hoverwrites : Overwrites before after collateral hook unit)
    (hother : component ≠ collateral) :
    debtUnits after component = debtUnits before component := by
  have hunits : after.externalDebtUnit component = before.externalDebtUnit component := by
    funext other
    rw [SetToken.externalDebtUnit, SetToken.externalDebtUnit,
      hoverwrites.others component other (Or.inl hother)]
  rw [debtUnits, debtUnits, hoverwrites.modules, hunits]

/-- A listed unit counts with what it is now instead of what it was. -/
theorem Overwrites.equityUnit_listed (hoverwrites : Overwrites before after collateral hook unit)
    (hlisted : hook ∈ before.getExternalPositionModules collateral)
    (hdistinct : (before.getExternalPositionModules collateral).Nodup)
    (hstored : 0 ≤ before.externalRealUnit collateral hook) (hunit : 0 ≤ unit) :
    equityUnit after collateral = equityUnit before collateral +
      (unit - before.externalRealUnit collateral hook) := by
  have hunits : after.externalEquityUnit collateral =
      Function.update (before.externalEquityUnit collateral) hook unit.toNat := by
    funext other
    by_cases hsame : other = hook
    · rw [hsame, Function.update_self, SetToken.externalEquityUnit, hoverwrites.written]
    · rw [Function.update_of_ne hsame, SetToken.externalEquityUnit,
        SetToken.externalEquityUnit, hoverwrites.others collateral other (Or.inr hsame)]
  have htotal := @Tally.total_update Address _
    (before.getExternalPositionModules collateral) (before.externalEquityUnit collateral)
    hook unit.toNat hdistinct hlisted
  rw [SetToken.externalEquityUnit] at htotal
  rw [equityUnit, equityUnit, hoverwrites.multiplier, hoverwrites.defaults,
    hoverwrites.modules, hunits]
  omega

theorem Overwrites.debtUnits_listed (hoverwrites : Overwrites before after collateral hook unit)
    (hstored : 0 ≤ before.externalRealUnit collateral hook) (hunit : 0 ≤ unit) :
    debtUnits after collateral = debtUnits before collateral := by
  rw [debtUnits, debtUnits, hoverwrites.modules]
  apply Tally.total_congr
  intro other _
  rw [SetToken.externalDebtUnit, SetToken.externalDebtUnit]
  by_cases hsame : other = hook
  · rw [hsame, hoverwrites.written]
    omega
  · rw [hoverwrites.others collateral other (Or.inr hsame)]

/-- An unlisted unit does not count. -/
theorem Overwrites.equityUnit_unlisted (hoverwrites : Overwrites before after collateral hook unit)
    (hnew : hook ∉ before.getExternalPositionModules collateral) :
    equityUnit after collateral = equityUnit before collateral := by
  have htotal : Tally.total (before.getExternalPositionModules collateral)
      (after.externalEquityUnit collateral) =
      Tally.total (before.getExternalPositionModules collateral)
        (before.externalEquityUnit collateral) := by
    apply Tally.total_congr
    intro other hmem
    have hne : other ≠ hook := fun hsame => hnew (hsame ▸ hmem)
    rw [SetToken.externalEquityUnit, SetToken.externalEquityUnit,
      hoverwrites.others collateral other (Or.inr hne)]
  rw [equityUnit, equityUnit, hoverwrites.multiplier, hoverwrites.defaults,
    hoverwrites.modules, htotal]

theorem Overwrites.debtUnits_unlisted (hoverwrites : Overwrites before after collateral hook unit)
    (hnew : hook ∉ before.getExternalPositionModules collateral) :
    debtUnits after collateral = debtUnits before collateral := by
  rw [debtUnits, debtUnits, hoverwrites.modules]
  apply Tally.total_congr
  intro other hmem
  have hne : other ≠ hook := fun hsame => hnew (hsame ▸ hmem)
  rw [SetToken.externalDebtUnit, SetToken.externalDebtUnit,
    hoverwrites.others collateral other (Or.inr hne)]

/-- The adjustment that a module announces for a unit it is going to overwrite. -/
def unitAdjustment (setToken : SetToken) (collateral hook : Address) (unit : ℤ)
    (component : Address) : ℤ :=
  if component = collateral then unit - setToken.externalRealUnit collateral hook else 0

/-- A unit counts as announced if it is listed and no debt. -/
theorem Overwrites.adjusts (hoverwrites : Overwrites before after collateral hook unit)
    (hlisted : hook ∈ before.getExternalPositionModules collateral)
    (hdistinct : (before.getExternalPositionModules collateral).Nodup)
    (hstored : 0 ≤ before.externalRealUnit collateral hook) (hunit : 0 ≤ unit) :
    Adjusts before after (unitAdjustment before collateral hook unit) where
  components := hoverwrites.components
  equity component _ := by
    by_cases hsame : component = collateral
    · rw [unitAdjustment, if_pos hsame, hsame,
        hoverwrites.equityUnit_listed hlisted hdistinct hstored hunit]
    · rw [unitAdjustment, if_neg hsame, hoverwrites.equityUnit_other hsame, add_zero]
  debt component _ := by
    by_cases hsame : component = collateral
    · rw [hsame, hoverwrites.debtUnits_listed hstored hunit]
    · rw [hoverwrites.debtUnits_other hsame]

/-- It does not count if it is not listed, or about no component. -/
theorem Overwrites.adjusts_none (hoverwrites : Overwrites before after collateral hook unit)
    (hunseen : collateral ∈ before.components →
      hook ∉ before.getExternalPositionModules collateral) :
    Adjusts before after fun _ => 0 := by
  apply Adjusts.none hoverwrites.components
  · intro component hmem
    by_cases hsame : component = collateral
    · subst hsame
      exact hoverwrites.equityUnit_unlisted (hunseen hmem)
    · exact hoverwrites.equityUnit_other hsame
  · intro component hmem
    by_cases hsame : component = collateral
    · subst hsame
      exact hoverwrites.debtUnits_unlisted (hunseen hmem)
    · exact hoverwrites.debtUnits_other hsame

/-! ## Sets with a single hook -/

variable {hooks : HooksV2 E} {world ready asked hooked : World E} {module recipient : Address}
variable {checkedComponents : List Address} {limits : List ℕ} {prepared : Prepared}
variable {quote : List ComponentUnits}

/-- What the hook does to this state is what it says before. -/
structure Announces (world asked hooked : World E) (equities debts : List ℤ) : Prop where
  unchanged : asked.setToken = world.setToken
  adjusts : ∃ adjustment,
    equities = world.setToken.components.map adjustment ∧
      debts = world.setToken.components.map (fun _ => 0) ∧
      Adjusts world.setToken hooked.setToken adjustment

/-- From nothing on, the adjustments of the hook are taken over. -/
theorem addAdjustments_of_none {components : List Address} {sums : List (ℤ × ℤ)}
    (hcall : mapAlong "invalid opcode" addAdjustment (components.map fun _ => (0, 0))
      ((components.map adjustment).zip (components.map fun _ => 0)) = .ok sums) :
    sums = components.map fun component => (adjustment component, 0) := by
  rw [List.zip_map', mapAlong_map] at hcall
  have hsums := map_of_mapM_eq_ok (fun component => (adjustment component, (0 : ℤ))) id
    (fun component _ sum hsum => by
      simp only [addAdjustment, bind_eq_ok, SignedSafeMath.add_eq_ok, pure_eq_ok] at hsum
      obtain ⟨_, ⟨-, rfl⟩, _, ⟨-, rfl⟩, rfl⟩ := hsum
      rw [id, zero_add, zero_add]) hcall
  rwa [List.map_id] at hsums

/-- The amounts of a preview are those that are charged after the hook. -/
theorem previewed_eq_required {fees : TotalFees} {required : List ComponentUnits}
    (hhooks : world.issuanceSettings.moduleIssuanceHooks = [hook])
    (hannounced : ∀ asked equities debts,
      (if isIssue = true then hooks.getIssuanceAdjustments hook fees.totalQuantity world
        else hooks.getRedemptionAdjustments hook fees.totalQuantity world) =
          .ok (asked, equities, debts) → Announces world asked hooked equities debts)
    (hfees : calculateTotalFees module world quantity isIssue = .ok fees)
    (hpreview : getRequiredComponentUnitsOffChain hooks module world quantity isIssue =
      .ok (asked, quote))
    (hrequired : calculateRequiredComponentIssuanceUnits hooked.setToken fees.totalQuantity
      isIssue = .ok required) :
    required = quote ∧ quote.map ComponentUnits.component = world.setToken.components := by
  simp only [getRequiredComponentUnitsOffChain, hfees, ok_bind, bind_eq_ok, pure_eq_ok,
    Prod.mk.injEq, calculateAdjustments, hhooks, List.foldlM_cons, List.foldlM_nil,
    addHookAdjustments] at hpreview
  obtain ⟨_, ⟨_, ⟨⟨told, equities, debts⟩, htold, sums, hsums, rfl⟩, rfl⟩, _, hquote, -,
    rfl⟩ := hpreview
  obtain ⟨hunchanged, adjustment, rfl, rfl, hadjusts⟩ := hannounced _ _ _ htold
  rw [addAdjustments_of_none hsums, hunchanged] at hquote
  refine ⟨hadjusts.quote_eq hquote hrequired, ?_⟩
  rw [adjusted_eq_ok hquote, List.map_map]
  exact List.map_id _

/-- A manager's hook that only looks on. -/
def Idle (hooks : HooksV2 E) : Prop :=
  ∀ hook quantity caller target world next,
    hooks.invokePreIssueHook hook quantity caller target world = .ok next → next = world

theorem callManagerPreIssueHooks_of_idle (hidle : Idle hooks)
    (hcall : callManagerPreIssueHooks hooks.toHooks world quantity sender recipient =
      .ok ready) : ready = world := by
  rw [callManagerPreIssueHooks] at hcall
  split at hcall
  · exact hidle _ _ _ _ _ _ hcall
  · exact (pure_eq_ok.mp hcall).symm

theorem prepareForIssue_eq_quote (hidle : Idle hooks)
    (hhooks : world.issuanceSettings.moduleIssuanceHooks = [hook])
    (hannounced : ∀ fees asked equities debts hooked,
      calculateTotalFees module world quantity true = .ok fees →
      hooks.getIssuanceAdjustments hook fees.totalQuantity world =
        .ok (asked, equities, debts) →
      hooks.moduleIssueHook hook fees.totalQuantity world = .ok hooked →
        Announces world asked hooked equities debts)
    (hcall : prepareForIssue hooks module world sender quantity checkedComponents limits
      recipient = .ok (ready, prepared))
    (hpreview : getRequiredComponentIssuanceUnitsOffChain hooks module world quantity =
      .ok (asked, quote)) :
    prepared.components = quote ∧
      quote.map ComponentUnits.component = world.setToken.components := by
  simp only [prepareForIssue, bind_eq_ok, pure_eq_ok, Prod.mk.injEq] at hcall
  obtain ⟨_, -, _, -, called, hcalled, fees, hfees, hooked, hhooked, required, hrequired, _, -,
    rfl, rfl⟩ := hcall
  obtain rfl := callManagerPreIssueHooks_of_idle hidle hcalled
  simp only [callModulePreIssueHooks, hhooks, List.foldlM_cons, List.foldlM_nil, bind_eq_ok,
    pure_eq_ok, exists_eq_right] at hhooked
  apply previewed_eq_required hhooks _ hfees hpreview hrequired
  intro told equities debts htold
  rw [if_pos rfl] at htold
  exact hannounced _ _ _ _ _ hfees htold hhooked

/-- The supply is not looked at after the hook. -/
theorem prepareForRedeem_eq_quote
    (hhooks : world.issuanceSettings.moduleIssuanceHooks = [hook])
    (hannounced : ∀ fees asked equities debts hooked,
      calculateTotalFees module world quantity false = .ok fees →
      hooks.getRedemptionAdjustments hook fees.totalQuantity world =
        .ok (asked, equities, debts) →
      hooks.moduleRedeemHook hook fees.totalQuantity world = .ok hooked →
        Announces world asked hooked equities debts)
    (hcall : prepareForRedeem hooks module world sender quantity checkedComponents limits =
      .ok (ready, prepared))
    (hpreview : getRequiredComponentRedemptionUnitsOffChain hooks module world quantity =
      .ok (asked, quote)) :
    prepared.components = quote ∧
      quote.map ComponentUnits.component = world.setToken.components := by
  simp only [prepareForRedeem, bind_eq_ok, pure_eq_ok, Prod.mk.injEq] at hcall
  obtain ⟨_, -, _, -, fees, hfees, called, hcalled, chain, hburnt, required, hrequired, _, -,
    rfl, rfl⟩ := hcall
  simp only [callModulePreRedeemHooks, hhooks, List.foldlM_cons, List.foldlM_nil, bind_eq_ok,
    pure_eq_ok, exists_eq_right] at hcalled
  obtain ⟨-, -, -, rfl⟩ := Chain.burn_eq_ok hburnt
  apply previewed_eq_required hhooks _ hfees hpreview hrequired
  intro told equities debts htold
  rw [if_neg Bool.false_ne_true] at htold
  obtain ⟨hunchanged, adjustment, hequities, hdebts, hadjusts⟩ :=
    hannounced _ _ _ _ _ hfees htold hcalled
  exact ⟨hunchanged, adjustment, hequities, hdebts, hadjusts.components, hadjusts.equity,
    hadjusts.debt⟩

theorem issuesAsPreviewed (hidle : Idle hooks)
    (hhooks : world.issuanceSettings.moduleIssuanceHooks = [hook])
    (hdistinct : world.setToken.components.Nodup)
    (hannounced : ∀ fees asked equities debts hooked,
      calculateTotalFees module world quantity true = .ok fees →
      hooks.getIssuanceAdjustments hook fees.totalQuantity world =
        .ok (asked, equities, debts) →
      hooks.moduleIssueHook hook fees.totalQuantity world = .ok hooked →
        Announces world asked hooked equities debts) :
    IssuesAsPreviewed hooks module world quantity := by
  intro sender checkedComponents maxTokenAmountsIn recipient asked quote next hpreview hcall
  simp only [issueWithSlippage, bind_eq_ok] at hcall
  obtain ⟨⟨ready, ⟨fees, _⟩⟩, hprepared, hcompleted⟩ := hcall
  obtain ⟨rfl, hcomponents⟩ :=
    prepareForIssue_eq_quote hidle hhooks hannounced hprepared hpreview
  rw [← hcomponents] at hdistinct
  have hmoved := hcompleted
  simp only [completeIssue, bind_eq_ok] at hmoved
  obtain ⟨pulled, hpulled, returned, hreturned, -⟩ := hmoved
  refine ⟨ready, fees, pulled, returned, hprepared, hcompleted, hpulled, hreturned, ?_⟩
  intro hspares units hunits
  exact ⟨resolveEquityPositions_collects hspares hdistinct hpulled units hunits,
    resolveDebtPositions_returns hspares hdistinct hreturned units hunits⟩

theorem redeemsAsPreviewed
    (hhooks : world.issuanceSettings.moduleIssuanceHooks = [hook])
    (hdistinct : world.setToken.components.Nodup)
    (hannounced : ∀ fees asked equities debts hooked,
      calculateTotalFees module world quantity false = .ok fees →
      hooks.getRedemptionAdjustments hook fees.totalQuantity world =
        .ok (asked, equities, debts) →
      hooks.moduleRedeemHook hook fees.totalQuantity world = .ok hooked →
        Announces world asked hooked equities debts) :
    RedeemsAsPreviewed hooks module world quantity := by
  intro sender checkedComponents minTokenAmountsOut recipient asked quote next hpreview hcall
  simp only [redeemWithSlippage, bind_eq_ok] at hcall
  obtain ⟨⟨ready, ⟨fees, _⟩⟩, hprepared, hcompleted⟩ := hcall
  obtain ⟨rfl, hcomponents⟩ := prepareForRedeem_eq_quote hhooks hannounced hprepared hpreview
  rw [← hcomponents] at hdistinct
  have hmoved := hcompleted
  simp only [completeRedeem, bind_eq_ok] at hmoved
  obtain ⟨collected, hcollected, paid, hpaid, -⟩ := hmoved
  refine ⟨ready, fees, collected, paid, hprepared, hcompleted, hcollected, hpaid, ?_, ?_⟩
  · intro hspares
    exact resolveDebtPositions_collects hspares hdistinct hcollected
  · intro hspares
    exact resolveEquityPositions_returns hspares hdistinct hpaid

end SetProtocol.SlippageIssuanceModule
