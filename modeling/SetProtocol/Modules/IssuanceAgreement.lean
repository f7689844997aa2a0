import SetProtocol.Library.Agreement
import SetProtocol.Modules.BasicIssuanceSolvency

/-!
# Basic issuance and debt issuance

Where a SetToken has default positions only, charges no fees and has no hooks, the debt
issuance module does what the basic one does.  Both are brought into one normal form: a
condition on the units, a loop of transfers and a change of the supply.
-/

namespace SetProtocol.IssuanceAgreement

open Transaction PreciseUnitMath
open BasicIssuanceModule (due payout)
open DebtIssuanceModule (DefaultOnly)

variable {E F : Type} {module sender target component : Address} {quantity : ℕ}
variable {setToken : SetToken} {chain after : Chain}

/-! ## The normal form -/

/-- The unit of a component can be read, and multiplied by the quantity. -/
def UnitFits (setToken : SetToken) (quantity : ℕ) (component : Address) : Prop :=
  setToken.getDefaultPositionRealUnit component =
      .ok (setToken.defaultRealUnit component : ℤ) ∧
    setToken.defaultRealUnit component * quantity ≤ maxUint256

/-- A component comes in. -/
def takeIn (sender : Address) (setToken : SetToken) (quantity : ℕ) (chain : Chain)
    (component : Address) : Outcome Chain :=
  chain.transferFrom component sender chain.setTokenAddress (due setToken quantity component)

/-- A component goes out. -/
def payOut (module target : Address) (setToken : SetToken) (quantity : ℕ) (chain : Chain)
    (component : Address) : Outcome Chain :=
  chain.strictInvokeTransfer module component target (payout setToken quantity component)

def turn (module sender target : Address) (setToken : SetToken) (quantity : ℕ) :
    Bool → Chain → Address → Outcome Chain
  | true => takeIn sender setToken quantity
  | false => payOut module target setToken quantity

/-- The SetToken and the Controller stay what they were. -/
def Unmoved (chain state : Chain) : Prop := ∃ balances, state = { chain with balances := balances }

theorem unmoved_takeIn {state next : Chain} (hstate : Unmoved chain state)
    (hturn : takeIn sender setToken quantity state component = .ok next) :
    Unmoved chain next := by
  obtain ⟨_, rfl⟩ := hstate
  obtain ⟨_, rfl⟩ := Chain.transferFrom_frame hturn
  exact ⟨_, rfl⟩

theorem unmoved_payOut {state next : Chain} (hstate : Unmoved chain state)
    (hturn : payOut module target setToken quantity state component = .ok next) :
    Unmoved chain next := by
  obtain ⟨_, rfl⟩ := hstate
  obtain ⟨_, rfl⟩ := Chain.strictInvokeTransfer_frame hturn
  exact ⟨_, rfl⟩

/-- What an issuance comes to. -/
def Issues (module : Address) (chain : Chain) (sender : Address) (quantity : ℕ)
    (target : Address) (after : Chain) : Prop :=
  chain.isSetValidAndInitialized module ∧ 0 < quantity ∧
    (∀ component ∈ chain.setToken.components, UnitFits chain.setToken quantity component) ∧
    ∃ collected,
      chain.setToken.components.foldlM (takeIn sender chain.setToken quantity) chain =
        .ok collected ∧
      collected.mint module target quantity = .ok after

/-- What a redemption comes to. -/
def Redeems (module : Address) (chain : Chain) (sender : Address) (quantity : ℕ)
    (target : Address) (after : Chain) : Prop :=
  chain.isSetValidAndInitialized module ∧ 0 < quantity ∧
    ∃ burnt, chain.burn module sender quantity = .ok burnt ∧
      (∀ component ∈ burnt.setToken.components, UnitFits burnt.setToken quantity component) ∧
      burnt.setToken.components.foldlM (payOut module target burnt.setToken quantity) burnt =
        .ok after

/-! ## The basic module -/

theorem componentUnitsForIssue_eq_ok {entry : Address × ℕ}
    (hnone : setToken.getExternalPositionModules component = []) :
    BasicIssuanceModule.componentUnitsForIssue setToken quantity component = .ok entry ↔
      UnitFits setToken quantity component ∧
        (component, due setToken quantity component) = entry := by
  simp only [BasicIssuanceModule.componentUnitsForIssue, bind_eq_ok, require_eq_ok,
    Position.hasExternalPosition_eq_false, preciseMulCeil_eq_ok, pure_eq_ok]
  constructor
  · rintro ⟨_, -, unit, hunit, cast, hcast, _, ⟨hfits, rfl⟩, rfl⟩
    have hsame := SetToken.defaultRealUnit_of_ok hunit hcast
    rw [SafeCast.toUint256_eq_ok] at hcast
    rw [UnitFits, due, hsame]
    exact ⟨⟨hcast ▸ hunit, hfits⟩, rfl⟩
  · rintro ⟨⟨hunit, hfits⟩, rfl⟩
    exact ⟨(), hnone, _, hunit, _, SafeCast.toUint256_eq_ok.mpr rfl, _, ⟨hfits, rfl⟩, rfl⟩

theorem basic_issue_eq_ok {hooks : BasicIssuanceModule.PreIssueHooks E}
    {world next : BasicIssuanceModule.World E} (hhook : world.managerIssuanceHook = zeroAddress)
    (hdefault : DefaultOnly world.setToken) :
    BasicIssuanceModule.issue hooks module world sender quantity target = .ok next ↔
      ∃ after, Issues module world.toChain sender quantity target after ∧
        world.withChain after = next := by
  have hunits : ∀ required,
      world.setToken.components.mapM
          (BasicIssuanceModule.componentUnitsForIssue world.setToken quantity) =
            .ok required ↔
        (∀ component ∈ world.setToken.components,
          UnitFits world.setToken quantity component) ∧
        (world.setToken.components.map fun component =>
          (component, due world.setToken quantity component)) = required := fun required =>
    mapM_listed_eq_ok fun component hcomponent _ =>
      componentUnitsForIssue_eq_ok (hdefault component hcomponent)
  simp only [BasicIssuanceModule.issue, BasicIssuanceModule.callPreIssueHooks, hhook,
    BasicIssuanceModule.getRequiredComponentUnitsForIssue, ne_eq, not_true_eq_false, if_false,
    Chain.validateOnlyValidAndInitializedSet, bind_eq_ok, require_eq_ok, pure_eq_ok, hunits,
    exists_eq_left']
  constructor
  · rintro ⟨_, hvalid, _, hquantity, _, ⟨_, -, hfits, rfl⟩, collected, hcollect, after, hmint,
      rfl⟩
    rw [List.foldlM_map] at hcollect
    exact ⟨after, ⟨hvalid, hquantity, hfits, collected, hcollect, hmint⟩, rfl⟩
  · rintro ⟨after, ⟨hvalid, hquantity, hfits, collected, hcollect, hmint⟩, rfl⟩
    refine ⟨(), hvalid, (), hquantity, _, ⟨(), hvalid, hfits, rfl⟩, collected, ?_, after, hmint,
      rfl⟩
    rw [List.foldlM_map]
    exact hcollect

theorem payComponent_iff {state next : Chain} (hdefault : DefaultOnly chain.setToken)
    (hcomponent : component ∈ chain.setToken.components) (hstate : Unmoved chain state) :
    BasicIssuanceModule.payComponent module target quantity state component = .ok next ↔
      UnitFits chain.setToken quantity component ∧
        payOut module target chain.setToken quantity state component = .ok next := by
  obtain ⟨_, rfl⟩ := hstate
  simp only [BasicIssuanceModule.payComponent, bind_eq_ok, require_eq_ok,
    Position.hasExternalPosition_eq_false, preciseMul_eq_ok, payOut]
  constructor
  · rintro ⟨_, -, unit, hunit, cast, hcast, _, ⟨hfits, rfl⟩, hpay⟩
    have hsame := SetToken.defaultRealUnit_of_ok hunit hcast
    rw [SafeCast.toUint256_eq_ok] at hcast
    rw [UnitFits, payout, hsame]
    exact ⟨⟨hcast ▸ hunit, by rwa [Nat.mul_comm]⟩, hpay⟩
  · rintro ⟨⟨hunit, hfits⟩, hpay⟩
    exact ⟨(), hdefault component hcomponent, _, hunit, _, SafeCast.toUint256_eq_ok.mpr rfl, _,
      ⟨by rwa [Nat.mul_comm], rfl⟩, hpay⟩

theorem basic_redeem_eq_ok {world next : BasicIssuanceModule.World E}
    (hdefault : DefaultOnly world.setToken) :
    BasicIssuanceModule.redeem module world sender quantity target = .ok next ↔
      ∃ after, Redeems module world.toChain sender quantity target after ∧
        world.withChain after = next := by
  have hpayments : ∀ burnt paid, world.burn module sender quantity = .ok burnt →
      (burnt.setToken.components.foldlM
          (BasicIssuanceModule.payComponent module target quantity) burnt = .ok paid ↔
        (∀ component ∈ burnt.setToken.components,
          UnitFits burnt.setToken quantity component) ∧
        burnt.setToken.components.foldlM (payOut module target burnt.setToken quantity) burnt =
          .ok paid) := by
    intro burnt paid hburn
    obtain ⟨-, -, hsetToken, -⟩ := Chain.burn_holdings hburn
    have hburntDefault : DefaultOnly burnt.setToken := by
      rw [hsetToken]
      exact hdefault
    apply foldlM_checked (Unmoved burnt)
    · intro component hcomponent state next hstate
      exact payComponent_iff hburntDefault hcomponent hstate
    · intro component _ state next hstate hturn
      exact unmoved_payOut hstate hturn
    · exact ⟨_, rfl⟩
  simp only [BasicIssuanceModule.redeem, Chain.validateOnlyValidAndInitializedSet, bind_eq_ok,
    require_eq_ok, pure_eq_ok]
  constructor
  · rintro ⟨_, hvalid, _, hquantity, burnt, hburn, paid, hpay, rfl⟩
    rw [hpayments burnt paid hburn] at hpay
    exact ⟨paid, ⟨hvalid, hquantity, burnt, hburn, hpay.1, hpay.2⟩, rfl⟩
  · rintro ⟨paid, ⟨hvalid, hquantity, burnt, hburn, hpay⟩, rfl⟩
    exact ⟨(), hvalid, (), hquantity, burnt, hburn, paid,
      (hpayments burnt paid hburn).mpr hpay, rfl⟩

/-! ## The debt module -/

/-- A world of the debt module that takes no fee and calls nobody. -/
structure Plain (world : DebtIssuanceModule.World F) : Prop where
  manager_hook : world.issuanceSettings.managerIssuanceHook = zeroAddress
  module_hooks : world.issuanceSettings.moduleIssuanceHooks = []
  issue_fee : world.issuanceSettings.managerIssueFee = 0
  redeem_fee : world.issuanceSettings.managerRedeemFee = 0
  default_only : DefaultOnly world.setToken

theorem calculateTotalFees_eq_ok {world : DebtIssuanceModule.World F} (hplain : Plain world)
    {isIssue : Bool} {fees : DebtIssuanceModule.TotalFees} :
    DebtIssuanceModule.calculateTotalFees module world quantity isIssue = .ok fees ↔
      (isIssue = true → quantity ≤ maxUint256) ∧ (⟨quantity, 0, 0⟩ : _) = fees := by
  simp only [DebtIssuanceModule.calculateTotalFees, hplain.issue_fee, hplain.redeem_fee,
    ite_self, bind_eq_ok, preciseMul_eq_ok, SafeMath.sub_eq_ok, pure_eq_ok, Nat.zero_mul,
    Nat.zero_div, Nat.zero_le, true_and, exists_eq_left', Nat.sub_zero]
  cases isIssue
  · simp [SafeMath.sub_eq_ok]
  · simp [SafeMath.add_eq_ok]

/-- The debt module rounds as the basic one does. -/
def charged (isIssue : Bool) (setToken : SetToken) (quantity : ℕ) (component : Address) : ℕ :=
  if isIssue = true then due setToken quantity component
  else payout setToken quantity component

theorem totalIssuanceUnits_eq_ok {units : DebtIssuanceModule.ComponentUnits}
    (hnone : setToken.getExternalPositionModules component = []) :
    DebtIssuanceModule.totalIssuanceUnits setToken component = .ok units ↔
      setToken.getDefaultPositionRealUnit component =
          .ok (setToken.defaultRealUnit component : ℤ) ∧
        (⟨component, setToken.defaultRealUnit component, 0⟩ : _) = units := by
  simp only [DebtIssuanceModule.totalIssuanceUnits, hnone, List.foldlM_nil, bind_eq_ok,
    pure_eq_ok, exists_eq_left', SignedSafeMath.mul_eq_ok]
  constructor
  · rintro ⟨unit, hunit, equity, hequity, _, ⟨-, rfl⟩, debt, hdebt, rfl⟩
    rw [SetToken.defaultRealUnit_of_ok hunit hequity]
    rw [SafeCast.toUint256_eq_ok] at hequity hdebt
    exact ⟨hequity ▸ hunit, by congr 1; omega⟩
  · rintro ⟨hunit, rfl⟩
    refine ⟨_, hunit, _, SafeCast.toUint256_eq_ok.mpr rfl, _, ⟨by decide, rfl⟩, 0,
      SafeCast.toUint256_eq_ok.mpr (by decide), rfl⟩

theorem requiredIssuanceUnits_eq_ok {isIssue : Bool} {unit : ℕ}
    {units : DebtIssuanceModule.ComponentUnits} :
    DebtIssuanceModule.requiredIssuanceUnits quantity isIssue ⟨component, unit, 0⟩ =
        .ok units ↔
      unit * quantity ≤ maxUint256 ∧
        (⟨component, if isIssue = true then unit * quantity ⌈/⌉ preciseUnit
          else unit * quantity / preciseUnit, 0⟩ : _) = units := by
  cases isIssue
  · simp only [DebtIssuanceModule.requiredIssuanceUnits, Bool.false_eq_true, if_false,
      bind_eq_ok, preciseMul_eq_ok, preciseMulCeil_eq_ok, pure_eq_ok, Nat.zero_mul,
      Nat.zero_le, true_and, zero_ceilDiv, exists_eq_left']
    simp
  · simp only [DebtIssuanceModule.requiredIssuanceUnits, if_true, bind_eq_ok,
      preciseMul_eq_ok, preciseMulCeil_eq_ok, pure_eq_ok, Nat.zero_mul, Nat.zero_le, true_and,
      Nat.zero_div, exists_eq_left']
    simp

theorem calculateRequiredComponentIssuanceUnits_eq_ok {isIssue : Bool}
    {required : List DebtIssuanceModule.ComponentUnits} (hdefault : DefaultOnly setToken) :
    DebtIssuanceModule.calculateRequiredComponentIssuanceUnits setToken quantity isIssue =
        .ok required ↔
      (∀ component ∈ setToken.components, UnitFits setToken quantity component) ∧
        (setToken.components.map fun component =>
          (⟨component, charged isIssue setToken quantity component, 0⟩ :
            DebtIssuanceModule.ComponentUnits)) = required := by
  have htotals : ∀ totals,
      setToken.components.mapM (DebtIssuanceModule.totalIssuanceUnits setToken) =
          .ok totals ↔
        (∀ component ∈ setToken.components, setToken.getDefaultPositionRealUnit component =
          .ok (setToken.defaultRealUnit component : ℤ)) ∧
        (setToken.components.map fun component =>
          (⟨component, setToken.defaultRealUnit component, 0⟩ :
            DebtIssuanceModule.ComponentUnits)) = totals := fun totals =>
    mapM_listed_eq_ok fun component hcomponent _ =>
      totalIssuanceUnits_eq_ok (hdefault component hcomponent)
  have hcharges :
      setToken.components.mapM ((DebtIssuanceModule.requiredIssuanceUnits quantity isIssue) ∘
          fun component => ⟨component, setToken.defaultRealUnit component, 0⟩) =
            .ok required ↔
        (∀ component ∈ setToken.components,
          setToken.defaultRealUnit component * quantity ≤ maxUint256) ∧
        (setToken.components.map fun component =>
          (⟨component, charged isIssue setToken quantity component, 0⟩ :
            DebtIssuanceModule.ComponentUnits)) = required := by
    apply mapM_eq_ok
    intro component units
    rw [Function.comp_apply, requiredIssuanceUnits_eq_ok, charged, due, payout,
      Nat.mul_comm quantity]
  simp only [DebtIssuanceModule.calculateRequiredComponentIssuanceUnits,
    DebtIssuanceModule.getTotalIssuanceUnits, bind_eq_ok, htotals, and_assoc, exists_and_left,
    exists_eq_left', List.mapM_map, hcharges]
  constructor
  · rintro ⟨hread, hfits, hrequired⟩
    exact ⟨fun component hcomponent =>
      ⟨hread component hcomponent, hfits component hcomponent⟩, hrequired⟩
  · rintro ⟨hunits, hrequired⟩
    exact ⟨fun component hcomponent => (hunits component hcomponent).1,
      fun component hcomponent => (hunits component hcomponent).2, hrequired⟩

/-- Nothing is owed, so that nothing is repaid. -/
theorem resolveDebtPositions_eq {hooks : DebtIssuanceModule.Hooks F}
    {world : DebtIssuanceModule.World F} {isIssue : Bool} :
    DebtIssuanceModule.resolveDebtPositions hooks module world sender quantity isIssue
      (setToken.components.map fun component =>
        ⟨component, charged isIssue setToken quantity component, 0⟩) = .ok world := by
  apply DebtIssuanceModule.resolveDebtPositions_of_no_debt
  intro units hunits
  obtain ⟨_, -, rfl⟩ := List.mem_map.mp hunits
  rfl

/-- No fee is no mint. -/
theorem resolveFees_eq {world : DebtIssuanceModule.World F} :
    DebtIssuanceModule.resolveFees module world 0 0 = .ok world := by
  rw [DebtIssuanceModule.resolveFees, if_neg (lt_irrefl 0)]
  rfl

/-- One turn of the equity loop. -/
theorem resolveEquityPosition_eq_ok {hooks : DebtIssuanceModule.Hooks F}
    {world next : DebtIssuanceModule.World F} {isIssue : Bool} {state : Chain}
    (hnone : chain.setToken.getExternalPositionModules component = [])
    (hstate : Unmoved chain state) :
    DebtIssuanceModule.resolveEquityPosition hooks module sender target quantity isIssue
        (world.withChain state) ⟨component, charged isIssue chain.setToken quantity component, 0⟩
          = .ok next ↔
      ∃ part, turn module sender target chain.setToken quantity isIssue state component =
          .ok part ∧ world.withChain part = next := by
  have hhooks : ∀ part isIssue, Unmoved chain part →
      DebtIssuanceModule.executeExternalPositionHooks hooks (world.withChain part) quantity
        component isIssue true = .ok (world.withChain part) := by
    rintro part isIssue ⟨_, rfl⟩
    simp only [DebtIssuanceModule.executeExternalPositionHooks,
      DebtIssuanceModule.World.withChain, hnone, List.foldlM_nil]
    rfl
  unfold DebtIssuanceModule.resolveEquityPosition
  cases isIssue
  · rw [charged, turn, if_neg Bool.false_ne_true, if_neg Bool.false_ne_true,
      hhooks state false hstate, ok_bind]
    by_cases hpositive : 0 < payout chain.setToken quantity component
    · rw [if_pos hpositive]
      simp only [bind_eq_ok, pure_eq_ok]
      rfl
    · rw [if_neg hpositive, payOut, Chain.strictInvokeTransfer, if_neg hpositive]
      simp only [pure_eq_ok, exists_eq_left']
  · rw [charged, turn, if_pos rfl, if_pos rfl]
    by_cases hpositive : 0 < due chain.setToken quantity component
    · rw [if_pos hpositive, bind_eq_ok]
      constructor
      · rintro ⟨part, hpart, hrest⟩
        change DebtIssuanceModule.executeExternalPositionHooks hooks (world.withChain part)
          quantity component true true = _ at hrest
        rw [hhooks part true (unmoved_takeIn hstate hpart), Except.ok.injEq] at hrest
        exact ⟨part, hpart, hrest⟩
      · rintro ⟨part, hpart, rfl⟩
        exact ⟨part, hpart, hhooks part true (unmoved_takeIn hstate hpart)⟩
    · rw [if_neg hpositive, takeIn, Chain.transferFrom, if_neg hpositive]
      simp only [pure_eq_ok, exists_eq_left']

/-- The equity loop, as a loop over the components alone. -/
theorem resolveEquityPositions_eq_ok {hooks : DebtIssuanceModule.Hooks F}
    {world next : DebtIssuanceModule.World F} {isIssue : Bool}
    (hdefault : DefaultOnly world.setToken) :
    DebtIssuanceModule.resolveEquityPositions hooks module world sender quantity target isIssue
        (world.setToken.components.map fun component =>
          ⟨component, charged isIssue world.setToken quantity component, 0⟩) = .ok next ↔
      ∃ part, world.setToken.components.foldlM
          (turn module sender target world.setToken quantity isIssue) world.toChain =
            .ok part ∧
        world.withChain part = next := by
  rw [DebtIssuanceModule.resolveEquityPositions, List.foldlM_map]
  refine foldlM_within_eq_ok world.withChain (Unmoved world.toChain) ?_ ?_ ⟨_, rfl⟩
  · intro component hcomponent state after hstate
    exact resolveEquityPosition_eq_ok (hdefault component hcomponent) hstate
  · intro component _ state after hstate hturn
    cases isIssue
    · exact unmoved_payOut hstate hturn
    · exact unmoved_takeIn hstate hturn

theorem debt_issue_eq_ok {hooks : DebtIssuanceModule.Hooks F}
    {world next : DebtIssuanceModule.World F} (hplain : Plain world) :
    DebtIssuanceModule.issue hooks module world sender quantity target = .ok next ↔
      ∃ after, Issues module world.toChain sender quantity target after ∧
        world.withChain after = next := by
  simp only [DebtIssuanceModule.issue, DebtIssuanceModule.collectForIssue,
    Chain.validateOnlyValidAndInitializedSet, DebtIssuanceModule.callManagerPreIssueHooks,
    DebtIssuanceModule.callModulePreIssueHooks, hplain.manager_hook, hplain.module_hooks,
    ne_eq, not_true_eq_false, if_false, List.foldlM_nil, bind_eq_ok, require_eq_ok, pure_eq_ok,
    exists_eq_left', calculateTotalFees_eq_ok hplain]
  constructor
  · rintro ⟨_, ⟨_, hvalid, _, hquantity, fees, ⟨-, rfl⟩, required, hrequired, equity, hequity,
      collected, hdebt, rfl⟩, charged, hfees, minted, hmint, rfl⟩
    obtain ⟨hunits, rfl⟩ :=
      (calculateRequiredComponentIssuanceUnits_eq_ok hplain.default_only).mp hrequired
    obtain ⟨part, hpart, rfl⟩ := (resolveEquityPositions_eq_ok hplain.default_only).mp hequity
    rw [resolveDebtPositions_eq, Except.ok.injEq] at hdebt
    subst hdebt
    rw [resolveFees_eq, Except.ok.injEq] at hfees
    subst hfees
    exact ⟨minted, ⟨hvalid, hquantity, hunits, part, hpart, hmint⟩, rfl⟩
  · rintro ⟨minted, ⟨hvalid, hquantity, hunits, part, hpart, hmint⟩, rfl⟩
    have hfits : quantity ≤ maxUint256 := by
      obtain ⟨-, hsupply, -⟩ := Chain.mint_eq_ok hmint
      omega
    refine ⟨(world.withChain part, ⟨quantity, 0, 0⟩), ?_, world.withChain part,
      resolveFees_eq, minted, hmint, rfl⟩
    exact ⟨(), hvalid, (), hquantity, _, ⟨fun _ => hfits, rfl⟩, _,
      (calculateRequiredComponentIssuanceUnits_eq_ok hplain.default_only).mpr ⟨hunits, rfl⟩, _,
      (resolveEquityPositions_eq_ok hplain.default_only).mpr ⟨part, hpart, rfl⟩, _,
      resolveDebtPositions_eq, rfl⟩

theorem debt_redeem_eq_ok {hooks : DebtIssuanceModule.Hooks F}
    {world next : DebtIssuanceModule.World F} (hplain : Plain world) :
    DebtIssuanceModule.redeem hooks module world sender quantity target = .ok next ↔
      ∃ after, Redeems module world.toChain sender quantity target after ∧
        world.withChain after = next := by
  have hburnt : ∀ burnt, world.burn module sender quantity = .ok burnt →
      Plain (world.withChain burnt) := by
    intro burnt hburn
    obtain ⟨-, -, hsetToken, -⟩ := Chain.burn_holdings hburn
    refine ⟨hplain.manager_hook, hplain.module_hooks, hplain.issue_fee, hplain.redeem_fee, ?_⟩
    change DefaultOnly burnt.setToken
    rw [hsetToken]
    exact hplain.default_only
  simp only [DebtIssuanceModule.redeem, DebtIssuanceModule.releaseForRedeem,
    Chain.validateOnlyValidAndInitializedSet, DebtIssuanceModule.callModulePreRedeemHooks,
    hplain.module_hooks, List.foldlM_nil, bind_eq_ok, require_eq_ok, pure_eq_ok,
    exists_eq_left']
  constructor
  · rintro ⟨_, ⟨_, hvalid, _, hquantity, burnt, hburn, fees, hfees, required, hrequired,
      repaid, hdebt, paid, hequity, rfl⟩, hminted⟩
    have hplainBurnt := hburnt burnt hburn
    obtain ⟨-, rfl⟩ := (calculateTotalFees_eq_ok hplainBurnt).mp hfees
    obtain ⟨hunits, rfl⟩ :=
      (calculateRequiredComponentIssuanceUnits_eq_ok hplainBurnt.default_only).mp hrequired
    rw [resolveDebtPositions_eq, Except.ok.injEq] at hdebt
    subst hdebt
    obtain ⟨part, hpart, rfl⟩ :=
      (resolveEquityPositions_eq_ok hplainBurnt.default_only).mp hequity
    rw [resolveFees_eq, Except.ok.injEq] at hminted
    exact ⟨part, ⟨hvalid, hquantity, burnt, hburn, hunits, hpart⟩, hminted⟩
  · rintro ⟨part, ⟨hvalid, hquantity, burnt, hburn, hunits, hpart⟩, rfl⟩
    have hplainBurnt := hburnt burnt hburn
    exact ⟨_, ⟨(), hvalid, (), hquantity, burnt, hburn, _,
      (calculateTotalFees_eq_ok hplainBurnt).mpr ⟨fun hissue => absurd hissue Bool.false_ne_true,
        rfl⟩, _,
      (calculateRequiredComponentIssuanceUnits_eq_ok hplainBurnt.default_only).mpr
        ⟨hunits, rfl⟩, _, resolveDebtPositions_eq, _,
      (resolveEquityPositions_eq_ok hplainBurnt.default_only).mpr ⟨part, hpart, rfl⟩, rfl⟩,
      resolveFees_eq⟩

/-! ## Histories -/

/-- What holders do with either module. -/
inductive Call
  | issue (sender : Address) (quantity : ℕ) (target : Address)
  | redeem (sender : Address) (quantity : ℕ) (target : Address)
  | transfer (token sender target : Address) (quantity : ℕ)

def performBasic (hooks : BasicIssuanceModule.PreIssueHooks E) (module : Address) :
    Call → BasicIssuanceModule.World E → Outcome (BasicIssuanceModule.World E)
  | .issue sender quantity target => fun world =>
      BasicIssuanceModule.issue hooks module world sender quantity target
  | .redeem sender quantity target => fun world =>
      BasicIssuanceModule.redeem module world sender quantity target
  | .transfer token sender target quantity => fun world => do
      let chain ← world.moveTokens token sender target quantity
      pure (world.withChain chain)

def performDebt (hooks : DebtIssuanceModule.Hooks F) (module : Address) :
    Call → DebtIssuanceModule.World F → Outcome (DebtIssuanceModule.World F)
  | .issue sender quantity target => fun world =>
      DebtIssuanceModule.issue hooks module world sender quantity target
  | .redeem sender quantity target => fun world =>
      DebtIssuanceModule.redeem hooks module world sender quantity target
  | .transfer token sender target quantity => fun world => do
      let chain ← world.moveTokens token sender target quantity
      pure (world.withChain chain)

/-- The same chain, with the one module or with the other at the same address. -/
structure Interchangeable (basic : BasicIssuanceModule.World E)
    (debt : DebtIssuanceModule.World F) : Prop where
  chain : debt.toChain = basic.toChain
  hook : basic.managerIssuanceHook = zeroAddress
  plain : Plain debt

theorem Interchangeable.of_chain {basic : BasicIssuanceModule.World E}
    {debt : DebtIssuanceModule.World F} (hsame : Interchangeable basic debt) {after : Chain}
    (hafter : DefaultOnly after.setToken) :
    Interchangeable (basic.withChain after) (debt.withChain after) :=
  ⟨rfl, hsame.hook, hsame.plain.manager_hook, hsame.plain.module_hooks, hsame.plain.issue_fee,
    hsame.plain.redeem_fee, hafter⟩

theorem default_only_of_issues (hdefault : DefaultOnly chain.setToken)
    (hissues : Issues module chain sender quantity target after) :
    DefaultOnly after.setToken := by
  obtain ⟨-, -, -, collected, hcollect, hmint⟩ := hissues
  obtain ⟨_, hframe⟩ : Unmoved chain collected :=
    foldlM_preserves (fun _ _ _ _ hstate hturn => unmoved_takeIn hstate hturn) ⟨_, rfl⟩ hcollect
  obtain ⟨-, hsetToken, -⟩ := Chain.mint_holdings hmint
  rw [hsetToken, hframe]
  exact hdefault

theorem default_only_of_redeems (hdefault : DefaultOnly chain.setToken)
    (hredeems : Redeems module chain sender quantity target after) :
    DefaultOnly after.setToken := by
  obtain ⟨-, -, burnt, hburn, -, hpay⟩ := hredeems
  obtain ⟨_, hframe⟩ : Unmoved burnt after :=
    foldlM_preserves (fun _ _ _ _ hstate hturn => unmoved_payOut hstate hturn) ⟨_, rfl⟩ hpay
  obtain ⟨-, -, hsetToken, -⟩ := Chain.burn_holdings hburn
  rw [hframe, hsetToken]
  exact hdefault

theorem perform_agree {hooks : BasicIssuanceModule.PreIssueHooks E}
    {others : DebtIssuanceModule.Hooks F} (call : Call) (basic : BasicIssuanceModule.World E)
    (debt : DebtIssuanceModule.World F) (hsame : Interchangeable basic debt) :
    Agree Interchangeable (performBasic hooks module call basic)
      (performDebt others module call debt) := by
  have hdefault : DefaultOnly basic.setToken := by
    rw [← hsame.chain]
    exact hsame.plain.default_only
  cases call with
  | issue sender quantity target =>
      apply agree_of_same_spec basic.withChain debt.withChain
      · exact fun _ => basic_issue_eq_ok hsame.hook hdefault
      · intro next
        rw [← hsame.chain]
        exact debt_issue_eq_ok hsame.plain
      · exact fun after hissues => hsame.of_chain (default_only_of_issues hdefault hissues)
  | redeem sender quantity target =>
      apply agree_of_same_spec basic.withChain debt.withChain
      · exact fun _ => basic_redeem_eq_ok hdefault
      · intro next
        rw [← hsame.chain]
        exact debt_redeem_eq_ok hsame.plain
      · exact fun after hredeems =>
          hsame.of_chain (default_only_of_redeems hdefault hredeems)
  | transfer token sender target quantity =>
      unfold performBasic performDebt
      dsimp only
      rw [hsame.chain]
      cases hmove : basic.moveTokens token sender target quantity with
      | error reason => exact .error reason reason
      | ok moved =>
          obtain ⟨-, rfl⟩ := Chain.moveTokens_eq_ok.mp hmove
          exact .ok (hsame.of_chain hdefault)

/-- Whoever uses the one module sees what a user of the other would see: the same calls
return, and they leave the same chain behind. -/
theorem agree_of_history {hooks : BasicIssuanceModule.PreIssueHooks E}
    {others : DebtIssuanceModule.Hooks F} {basic : BasicIssuanceModule.World E}
    {debt : DebtIssuanceModule.World F} (hsame : Interchangeable basic debt)
    (calls : List Call) :
    (run (performDebt others module) calls debt).toChain =
        (run (performBasic hooks module) calls basic).toChain ∧
      returning (performBasic hooks module) calls basic =
        returning (performDebt others module) calls debt := by
  obtain ⟨hfinal, hreturning⟩ := run_agree
    (@perform_agree E F module hooks others) calls hsame
  exact ⟨hfinal.chain, hreturning⟩

/-- The new SetToken, with the debt module in charge. -/
def newDebtWorld : DebtIssuanceModule.World Unit where
  toChain := BasicIssuanceModule.newWorld.toChain
  issuanceSettings := DebtIssuanceModule.noSettings
  environment := ()

theorem interchangeable_newWorlds :
    Interchangeable BasicIssuanceModule.newWorld newDebtWorld where
  chain := rfl
  hook := rfl
  plain := ⟨rfl, rfl, rfl, rfl, BasicIssuanceModule.solvent_newWorld.default_only⟩

theorem agree_on_newWorlds :
    (run (performDebt DebtIssuanceModule.passingHooks 5)
        [.issue 3 7 3, .redeem 6 1 6, .redeem 3 4 6] newDebtWorld).toChain =
      (run (performBasic (fun _ _ _ _ world => .ok world) 5)
        [.issue 3 7 3, .redeem 6 1 6, .redeem 3 4 6] BasicIssuanceModule.newWorld).toChain ∧
    returning (performBasic (fun _ _ _ _ world => .ok world) 5)
        [.issue 3 7 3, .redeem 6 1 6, .redeem 3 4 6] BasicIssuanceModule.newWorld =
      returning (performDebt DebtIssuanceModule.passingHooks 5)
        [.issue 3 7 3, .redeem 6 1 6, .redeem 3 4 6] newDebtWorld :=
  agree_of_history interchangeable_newWorlds _

end SetProtocol.IssuanceAgreement
