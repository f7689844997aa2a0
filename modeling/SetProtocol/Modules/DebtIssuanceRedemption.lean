import SetProtocol.Core.SetTokenCreator
import SetProtocol.Modules.DebtIssuanceModuleV2
import SetProtocol.Modules.DebtIssuanceSupply

/-!
# Redemption quotes and what is paid

The quote of version 3 stops at zero where the buffer exceeds an amount; the transfer
subtracts the buffer without a check.  For a Set of default positions that are backed, a
redemption pays exactly what was quoted if no positive amount is below the buffer, and
fails to do so otherwise.
-/

namespace SetProtocol.DebtIssuanceModuleV3

open Transaction PreciseUnitMath DebtIssuanceModule IssuanceValidationUtils
open DebtIssuanceModuleV2 (resolveEquityPosition resolveEquityPositions resolveDebtPosition
  resolveDebtPositions)

variable {E : Type} {hooks : Hooks E} {world state next : World E}
variable {module sender target component : Address} {quantity buffer supply : ℕ}

/-- What a position library reads and casts is the default real unit. -/
theorem readDefaultUnit_iff {setToken : SetToken} {A : Type} {result : A}
    {rest : ℕ → Outcome A} :
    (do
      let realUnit ← setToken.getDefaultPositionRealUnit component
      let unit ← SafeCast.toUint256 realUnit
      rest unit) = .ok result ↔
      setToken.getDefaultPositionRealUnit component =
          .ok (setToken.defaultRealUnit component : ℤ) ∧
        rest (setToken.defaultRealUnit component) = .ok result := by
  simp only [bind_eq_ok]
  constructor
  · rintro ⟨unit, hunit, cast, hcast, hrest⟩
    rw [SetToken.defaultRealUnit_of_ok hunit hcast]
    exact ⟨SafeCast.toUint256_eq_ok.mp hcast ▸ hunit, hrest⟩
  · rintro ⟨hunit, hrest⟩
    exact ⟨_, hunit, _, SafeCast.toUint256_eq_ok.mpr rfl, hrest⟩

theorem validateCollateralizationPostTransferOut_eq_ok {chain : Chain} :
    validateCollateralizationPostTransferOut chain component supply = .ok () ↔
      chain.setToken.getDefaultPositionRealUnit component =
          .ok (chain.setToken.defaultRealUnit component : ℤ) ∧
        supply * chain.setToken.defaultRealUnit component ≤ maxUint256 ∧
        supply * chain.setToken.defaultRealUnit component ⌈/⌉ preciseUnit ≤
          chain.heldBalance component := by
  simp only [validateCollateralizationPostTransferOut]
  rw [readDefaultUnit_iff]
  simp only [bind_eq_ok, preciseMulCeil_eq_ok, require_eq_ok]
  constructor
  · rintro ⟨hread, _, ⟨hfits, rfl⟩, hheld⟩
    exact ⟨hread, hfits, hheld⟩
  · rintro ⟨hread, hfits, hheld⟩
    exact ⟨hread, _, ⟨hfits, rfl⟩, hheld⟩

/-! ## One component

A turn of a loop that starts from `world` only changes balances. -/

/-- The same but for the balances. -/
def SameButBalances (world state : World E) : Prop :=
  ∃ balances, state = world.withChain { world.toChain with balances := balances }

theorem SameButBalances.refl (world : World E) : SameButBalances world world :=
  ⟨world.balances, rfl⟩

theorem SameButBalances.trans {third : World E} (hfirst : SameButBalances world state)
    (hsecond : SameButBalances state third) : SameButBalances world third := by
  obtain ⟨_, rfl⟩ := hfirst
  obtain ⟨balances, rfl⟩ := hsecond
  exact ⟨balances, rfl⟩

theorem SameButBalances.setToken (hsame : SameButBalances world state) :
    state.setToken = world.setToken := by
  obtain ⟨_, rfl⟩ := hsame
  rfl

theorem SameButBalances.setTokenAddress (hsame : SameButBalances world state) :
    state.setTokenAddress = world.setTokenAddress := by
  obtain ⟨_, rfl⟩ := hsame
  rfl

theorem SameButBalances.controller (hsame : SameButBalances world state) :
    state.controller = world.controller := by
  obtain ⟨_, rfl⟩ := hsame
  rfl

theorem SameButBalances.issuanceSettings (hsame : SameButBalances world state) :
    state.issuanceSettings = world.issuanceSettings := by
  obtain ⟨_, rfl⟩ := hsame
  rfl

/-- What leaves for a component of this amount. -/
def paidOut (outgoing : ℕ → ℕ) (equity : ℕ) : ℕ := if 0 < equity then outgoing equity else 0

/-- The ledger of a token. -/
def ledgerOf (state : World E) (token : Address) : Address → ℕ := state.balances token

/-- A component is paid out, and the SetToken still holds what it promises. -/
def PaidOut (outgoing : ℕ → ℕ) (world : World E) (target : Address) (supply : ℕ)
    (units : ComponentUnits) (before after : Address → ℕ) : Prop :=
  after world.setTokenAddress + paidOut outgoing units.equity =
      before world.setTokenAddress ∧
    after target = before target + paidOut outgoing units.equity ∧
    (0 < units.equity →
      supply * world.setToken.defaultRealUnit units.component ≤ maxUint256)

variable {units : ComponentUnits} {incoming outgoing : ℕ → ℕ} {initial : ℕ}

/-- The transfer of a turn. -/
theorem invokeTransfer_ledger {chain : Chain} {amount : ℕ} {token : Address}
    (htarget : target ≠ world.setTokenAddress)
    (hcall : world.invokeTransfer module token target amount = .ok chain) :
    SameButBalances world (world.withChain chain) ∧
      chain.heldBalance token + amount = world.heldBalance token ∧
      chain.balanceOf token target = world.balanceOf token target + amount ∧
      ∀ other, other ≠ token →
        ledgerOf (world.withChain chain) other = ledgerOf world other := by
  by_cases hpositive : 0 < amount
  · simp only [Chain.invokeTransfer, hpositive, if_true, bind_eq_ok,
      Chain.moveTokens_eq_ok] at hcall
    obtain ⟨_, -, hfunds, rfl⟩ := hcall
    refine ⟨⟨_, rfl⟩, ?_, ?_, fun other hother => ?_⟩
    · rw [Chain.heldBalance_withLedger_self, Ledger.move_source htarget.symm]
      exact Nat.sub_add_cancel hfunds
    · rw [Chain.balanceOf_withLedger_self]
      exact Ledger.move_target htarget.symm
    · simp [ledgerOf, Chain.withLedger, World.withChain, hother]
  · rw [Chain.invokeTransfer, if_neg hpositive, pure_eq_ok] at hcall
    subst hcall
    exact ⟨⟨_, rfl⟩, by omega, by omega, fun _ _ => rfl⟩

/-- Without external positions a redemption pays out and checks. -/
theorem resolveEquityPosition_redeem
    (hnone : state.setToken.getExternalPositionModules units.component = []) :
    resolveEquityPosition incoming outgoing hooks module sender target quantity false initial
        supply state units = .ok next ↔
      (0 < units.equity → ∃ chain,
        state.invokeTransfer module units.component target (outgoing units.equity) =
          .ok chain ∧
        validateCollateralizationPostTransferOut chain units.component supply = .ok () ∧
        state.withChain chain = next) ∧
      (¬0 < units.equity → state = next) := by
  unfold DebtIssuanceModuleV2.resolveEquityPosition
  split
  · rename_i hpositive
    simp only [Bool.false_eq_true, if_false, executeExternalPositionHooks, hnone,
      List.foldlM_nil, bind_eq_ok, pure_eq_ok, exists_eq_left', hpositive, true_implies,
      not_true_eq_false, false_implies, and_true]
    constructor
    · rintro ⟨chain, hmoved, _, hchecked, hnext⟩
      exact ⟨chain, hmoved, hchecked, hnext⟩
    · rintro ⟨chain, hmoved, hchecked, hnext⟩
      exact ⟨chain, hmoved, (), hchecked, hnext⟩
  · rename_i hnone
    simp [hnone, pure_eq_ok]

/-- What one turn does. -/
theorem resolveEquityPosition_pays (hsame : SameButBalances world state)
    (hnone : world.setToken.getExternalPositionModules units.component = [])
    (htarget : target ≠ world.setTokenAddress)
    (hcall : resolveEquityPosition incoming outgoing hooks module sender target quantity false
      initial supply state units = .ok next) :
    SameButBalances world next ∧
      PaidOut outgoing world target supply units (ledgerOf state units.component)
        (ledgerOf next units.component) ∧
      ∀ other, other ≠ units.component → ledgerOf next other = ledgerOf state other := by
  rw [← hsame.setToken] at hnone
  rw [← hsame.setTokenAddress] at htarget
  obtain ⟨hsome, hskip⟩ := (resolveEquityPosition_redeem hnone).mp hcall
  by_cases hpositive : 0 < units.equity
  · obtain ⟨chain, hmoved, hchecked, rfl⟩ := hsome hpositive
    obtain ⟨hmovedSame, hheld, htaken, hothers⟩ := invokeTransfer_ledger htarget hmoved
    have hchain : chain.setToken = world.setToken := (hsame.trans hmovedSame).setToken
    have haddress : chain.setTokenAddress = state.setTokenAddress :=
      hmovedSame.setTokenAddress
    rw [Chain.heldBalance, haddress] at hheld
    obtain ⟨-, hfits, -⟩ := validateCollateralizationPostTransferOut_eq_ok.mp hchecked
    refine ⟨hsame.trans hmovedSame, ⟨?_, ?_, fun _ => hchain ▸ hfits⟩, hothers⟩
    · rw [paidOut, if_pos hpositive, ← hsame.setTokenAddress]
      exact hheld
    · rw [paidOut, if_pos hpositive]
      exact htaken
  · obtain rfl := hskip hpositive
    refine ⟨hsame, ⟨?_, ?_, fun hsome => absurd hsome hpositive⟩, fun _ _ => rfl⟩ <;>
      rw [paidOut, if_neg hpositive, Nat.add_zero]

/-- A turn that is backed returns. -/
theorem resolveEquityPosition_returns (hsame : SameButBalances world state)
    (hnone : world.setToken.getExternalPositionModules units.component = [])
    (htarget : target ≠ world.setTokenAddress)
    (hguard : world.setToken.onlyModuleWhenLockedOnlyLocker world.controller module = .ok ())
    (hread : world.setToken.getDefaultPositionRealUnit units.component =
      .ok (world.setToken.defaultRealUnit units.component : ℤ))
    (hfits : 0 < units.equity →
      supply * world.setToken.defaultRealUnit units.component ≤ maxUint256)
    (hheld : 0 < units.equity → outgoing units.equity +
      supply * world.setToken.defaultRealUnit units.component ⌈/⌉ preciseUnit ≤
        state.heldBalance units.component) :
    ∃ next, resolveEquityPosition incoming outgoing hooks module sender target quantity false
      initial supply state units = .ok next := by
  rw [← hsame.setToken] at hnone hguard hread hfits hheld
  rw [← hsame.setTokenAddress] at htarget
  rw [← hsame.controller] at hguard
  by_cases hpositive : 0 < units.equity
  · have hfunds := hheld hpositive
    obtain ⟨chain, hmoved⟩ : ∃ chain, state.invokeTransfer module units.component target
        (outgoing units.equity) = .ok chain := by
      by_cases hamount : 0 < outgoing units.equity
      · simp only [Chain.invokeTransfer, hamount, if_true, hguard, ok_bind,
          Chain.moveTokens_eq_ok]
        exact ⟨_, (Nat.le_add_right _ _).trans hfunds, rfl⟩
      · exact ⟨state.toChain, by rw [Chain.invokeTransfer, if_neg hamount]; rfl⟩
    obtain ⟨hmovedSame, hleft, -, -⟩ := invokeTransfer_ledger htarget hmoved
    have hchain : chain.setToken = state.setToken := hmovedSame.setToken
    refine ⟨state.withChain chain, (resolveEquityPosition_redeem hnone).mpr
      ⟨fun _ => ⟨chain, hmoved, ?_, rfl⟩, fun hzero => absurd hpositive hzero⟩⟩
    rw [validateCollateralizationPostTransferOut_eq_ok, hchain]
    exact ⟨hread, hfits hpositive, by omega⟩
  · exact ⟨state, (resolveEquityPosition_redeem hnone).mpr
      ⟨fun hsome => absurd hsome hpositive, fun _ => rfl⟩⟩

/-! ## All components -/

/-- The quantity that is paid out for, net of the manager's fee. -/
def netQuantity (world : World E) (quantity : ℕ) : ℕ :=
  quantity - totalFee world.issuanceSettings.managerRedeemFee quantity

/-- The redemption amount of a component, before the buffer. -/
def redemptionAmount (world : World E) (quantity : ℕ) (component : Address) : ℕ :=
  world.setToken.defaultRealUnit component * netQuantity world quantity / preciseUnit

/-- The amounts of a Set of default positions. -/
theorem redemptionUnits_eq_ok {setToken : SetToken} {required : List ComponentUnits}
    (hkept : Bookkept setToken) (hdefault : DefaultOnly setToken)
    (hcall : calculateRequiredComponentIssuanceUnits setToken quantity false =
      .ok required) :
    required.map ComponentUnits.component = setToken.components ∧
      ∀ units ∈ required,
        units.equity =
            setToken.defaultRealUnit units.component * quantity / preciseUnit ∧
        units.debt = 0 ∧
        setToken.defaultRealUnit units.component * quantity ≤ maxUint256 ∧
        setToken.getDefaultPositionRealUnit units.component =
          .ok (setToken.defaultRealUnit units.component : ℤ) := by
  obtain ⟨hcomponents, hunits⟩ := requiredComponentUnits_eq_ok hkept hcall
  refine ⟨hcomponents, fun units hmem => ?_⟩
  obtain ⟨hequity, hdebt⟩ := hunits units hmem
  have hlisted : units.component ∈ setToken.components :=
    hcomponents ▸ List.mem_map_of_mem hmem
  have hnone := hdefault units.component hlisted
  simp only [calculateRequiredComponentIssuanceUnits, getTotalIssuanceUnits,
    bind_eq_ok] at hcall
  obtain ⟨totals, htotals, hrequired⟩ := hcall
  obtain ⟨total, htotal, hcharged⟩ := mem_of_mapM_eq_ok hrequired hmem
  obtain ⟨component, -, htotal⟩ := mem_of_mapM_eq_ok htotals htotal
  have hsame : units.component = total.component := by rw [requiredUnits_eq_ok hcharged]
  obtain rfl : total.component = component := by rw [totalUnits_eq_ok hkept htotal]
  rw [hsame] at hnone hequity hdebt ⊢
  obtain ⟨-, -, hunit⟩ := totalIssuanceUnits_eq_ok hnone htotal
  have hread : setToken.getDefaultPositionRealUnit total.component =
      .ok (setToken.defaultRealUnit total.component : ℤ) := by
    simp only [totalIssuanceUnits, hnone, List.foldlM_nil, bind_eq_ok, pure_eq_ok,
      exists_eq_left'] at htotal
    obtain ⟨unit, hread, cast, hcast, -⟩ := htotal
    rw [SetToken.defaultRealUnit_of_ok hread hcast]
    exact SafeCast.toUint256_eq_ok.mp hcast ▸ hread
  have hfits : setToken.defaultRealUnit total.component * quantity ≤ maxUint256 := by
    simp only [requiredIssuanceUnits, Bool.false_eq_true, if_false, bind_eq_ok,
      preciseMul_eq_ok] at hcharged
    obtain ⟨_, ⟨hfits, -⟩, -⟩ := hcharged
    rw [← hunit]
    exact hfits
  rw [equityUnits, hnone, notional, if_neg Bool.false_ne_true] at hequity
  rw [debtUnits, hnone, notionalDebt_redeem] at hdebt
  refine ⟨hequity, ?_, hfits, hread⟩
  rw [hdebt, Tally.total, List.map_nil, List.sum_nil, Nat.zero_mul, zero_ceilDiv]

theorem resolveDebtPositions_none {required : List ComponentUnits} {final : ℕ}
    (hdebt : ∀ units ∈ required, units.debt = 0) :
    resolveDebtPositions hooks module world sender quantity false required initial final =
      .ok world := by
  induction required with
  | nil => rfl
  | cons units required ih =>
      have hturn : resolveDebtPosition hooks module sender quantity false initial final world
          units = .ok world := by
        rw [DebtIssuanceModuleV2.resolveDebtPosition, hdebt units List.mem_cons_self,
          if_neg (Nat.lt_irrefl 0)]
        rfl
      have hrest := ih fun other hother => hdebt other (List.mem_cons_of_mem units hother)
      rw [DebtIssuanceModuleV2.resolveDebtPositions] at hrest ⊢
      rw [List.foldlM_cons, hturn, ok_bind, hrest]

/-- The loop pays out every component by itself. -/
theorem resolveEquityPositions_pays {required : List ComponentUnits}
    (hcomponents : required.map ComponentUnits.component = world.setToken.components)
    (hkept : Bookkept world.setToken) (hdefault : DefaultOnly world.setToken)
    (htarget : target ≠ world.setTokenAddress)
    (hcall : resolveEquityPositions incoming outgoing hooks module world sender quantity target
      false required initial supply = .ok next) :
    SameButBalances world next ∧
      (∀ units ∈ required, PaidOut outgoing world target supply units
        (ledgerOf world units.component) (ledgerOf next units.component)) ∧
      ∀ token, token ∉ world.setToken.components →
        ledgerOf next token = ledgerOf world token := by
  have hdistinct : (required.map ComponentUnits.component).Nodup := by
    rw [hcomponents]
    exact hkept.components.nodup
  rw [← hcomponents]
  exact foldlM_keyed ComponentUnits.component ledgerOf
    (SameButBalances world) (PaidOut outgoing world target supply)
    (fun units hunits state after hsame hturn => by
      have hlisted : units.component ∈ world.setToken.components :=
        hcomponents ▸ List.mem_map_of_mem hunits
      exact resolveEquityPosition_pays hsame (hdefault _ hlisted) htarget hturn)
    hdistinct (SameButBalances.refl world) hcall

/-- The loop returns if every component is backed. -/
theorem resolveEquityPositions_returns {required : List ComponentUnits}
    (hcomponents : required.map ComponentUnits.component = world.setToken.components)
    (hkept : Bookkept world.setToken) (hdefault : DefaultOnly world.setToken)
    (htarget : target ≠ world.setTokenAddress)
    (hguard : world.setToken.onlyModuleWhenLockedOnlyLocker world.controller module = .ok ())
    (hread : ∀ units ∈ required, world.setToken.getDefaultPositionRealUnit units.component =
      .ok (world.setToken.defaultRealUnit units.component : ℤ))
    (hfits : ∀ units ∈ required, 0 < units.equity →
      supply * world.setToken.defaultRealUnit units.component ≤ maxUint256)
    (hheld : ∀ units ∈ required, 0 < units.equity → outgoing units.equity +
      supply * world.setToken.defaultRealUnit units.component ⌈/⌉ preciseUnit ≤
        world.heldBalance units.component) :
    ∃ next, resolveEquityPositions incoming outgoing hooks module world sender quantity target
      false required initial supply = .ok next := by
  have hdistinct : (required.map ComponentUnits.component).Nodup := by
    rw [hcomponents]
    exact hkept.components.nodup
  refine foldlM_returns ComponentUnits.component (SameButBalances world)
    (fun units state => state.heldBalance units.component =
      world.heldBalance units.component) ?_ hdistinct (SameButBalances.refl world)
    fun _ _ => rfl
  intro units hunits state hsame hready
  have hlisted : units.component ∈ world.setToken.components :=
    hcomponents ▸ List.mem_map_of_mem hunits
  obtain ⟨after, hafter⟩ : ∃ after, resolveEquityPosition incoming outgoing hooks module sender
      target quantity false initial supply state units = .ok after :=
    resolveEquityPosition_returns hsame (hdefault _ hlisted) htarget hguard
      (hread units hunits) (hfits units hunits)
      fun hpositive => hready ▸ hheld units hunits hpositive
  obtain ⟨hsame', -, hothers⟩ :=
    resolveEquityPosition_pays hsame (hdefault _ hlisted) htarget hafter
  refine ⟨after, hafter, hsame', fun other hother hheldOther => ?_⟩
  have hledger := congrFun (hothers _ hother) world.setTokenAddress
  rw [Chain.heldBalance, hsame.setTokenAddress] at hheldOther
  rw [Chain.heldBalance, hsame'.setTokenAddress]
  exact hledger.trans hheldOther

/-! ## The whole redemption -/

/-- A redemption of a Set of default positions that nothing but its amounts can stop. -/
structure Redeemable (module : Address) (world : World E) (sender : Address)
    (quantity : ℕ) : Prop where
  kept : Bookkept world.setToken
  valid : world.isSetValidAndInitialized module
  guard : world.setToken.onlyModuleWhenLockedOnlyLocker world.controller module = .ok ()
  share : world.setTokenAddress ∉ world.setToken.components
  default_only : DefaultOnly world.setToken
  no_hooks : world.issuanceSettings.moduleIssuanceHooks = []
  quantity_pos : 0 < quantity
  sender_ne : sender ≠ zeroAddress
  owns : quantity ≤ world.balanceOf world.setTokenAddress sender
  /-- No two accounts hold more shares than there are. -/
  shares : ∀ first second, first ≠ second →
    world.balanceOf world.setTokenAddress first +
      world.balanceOf world.setTokenAddress second ≤ world.setToken.totalSupply
  supply_fits : world.setToken.totalSupply ≤ maxUint256
  held : ∀ component ∈ world.setToken.components,
    world.setToken.totalSupply * world.setToken.defaultRealUnit component ⌈/⌉ preciseUnit ≤
      world.heldBalance component

/-- The redemption returns, and each component is paid as quoted. -/
def RedeemsAsQuoted (buffer : ℕ) (hooks : Hooks E) (module : Address) (world : World E)
    (sender : Address) (quantity : ℕ) (target : Address) (quote : List ComponentUnits) :
    Prop :=
  ∃ next, redeem buffer hooks module world sender quantity target = .ok next ∧
    ∀ units ∈ quote,
      next.balanceOf units.component target =
          world.balanceOf units.component target + units.equity ∧
        next.heldBalance units.component + units.equity = world.heldBalance units.component

/-- No positive amount is below the buffer, the collateral that stays can be computed,
and the fee has recipients. -/
structure PaysOut (buffer : ℕ) (module : Address) (world : World E) (quantity : ℕ) :
    Prop where
  buffered : ∀ component ∈ world.setToken.components,
    redemptionAmount world quantity component = 0 ∨
      buffer ≤ redemptionAmount world quantity component
  fits : ∀ component ∈ world.setToken.components,
    0 < redemptionAmount world quantity component →
      (world.setToken.totalSupply - netQuantity world quantity) *
        world.setToken.defaultRealUnit component ≤ maxUint256
  recipients :
    protocolShare module world (totalFee world.issuanceSettings.managerRedeemFee quantity) <
        totalFee world.issuanceSettings.managerRedeemFee quantity →
      world.issuanceSettings.feeRecipient ≠ zeroAddress ∧
        (0 < protocolShare module world
            (totalFee world.issuanceSettings.managerRedeemFee quantity) →
          world.controller.feeRecipient ≠ zeroAddress)

theorem calculateTotalFees_congr {other : World E} {isIssue : Bool}
    (hcontroller : other.controller = world.controller)
    (hsettings : other.issuanceSettings = world.issuanceSettings) :
    calculateTotalFees module other quantity isIssue =
      calculateTotalFees module world quantity isIssue := by
  simp only [calculateTotalFees, hcontroller, hsettings]

/-- What a redemption goes through when no module is registered. -/
theorem redeem_eq_ok (hnoHooks : world.issuanceSettings.moduleIssuanceHooks = []) :
    redeem buffer hooks module world sender quantity target = .ok next ↔
      world.isSetValidAndInitialized module ∧ 0 < quantity ∧
      ∃ burnt, world.burn module sender quantity = .ok burnt ∧
      ∃ fees, calculateTotalFees module (world.withChain burnt) quantity false = .ok fees ∧
      ∃ required, calculateRequiredComponentIssuanceUnits burnt.setToken
        fees.totalQuantity false = .ok required ∧
      ∃ final, SafeMath.sub world.setToken.totalSupply fees.totalQuantity = .ok final ∧
      ∃ repaid, resolveDebtPositions hooks module (world.withChain burnt) sender
        fees.totalQuantity false required world.setToken.totalSupply final = .ok repaid ∧
      ∃ paid, resolveEquityPositions (fun amount => addUnchecked amount buffer)
        (fun amount => subUnchecked amount buffer) hooks module repaid sender
        fees.totalQuantity target false required world.setToken.totalSupply final =
          .ok paid ∧
      resolveFees module paid fees.managerFee fees.protocolFee = .ok next := by
  simp only [redeem, DebtIssuanceModuleV2.redeemMoving, callModulePreRedeemHooks, hnoHooks,
    List.foldlM_nil, Chain.validateOnlyValidAndInitializedSet, bind_eq_ok, pure_eq_ok,
    require_eq_ok, exists_const, exists_eq_left']
  rfl

/-- The state after the burn, as far as the rest reads it. -/
structure BurntFrom (world state : World E) (sender : Address) (quantity : ℕ) : Prop where
  setToken : state.setToken = { world.setToken with
    totalSupply := world.setToken.totalSupply - quantity }
  controller : state.controller = world.controller
  issuanceSettings : state.issuanceSettings = world.issuanceSettings
  setTokenAddress : state.setTokenAddress = world.setTokenAddress
  ledgers : ∀ token, token ≠ world.setTokenAddress →
    ledgerOf state token = ledgerOf world token
  shares : ledgerOf state world.setTokenAddress =
    Ledger.debit (ledgerOf world world.setTokenAddress) sender quantity

theorem burntFrom_of_burn {burnt : Chain}
    (hburn : world.burn module sender quantity = .ok burnt) :
    BurntFrom world (world.withChain burnt) sender quantity := by
  obtain ⟨-, -, -, rfl⟩ := Chain.burn_eq_ok hburn
  refine ⟨rfl, rfl, rfl, rfl, fun token hother => ?_, ?_⟩
  · simp [ledgerOf, World.withChain, Chain.withSetToken, Chain.withLedger, hother]
  · simp [ledgerOf, World.withChain, Chain.withSetToken, Chain.withLedger]

/-- Fees within what was burnt can be minted to recipients that exist. -/
theorem resolveFees_returns {managerFee protocolFee : ℕ}
    (hguard : state.setToken.onlyModuleWhenLockedOnlyLocker state.controller module = .ok ())
    (hrecipients : 0 < managerFee → state.issuanceSettings.feeRecipient ≠ zeroAddress ∧
      (0 < protocolFee → state.controller.feeRecipient ≠ zeroAddress))
    (hsupply : state.setToken.totalSupply + (managerFee + protocolFee) ≤ maxUint256)
    (hshares : ∀ holder, ledgerOf state state.setTokenAddress holder ≤
      state.setToken.totalSupply) :
    ∃ next, resolveFees module state managerFee protocolFee = .ok next := by
  unfold resolveFees
  split
  · rename_i hmanager
    obtain ⟨hrecipient, hprotocolRecipient⟩ := hrecipients hmanager
    have hbalance := hshares state.issuanceSettings.feeRecipient
    obtain ⟨minted, hminted⟩ : ∃ minted, state.mint module
        state.issuanceSettings.feeRecipient managerFee = .ok minted :=
      Chain.mint_of_fits hguard hrecipient (by omega)
        ((Nat.add_le_add_right hbalance managerFee).trans (by omega))
    rw [hminted, ok_bind]
    split
    · rename_i hprotocol
      obtain ⟨-, -, hframe⟩ := Chain.mint_eq_ok hminted
      have hcredit : minted.balanceOf minted.setTokenAddress state.controller.feeRecipient ≤
          state.setToken.totalSupply + managerFee := by
        have hold := hshares state.controller.feeRecipient
        rw [hframe]
        simp only [Chain.balanceOf, Chain.withSetToken, Chain.withLedger,
          Function.update_self, Ledger.credit]
        by_cases hsame : state.controller.feeRecipient = state.issuanceSettings.feeRecipient
        · rw [hsame, Function.update_self]
          exact Nat.add_le_add_right hbalance managerFee
        · rw [Function.update_of_ne hsame]
          exact hold.trans (Nat.le_add_right _ _)
      have hguardMinted : minted.setToken.onlyModuleWhenLockedOnlyLocker minted.controller
          module = .ok () := by
        rw [hframe]
        exact hguard
      have hsupplyMinted : minted.setToken.totalSupply + protocolFee ≤ maxUint256 := by
        rw [hframe]
        simp only [Chain.withSetToken]
        omega
      obtain ⟨final, hfinal⟩ : ∃ final, minted.mint module state.controller.feeRecipient
          protocolFee = .ok final :=
        Chain.mint_of_fits hguardMinted (hprotocolRecipient hprotocol) hsupplyMinted (by omega)
      exact ⟨_, by rw [hfinal, ok_bind]; rfl⟩
    · exact ⟨_, rfl⟩
  · exact ⟨state, rfl⟩

/-- The fee shares go to the share ledger only. -/
theorem ledgerOf_resolveFees {managerFee protocolFee : ℕ} {token : Address}
    (hcall : resolveFees module state managerFee protocolFee = .ok next)
    (hother : token ≠ state.setTokenAddress) : ledgerOf next token = ledgerOf state token := by
  unfold resolveFees at hcall
  split at hcall
  · rw [bind_eq_ok] at hcall
    obtain ⟨minted, hminted, hcall⟩ := hcall
    obtain ⟨-, -, rfl⟩ := Chain.mint_eq_ok hminted
    split at hcall
    · rw [bind_eq_ok] at hcall
      obtain ⟨final, hfinal, hcall⟩ := hcall
      obtain ⟨-, -, rfl⟩ := Chain.mint_eq_ok hfinal
      cases hcall
      simp [ledgerOf, World.withChain, Chain.withSetToken, Chain.withLedger, hother]
    · cases hcall
      simp [ledgerOf, World.withChain, Chain.withSetToken, Chain.withLedger, hother]
  · cases hcall
    rfl

theorem resolveFees_recipients {managerFee protocolFee : ℕ}
    (hcall : resolveFees module state managerFee protocolFee = .ok next)
    (hmanager : 0 < managerFee) : state.issuanceSettings.feeRecipient ≠ zeroAddress ∧
      (0 < protocolFee → state.controller.feeRecipient ≠ zeroAddress) := by
  rw [resolveFees, if_pos hmanager, bind_eq_ok] at hcall
  obtain ⟨minted, hminted, hcall⟩ := hcall
  refine ⟨(Chain.mint_checks hminted).2, fun hprotocol => ?_⟩
  rw [if_pos hprotocol, bind_eq_ok] at hcall
  obtain ⟨_, hfinal, -⟩ := hcall
  exact (Chain.mint_checks hfinal).2

/-- An amount that is zero or covers the buffer is paid as it is quoted; below the
buffer the subtraction wraps around. -/
theorem paidOut_eq_quote_iff {equity : ℕ} (hequity : equity ≤ maxUint256)
    (hbuffer : buffer ≤ maxUint256) :
    paidOut (fun amount => subUnchecked amount buffer) equity =
        (if buffer < equity then equity - buffer else 0) ↔
      equity = 0 ∨ buffer ≤ equity := by
  rw [maxUint256] at hequity hbuffer
  rw [paidOut, subUnchecked]
  constructor
  · intro hpaid
    by_contra hbelow
    rw [not_or, not_le] at hbelow
    rw [if_pos (Nat.pos_of_ne_zero hbelow.1), if_neg (by omega), Nat.mod_eq_of_lt (by omega)]
      at hpaid
    omega
  · rintro (rfl | hcovers)
    · simp
    · by_cases hpositive : 0 < equity
      · have hsplit : equity + (2 ^ 256 - buffer) = equity - buffer + 2 ^ 256 := by omega
        rw [if_pos hpositive, hsplit, Nat.add_mod_right, Nat.mod_eq_of_lt (by omega)]
        split <;> omega
      · rw [if_neg hpositive, if_neg (by omega)]

/-- What stays after an amount is paid covers the promises to the shares that stay. -/
theorem promised_after_payment {supply net unit held : ℕ} (hnet : net ≤ supply)
    (hheld : supply * unit ⌈/⌉ preciseUnit ≤ held) :
    unit * net / preciseUnit + (supply - net) * unit ⌈/⌉ preciseUnit ≤ held := by
  refine le_trans ?_ hheld
  have hpaid := Nat.div_mul_le_self (unit * net) preciseUnit
  have hstays := Rounding.ceilDiv_mul_lt ((supply - net) * unit) preciseUnit_pos
  have htotal : supply * unit ≤ supply * unit ⌈/⌉ preciseUnit * preciseUnit :=
    Backing.le_ceilDiv_mul (supply * unit) preciseUnit_pos
  have hsplit : supply * unit = unit * net + (supply - net) * unit := by
    rw [Nat.mul_comm unit, ← Nat.add_mul, Nat.add_sub_cancel' hnet]
  refine Nat.le_of_lt_succ (Nat.lt_of_mul_lt_mul_right (a := preciseUnit) ?_)
  calc (unit * net / preciseUnit + (supply - net) * unit ⌈/⌉ preciseUnit) * preciseUnit
      = unit * net / preciseUnit * preciseUnit +
          (supply - net) * unit ⌈/⌉ preciseUnit * preciseUnit := Nat.add_mul _ _ _
    _ < unit * net + ((supply - net) * unit + preciseUnit) :=
        Nat.add_lt_add_of_le_of_lt hpaid hstays
    _ = supply * unit + preciseUnit := by rw [hsplit, Nat.add_assoc]
    _ ≤ supply * unit ⌈/⌉ preciseUnit * preciseUnit + preciseUnit :=
        Nat.add_le_add_right htotal _
    _ = (supply * unit ⌈/⌉ preciseUnit + 1) * preciseUnit := (Nat.succ_mul _ _).symm

/-- The quoted amounts of a component. -/
def quoted (buffer : ℕ) (required : ComponentUnits) : ComponentUnits :=
  if buffer < required.equity then { required with equity := required.equity - buffer }
  else { required with equity := 0 }

theorem quoted_component (required : ComponentUnits) :
    (quoted buffer required).component = required.component := by
  unfold quoted
  split <;> rfl

theorem quoted_equity (required : ComponentUnits) :
    (quoted buffer required).equity =
      if buffer < required.equity then required.equity - buffer else 0 := by
  unfold quoted
  split <;> rfl

/-- What a quote is computed from. -/
theorem redemptionQuote_eq_ok {quote : List ComponentUnits}
    (hquote : getRequiredComponentRedemptionUnits buffer module world quantity = .ok quote) :
    ∃ fees required, calculateTotalFees module world quantity false = .ok fees ∧
      calculateRequiredComponentIssuanceUnits world.setToken (netQuantity world quantity)
        false = .ok required ∧
      quote = required.map (quoted buffer) ∧
      fees.totalQuantity = netQuantity world quantity ∧
      netQuantity world quantity +
        totalFee world.issuanceSettings.managerRedeemFee quantity = quantity ∧
      fees.protocolFee = protocolShare module world
        (totalFee world.issuanceSettings.managerRedeemFee quantity) ∧
      fees.managerFee + fees.protocolFee =
        totalFee world.issuanceSettings.managerRedeemFee quantity := by
  simp only [getRequiredComponentRedemptionUnits, bind_eq_ok, pure_eq_ok] at hquote
  obtain ⟨fees, hfees, required, hrequired, rfl⟩ := hquote
  obtain ⟨fee, hfee, hprotocol, hsplit, -, htotal⟩ := calculateTotalFees_eq_ok hfees
  rw [if_neg Bool.false_ne_true] at hfee
  change fee = totalFee world.issuanceSettings.managerRedeemFee quantity at hfee
  have hnet := htotal rfl
  rw [hfee] at hnet hsplit hprotocol
  have htotalQuantity : fees.totalQuantity = netQuantity world quantity := by
    rw [netQuantity]
    omega
  rw [htotalQuantity] at hnet hrequired
  exact ⟨fees, required, hfees, hrequired, rfl, htotalQuantity, hnet, hprotocol, hsplit⟩

/-- The burnt state keeps what the loops look at. -/
theorem BurntFrom.ready (hburnt : BurntFrom world state sender quantity)
    (hready : Redeemable module world sender quantity) :
    Bookkept state.setToken ∧ DefaultOnly state.setToken ∧
      state.setToken.components = world.setToken.components ∧
      (∀ component, state.setToken.defaultRealUnit component =
        world.setToken.defaultRealUnit component) ∧
      state.setToken.onlyModuleWhenLockedOnlyLocker state.controller module = .ok () := by
  rw [hburnt.setToken, hburnt.controller]
  exact ⟨hready.kept.of_same_positions rfl rfl rfl, hready.default_only, rfl, fun _ => rfl,
    hready.guard⟩

/-- After the burn every account holds at most the shares that are left. -/
theorem BurntFrom.shares_le (hburnt : BurntFrom world state sender quantity)
    (hready : Redeemable module world sender quantity) (holder : Address) :
    ledgerOf state state.setTokenAddress holder ≤ state.setToken.totalSupply := by
  rw [hburnt.setTokenAddress, hburnt.shares, hburnt.setToken]
  change _ ≤ world.setToken.totalSupply - quantity
  have howns := hready.owns
  by_cases hsame : holder = sender
  · subst hsame
    rw [Ledger.debit_self]
    have hother := hready.shares holder (holder + 1) (Nat.succ_ne_self _).symm
    exact Nat.sub_le_sub_right ((Nat.le_add_right _ _).trans hother) quantity
  · rw [Ledger.debit_of_ne hsame]
    have hboth := hready.shares holder sender hsame
    change world.balanceOf world.setTokenAddress holder ≤ _
    omega

theorem Redeemable.quantity_le (hready : Redeemable module world sender quantity) :
    quantity ≤ world.setToken.totalSupply := by
  have hother := hready.shares sender (sender + 1) (Nat.succ_ne_self _).symm
  exact hready.owns.trans ((Nat.le_add_right _ _).trans hother)

/-- What a unit of a redemption is about. -/
structure Redeemed (world : World E) (quantity : ℕ) (units : ComponentUnits) : Prop where
  listed : units.component ∈ world.setToken.components
  other : units.component ≠ world.setTokenAddress
  equity : units.equity = redemptionAmount world quantity units.component
  equity_le : units.equity ≤ maxUint256
  debt : units.debt = 0
  read : world.setToken.getDefaultPositionRealUnit units.component =
    .ok (world.setToken.defaultRealUnit units.component : ℤ)

theorem Redeemable.amounts {required : List ComponentUnits}
    (hready : Redeemable module world sender quantity)
    (hrequired : calculateRequiredComponentIssuanceUnits world.setToken
      (netQuantity world quantity) false = .ok required) :
    required.map ComponentUnits.component = world.setToken.components ∧
      ∀ units ∈ required, Redeemed world quantity units := by
  obtain ⟨hcomponents, hunits⟩ :=
    redemptionUnits_eq_ok hready.kept hready.default_only hrequired
  refine ⟨hcomponents, fun units hmem => ?_⟩
  obtain ⟨hequity, hdebt, hfits, hread⟩ := hunits units hmem
  have hlisted : units.component ∈ world.setToken.components :=
    hcomponents ▸ List.mem_map_of_mem hmem
  refine ⟨hlisted, fun heq => hready.share (heq ▸ hlisted), hequity, ?_, hdebt, hread⟩
  rw [hequity]
  exact (Nat.div_le_self _ _).trans hfits

/-- The amounts of the burnt state are those of the quote. -/
theorem BurntFrom.required (hburnt : BurntFrom world state sender quantity) (net : ℕ) :
    calculateRequiredComponentIssuanceUnits state.setToken net false =
      calculateRequiredComponentIssuanceUnits world.setToken net false := by
  rw [hburnt.setToken]
  rfl

/-- A redemption that pays what was quoted meets the condition. -/
theorem paysOut_of_redeemsAsQuoted {quote : List ComponentUnits}
    (hready : Redeemable module world sender quantity) (hbuffer : buffer ≤ maxUint256)
    (htarget : target ≠ world.setTokenAddress)
    (hquote : getRequiredComponentRedemptionUnits buffer module world quantity = .ok quote)
    (hredeems : RedeemsAsQuoted buffer hooks module world sender quantity target quote) :
    PaysOut buffer module world quantity := by
  obtain ⟨fees, required, hfees, hrequired, rfl, hnet, hsum, hprotocol, hsplit⟩ :=
    redemptionQuote_eq_ok hquote
  obtain ⟨hcomponents, hunits⟩ := hready.amounts hrequired
  obtain ⟨next, hcall, hpaid⟩ := hredeems
  obtain ⟨-, -, burnt, hburn, fees', hfees', required', hrequired', final, hfinal, repaid,
    hrepaid, paid, hloop, hminted⟩ := (redeem_eq_ok hready.no_hooks).mp hcall
  have hburnt := burntFrom_of_burn hburn
  obtain ⟨hkept, hdefault, hlist, hsameUnits, -⟩ := hburnt.ready hready
  -- the call works with the numbers of the quote
  rw [calculateTotalFees_congr hburnt.controller hburnt.issuanceSettings, hfees,
    Except.ok.injEq] at hfees'
  subst hfees'
  have hsameRequired := hburnt.required (netQuantity world quantity)
  rw [hnet] at hrequired'
  rw [hrequired] at hsameRequired
  obtain rfl := Except.ok.inj (hsameRequired.symm.trans hrequired')
  rw [resolveDebtPositions_none fun units hmem => (hunits units hmem).debt,
    Except.ok.injEq] at hrepaid
  subst hrepaid
  rw [SafeMath.sub_eq_ok, hnet] at hfinal
  obtain ⟨-, rfl⟩ := hfinal
  have htargetBurnt : target ≠ (world.withChain burnt).setTokenAddress := by
    rw [hburnt.setTokenAddress]
    exact htarget
  obtain ⟨hsame, hpays, -⟩ := resolveEquityPositions_pays (hcomponents.trans hlist.symm) hkept
    hdefault htargetBurnt hloop
  have heach : ∀ units ∈ required, (units.equity = 0 ∨ buffer ≤ units.equity) ∧
      (0 < units.equity → (world.setToken.totalSupply - netQuantity world quantity) *
        world.setToken.defaultRealUnit units.component ≤ maxUint256) := by
    intro units hmem
    have hredeemed := hunits units hmem
    obtain ⟨-, htaken, hfits⟩ := hpays units hmem
    obtain ⟨hgained, -⟩ := hpaid (quoted buffer units) (List.mem_map_of_mem hmem)
    have hpaidAddress : units.component ≠ paid.setTokenAddress := by
      rw [hsame.setTokenAddress, hburnt.setTokenAddress]
      exact hredeemed.other
    have hledger := congrFun (ledgerOf_resolveFees hminted hpaidAddress) target
    rw [hburnt.ledgers _ hredeemed.other] at htaken
    rw [quoted_component, quoted_equity] at hgained
    change ledgerOf next units.component target =
      ledgerOf world units.component target + _ at hgained
    rw [hledger, htaken, Nat.add_left_cancel_iff,
      paidOut_eq_quote_iff hredeemed.equity_le hbuffer] at hgained
    exact ⟨hgained, fun hpositive => hsameUnits units.component ▸ hfits hpositive⟩
  refine ⟨fun component hmem => ?_, fun component hmem => ?_, fun hmanager => ?_⟩
  · rw [← hcomponents] at hmem
    obtain ⟨units, hunit, rfl⟩ := List.mem_map.mp hmem
    rw [← (hunits units hunit).equity]
    exact (heach units hunit).1
  · rw [← hcomponents] at hmem
    obtain ⟨units, hunit, rfl⟩ := List.mem_map.mp hmem
    rw [← (hunits units hunit).equity]
    exact (heach units hunit).2
  · have hrecipients := resolveFees_recipients hminted (by omega)
    rw [hsame.issuanceSettings, hsame.controller, hburnt.issuanceSettings,
      hburnt.controller, hprotocol] at hrecipients
    exact hrecipients

/-- Under the condition the equity loop returns from the burnt state. -/
theorem equityLoop_returns {required : List ComponentUnits}
    (hready : Redeemable module world sender quantity) (hbuffer : buffer ≤ maxUint256)
    (htarget : target ≠ world.setTokenAddress)
    (hrequired : calculateRequiredComponentIssuanceUnits world.setToken
      (netQuantity world quantity) false = .ok required)
    (hpaysOut : PaysOut buffer module world quantity)
    (hburnt : BurntFrom world state sender quantity) :
    ∃ paid, resolveEquityPositions incoming (fun amount => subUnchecked amount buffer) hooks
      module state sender (netQuantity world quantity) target false required
      world.setToken.totalSupply
      (world.setToken.totalSupply - netQuantity world quantity) = .ok paid := by
  obtain ⟨hcomponents, hunits⟩ := hready.amounts hrequired
  obtain ⟨hkept, hdefault, hlist, hsameUnits, hguard⟩ := hburnt.ready hready
  have hnetLe : netQuantity world quantity ≤ world.setToken.totalSupply :=
    (Nat.sub_le _ _).trans hready.quantity_le
  have htargetBurnt : target ≠ state.setTokenAddress := by
    rw [hburnt.setTokenAddress]
    exact htarget
  refine resolveEquityPositions_returns (hcomponents.trans hlist.symm) hkept hdefault
    htargetBurnt hguard (fun units hmem => ?_) (fun units hmem hpositive => ?_)
    fun units hmem hpositive => ?_
  · rw [hsameUnits, hburnt.setToken]
    exact (hunits units hmem).read
  · rw [hsameUnits]
    exact hpaysOut.fits _ (hunits units hmem).listed ((hunits units hmem).equity ▸ hpositive)
  · have hredeemed := hunits units hmem
    have hcovers := hpaysOut.buffered _ hredeemed.listed
    rw [← hredeemed.equity] at hcovers
    have hquoted := (paidOut_eq_quote_iff hredeemed.equity_le hbuffer).mpr hcovers
    rw [paidOut, if_pos hpositive] at hquoted
    have hpromised := promised_after_payment hnetLe (hready.held _ hredeemed.listed)
    have hbelow : (if buffer < units.equity then units.equity - buffer else 0) ≤
        redemptionAmount world quantity units.component := by
      rw [← hredeemed.equity]
      split <;> omega
    have hheld : state.heldBalance units.component = world.heldBalance units.component := by
      rw [Chain.heldBalance, hburnt.setTokenAddress]
      exact congrFun (hburnt.ledgers _ hredeemed.other) _
    rw [hsameUnits, hheld, hquoted]
    exact (Nat.add_le_add_right hbelow _).trans hpromised

/-- Under the condition a redemption returns and pays what was quoted. -/
theorem redeemsAsQuoted_of_paysOut {quote : List ComponentUnits}
    (hready : Redeemable module world sender quantity) (hbuffer : buffer ≤ maxUint256)
    (htarget : target ≠ world.setTokenAddress)
    (hquote : getRequiredComponentRedemptionUnits buffer module world quantity = .ok quote)
    (hpaysOut : PaysOut buffer module world quantity) :
    RedeemsAsQuoted buffer hooks module world sender quantity target quote := by
  obtain ⟨fees, required, hfees, hrequired, rfl, hnet, hsum, hprotocol, hsplit⟩ :=
    redemptionQuote_eq_ok hquote
  obtain ⟨hcomponents, hunits⟩ := hready.amounts hrequired
  have hquantity := hready.quantity_le
  obtain ⟨burnt, hburn⟩ : ∃ burnt, world.burn module sender quantity = .ok burnt := by
    simp only [Chain.burn, hready.guard, ok_bind, bind_eq_ok, require_eq_ok,
      SafeMath.sub_eq_ok, pure_eq_ok]
    exact ⟨_, (), hready.sender_ne, (), hready.owns, _, ⟨hquantity, rfl⟩, rfl⟩
  have hburnt := burntFrom_of_burn hburn
  obtain ⟨hkept, hdefault, hlist, -, hguard⟩ := hburnt.ready hready
  have htargetBurnt : target ≠ (world.withChain burnt).setTokenAddress := by
    rw [hburnt.setTokenAddress]
    exact htarget
  obtain ⟨paid, hloop⟩ : ∃ paid, resolveEquityPositions
      (fun amount => addUnchecked amount buffer) (fun amount => subUnchecked amount buffer)
      hooks module (world.withChain burnt) sender (netQuantity world quantity) target false
      required world.setToken.totalSupply
      (world.setToken.totalSupply - netQuantity world quantity) = .ok paid :=
    equityLoop_returns hready hbuffer htarget hrequired hpaysOut hburnt
  obtain ⟨hsame, hpays, hothers⟩ := resolveEquityPositions_pays
    (hcomponents.trans hlist.symm) hkept hdefault htargetBurnt hloop
  obtain ⟨next, hminted⟩ : ∃ next,
      resolveFees module paid fees.managerFee fees.protocolFee = .ok next := by
    refine resolveFees_returns ?_ (fun hmanager => ?_) ?_ fun holder => ?_
    · rw [hsame.setToken, hsame.controller]
      exact hguard
    · rw [hsame.issuanceSettings, hsame.controller, hburnt.issuanceSettings,
        hburnt.controller, hprotocol]
      exact hpaysOut.recipients (by omega)
    · rw [hsame.setToken, hburnt.setToken, hsplit]
      have hsupply := hready.supply_fits
      change world.setToken.totalSupply - quantity + _ ≤ _
      omega
    · rw [hsame.setTokenAddress, hsame.setToken, hothers]
      · exact hburnt.shares_le hready holder
      · rw [hlist, hburnt.setTokenAddress]
        exact hready.share
  refine ⟨next, (redeem_eq_ok hready.no_hooks).mpr ⟨hready.valid, hready.quantity_pos, burnt,
    hburn, fees, ?_, required, ?_, world.setToken.totalSupply - netQuantity world quantity,
    ?_, world.withChain burnt, ?_, paid, hnet ▸ hloop, hminted⟩, ?_⟩
  · rw [calculateTotalFees_congr hburnt.controller hburnt.issuanceSettings, hfees]
  · rw [hnet]
    exact (hburnt.required _).trans hrequired
  · rw [SafeMath.sub_eq_ok, hnet]
    exact ⟨(Nat.sub_le _ _).trans hquantity, rfl⟩
  · exact resolveDebtPositions_none fun units hmem => (hunits units hmem).debt
  · intro payment hpayment
    obtain ⟨units, hmem, rfl⟩ := List.mem_map.mp hpayment
    have hredeemed := hunits units hmem
    obtain ⟨hleft, htaken, -⟩ := hpays units hmem
    have hcovers := hpaysOut.buffered _ hredeemed.listed
    rw [← hredeemed.equity] at hcovers
    have hquoted := (paidOut_eq_quote_iff hredeemed.equity_le hbuffer).mpr hcovers
    have hpaidAddress : units.component ≠ paid.setTokenAddress := by
      rw [hsame.setTokenAddress, hburnt.setTokenAddress]
      exact hredeemed.other
    have hledger := ledgerOf_resolveFees hminted hpaidAddress
    rw [hburnt.ledgers _ hredeemed.other, hquoted] at htaken
    rw [hburnt.ledgers _ hredeemed.other, hquoted, hburnt.setTokenAddress] at hleft
    have hnextAddress : next.setTokenAddress = world.setTokenAddress := by
      rw [(resolveFees_accounts hminted).1, hsame.setTokenAddress, hburnt.setTokenAddress]
    rw [quoted_component, quoted_equity]
    constructor
    · change ledgerOf next units.component target = ledgerOf world units.component target + _
      rw [hledger, htaken]
    · change ledgerOf next units.component next.setTokenAddress + _ =
        ledgerOf world units.component world.setTokenAddress
      rw [hledger, hnextAddress, hleft]

/-- An account that can be paid: common tokens refuse the zero address, and what the
SetToken pays itself leaves no trace. -/
structure Receives (world : World E) (target : Address) : Prop where
  ne_zero : target ≠ zeroAddress
  other : target ≠ world.setTokenAddress

/-- A redemption pays what was quoted exactly if no positive amount is below the
buffer, the collateral that stays can be computed, and the fee has recipients. -/
theorem redeemsAsQuoted_iff {quote : List ComponentUnits}
    (hready : Redeemable module world sender quantity) (hbuffer : buffer ≤ maxUint256)
    (htarget : Receives world target)
    (hquote : getRequiredComponentRedemptionUnits buffer module world quantity = .ok quote) :
    RedeemsAsQuoted buffer hooks module world sender quantity target quote ↔
      PaysOut buffer module world quantity :=
  ⟨paysOut_of_redeemsAsQuoted hready hbuffer htarget.other hquote,
    redeemsAsQuoted_of_paysOut hready hbuffer htarget.other hquote⟩

/-- A hundred shares. -/
def hundredShares : ℕ := 100000000000000000000

/-- A hundred shares of account 3, each of fifty units of token 10 and of some units of
token 11, with exactly that held. -/
def heldShares (unit : ℤ) (held : ℕ) : World Unit where
  controller := { Controller.deploy 1 2 with
    isSet := fun setToken => setToken == 9
    isModule := fun module => module == 5 }
  setTokenAddress := 9
  setToken := { SetToken.deploy [10, 11] [50, unit] [5] 7 with
    moduleStates := fun module => if module = 5 then .INITIALIZED else .NONE
    totalSupply := hundredShares }
  balances := fun token holder =>
    if token = 9 then if holder = 3 then hundredShares else 0
    else if holder = 9 then if token = 10 then 5000 else held
    else 0
  timestamp := 0
  issuanceSettings := noSettings
  environment := ()

theorem redeemable_heldShares {unit : ℤ} {held : ℕ} (hunit : 0 < unit)
    (hheld : hundredShares * (heldShares unit held).setToken.defaultRealUnit 11 ≤
      preciseUnit * held) : Redeemable 5 (heldShares unit held) 3 (5 * 10 ^ 18) where
  kept := (SetTokenCreator.bookkept_deploy rfl (by decide) (by simp [hunit]) :
    Bookkept (SetToken.deploy [10, 11] [50, unit] [5] 7)).of_same_positions rfl rfl rfl
  valid := ⟨rfl, rfl⟩
  guard := rfl
  share := by simp [heldShares, SetToken.deploy]
  default_only := by
    intro component hcomponent
    rcases List.mem_cons.mp hcomponent with rfl | hrest
    · rfl
    · rw [List.mem_singleton.mp hrest]
      rfl
  no_hooks := rfl
  quantity_pos := by decide
  sender_ne := by decide
  owns := by
    have howned : (heldShares unit held).balanceOf 9 3 = hundredShares := rfl
    change _ ≤ (heldShares unit held).balanceOf 9 3
    rw [howned]
    decide
  shares := by
    intro first second hne
    have hbalance : ∀ holder, (heldShares unit held).balanceOf 9 holder =
        if holder = 3 then hundredShares else 0 := fun _ => rfl
    have hsupply : (heldShares unit held).setToken.totalSupply = hundredShares := rfl
    change (heldShares unit held).balanceOf 9 first +
      (heldShares unit held).balanceOf 9 second ≤ _
    rw [hbalance, hbalance, hsupply]
    by_cases hfirst : first = 3
    · rw [if_pos hfirst, if_neg fun hsecond => hne (hfirst.trans hsecond.symm), Nat.add_zero]
    · rw [if_neg hfirst, Nat.zero_add]
      split
      · exact le_rfl
      · exact Nat.zero_le _
  supply_fits := by
    have hsupply : (heldShares unit held).setToken.totalSupply = hundredShares := rfl
    rw [hsupply]
    decide
  held := by
    intro component hcomponent
    rcases List.mem_cons.mp hcomponent with rfl | hrest
    · have hvirtual : (heldShares unit held).setToken.defaultPositionVirtualUnit 10 = 50 := rfl
      have hmultiplier : (heldShares unit held).setToken.positionMultiplier =
          preciseUnitInt := rfl
      have hreal : (heldShares unit held).setToken.defaultRealUnit 10 = 50 := by
        rw [SetToken.defaultRealUnit, realUnit, hvirtual, hmultiplier,
          Int.mul_ediv_cancel _ preciseUnitInt_pos.ne']
        rfl
      have hbalance : (heldShares unit held).heldBalance 10 = 5000 := rfl
      have hsupply : (heldShares unit held).setToken.totalSupply = hundredShares := rfl
      rw [hreal, hbalance, hsupply, ceilDiv_le_iff_le_mul preciseUnit_pos]
      decide
    · rw [List.mem_singleton.mp hrest, ceilDiv_le_iff_le_mul preciseUnit_pos]
      exact hheld

/-- At two units of token 11 a share, five shares are worth ten, which cover a buffer of
ten. -/
theorem redeemsAsQuoted_two_units : ∃ quote,
    getRequiredComponentRedemptionUnits 10 5 (heldShares 2 200) (5 * 10 ^ 18) = .ok quote ∧
    (RedeemsAsQuoted 10 passingHooks 5 (heldShares 2 200) 3 (5 * 10 ^ 18) 4 quote ↔
      PaysOut 10 5 (heldShares 2 200) (5 * 10 ^ 18)) := by
  obtain ⟨quote, hquote, -⟩ := returns_iff.mp (by decide +kernel :
    Returns (getRequiredComponentRedemptionUnits 10 5 (heldShares 2 200) (5 * 10 ^ 18))
      fun _ => True)
  exact ⟨quote, hquote, redeemsAsQuoted_iff
    (redeemable_heldShares (by decide) (by decide +kernel)) (by decide)
    ⟨by decide, by decide⟩ hquote⟩

/-- At one unit a share they are worth five: nothing is quoted, and the redemption
reverts. -/
theorem redemption_below_buffer_reverts :
    Redeemable 5 (heldShares 1 100) 3 (5 * 10 ^ 18) ∧
      ¬∀ quote, getRequiredComponentRedemptionUnits 10 5 (heldShares 1 100) (5 * 10 ^ 18) =
          .ok quote →
        RedeemsAsQuoted 10 passingHooks 5 (heldShares 1 100) 3 (5 * 10 ^ 18) 4 quote := by
  refine ⟨redeemable_heldShares (by decide) (by decide +kernel), fun hall => ?_⟩
  obtain ⟨quote, hquote, -⟩ := returns_iff.mp (by decide +kernel :
    Returns (getRequiredComponentRedemptionUnits 10 5 (heldShares 1 100) (5 * 10 ^ 18))
      fun _ => True)
  obtain ⟨next, hcall, -⟩ := hall quote hquote
  have hreverts : redeem 10 passingHooks 5 (heldShares 1 100) 3 (5 * 10 ^ 18) 4 =
      .error Chain.insufficientBalance :=
    reverts_iff.mp (by decide +kernel)
  rw [hreverts] at hcall
  exact absurd hcall (by simp)

end SetProtocol.DebtIssuanceModuleV3
