import SetProtocol.Modules.DebtIssuanceModule

/-!
# Issuance keeps a Set collateralized

For a SetToken with default positions only, `issue` and `redeem` move each
component once.  What they charge rounds up and what they pay out rounds down,
so each component goes on backing the shares, through every history of
issuance, redemption and changed fees.
-/

namespace SetProtocol.DebtIssuanceModule

open Transaction Backing PreciseUnitMath

variable {E : Type} {hooks : Hooks E} {module : Address}
variable {world next : World E} {sender target : Address} {quantity : ℕ}

/-! ## Quantities -/

/-- The total fee is split in two; it is added on issue and withheld on redeem. -/
theorem calculateTotalFees_eq_ok {isIssue : Bool} {fees : TotalFees}
    (hfees : calculateTotalFees module world quantity isIssue = .ok fees) :
    ∃ totalFee,
      totalFee = (if isIssue = true then world.issuanceSettings.managerIssueFee
        else world.issuanceSettings.managerRedeemFee) * quantity / preciseUnit ∧
      fees.protocolFee = totalFee *
        world.controller.getModuleFee module protocolFeeSplitIndex / preciseUnit ∧
      fees.managerFee + fees.protocolFee = totalFee ∧
      (isIssue = true → fees.totalQuantity = quantity + totalFee) ∧
      (isIssue = false → fees.totalQuantity + totalFee = quantity) := by
  simp only [calculateTotalFees, bind_eq_ok, preciseMul_eq_ok, SafeMath.sub_eq_ok,
    pure_eq_ok] at hfees
  obtain ⟨totalFee, ⟨-, htotal⟩, _, ⟨-, rfl⟩, _, ⟨hsplit, rfl⟩, _, hquantity, rfl⟩ := hfees
  refine ⟨totalFee, htotal.symm, rfl, Nat.sub_add_cancel hsplit, ?_, ?_⟩
  · intro hissue
    rw [if_pos hissue, SafeMath.add_eq_ok] at hquantity
    exact hquantity.2.symm
  · intro hredeem
    simp only [hredeem, Bool.false_eq_true, if_false, SafeMath.sub_eq_ok] at hquantity
    obtain ⟨hfee, rfl⟩ := hquantity
    exact Nat.sub_add_cancel hfee

/-- Components that no other module has a position in. -/
def DefaultOnly (setToken : SetToken) : Prop :=
  ∀ component ∈ setToken.components,
    setToken.getExternalPositionModules component = []

theorem totalIssuanceUnits_eq_ok {setToken : SetToken} {component : Address}
    {units : ComponentUnits}
    (hnone : setToken.getExternalPositionModules component = [])
    (hcall : totalIssuanceUnits setToken component = .ok units) :
    units.component = component ∧ units.debt = 0 ∧
      units.equity = setToken.defaultRealUnit component := by
  simp only [totalIssuanceUnits, hnone, List.foldlM_nil, bind_eq_ok, pure_eq_ok,
    exists_eq_left', SignedSafeMath.mul_eq_ok] at hcall
  obtain ⟨unit, hunit, equity, hequity, _, ⟨-, rfl⟩, debt, hdebt, rfl⟩ := hcall
  rw [SafeCast.toUint256_eq_ok] at hdebt
  exact ⟨rfl, by simpa using hdebt.symm,
    (SetToken.defaultRealUnit_of_ok hunit hequity).symm⟩

/-- The notional amount of a component's equity, before it is moved. -/
def notional (unit quantity : ℕ) (isIssue : Bool) : ℕ :=
  if isIssue = true then unit * quantity ⌈/⌉ preciseUnit
  else unit * quantity / preciseUnit

theorem notional_issue (unit quantity : ℕ) :
    notional unit quantity true = unit * quantity ⌈/⌉ preciseUnit := if_pos rfl

theorem notional_redeem (unit quantity : ℕ) :
    notional unit quantity false = unit * quantity / preciseUnit :=
  if_neg Bool.false_ne_true

theorem requiredIssuanceUnits_eq_ok {isIssue : Bool} {total units : ComponentUnits}
    (hdebt : total.debt = 0)
    (hcall : requiredIssuanceUnits quantity isIssue total = .ok units) :
    units.component = total.component ∧ units.debt = 0 ∧
      units.equity = notional total.equity quantity isIssue := by
  simp only [requiredIssuanceUnits, hdebt, bind_eq_ok, pure_eq_ok] at hcall
  obtain ⟨equity, hequity, debt, hdebts, rfl⟩ := hcall
  cases isIssue
  · simp only [Bool.false_eq_true, if_false, preciseMulCeil_eq_ok, zero_mul,
      zero_ceilDiv, preciseMul_eq_ok] at hdebts hequity
    rw [notional_redeem]
    exact ⟨rfl, hdebts.2.symm, hequity.2.symm⟩
  · simp only [if_true, preciseMulCeil_eq_ok, zero_mul, Nat.zero_div,
      preciseMul_eq_ok] at hdebts hequity
    rw [notional_issue]
    exact ⟨rfl, hdebts.2.symm, hequity.2.symm⟩

/-- Without external positions, each component is charged by its default unit. -/
theorem calculateRequiredComponentIssuanceUnits_eq_ok {setToken : SetToken}
    {isIssue : Bool} {required : List ComponentUnits} (hdefault : DefaultOnly setToken)
    (hrequired : calculateRequiredComponentIssuanceUnits setToken quantity isIssue =
      .ok required) :
    required.map ComponentUnits.component = setToken.components ∧
      ∀ units ∈ required, units.debt = 0 ∧
        units.equity =
          notional (setToken.defaultRealUnit units.component) quantity isIssue := by
  simp only [calculateRequiredComponentIssuanceUnits, getTotalIssuanceUnits,
    bind_eq_ok] at hrequired
  obtain ⟨totals, htotals, hrequired⟩ := hrequired
  have htotal : ∀ total ∈ totals, total.debt = 0 ∧
      total.equity = setToken.defaultRealUnit total.component := by
    intro total hmem
    obtain ⟨component, hcomponent, hcall⟩ := mem_of_mapM_eq_ok htotals hmem
    obtain ⟨rfl, hdebt, hequity⟩ :=
      totalIssuanceUnits_eq_ok (hdefault component hcomponent) hcall
    exact ⟨hdebt, hequity⟩
  refine ⟨?_, fun units hmem => ?_⟩
  · calc required.map ComponentUnits.component = totals.map ComponentUnits.component :=
        map_of_mapM_eq_ok _ _ (fun total hmem units hcall =>
          (requiredIssuanceUnits_eq_ok (htotal total hmem).1 hcall).1) hrequired
      _ = setToken.components.map id :=
        map_of_mapM_eq_ok _ _ (fun component hcomponent units hcall =>
          (totalIssuanceUnits_eq_ok (hdefault component hcomponent) hcall).1) htotals
      _ = setToken.components := List.map_id _
  · obtain ⟨total, hmemTotal, hcall⟩ := mem_of_mapM_eq_ok hrequired hmem
    obtain ⟨hdebt, hequity⟩ := htotal total hmemTotal
    obtain ⟨hcomponent, hnodebt, hnotional⟩ := requiredIssuanceUnits_eq_ok hdebt hcall
    exact ⟨hnodebt, by rw [hnotional, hequity, hcomponent]⟩

/-! ## Moving the components -/

/-- What a hook may do: it leaves the positions and the supply alone, takes no
token from the SetToken, and does not fail over one. -/
structure Harmless (hook : World E → Outcome (World E)) : Prop where
  setTokenAddress : ∀ world next, hook world = .ok next →
    next.setTokenAddress = world.setTokenAddress
  setToken : ∀ world next, hook world = .ok next → next.setToken = world.setToken
  holdings : ∀ world next, hook world = .ok next →
    ∀ token, world.heldBalance token ≤ next.heldBalance token
  funded : ∀ world, Chain.Funded (hook world)

/-- Every hook called before components move is harmless.  The hooks of external
positions are not among them: there are no such positions. -/
structure HarmlessHooks (hooks : Hooks E) : Prop where
  invokePreIssueHook : ∀ hook quantity caller target,
    Harmless (hooks.invokePreIssueHook hook quantity caller target)
  moduleIssueHook : ∀ hook quantity, Harmless (hooks.moduleIssueHook hook quantity)
  moduleRedeemHook : ∀ hook quantity, Harmless (hooks.moduleRedeemHook hook quantity)

/-- Same positions, supply and address, and no less of any token. -/
structure Sheltered (world next : World E) : Prop where
  setTokenAddress : next.setTokenAddress = world.setTokenAddress
  setToken : next.setToken = world.setToken
  holdings : ∀ token, world.heldBalance token ≤ next.heldBalance token

theorem Sheltered.refl (world : World E) : Sheltered world world :=
  ⟨rfl, rfl, fun _ => le_rfl⟩

theorem Harmless.sheltered {hook : World E → Outcome (World E)} {start : World E}
    (hharmless : Harmless hook) (hstart : Sheltered start world)
    (hcall : hook world = .ok next) : Sheltered start next where
  setTokenAddress :=
    (hharmless.setTokenAddress world next hcall).trans hstart.setTokenAddress
  setToken := (hharmless.setToken world next hcall).trans hstart.setToken
  holdings := fun token =>
    (hstart.holdings token).trans (hharmless.holdings world next hcall token)

theorem preIssueHooks_sheltered {hooked : World E} (hharmless : HarmlessHooks hooks)
    (hmanager : callManagerPreIssueHooks hooks world quantity sender target = .ok hooked)
    (hmodules : callModulePreIssueHooks hooks hooked quantity = .ok next) :
    Sheltered world next := by
  have hfirst : Sheltered world hooked := by
    simp only [callManagerPreIssueHooks] at hmanager
    split at hmanager
    · exact (hharmless.invokePreIssueHook _ _ _ _).sheltered (Sheltered.refl world) hmanager
    · rw [pure_eq_ok] at hmanager
      exact hmanager ▸ Sheltered.refl world
  exact foldlM_preserves (fun hook _ _ _ hstate hcall =>
    (hharmless.moduleIssueHook hook quantity).sheltered hstate hcall) hfirst hmodules

theorem preRedeemHooks_sheltered (hharmless : HarmlessHooks hooks)
    (hmodules : callModulePreRedeemHooks hooks world quantity = .ok next) :
    Sheltered world next :=
  foldlM_preserves (fun hook _ _ _ hstate hcall =>
    (hharmless.moduleRedeemHook hook quantity).sheltered hstate hcall)
    (Sheltered.refl world) hmodules

/-- Without debt there is nothing to resolve. -/
theorem resolveDebtPositions_of_no_debt {isIssue : Bool} {required : List ComponentUnits}
    (hdebt : ∀ units ∈ required, units.debt = 0) :
    resolveDebtPositions hooks module world sender quantity isIssue required =
      .ok world := by
  induction required with
  | nil => rfl
  | cons units required ih =>
      have hnone : ¬0 < units.debt := by
        rw [hdebt units List.mem_cons_self]
        exact lt_irrefl 0
      rw [resolveDebtPositions, List.foldlM_cons, resolveDebtPosition, if_neg hnone]
      exact ih fun other hother => hdebt other (List.mem_cons_of_mem units hother)

/-- One turn of issue brings its component in, and nothing else. -/
theorem resolveEquityPosition_issue {units : ComponentUnits}
    (hnone : world.setToken.getExternalPositionModules units.component = [])
    (hcall : resolveEquityPosition hooks module sender target quantity true world units =
      .ok next) :
    next.setToken = world.setToken ∧ next.setTokenAddress = world.setTokenAddress ∧
      next.heldBalance units.component =
        world.heldBalance units.component + units.equity ∧
      ∀ other, other ≠ units.component → next.heldBalance other = world.heldBalance other := by
  unfold resolveEquityPosition at hcall
  split at hcall
  · rename_i hpositive
    simp only [if_true, bind_eq_ok] at hcall
    obtain ⟨chain, htransfer, hhooks⟩ := hcall
    obtain ⟨hraised, hothers⟩ := Chain.heldBalance_of_transferFrom htransfer
    obtain ⟨_, rfl⟩ := Chain.transferFrom_frame htransfer
    simp only [executeExternalPositionHooks, World.withChain, hnone, List.foldlM_nil,
      pure_eq_ok] at hhooks
    subst hhooks
    exact ⟨rfl, rfl, hraised, hothers⟩
  · rename_i hzero
    rw [pure_eq_ok] at hcall
    subst hcall
    exact ⟨rfl, rfl, by omega, fun _ _ => rfl⟩

/-- One turn of redeem pays its component out, and nothing else. -/
theorem resolveEquityPosition_redeem {units : ComponentUnits}
    (hnone : world.setToken.getExternalPositionModules units.component = [])
    (hcall : resolveEquityPosition hooks module sender target quantity false world units =
      .ok next) :
    next.setToken = world.setToken ∧ next.setTokenAddress = world.setTokenAddress ∧
      next.heldBalance units.component =
        world.heldBalance units.component - units.equity ∧
      ∀ other, other ≠ units.component → next.heldBalance other = world.heldBalance other := by
  unfold resolveEquityPosition at hcall
  split at hcall
  · rename_i hpositive
    simp only [Bool.false_eq_true, if_false, executeExternalPositionHooks, hnone,
      List.foldlM_nil, pure_eq_ok, bind_eq_ok, exists_eq_left'] at hcall
    obtain ⟨chain, htransfer, rfl⟩ := hcall
    obtain ⟨-, hlowered, hothers⟩ := Chain.heldBalance_of_strictInvokeTransfer htransfer
    obtain ⟨_, rfl⟩ := Chain.strictInvokeTransfer_frame htransfer
    exact ⟨rfl, rfl, hlowered, hothers⟩
  · rename_i hzero
    rw [pure_eq_ok] at hcall
    subst hcall
    exact ⟨rfl, rfl, by omega, fun _ _ => rfl⟩

/-- Fees are minted on top: the supply grows by at most both fees, and no balance
of the SetToken falls. -/
theorem resolveFees_holdings {managerFee protocolFee : ℕ}
    (hcall : resolveFees module world managerFee protocolFee = .ok next) :
    next.setTokenAddress = world.setTokenAddress ∧
      (∃ minted, minted ≤ managerFee + protocolFee ∧
        next.setToken = { world.setToken with
          totalSupply := world.setToken.totalSupply + minted }) ∧
      ∀ token, world.heldBalance token ≤ next.heldBalance token := by
  unfold resolveFees at hcall
  split at hcall
  · rw [bind_eq_ok] at hcall
    obtain ⟨chain, hmanager, hcall⟩ := hcall
    obtain ⟨haddress, hsetToken, hholdings⟩ := Chain.mint_holdings hmanager
    split at hcall
    · simp only [bind_eq_ok, pure_eq_ok] at hcall
      obtain ⟨final, hprotocol, rfl⟩ := hcall
      obtain ⟨haddress', hsetToken', hholdings'⟩ := Chain.mint_holdings hprotocol
      refine ⟨haddress'.trans haddress, ⟨managerFee + protocolFee, le_rfl, ?_⟩,
        fun token => (hholdings token).trans (hholdings' token)⟩
      simp [World.withChain, hsetToken', hsetToken, Nat.add_assoc]
    · rw [pure_eq_ok] at hcall
      subst hcall
      exact ⟨haddress, ⟨managerFee, Nat.le_add_right _ _, hsetToken⟩, hholdings⟩
  · rw [pure_eq_ok] at hcall
    subst hcall
    exact ⟨rfl, ⟨0, Nat.zero_le _, rfl⟩, fun _ => le_rfl⟩

/-! ## One issuance, one redemption -/

/-- The state in which issuance keeps a Set backed. -/
structure Issuable (chain : Chain) : Prop where
  components_nodup : chain.setToken.components.Nodup
  default_only : DefaultOnly chain.setToken
  collateralized : chain.Collateralized

/-- A SetToken that only differs in its supply has the same positions. -/
theorem Issuable.of_supply {chain other : Chain} {supply : ℕ}
    (hissuable : Issuable chain)
    (hsetToken : other.setToken = { chain.setToken with totalSupply := supply })
    (hbacked : ∀ component ∈ chain.setToken.components,
      Backed preciseUnit supply (chain.setToken.defaultRealUnit component)
        (other.heldBalance component)) : Issuable other := by
  refine ⟨?_, ?_, ?_⟩
  · rw [hsetToken]
    exact hissuable.components_nodup
  · rw [hsetToken]
    exact hissuable.default_only
  · intro component hcomponent
    rw [hsetToken] at hcomponent ⊢
    exact hbacked component hcomponent

/-- The loop over components that each occur once. -/
theorem resolveEquityPositions_eq_ok {isIssue : Bool} {required : List ComponentUnits}
    (hnone : ∀ units ∈ required,
      world.setToken.getExternalPositionModules units.component = [])
    (hnodup : (required.map ComponentUnits.component).Nodup)
    (hcall : resolveEquityPositions hooks module world sender quantity target isIssue
      required = .ok next) :
    (next.setToken = world.setToken ∧ next.setTokenAddress = world.setTokenAddress) ∧
      (∀ units ∈ required, next.heldBalance units.component =
        if isIssue = true then world.heldBalance units.component + units.equity
        else world.heldBalance units.component - units.equity) ∧
      ∀ token, token ∉ required.map ComponentUnits.component →
        next.heldBalance token = world.heldBalance token := by
  have hturn : ∀ units ∈ required, ∀ state final : World E,
      (state.setToken = world.setToken ∧ state.setTokenAddress = world.setTokenAddress) →
      resolveEquityPosition hooks module sender target quantity isIssue state units =
        .ok final →
      (final.setToken = world.setToken ∧ final.setTokenAddress = world.setTokenAddress) ∧
        (final.heldBalance units.component =
          if isIssue = true then state.heldBalance units.component + units.equity
          else state.heldBalance units.component - units.equity) ∧
        ∀ other, other ≠ units.component →
          final.heldBalance other = state.heldBalance other := by
    intro units hunits state final hstate hturn
    have hnone := hnone units hunits
    rw [← hstate.1] at hnone
    cases isIssue with
    | true =>
        obtain ⟨hsetToken, haddress, hself, hothers⟩ :=
          resolveEquityPosition_issue hnone hturn
        exact ⟨⟨hsetToken.trans hstate.1, haddress.trans hstate.2⟩, by simpa using hself,
          hothers⟩
    | false =>
        obtain ⟨hsetToken, haddress, hself, hothers⟩ :=
          resolveEquityPosition_redeem hnone hturn
        exact ⟨⟨hsetToken.trans hstate.1, haddress.trans hstate.2⟩, by simpa using hself,
          hothers⟩
  exact foldlM_keyed ComponentUnits.component
    (fun (state : World E) token => state.heldBalance token)
    (fun state => state.setToken = world.setToken ∧
      state.setTokenAddress = world.setTokenAddress)
    (fun units before after => after =
      if isIssue = true then before + units.equity else before - units.equity)
    hturn hnodup ⟨rfl, rfl⟩ hcall

/-- The loop over all components of a SetToken with default positions only. -/
theorem none_of_components {setToken : SetToken} {required : List ComponentUnits}
    (hdefault : DefaultOnly setToken)
    (hcomponents : required.map ComponentUnits.component = setToken.components) :
    ∀ units ∈ required, setToken.getExternalPositionModules units.component = [] := by
  intro units hunits
  apply hdefault
  rw [← hcomponents]
  exact List.mem_map_of_mem hunits

/-- Same account, and the same positions. -/
def SamePositions (chain other : Chain) : Prop :=
  other.setTokenAddress = chain.setTokenAddress ∧
    other.setToken = { chain.setToken with totalSupply := other.setToken.totalSupply }

theorem SamePositions.components {chain other : Chain} (hsame : SamePositions chain other) :
    other.setToken.components = chain.setToken.components := by
  rw [hsame.2]

/-- Issuance charges every component for all shares it mints, fees included. -/
theorem issue_preserves (hharmless : HarmlessHooks hooks)
    (hissuable : Issuable world.toChain)
    (hcall : issue hooks module world sender quantity target = .ok next) :
    Issuable next.toChain ∧ SamePositions world.toChain next.toChain := by
  simp only [issue, collectForIssue, bind_eq_ok, pure_eq_ok, require_eq_ok,
    exists_const] at hcall
  obtain ⟨_, ⟨_, -, -, hooked, hmanager, ready, hmodules, fees, hfees, required, hrequired,
    equity, hequity, collected, hdebt, rfl⟩, charged, hminted, chain, hmint, rfl⟩ := hcall
  have hsheltered := preIssueHooks_sheltered hharmless hmanager hmodules
  obtain ⟨totalFee, -, -, hsplit, htotal, -⟩ := calculateTotalFees_eq_ok hfees
  rw [hsheltered.setToken] at hrequired
  obtain ⟨hcomponents, hunits⟩ :=
    calculateRequiredComponentIssuanceUnits_eq_ok hissuable.default_only hrequired
  rw [resolveDebtPositions_of_no_debt fun units hmem => (hunits units hmem).1] at hdebt
  cases hdebt
  dsimp only at hminted
  obtain ⟨⟨hequityToken, hequityAddress⟩, hequities, -⟩ := resolveEquityPositions_eq_ok
    (by rw [hsheltered.setToken]; exact none_of_components hissuable.default_only hcomponents)
    (by rw [hcomponents]; exact hissuable.components_nodup) hequity
  obtain ⟨hfeeAddress, ⟨minted, hfeeMinted, hfeeToken⟩, hfeeHoldings⟩ :=
    resolveFees_holdings hminted
  obtain ⟨hmintAddress, hmintToken, hmintHoldings⟩ := Chain.mint_holdings hmint
  have hfinal : chain.setToken = { world.setToken with
      totalSupply := world.setToken.totalSupply + minted + quantity } := by
    rw [hmintToken, hfeeToken, hequityToken, hsheltered.setToken]
  refine ⟨hissuable.of_supply hfinal fun component hcomponent => ?_,
    hmintAddress.trans (hfeeAddress.trans
      (hequityAddress.trans hsheltered.setTokenAddress)), ?_⟩
  · -- the charge covers the shares paid for, which are at least those minted
    rw [← hcomponents] at hcomponent
    obtain ⟨units, hmem, rfl⟩ := List.mem_map.mp hcomponent
    have hmember : units.component ∈ world.setToken.components :=
      hcomponents ▸ hcomponent
    have hcharge := (hunits units hmem).2
    rw [notional_issue] at hcharge
    have hbalance : world.heldBalance units.component + units.equity ≤
        chain.heldBalance units.component := by
      have hturn := hequities units hmem
      rw [if_pos rfl] at hturn
      have hbefore := hsheltered.holdings units.component
      have hfee := hfeeHoldings units.component
      have hmints := hmintHoldings units.component
      omega
    refine (Backed.deposit fees.totalQuantity (hissuable.collateralized _ hmember)
      ?_ ?_).mono le_rfl hbalance
    · rw [hcharge, Nat.mul_comm fees.totalQuantity]
      exact le_ceilDiv_mul _ preciseUnit_pos
    · have htotals := htotal rfl
      omega
  · change chain.setToken =
      { world.setToken with totalSupply := chain.setToken.totalSupply }
    rw [hfinal]

/-- The state between the burn and the payout: the shares to be paid out are no
longer counted, and what they are owed is still there. -/
structure Burnt (world burnt : World E) (quantity : ℕ) : Prop where
  setTokenAddress : burnt.setTokenAddress = world.setTokenAddress
  quantity_le : quantity ≤ world.setToken.totalSupply
  setToken : burnt.setToken =
    { world.setToken with totalSupply := world.setToken.totalSupply - quantity }
  holdings : ∀ component ∈ world.setToken.components,
    world.heldBalance component ≤ burnt.heldBalance component

theorem burnt_of_ok {ready : World E} {chain : Chain}
    (houtside : sender = world.setTokenAddress →
      world.setTokenAddress ∉ world.setToken.components)
    (hsheltered : Sheltered world ready)
    (hburn : ready.burn module sender quantity = .ok chain) :
    Burnt world (ready.withChain chain) quantity := by
  obtain ⟨haddress, hsupply, hsetToken, hholdings⟩ := Chain.burn_holdings hburn
  rw [hsheltered.setToken] at hsupply hsetToken
  refine ⟨haddress.trans hsheltered.setTokenAddress, hsupply, hsetToken,
    fun component hcomponent => (hsheltered.holdings component).trans ?_⟩
  refine (hholdings component fun hself hshare => ?_).ge
  rw [hsheltered.setTokenAddress] at hself hshare
  exact houtside hself (hshare ▸ hcomponent)

/-- Redemption pays every component out for the shares it burns, net of fees. -/
theorem redeem_preserves (hharmless : HarmlessHooks hooks)
    (hissuable : Issuable world.toChain)
    (houtside : sender = world.setTokenAddress →
      world.setTokenAddress ∉ world.setToken.components)
    (hcall : redeem hooks module world sender quantity target = .ok next) :
    Issuable next.toChain ∧ SamePositions world.toChain next.toChain := by
  simp only [redeem, releaseForRedeem, bind_eq_ok, pure_eq_ok, require_eq_ok,
    exists_const] at hcall
  obtain ⟨_, ⟨_, -, -, ready, hmodules, chain, hburn, fees, hfees, required, hrequired,
    indebted, hdebt, released, hequity, rfl⟩, hminted⟩ := hcall
  have hburnt := burnt_of_ok houtside (preRedeemHooks_sheltered hharmless hmodules) hburn
  obtain ⟨totalFee, -, -, hsplit, -, htotal⟩ := calculateTotalFees_eq_ok hfees
  have hdefault : DefaultOnly (ready.withChain chain).setToken := by
    rw [hburnt.setToken]
    exact hissuable.default_only
  obtain ⟨hcomponents, hunits⟩ :=
    calculateRequiredComponentIssuanceUnits_eq_ok hdefault hrequired
  rw [resolveDebtPositions_of_no_debt fun units hmem => (hunits units hmem).1] at hdebt
  cases hdebt
  dsimp only at hminted
  obtain ⟨⟨hequityToken, hequityAddress⟩, hequities, -⟩ := resolveEquityPositions_eq_ok
    (none_of_components hdefault hcomponents)
    (by rw [hcomponents, hburnt.setToken]; exact hissuable.components_nodup) hequity
  obtain ⟨hfeeAddress, ⟨minted, hfeeMinted, hfeeToken⟩, hfeeHoldings⟩ :=
    resolveFees_holdings hminted
  have hfinal : next.setToken = { world.setToken with
      totalSupply := world.setToken.totalSupply - quantity + minted } := by
    rw [hfeeToken, hequityToken, hburnt.setToken]
  have hlisted : required.map ComponentUnits.component = world.setToken.components := by
    rw [hcomponents, hburnt.setToken]
  refine ⟨hissuable.of_supply hfinal fun component hcomponent => ?_,
    hfeeAddress.trans (hequityAddress.trans hburnt.setTokenAddress), ?_⟩
  · have hmember := hcomponent
    rw [← hlisted] at hmember
    obtain ⟨units, hmem, rfl⟩ := List.mem_map.mp hmember
    have hpayout := (hunits units hmem).2
    rw [notional_redeem, hburnt.setToken] at hpayout
    have hbalance : world.heldBalance units.component - units.equity ≤
        next.heldBalance units.component := by
      have hturn := hequities units hmem
      simp only [Bool.false_eq_true, if_false] at hturn
      have hbefore := hburnt.holdings _ hcomponent
      have hfee := hfeeHoldings units.component
      omega
    refine (Backed.withdraw fees.totalQuantity (hissuable.collateralized _ hcomponent)
      ?_ ?_).mono le_rfl hbalance
    · rw [hpayout, Nat.mul_comm fees.totalQuantity]
      exact Nat.div_mul_le_self _ _
    · have htotals := htotal rfl
      have hsupply := hburnt.quantity_le
      omega
  · rw [hfinal]

/-! ## Redemption never lacks a component -/

open Chain

theorem funded_calculateTotalFees (isIssue : Bool) :
    Funded (calculateTotalFees module world quantity isIssue) := by
  refine (funded_of_arithmetic (arithmetic_preciseMul _ _)).bind fun totalFee _ => ?_
  refine (funded_of_arithmetic (arithmetic_preciseMul _ _)).bind fun protocolFee _ => ?_
  refine (funded_of_arithmetic (SafeMath.arithmetic_sub _ _)).bind fun managerFee _ => ?_
  refine RevertsOnly.bind ?_ fun _ _ => revertsOnly_pure _
  exact RevertsOnly.ite (fun _ => funded_of_arithmetic (SafeMath.arithmetic_add _ _))
    fun _ => funded_of_arithmetic (SafeMath.arithmetic_sub _ _)

theorem funded_calculateRequiredComponentIssuanceUnits {setToken : SetToken}
    (isIssue : Bool) (hdefault : DefaultOnly setToken) :
    Funded (calculateRequiredComponentIssuanceUnits setToken quantity isIssue) := by
  refine RevertsOnly.bind (revertsOnly_mapM fun component hcomponent => ?_)
    fun totals _ => revertsOnly_mapM fun units _ => ?_
  · simp only [totalIssuanceUnits, hdefault component hcomponent, List.foldlM_nil]
    refine (funded_of_arithmetic
      (setToken.arithmetic_convertVirtualToRealUnit _)).bind fun _ _ => ?_
    refine (revertsOnly_pure _).bind fun _ _ => ?_
    refine (funded_of_arithmetic (SafeCast.arithmetic_toUint256 _)).bind fun _ _ => ?_
    refine (funded_of_arithmetic (SignedSafeMath.arithmetic_mul _ _)).bind fun _ _ => ?_
    exact (funded_of_arithmetic (SafeCast.arithmetic_toUint256 _)).bind
      fun _ _ => revertsOnly_pure _
  · refine RevertsOnly.bind ?_ fun _ _ => RevertsOnly.bind ?_ fun _ _ => revertsOnly_pure _
    · exact RevertsOnly.ite (fun _ => funded_of_arithmetic (arithmetic_preciseMulCeil _ _))
        fun _ => funded_of_arithmetic (arithmetic_preciseMul _ _)
    · exact RevertsOnly.ite (fun _ => funded_of_arithmetic (arithmetic_preciseMul _ _))
        fun _ => funded_of_arithmetic (arithmetic_preciseMulCeil _ _)

theorem funded_resolveFees {managerFee protocolFee : ℕ} :
    Funded (resolveFees module world managerFee protocolFee) :=
  RevertsOnly.ite (fun _ => funded_mint.bind fun _ _ => RevertsOnly.ite
    (fun _ => funded_mint.bind fun _ _ => revertsOnly_pure _) fun _ => revertsOnly_pure _)
    fun _ => revertsOnly_pure _

/-- The payout reaches each component while its balance is untouched. -/
theorem funded_resolveEquityPositions {required : List ComponentUnits}
    (hnone : ∀ units ∈ required,
      world.setToken.getExternalPositionModules units.component = [])
    (hnodup : (required.map ComponentUnits.component).Nodup)
    (hfunds : ∀ units ∈ required, units.equity ≤ world.heldBalance units.component) :
    Funded (resolveEquityPositions hooks module world sender quantity target false
      required) := by
  intro reason herror
  obtain ⟨before, units, after, middle, rfl, hbefore, hturn⟩ := foldlM_eq_error herror
  rw [List.map_append, List.map_cons] at hnodup
  obtain ⟨hdistinct, -, hapart⟩ := List.nodup_append.mp hnodup
  obtain ⟨⟨hsetToken, haddress⟩, -, huntouched⟩ := resolveEquityPositions_eq_ok
    (fun other hother => hnone other (List.mem_append_left _ hother)) hdistinct hbefore
  have hmem : units ∈ before ++ units :: after := by simp
  have hbalance := huntouched units.component fun hearlier =>
    hapart _ hearlier _ List.mem_cons_self rfl
  have hmodules := hnone units hmem
  rw [← hsetToken] at hmodules
  have hfunded : Funded
      (resolveEquityPosition hooks module sender target quantity false middle units) := by
    simp only [resolveEquityPosition, Bool.false_eq_true, if_false,
      executeExternalPositionHooks, hmodules, List.foldlM_nil]
    refine RevertsOnly.ite (fun _ => ?_) fun _ => revertsOnly_pure _
    refine (revertsOnly_pure _).bind fun state hstate => ?_
    rw [pure_eq_ok] at hstate
    subst hstate
    refine (funded_strictInvokeTransfer ?_).bind fun _ _ => revertsOnly_pure _
    rw [hbalance]
    exact hfunds units hmem
  exact hfunded reason hturn

/-- A redemption never fails because the SetToken holds too little of a component. -/
theorem funded_redeem (hharmless : HarmlessHooks hooks)
    (hissuable : Issuable world.toChain)
    (houtside : sender = world.setTokenAddress →
      world.setTokenAddress ∉ world.setToken.components) :
    Funded (redeem hooks module world sender quantity target) := by
  refine RevertsOnly.bind ?_ fun _ _ => funded_resolveFees
  refine (revertsOnly_require fun _ => by decide).bind fun _ _ => ?_
  refine (revertsOnly_require fun _ => by decide).bind fun _ _ => ?_
  refine RevertsOnly.bind (revertsOnly_foldlM (fun hook _ state =>
    (hharmless.moduleRedeemHook hook quantity).funded state) world) fun ready hmodules => ?_
  refine funded_burn.bind fun chain hburn => ?_
  have hburnt := burnt_of_ok houtside (preRedeemHooks_sheltered hharmless hmodules) hburn
  have hdefault : DefaultOnly (ready.withChain chain).setToken := by
    rw [hburnt.setToken]
    exact hissuable.default_only
  refine (funded_calculateTotalFees false).bind fun fees hfees => ?_
  refine (funded_calculateRequiredComponentIssuanceUnits false hdefault).bind
    fun required hrequired => ?_
  obtain ⟨totalFee, -, -, -, -, htotal⟩ := calculateTotalFees_eq_ok hfees
  obtain ⟨hcomponents, hunits⟩ :=
    calculateRequiredComponentIssuanceUnits_eq_ok hdefault hrequired
  rw [resolveDebtPositions_of_no_debt fun units hmem => (hunits units hmem).1, ok_bind]
  refine RevertsOnly.bind (funded_resolveEquityPositions
    (none_of_components hdefault hcomponents)
    (by rw [hcomponents, hburnt.setToken]; exact hissuable.components_nodup) ?_)
    fun _ _ => revertsOnly_pure _
  intro units hmem
  have hmember : units.component ∈ world.setToken.components := by
    have hlisted := List.mem_map_of_mem (f := ComponentUnits.component) hmem
    rw [hcomponents, hburnt.setToken] at hlisted
    exact hlisted
  have hpayout := (hunits units hmem).2
  rw [notional_redeem, hburnt.setToken] at hpayout
  refine le_trans (Backed.affordable fees.totalQuantity
    (hissuable.collateralized _ hmember) preciseUnit_pos ?_ ?_)
    (hburnt.holdings _ hmember)
  · rw [hpayout, Nat.mul_comm fees.totalQuantity]
    exact Nat.div_mul_le_self _ _
  · have htotals := htotal rfl
    have hsupply := hburnt.quantity_le
    omega

/-! ## Histories -/

/-- Issuance, redemption, changes of the fees, and any change on the Controller. -/
inductive IssuanceCall
  | issue (sender : Address) (quantity : ℕ) (target : Address)
  | redeem (sender : Address) (quantity : ℕ) (target : Address)
  | updateIssueFee (sender : Address) (newIssueFee : ℕ)
  | updateRedeemFee (sender : Address) (newRedeemFee : ℕ)
  | updateFeeRecipient (sender newFeeRecipient : Address)
  | changeController (controller : Controller)

def perform (hooks : Hooks E) (module : Address) :
    IssuanceCall → World E → Outcome (World E)
  | .issue sender quantity target => fun world =>
      issue hooks module world sender quantity target
  | .redeem sender quantity target => fun world =>
      redeem hooks module world sender quantity target
  | .updateIssueFee sender newIssueFee => fun world =>
      updateIssueFee module world sender newIssueFee
  | .updateRedeemFee sender newRedeemFee => fun world =>
      updateRedeemFee module world sender newRedeemFee
  | .updateFeeRecipient sender newFeeRecipient => fun world =>
      updateFeeRecipient module world sender newFeeRecipient
  | .changeController controller => fun world =>
      .ok (world.withChain { world.toChain with controller := controller })

/-- A SetToken never calls `redeem` itself.  Only one that is a component of itself
could tell the difference: its own shares would be burnt. -/
def SentFromOutside (chain : Chain) : IssuanceCall → Prop
  | .redeem sender _ _ => sender = chain.setTokenAddress →
      chain.setTokenAddress ∉ chain.setToken.components
  | _ => True

theorem SamePositions.refl (chain : Chain) : SamePositions chain chain := ⟨rfl, rfl⟩

theorem SamePositions.trans {first second third : Chain}
    (hfirst : SamePositions first second) (hsecond : SamePositions second third) :
    SamePositions first third := by
  refine ⟨hsecond.1.trans hfirst.1, ?_⟩
  rw [hsecond.2, hfirst.2]

theorem SentFromOutside.of_same {chain other : Chain} {call : IssuanceCall}
    (houtside : SentFromOutside chain call) (hsame : SamePositions chain other) :
    SentFromOutside other call := by
  cases call with
  | redeem sender quantity target =>
      intro hself
      rw [hsame.components, hsame.1]
      exact houtside (hself.trans hsame.1)
  | issue | updateIssueFee | updateRedeemFee | updateFeeRecipient | changeController =>
      trivial

theorem perform_preserves (hharmless : HarmlessHooks hooks) {call : IssuanceCall}
    (hissuable : Issuable world.toChain) (houtside : SentFromOutside world.toChain call)
    (hcall : perform hooks module call world = .ok next) :
    Issuable next.toChain ∧ SamePositions world.toChain next.toChain := by
  have hunchanged : ∀ settings : IssuanceSettings,
      next = { world with issuanceSettings := settings } →
        Issuable next.toChain ∧ SamePositions world.toChain next.toChain := by
    rintro settings rfl
    exact ⟨hissuable, SamePositions.refl _⟩
  cases call with
  | issue sender quantity target => exact issue_preserves hharmless hissuable hcall
  | redeem sender quantity target =>
      exact redeem_preserves hharmless hissuable houtside hcall
  | updateIssueFee sender newIssueFee =>
      simp only [perform, updateIssueFee, bind_eq_ok, pure_eq_ok] at hcall
      obtain ⟨_, -, _, -, _, -, rfl⟩ := hcall
      exact hunchanged _ rfl
  | updateRedeemFee sender newRedeemFee =>
      simp only [perform, updateRedeemFee, bind_eq_ok, pure_eq_ok] at hcall
      obtain ⟨_, -, _, -, _, -, rfl⟩ := hcall
      exact hunchanged _ rfl
  | updateFeeRecipient sender newFeeRecipient =>
      simp only [perform, updateFeeRecipient, bind_eq_ok, pure_eq_ok] at hcall
      obtain ⟨_, -, _, -, _, -, rfl⟩ := hcall
      exact hunchanged _ rfl
  | changeController controller =>
      cases hcall
      exact ⟨⟨hissuable.components_nodup, hissuable.default_only,
        hissuable.collateralized⟩, SamePositions.refl _⟩

/-- Through every history a SetToken with default positions stays collateralized,
and no redemption ever fails for lack of a component. -/
theorem collateralized_of_history (hharmless : HarmlessHooks hooks)
    (hissuable : Issuable world.toChain) (calls : List IssuanceCall)
    (houtside : ∀ call ∈ calls, SentFromOutside world.toChain call) :
    (run (perform hooks module) calls world).Collateralized ∧
      ∀ sender quantity target,
        SentFromOutside world.toChain (.redeem sender quantity target) →
        Funded (redeem hooks module (run (perform hooks module) calls world) sender
          quantity target) := by
  have hkept : Issuable (run (perform hooks module) calls world).toChain ∧
      SamePositions world.toChain (run (perform hooks module) calls world).toChain := by
    refine run_preserves (fun state : World E =>
      Issuable state.toChain ∧ SamePositions world.toChain state.toChain) ?_
      ⟨hissuable, SamePositions.refl _⟩
    intro call hcall state after hstate hperform
    obtain ⟨hafter, hsame⟩ := perform_preserves hharmless hstate.1
      ((houtside call hcall).of_same hstate.2) hperform
    exact ⟨hafter, hstate.2.trans hsame⟩
  exact ⟨hkept.1.collateralized, fun sender quantity target hsender =>
    funded_redeem hharmless hkept.1 (hsender.of_same hkept.2)⟩

/-- Hooks that do nothing. -/
def passingHooks : Hooks E where
  invokePreIssueHook _ _ _ _ := Except.ok
  moduleIssueHook _ _ := Except.ok
  moduleRedeemHook _ _ := Except.ok
  componentIssueHook _ _ _ _ := Except.ok
  componentRedeemHook _ _ _ _ := Except.ok

theorem harmless_passing : Harmless (Except.ok : World E → Outcome (World E)) where
  setTokenAddress := by rintro world _ ⟨⟩; rfl
  setToken := by rintro world _ ⟨⟩; rfl
  holdings := by rintro world _ ⟨⟩ token; exact le_rfl
  funded := fun world => revertsOnly_pure world

/-- Ten shares of two units each, over a balance of twenty-one. -/
def smallWorld : World Unit where
  controller := { Controller.deploy 1 2 with
    isSet := fun setToken => setToken == 9
    isModule := fun module => module == 5 }
  setTokenAddress := 9
  setToken := { SetToken.deploy [10] [2 * 10 ^ 18] [5] 7 with
    moduleStates := fun module => if module = 5 then .INITIALIZED else .NONE
    totalSupply := 10 }
  balances := fun token holder =>
    if token = 10 then (if holder = 9 then 21 else 1000) else if holder = 3 then 10 else 0
  timestamp := 0
  issuanceSettings := { noSettings with
    maxManagerFee := 10 ^ 17
    managerIssueFee := 10 ^ 16
    managerRedeemFee := 10 ^ 16
    feeRecipient := 4 }
  environment := ()

theorem harmlessHooks_passing : HarmlessHooks (passingHooks : Hooks E) :=
  ⟨fun _ _ _ _ => harmless_passing, fun _ _ => harmless_passing,
    fun _ _ => harmless_passing⟩

theorem issuable_smallWorld : Issuable smallWorld.toChain := by
  refine ⟨by decide, fun component hcomponent => ?_, fun component hcomponent => ?_⟩
  · rw [List.mem_singleton.mp hcomponent]
    rfl
  · rw [List.mem_singleton.mp hcomponent]
    unfold Backed
    decide

theorem collateralized_of_history_issue_redeem :
    (run (perform passingHooks 5)
      [.issue 3 7 3, .updateRedeemFee 7 (10 ^ 17), .redeem 3 12 3]
        smallWorld).Collateralized := by
  refine (collateralized_of_history harmlessHooks_passing issuable_smallWorld _ ?_).1
  simp [SentFromOutside, smallWorld, SetToken.deploy]

end SetProtocol.DebtIssuanceModule
