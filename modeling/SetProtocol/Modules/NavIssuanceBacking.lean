import SetProtocol.Modules.NavIssuanceEffects
import SetProtocol.Core.AlikeChains
import SetProtocol.Core.SetTokenCreator
import SetProtocol.Core.SetValuer

/-!
# Backing under issuance at net asset value

Both flows recompute the unit of the reserve asset from what is held.  All other
units follow the multiplier, which is rounded down, but the units were rounded
before: whether they fall as the supply grows is a question of the units alone.
-/

namespace SetProtocol.NavIssuanceModule

open Transaction PreciseUnitMath

variable {E : Type}

/-- A call of one of the two flows. -/
inductive FlowCall
  | issue (reserveAsset : Address) (quantity minReceived : ℕ) (target : Address)
  | redeem (reserveAsset : Address) (quantity minReceived : ℕ) (target : Address)

namespace FlowCall

def reserveAsset : FlowCall → Address
  | .issue reserveAsset _ _ _ => reserveAsset
  | .redeem reserveAsset _ _ _ => reserveAsset

def perform (externals : Externals E) (module sender : Address) (world : World E) :
    FlowCall → Outcome (World E)
  | .issue reserveAsset quantity minReceived target =>
      NavIssuanceModule.issue externals module world sender reserveAsset quantity minReceived
        target
  | .redeem reserveAsset quantity minReceived target =>
      NavIssuanceModule.redeem externals module world sender reserveAsset quantity minReceived
        target

/-- The supply that a call is going to leave, as the view of the module predicts it. -/
def supplyAfter (externals : Externals E) (module : Address) (world : World E) :
    FlowCall → Outcome ℕ
  | .issue reserveAsset quantity _ _ => do
      let minted ← getExpectedSetTokenIssueQuantity externals module world reserveAsset
        quantity
      pure (world.setToken.totalSupply + minted)
  | .redeem _ quantity _ _ => pure (world.setToken.totalSupply - quantity)

end FlowCall

variable {externals others : Externals E}
variable {module sender reserveAsset target component : Address}
variable {world next : World E} {chain reached other : Chain} {info : ActionInfo}

/-- A real unit once the positions are spread over another supply. -/
def spreadUnit (setToken : SetToken) (supply : ℕ) (component : Address) : ℕ :=
  (realUnit (spreadMultiplier setToken supply)
    (setToken.defaultPositionVirtualUnit component)).toNat

/-- No component but the reserve asset is owed more by the other supply. -/
def UnitsSpread (setToken : SetToken) (reserveAsset : Address) (supply : ℕ) : Prop :=
  ∀ component ∈ setToken.components, component ≠ reserveAsset →
    supply * spreadUnit setToken supply component / preciseUnit ≤
      trackedBalance setToken component

/-! ## Positions -/

/-- The edits of both flows: the reserve asset is owed no more than asked for, the units
of all other components follow the multiplier. -/
theorem units_of_editPositions (hkept : Bookkept chain.setToken)
    (hcall : editPositions module chain reserveAsset info = .ok reached) :
    reached = chain.withSetToken reached.setToken ∧ Bookkept reached.setToken ∧
      reached.setToken.totalSupply = chain.setToken.totalSupply ∧
      reached.setToken.defaultRealUnit reserveAsset ≤ info.newReservePositionUnit ∧
      ∀ component, component ≠ reserveAsset →
        (component ∈ reached.setToken.components ↔
          component ∈ chain.setToken.components) ∧
        reached.setToken.defaultRealUnit component =
          (realUnit info.newPositionMultiplier
            (chain.setToken.defaultPositionVirtualUnit component)).toNat := by
  obtain ⟨rescaled, hrescaled, edited, hedited, rfl⟩ := editPositions_eq_ok.mp hcall
  have hrekept := hkept.editPositionMultiplier hrescaled
  have hedkept := hrekept.editDefaultPosition hedited
  obtain ⟨-, hreserve, hothers⟩ :=
    Position.defaultRealUnit_of_edit hrekept.multiplier_pos hedited
  obtain ⟨_, _, _, -, -, hedit, -⟩ := Position.editDefaultPosition_eq_ok hedited
  obtain ⟨-, -, rfl⟩ := SetToken.editPositionMultiplier_eq_ok.mp hrescaled
  refine ⟨rfl, hedkept, ?_, ?_, fun component hother => ⟨?_, ?_⟩⟩
  · subst hedit
    rfl
  · change edited.defaultRealUnit reserveAsset ≤ _
    rw [hreserve]
    exact Rounding.thereAndBack_le preciseUnit_pos _ _
  · change component ∈ edited.components ↔ _
    rw [hedkept.components.mem_iff, hkept.components.mem_iff, hedit]
    simp [SetToken.withPosition, SetToken.withComponents, hother]
  · change edited.defaultRealUnit component = _
    rw [hothers component hother]
    rfl

/-! ## Holdings -/

/-- The SetToken gains the net payment, and no other token moves for it. -/
theorem transferCollateralAndHandleFees_holdings
    (hsender : sender ≠ world.setTokenAddress)
    (hcall : transferCollateralAndHandleFees world sender reserveAsset info = .ok chain) :
    world.heldBalance reserveAsset + info.netFlowQuantity ≤ chain.heldBalance reserveAsset ∧
      ∀ token, token ≠ reserveAsset →
        chain.heldBalance token = world.heldBalance token := by
  simp only [transferCollateralAndHandleFees, Chain.transferFrom_if_pos, bind_eq_ok] at hcall
  obtain ⟨received, hreceived, charged, hcharged, hpaid⟩ := hcall
  obtain ⟨hgain, hothers⟩ := Chain.heldBalance_of_transferFrom hreceived
  obtain ⟨_, hreceivedFrame⟩ := Chain.transferFrom_frame hreceived
  obtain ⟨_, hchargedFrame⟩ := Chain.transferFrom_frame hcharged
  -- the fees may go to the SetToken, but do not come from it
  obtain ⟨hprotocol, hprotocolOthers⟩ :=
    Chain.heldBalance_le_of_transferFrom (by rw [hreceivedFrame]; exact hsender) hcharged
  obtain ⟨hmanager, hmanagerOthers⟩ :=
    Chain.heldBalance_le_of_transferFrom
      (by rw [hchargedFrame, hreceivedFrame]; exact hsender) hpaid
  refine ⟨?_, fun token hother => ?_⟩
  · rw [← hgain]
    exact hprotocol.trans hmanager
  · rw [hmanagerOthers token hother, hprotocolOthers token hother, hothers token hother]

/-- The fees of a redemption come out of the SetToken. -/
theorem handleRedemptionFees_holdings {start : World E}
    (hcall : handleRedemptionFees module start chain reserveAsset info = .ok reached) :
    (∃ balances, reached = { chain with balances := balances }) ∧
      chain.heldBalance reserveAsset ≤
        reached.heldBalance reserveAsset + (info.protocolFees + info.managerFee) ∧
      ∀ token, token ≠ reserveAsset →
        reached.heldBalance token = chain.heldBalance token := by
  simp only [handleRedemptionFees, Chain.payProtocolFeeFromSetToken_eq,
    Chain.strictInvokeTransfer_if_pos, bind_eq_ok] at hcall
  obtain ⟨charged, hcharged, hpaid⟩ := hcall
  obtain ⟨hcovered, hprotocol, hprotocolOthers⟩ :=
    Chain.heldBalance_of_strictInvokeTransfer hcharged
  obtain ⟨hleft, hmanager, hmanagerOthers⟩ := Chain.heldBalance_of_strictInvokeTransfer hpaid
  obtain ⟨_, rfl⟩ := Chain.strictInvokeTransfer_frame hcharged
  obtain ⟨_, rfl⟩ := Chain.strictInvokeTransfer_frame hpaid
  refine ⟨⟨_, rfl⟩, by omega, fun token hother => ?_⟩
  rw [hmanagerOthers token hother, hprotocolOthers token hother]

/-- The chain and the settings are as before. -/
def Untouched (world next : World E) : Prop :=
  next.toChain = world.toChain ∧ next.navIssuanceSettings = world.navIssuanceSettings

theorem Untouched.refl (world : World E) : Untouched world world := ⟨rfl, rfl⟩

theorem Untouched.getExpectedSetTokenIssueQuantity (huntouched : Untouched world next)
    (reserveAsset : Address) (quantity : ℕ) :
    getExpectedSetTokenIssueQuantity externals module next reserveAsset quantity =
      getExpectedSetTokenIssueQuantity externals module world reserveAsset quantity := by
  obtain ⟨hchain, hsettings⟩ := huntouched
  cases world
  cases next
  cases hchain
  cases hsettings
  rfl

theorem getExpectedSetTokenIssueQuantity_of_info {quantity : ℕ}
    (hinfo : createIssuanceInfo externals module world reserveAsset quantity = .ok info) :
    getExpectedSetTokenIssueQuantity externals module world reserveAsset quantity =
      .ok info.setTokenQuantity := by
  simp only [createIssuanceInfo, bind_eq_ok, pure_eq_ok] at hinfo
  obtain ⟨fees, hfees, minted, hminted, -, -, -, -, rfl⟩ := hinfo
  simp only [getExpectedSetTokenIssueQuantity, bind_eq_ok]
  exact ⟨fees, hfees, hminted⟩

/-! ## One call -/

/-- The positions are spread over another supply, except for that of the reserve asset,
which stays covered. -/
structure Spreads (reserveAsset : Address) (supply : ℕ) (chain next : Chain) : Prop where
  setTokenAddress : next.setTokenAddress = chain.setTokenAddress
  bookkept : Bookkept next.setToken
  totalSupply : next.setToken.totalSupply = supply
  reserve : trackedBalance chain.setToken reserveAsset ≤ chain.heldBalance reserveAsset →
    trackedBalance next.setToken reserveAsset ≤ next.heldBalance reserveAsset
  components : ∀ component, component ≠ reserveAsset →
    (component ∈ next.setToken.components ↔ component ∈ chain.setToken.components)
  units : ∀ component, component ≠ reserveAsset →
    next.setToken.defaultRealUnit component = spreadUnit chain.setToken supply component
  holdings : ∀ component, component ≠ reserveAsset →
    component ≠ chain.setTokenAddress →
    next.heldBalance component = chain.heldBalance component

/-- Of a supply that is owed at most some precise amount, so much is tracked. -/
theorem tracked_le_of_mul_le {setToken : SetToken} {supply unit amount : ℕ}
    (hsupply : setToken.totalSupply = supply)
    (hunit : setToken.defaultRealUnit reserveAsset ≤ unit)
    (howed : supply * unit ≤ amount * preciseUnit) :
    trackedBalance setToken reserveAsset ≤ amount := by
  rw [trackedBalance, hsupply]
  calc supply * setToken.defaultRealUnit reserveAsset / preciseUnit
      ≤ supply * unit / preciseUnit := Nat.div_le_div_right (Nat.mul_le_mul_left _ hunit)
    _ ≤ amount * preciseUnit / preciseUnit := Nat.div_le_div_right howed
    _ = amount := Nat.mul_div_cancel amount preciseUnit_pos

theorem issue_spreads {quantity minReceived : ℕ} (hkept : Bookkept world.setToken)
    (hsender : sender ≠ world.setTokenAddress) (hhooks : HooksKeep externals Untouched)
    (hcall : issue externals module world sender reserveAsset quantity minReceived target =
      .ok next) :
    ∃ minted, getExpectedSetTokenIssueQuantity externals module world reserveAsset quantity =
        .ok minted ∧
      Spreads reserveAsset (world.setToken.totalSupply + minted) world.toChain
        next.toChain := by
  obtain ⟨hooked, info, paid, edited, grown, hbefore, hinfo, hpaid, hedited, hgrown, rfl⟩ :=
    issue_eq_ok hcall
  have huntouched := kept_by_preIssueHooks hhooks Untouched.refl hbefore
  have hexpected := getExpectedSetTokenIssueQuantity_of_info hinfo
  rw [huntouched.getExpectedSetTokenIssueQuantity] at hexpected
  refine ⟨info.setTokenQuantity, hexpected, ?_⟩
  rw [← huntouched.1] at hkept hsender ⊢
  obtain ⟨-, -, htotal, hmultiplier, hunit⟩ := createIssuanceInfo_eq_ok hinfo
  obtain ⟨_, hpaidFrame⟩ := transferCollateralAndHandleFees_frame hpaid
  have htoken : paid.setToken = hooked.setToken := by rw [hpaidFrame]
  obtain ⟨hgain, hothers⟩ := transferCollateralAndHandleFees_holdings hsender hpaid
  rw [← htoken] at hkept
  obtain ⟨hshape, hedkept, hsupply, hreserve, hspread⟩ :=
    units_of_editPositions hkept hedited
  obtain ⟨hmintAddress, hmintToken, hmintHoldings⟩ := Chain.mint_holdings hgrown
  have heditedAddress : edited.setTokenAddress = hooked.setTokenAddress := by
    rw [hshape]
    change paid.setTokenAddress = _
    rw [hpaidFrame]
  have heditedHoldings : ∀ token, edited.heldBalance token = paid.heldBalance token := by
    intro token
    rw [hshape, Chain.heldBalance_withSetToken]
  rw [htoken] at hspread hsupply
  have hgrownKept : Bookkept grown.setToken := by
    rw [hmintToken]
    exact hedkept.of_same_positions rfl rfl rfl
  have hgrownSupply : grown.setToken.totalSupply =
      hooked.setToken.totalSupply + info.setTokenQuantity := by
    rw [hmintToken, hsupply]
  refine
    { setTokenAddress := hmintAddress.trans heditedAddress
      bookkept := hgrownKept
      totalSupply := hgrownSupply
      reserve := fun htracked => ?_
      components := fun component hother => ?_
      units := fun component hother => ?_
      holdings := fun component hother hshare => ?_ }
  · have hmore : trackedBalance grown.setToken reserveAsset ≤
        trackedBalance hooked.setToken reserveAsset + info.netFlowQuantity := by
      refine tracked_le_of_mul_le hgrownSupply ?_ hunit
      rw [hmintToken]
      exact hreserve
    calc trackedBalance grown.setToken reserveAsset
        ≤ trackedBalance hooked.setToken reserveAsset + info.netFlowQuantity := hmore
      _ ≤ hooked.heldBalance reserveAsset + info.netFlowQuantity :=
          Nat.add_le_add_right htracked _
      _ ≤ paid.heldBalance reserveAsset := hgain
      _ = edited.heldBalance reserveAsset := (heditedHoldings reserveAsset).symm
      _ ≤ grown.heldBalance reserveAsset := hmintHoldings reserveAsset
  · change component ∈ grown.setToken.components ↔ _
    rw [hmintToken]
    exact (hspread component hother).1
  · change grown.setToken.defaultRealUnit component = _
    rw [hmintToken, spreadUnit, ← hmultiplier]
    exact (hspread component hother).2
  · change grown.heldBalance component = _
    rw [Chain.mint_other_tokens hgrown (by rw [heditedAddress]; exact hshare),
      heditedHoldings, hothers component hother]

theorem redeem_spreads {quantity minReceived : ℕ} (hkept : Bookkept world.setToken)
    (hsender : sender ≠ world.setTokenAddress) (hhooks : HooksKeep externals Untouched)
    (hcall : redeem externals module world sender reserveAsset quantity minReceived target =
      .ok next) :
    Spreads reserveAsset (world.setToken.totalSupply - quantity) world.toChain
      next.toChain := by
  obtain ⟨hooked, info, burnt, paid, charged, edited, hbefore, hinfo, hburnt, hpaid, hcharged,
    hedited, rfl⟩ := redeem_eq_ok hcall
  have huntouched := kept_by_preRedeemHooks hhooks Untouched.refl hbefore
  rw [← huntouched.1] at hkept hsender ⊢
  obtain ⟨-, hquantity, htotal, hmultiplier, hcovered, hunit⟩ := createRedemptionInfo_eq_ok hinfo
  obtain ⟨hburntAddress, -, hburntToken, hburntHoldings⟩ := Chain.burn_holdings hburnt
  obtain ⟨hfunds, hless, hothers⟩ := Chain.heldBalance_of_strictInvokeTransfer hpaid
  obtain ⟨_, hpaidFrame⟩ := Chain.strictInvokeTransfer_frame hpaid
  obtain ⟨⟨_, hchargedFrame⟩, hfees, hfeesOthers⟩ := handleRedemptionFees_holdings hcharged
  have htoken : charged.setToken =
      { hooked.setToken with totalSupply := hooked.setToken.totalSupply - quantity } := by
    rw [hchargedFrame, hpaidFrame]
    exact hburntToken
  -- the burn has changed the supply, which no unit reads
  have hchargedKept : Bookkept charged.setToken := by
    rw [htoken]
    exact hkept.of_same_positions rfl rfl rfl
  obtain ⟨hshape, hedkept, hsupply, hreserve, hspread⟩ :=
    units_of_editPositions hchargedKept hedited
  rw [htoken] at hsupply hspread
  have heditedAddress : edited.setTokenAddress = hooked.setTokenAddress := by
    rw [hshape]
    change charged.setTokenAddress = _
    rw [hchargedFrame, hpaidFrame]
    exact hburntAddress
  have hburntHeld : ∀ token, burnt.heldBalance token = hooked.heldBalance token :=
    fun token => hburntHoldings token fun hself => absurd hself hsender
  have heditedHeld : ∀ token, edited.heldBalance token = charged.heldBalance token := by
    intro token
    rw [hshape, Chain.heldBalance_withSetToken]
  refine
    { setTokenAddress := heditedAddress
      bookkept := hedkept
      totalSupply := hsupply
      reserve := fun htracked => ?_
      components := fun component hother => (hspread component hother).1
      units := fun component hother => ?_
      holdings := fun component hother hshare => ?_ }
  · have hless := tracked_le_of_mul_le hsupply hreserve hunit
    have hstart := hburntHeld reserveAsset
    have hend := heditedHeld reserveAsset
    change trackedBalance edited.setToken reserveAsset ≤ edited.heldBalance reserveAsset
    omega
  · rw [spreadUnit, ← hmultiplier]
    exact (hspread component hother).2
  · change edited.heldBalance component = _
    rw [heditedHeld, hfeesOthers component hother, hothers component hother, hburntHeld]

theorem perform_spreads {call : FlowCall} {supply : ℕ} (hkept : Bookkept world.setToken)
    (hsender : sender ≠ world.setTokenAddress) (hhooks : HooksKeep externals Untouched)
    (hsupply : call.supplyAfter externals module world = .ok supply)
    (hcall : call.perform externals module sender world = .ok next) :
    Spreads call.reserveAsset supply world.toChain next.toChain := by
  cases call with
  | issue reserveAsset quantity minReceived target =>
      obtain ⟨minted, hminted, hspreads⟩ := issue_spreads hkept hsender hhooks hcall
      simp only [FlowCall.supplyAfter, hminted, ok_bind, pure_eq_ok] at hsupply
      exact hsupply ▸ hspreads
  | redeem reserveAsset quantity minReceived target =>
      simp only [FlowCall.supplyAfter, pure_eq_ok] at hsupply
      exact hsupply ▸ redeem_spreads hkept hsender hhooks hcall

/-! ## The same call with other balances -/

/-- The contracts price alike. -/
structure SamePrices (externals others : Externals E) : Prop where
  valuation : others.calculateSetTokenValuation = externals.calculateSetTokenValuation
  decimals : others.decimals = externals.decimals

/-- The worlds agree on what the amounts are computed from. -/
structure SameTerms (world other : World E) : Prop where
  setToken : other.setToken = world.setToken
  controller : other.controller = world.controller
  settings : other.navIssuanceSettings = world.navIssuanceSettings

section SameTerms

variable {terms : World E}

theorem getFees_congr (hterms : SameTerms world terms) :
    getFees module terms = getFees module world := by
  unfold getFees getProtocolAndManagerFeePercentages
  rw [hterms.controller, hterms.settings]

theorem getSetTokenMintQuantity_congr (hprices : SamePrices externals others)
    (hterms : SameTerms world terms) :
    getSetTokenMintQuantity others terms = getSetTokenMintQuantity externals world := by
  unfold getSetTokenMintQuantity getValuation getSetValuer reserveBaseUnits
  rw [hterms.setToken, hterms.controller, hterms.settings, hprices.valuation,
    hprices.decimals]

theorem getRedeemReserveQuantity_congr (hprices : SamePrices externals others)
    (hterms : SameTerms world terms) :
    getRedeemReserveQuantity others terms = getRedeemReserveQuantity externals world := by
  unfold getRedeemReserveQuantity getValuation getSetValuer reserveBaseUnits
  rw [hterms.setToken, hterms.controller, hterms.settings, hprices.valuation,
    hprices.decimals]

theorem createIssuanceInfo_congr (hprices : SamePrices externals others)
    (hterms : SameTerms world terms) :
    createIssuanceInfo others module terms = createIssuanceInfo externals module world := by
  unfold createIssuanceInfo
  rw [getFees_congr hterms, getSetTokenMintQuantity_congr hprices hterms, hterms.setToken]

theorem createRedemptionInfo_congr (hprices : SamePrices externals others)
    (hterms : SameTerms world terms) :
    createRedemptionInfo others module terms =
      createRedemptionInfo externals module world := by
  unfold createRedemptionInfo
  rw [getFees_congr hterms, getRedeemReserveQuantity_congr hprices hterms, hterms.setToken]

theorem FlowCall.supplyAfter_congr (hprices : SamePrices externals others)
    (hterms : SameTerms world terms) (call : FlowCall) :
    call.supplyAfter others module terms = call.supplyAfter externals module world := by
  cases call with
  | issue =>
      simp only [FlowCall.supplyAfter, getExpectedSetTokenIssueQuantity,
        getFees_congr hterms, getSetTokenMintQuantity_congr hprices hterms, hterms.setToken]
  | redeem => simp only [FlowCall.supplyAfter, hterms.setToken]

end SameTerms

section Alike

open Chain

variable {tokens : Address → Prop} {terms : World E}

theorem coupled_transferCollateralAndHandleFees (htoken : tokens reserveAsset)
    (halike : Alike tokens world.toChain terms.toChain)
    (hsettings : terms.navIssuanceSettings = world.navIssuanceSettings) :
    Coupled (Alike tokens) (transferCollateralAndHandleFees world sender reserveAsset info)
      (transferCollateralAndHandleFees terms sender reserveAsset info) := by
  unfold transferCollateralAndHandleFees
  rw [halike.setTokenAddress, hsettings]
  refine (coupled_transferFrom htoken halike).bind fun received result hreceived => ?_
  rw [hreceived.controller]
  refine Coupled.bind (Coupled.ite (fun _ => coupled_transferFrom htoken hreceived)
    fun _ => coupled_pure hreceived) fun charged later hcharged => ?_
  exact Coupled.ite (fun _ => coupled_transferFrom htoken hcharged)
    fun _ => coupled_pure hcharged

theorem coupled_handleRedemptionFees (htoken : tokens reserveAsset)
    (halike : Alike tokens chain other)
    (hsettings : terms.navIssuanceSettings = world.navIssuanceSettings) :
    Coupled (Alike tokens) (handleRedemptionFees module world chain reserveAsset info)
      (handleRedemptionFees module terms other reserveAsset info) := by
  unfold handleRedemptionFees
  rw [hsettings]
  refine (coupled_payProtocolFeeFromSetToken htoken halike).bind fun paid result hpaid => ?_
  exact Coupled.ite (fun _ => coupled_strictInvokeTransfer htoken hpaid)
    fun _ => coupled_pure hpaid

theorem coupled_editPositions (halike : Alike tokens chain other) :
    Coupled (Alike tokens) (editPositions module chain reserveAsset info)
      (editPositions module other reserveAsset info) := by
  unfold editPositions
  rw [halike.setToken, halike.controller]
  exact Coupled.bind_same fun _ _ => Coupled.bind_same fun edited _ =>
    coupled_pure (halike.withSetToken edited)

/-- The same prices, and hooks that let every call pass. -/
def Externals.passing (externals : Externals E) : Externals E where
  calculateSetTokenValuation := externals.calculateSetTokenValuation
  decimals := externals.decimals
  invokePreIssueHook _ _ _ _ _ world := .ok world
  invokePreRedeemHook _ _ _ _ world := .ok world

theorem samePrices_passing (externals : Externals E) :
    SamePrices externals externals.passing := ⟨rfl, rfl⟩

theorem hooksKeep_passing (externals : Externals E) :
    HooksKeep externals.passing Untouched where
  preIssue _ _ _ _ _ _ _ hcall := by
    cases hcall
    exact Untouched.refl _
  preRedeem _ _ _ _ _ _ hcall := by
    cases hcall
    exact Untouched.refl _

@[simp]
theorem callPreIssueHooks_passing {quantity : ℕ} :
    callPreIssueHooks externals.passing world reserveAsset quantity sender target =
      .ok world := by
  simp [callPreIssueHooks, Externals.passing, pure, Except.pure]

@[simp]
theorem callPreRedeemHooks_passing {quantity : ℕ} :
    callPreRedeemHooks externals.passing world quantity sender target = .ok world := by
  simp [callPreRedeemHooks, Externals.passing, pure, Except.pure]

/-- The world with other balances. -/
def World.withBalances (world : World E) (balances : Address → Address → ℕ) : World E :=
  world.withChain { world.toChain with balances := balances }

/-- A call that returns would also return where other tokens are held by others. -/
theorem perform_withBalances {call : FlowCall} {balances : Address → Address → ℕ}
    (hhooks : HooksKeep externals Untouched)
    (hreserve : balances call.reserveAsset = world.balances call.reserveAsset)
    (hshare : balances world.setTokenAddress = world.balances world.setTokenAddress)
    (hcall : call.perform externals module sender world = .ok next) :
    ∃ changed, call.perform externals.passing module sender (world.withBalances balances) =
      .ok changed := by
  have halike : Alike (fun token => balances token = world.balances token)
      world.toChain (world.withBalances balances).toChain :=
    ⟨rfl, rfl, rfl, fun _ htoken => htoken⟩
  cases call with
  | issue reserveAsset quantity minReceived target =>
      change balances reserveAsset = world.balances reserveAsset at hreserve
      simp only [FlowCall.perform, issue, handleIssueStateUpdates, bind_eq_ok] at hcall
      obtain ⟨_, hinitialized, _, hcommon, hooked, hhooked, info, hinfo, _, hvalid, paid,
        hpaid, minted, ⟨edited, hedited, hminted⟩, -⟩ := hcall
      obtain ⟨hchain, hsettings⟩ := kept_by_preIssueHooks hhooks Untouched.refl hhooked
      rw [← hchain] at halike hshare hreserve
      have hterms : SameTerms hooked (world.withBalances balances) :=
        ⟨halike.setToken, halike.controller, hsettings.symm⟩
      obtain ⟨_, hpaidFrame⟩ := transferCollateralAndHandleFees_frame hpaid
      obtain ⟨paid', hpaid', hpaidAlike⟩ := (coupled_transferCollateralAndHandleFees hreserve
        halike hsettings.symm).of_ok hpaid
      obtain ⟨edited', hedited', heditedAlike⟩ :=
        (coupled_editPositions hpaidAlike).of_ok hedited
      obtain ⟨_, -, _, -, hframe⟩ := editPositions_eq_ok.mp hedited
      obtain ⟨minted', hminted', -⟩ := (coupled_mint
        (by rw [← hframe, hpaidFrame]; exact hshare) heditedAlike).of_ok hminted
      simp only [FlowCall.perform, issue, handleIssueStateUpdates, bind_eq_ok,
        callPreIssueHooks_passing, Except.ok.injEq, exists_eq_left',
        createIssuanceInfo_congr (samePrices_passing externals) hterms]
      refine ⟨_, (), hinitialized, (), hcommon, info, hinfo, (), ?_, paid', hpaid', minted',
        ⟨edited', hedited', hminted'⟩, rfl⟩
      unfold validateIssuanceInfo at hvalid ⊢
      rw [hterms.settings]
      exact hvalid
  | redeem reserveAsset quantity minReceived target =>
      change balances reserveAsset = world.balances reserveAsset at hreserve
      simp only [FlowCall.perform, redeem, bind_eq_ok] at hcall
      obtain ⟨_, hinitialized, _, hcommon, hooked, hhooked, info, hinfo, _, hvalid, burnt,
        hburnt, paid, hpaid, charged, hcharged, edited, hedited, -⟩ := hcall
      obtain ⟨hchain, hsettings⟩ := kept_by_preRedeemHooks hhooks Untouched.refl hhooked
      rw [← hchain] at halike hshare hreserve
      have hterms : SameTerms hooked (world.withBalances balances) :=
        ⟨halike.setToken, halike.controller, hsettings.symm⟩
      obtain ⟨burnt', hburnt', hburntAlike⟩ := (coupled_burn hshare halike).of_ok hburnt
      obtain ⟨paid', hpaid', hpaidAlike⟩ :=
        (coupled_strictInvokeTransfer hreserve hburntAlike).of_ok hpaid
      obtain ⟨charged', hcharged', hchargedAlike⟩ := (coupled_handleRedemptionFees hreserve
        hpaidAlike hsettings.symm).of_ok hcharged
      obtain ⟨edited', hedited', -⟩ := (coupled_editPositions hchargedAlike).of_ok hedited
      simp only [FlowCall.perform, redeem, bind_eq_ok, callPreRedeemHooks_passing,
        Except.ok.injEq, exists_eq_left',
        createRedemptionInfo_congr (samePrices_passing externals) hterms]
      refine ⟨_, (), hinitialized, (), hcommon, info, hinfo, (), ?_, burnt', hburnt', paid',
        hpaid', charged', hcharged', edited', hedited', rfl⟩
      unfold validateRedemptionInfo at hvalid ⊢
      rw [hterms.settings]
      exact hvalid

end Alike

/-! ## The exact condition -/

/-- Units that the old multiplier did not round are spread without loss. -/
theorem unitsSpread_of_exact {setToken : SetToken} {supply : ℕ} (hkept : Bookkept setToken)
    (hsupply : 0 < supply)
    (hexact : ∀ component ∈ setToken.components, component ≠ reserveAsset →
      preciseUnitInt ∣
        setToken.defaultPositionVirtualUnit component * setToken.positionMultiplier) :
    UnitsSpread setToken reserveAsset supply := by
  intro component hcomponent hother
  obtain ⟨unit, hproduct⟩ := hexact component hcomponent hother
  have hpositive := preciseUnitInt_pos
  have hvirtual : 0 ≤ setToken.defaultPositionVirtualUnit component :=
    (hkept.positions component).default_nonneg
  have hspread := spreadMultiplier_mul_le hkept.multiplier_pos.le hsupply
  have hunit : realUnit setToken.positionMultiplier
      (setToken.defaultPositionVirtualUnit component) = unit := by
    rw [realUnit, hproduct, Int.mul_ediv_cancel_left _ hpositive.ne']
  have hnonneg : 0 ≤ unit :=
    nonneg_of_mul_nonneg_right (hproduct ▸ mul_nonneg hvirtual hkept.multiplier_pos.le)
      hpositive
  have hspreadNonneg : 0 ≤ spreadMultiplier setToken supply :=
    Int.tdiv_nonneg (mul_nonneg hkept.multiplier_pos.le (Int.natCast_nonneg _))
      (Int.natCast_nonneg _)
  have hless : (supply : ℤ) * realUnit (spreadMultiplier setToken supply)
      (setToken.defaultPositionVirtualUnit component) ≤ setToken.totalSupply * unit := by
    refine le_of_mul_le_mul_right ?_ hpositive
    calc (supply : ℤ) * realUnit (spreadMultiplier setToken supply)
          (setToken.defaultPositionVirtualUnit component) * preciseUnitInt
        = supply * (realUnit (spreadMultiplier setToken supply)
          (setToken.defaultPositionVirtualUnit component) * preciseUnitInt) := mul_assoc _ _ _
      _ ≤ supply * (setToken.defaultPositionVirtualUnit component *
          spreadMultiplier setToken supply) :=
        mul_le_mul_of_nonneg_left (Int.ediv_mul_le _ hpositive.ne') (Int.natCast_nonneg _)
      _ = setToken.defaultPositionVirtualUnit component *
          (spreadMultiplier setToken supply * supply) := by ring
      _ ≤ setToken.defaultPositionVirtualUnit component *
          (setToken.positionMultiplier * setToken.totalSupply) :=
        mul_le_mul_of_nonneg_left hspread hvirtual
      _ = preciseUnitInt * unit * setToken.totalSupply := by rw [← mul_assoc, hproduct]
      _ = setToken.totalSupply * unit * preciseUnitInt := by ring
  refine Nat.div_le_div_right ?_
  zify
  have hspreadUnit : 0 ≤ realUnit (spreadMultiplier setToken supply)
      (setToken.defaultPositionVirtualUnit component) :=
    Int.ediv_nonneg (mul_nonneg hvirtual hspreadNonneg) hpositive.le
  rw [spreadUnit, SetToken.defaultRealUnit, hunit, Int.toNat_of_nonneg hnonneg,
    Int.toNat_of_nonneg hspreadUnit]
  exact hless

/-- Every component but the reserve asset is held in just the amount that is tracked. -/
def exactBalances (world : World E) (reserveAsset : Address) : Address → Address → ℕ :=
  fun token holder =>
    if holder = world.setTokenAddress ∧ token ≠ reserveAsset ∧ token ≠ world.setTokenAddress
    then trackedBalance world.setToken token
    else world.balances token holder

/-- For given positions and amounts, both flows keep every component covered whatever is
held, exactly if no component but the reserve asset is owed more by the new supply. -/
theorem tracked_after_flow_iff {call : FlowCall} {supply : ℕ} {first : World E}
    (hkept : Bookkept world.setToken)
    (hshare : world.setTokenAddress ∉ world.setToken.components)
    (hsender : sender ≠ world.setTokenAddress) (hhooks : HooksKeep externals Untouched)
    (htracked : world.Tracked)
    (hsupply : call.supplyAfter externals module world = .ok supply)
    (hcall : call.perform externals module sender world = .ok first) :
    (∀ others balances next, SamePrices externals others → HooksKeep others Untouched →
      call.perform others module sender (world.withBalances balances) = .ok next →
      (world.withBalances balances).Tracked → next.Tracked) ↔
    UnitsSpread world.setToken call.reserveAsset supply := by
  have hterms : ∀ balances, SameTerms world (world.withBalances balances) :=
    fun _ => ⟨rfl, rfl, rfl⟩
  have hkeptWith : ∀ balances, Bookkept (world.withBalances balances).setToken :=
    fun _ => hkept
  constructor
  · intro hall component hcomponent hother
    have hne : component ≠ world.setTokenAddress := fun heq => hshare (heq ▸ hcomponent)
    have hreserve : exactBalances world call.reserveAsset call.reserveAsset =
        world.balances call.reserveAsset := by
      funext holder
      simp [exactBalances]
    have hshares : exactBalances world call.reserveAsset world.setTokenAddress =
        world.balances world.setTokenAddress := by
      funext holder
      simp [exactBalances]
    obtain ⟨next, hnext⟩ := perform_withBalances hhooks hreserve hshares hcall
    have hspreads := perform_spreads
      (hkeptWith (exactBalances world call.reserveAsset)) hsender (hooksKeep_passing externals)
      ((FlowCall.supplyAfter_congr (samePrices_passing externals) (hterms _) call).trans
        hsupply) hnext
    have hheld : ∀ token ∈ world.setToken.components,
        trackedBalance world.setToken token ≤ (world.withBalances
          (exactBalances world call.reserveAsset)).heldBalance token := by
      intro token htoken
      have hfine := htracked token htoken
      simp only [Chain.heldBalance, World.withBalances, World.withChain, exactBalances]
      split
      · exact le_rfl
      · exact hfine
    have hafter := hall _ _ next (samePrices_passing externals) (hooksKeep_passing externals)
      hnext hheld component ((hspreads.components component hother).mpr hcomponent)
    rw [hspreads.totalSupply, hspreads.units component hother,
      hspreads.holdings component hother hne] at hafter
    refine hafter.trans (le_of_eq ?_)
    simp [Chain.heldBalance, World.withBalances, World.withChain, exactBalances, hother, hne]
  · intro hunits others balances next hprices hpassive hnext hbefore component hcomponent
    have hspreads := perform_spreads (hkeptWith balances) hsender hpassive
      ((FlowCall.supplyAfter_congr hprices (hterms balances) call).trans hsupply) hnext
    by_cases heq : component = call.reserveAsset
    · subst heq
      refine hspreads.reserve ?_
      by_cases hmem : call.reserveAsset ∈ world.setToken.components
      · exact hbefore _ hmem
      · change trackedBalance world.setToken call.reserveAsset ≤ _
        rw [trackedBalance, hkept.defaultRealUnit_of_not_mem hmem, Nat.mul_zero, Nat.zero_div]
        exact Nat.zero_le _
    · have hmem := (hspreads.components component heq).mp hcomponent
      have hne : component ≠ world.setTokenAddress := fun hself => hshare (hself ▸ hmem)
      rw [hspreads.totalSupply, hspreads.units component heq,
        hspreads.holdings component heq hne]
      exact (hunits component hmem heq).trans (hbefore component hmem)

/-- All tokens trade at par. -/
def parityExternals : Externals Unit where
  calculateSetTokenValuation _ := SetValuer.calculateSetTokenValuation
    ⟨20, fun _ _ => .ok preciseUnit, fun _ => 18⟩
  decimals _ := 18
  invokePreIssueHook _ _ _ _ _ world := .ok world
  invokePreRedeemHook _ _ _ _ world := .ok world

/-- A reserve and one more component at fifty units, under a multiplier that a fee of one
percent has left, with exactly the tracked balances. -/
def accruedWorld : World Unit where
  controller := { Controller.deploy 1 2 with
    isSet := fun setToken => setToken == 9
    isModule := fun module => module == 5 }
  setTokenAddress := 9
  setToken := { SetToken.deploy [10, 11] [100, 50] [5] 7 with
    moduleStates := fun module => if module = 5 then .INITIALIZED else .NONE
    positionMultiplier := 99 * 10 ^ 16
    totalSupply := 1000 * 10 ^ 18 }
  balances := fun token holder =>
    if holder = 9 then (if token = 10 then 99000 else if token = 11 then 49000 else 0)
    else if token = 10 ∧ holder = 3 then 148 else 0
  timestamp := 1
  navIssuanceSettings := { noSettings with minSetTokenSupply := 1 }
  isReserveAsset := fun token => token == 10
  environment := ()

theorem components_accruedWorld : accruedWorld.setToken.components = [10, 11] := rfl

theorem tracked_accruedWorld : accruedWorld.Tracked := by
  intro component hcomponent
  rw [components_accruedWorld, List.mem_pair] at hcomponent
  rcases hcomponent with rfl | rfl <;> decide

theorem bookkept_accruedWorld : Bookkept accruedWorld.setToken := by
  have hdeployed : Bookkept
      { accruedWorld.setToken with positionMultiplier := preciseUnitInt } :=
    (SetTokenCreator.bookkept_deploy rfl (by decide) (by decide) :
      Bookkept (SetToken.deploy [10, 11] [100, 50] [5] 7)).of_same_positions rfl rfl rfl
  have hedited : SetToken.editPositionMultiplier
      { accruedWorld.setToken with positionMultiplier := preciseUnitInt }
      accruedWorld.controller 5 (99 * 10 ^ 16) = .ok accruedWorld.setToken :=
    SetToken.editPositionMultiplier_eq_ok.mpr ⟨rfl, by decide +kernel, rfl⟩
  exact hdeployed.editPositionMultiplier hedited

/-- The supply grows by a thousandth, the unit of the component stays at 49. -/
theorem issue_accruedWorld : ∃ next,
    issue parityExternals 5 accruedWorld 3 10 148 0 3 = .ok next ∧
      next.setToken.components = [10, 11] ∧
      next.setToken.totalSupply * next.setToken.defaultRealUnit 11 / preciseUnit = 49049 ∧
      next.heldBalance 11 = 49000 :=
  returns_iff.mp (by decide +kernel :
    Returns (issue parityExternals 5 accruedWorld 3 10 148 0 3) fun next =>
      next.setToken.components = [10, 11] ∧
      next.setToken.totalSupply * next.setToken.defaultRealUnit 11 / preciseUnit = 49049 ∧
      next.heldBalance 11 = 49000)

theorem hooksKeep_parityExternals : HooksKeep parityExternals Untouched :=
  hooksKeep_passing parityExternals

theorem tracked_after_flow_accruedWorld :
    (∀ others balances next, SamePrices parityExternals others →
      HooksKeep others Untouched →
      FlowCall.perform others 5 3 (accruedWorld.withBalances balances) (.issue 10 148 0 3) =
        .ok next →
      (accruedWorld.withBalances balances).Tracked → next.Tracked) ↔
    UnitsSpread accruedWorld.setToken 10 (1001 * 10 ^ 18) := by
  obtain ⟨first, hcall, -⟩ := issue_accruedWorld
  have hsupply : FlowCall.supplyAfter parityExternals 5 accruedWorld (.issue 10 148 0 3) =
      .ok (1001 * 10 ^ 18) := by
    obtain ⟨supply, hsupply, rfl⟩ := returns_iff.mp (by decide +kernel :
      Returns (FlowCall.supplyAfter parityExternals 5 accruedWorld (.issue 10 148 0 3))
        fun supply => supply = 1001 * 10 ^ 18)
    exact hsupply
  exact tracked_after_flow_iff bookkept_accruedWorld (by decide) (by decide)
    hooksKeep_parityExternals tracked_accruedWorld hsupply hcall

/-- The tracked balance of the component rises to 49049 without a payment of it. -/
theorem untracked_after_issue :
    ¬∀ next, issue parityExternals 5 accruedWorld 3 10 148 0 3 = .ok next →
      accruedWorld.Tracked → next.Tracked := by
  intro hall
  obtain ⟨next, hcall, hcomponents, howed, hheld⟩ := issue_accruedWorld
  have hafter := hall next hcall tracked_accruedWorld 11
    (by rw [hcomponents]; decide)
  rw [howed, hheld] at hafter
  omega

end SetProtocol.NavIssuanceModule
