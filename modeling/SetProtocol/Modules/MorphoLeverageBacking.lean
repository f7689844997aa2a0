import SetProtocol.Core.SetTokenCreator
import SetProtocol.Modules.MorphoLeverageModule

/-!
# Backing under Morpho leverage

The SetToken holds what its default positions promise.  Borrowing, trading and
syncing keep it that way; delevering afterwards sends every collateral token that the
SetToken holds to the market, those of a default position included, and leaves the
default position as it was.
-/

namespace SetProtocol

open PreciseUnitMath

/-- The SetToken holds what `getDefaultTrackedBalance` says of one token. -/
def Chain.TrackedAt (chain : Chain) (component : Address) : Prop :=
  chain.setToken.totalSupply * chain.setToken.defaultRealUnit component / preciseUnit ≤
    chain.heldBalance component

theorem Chain.tracked_iff {chain : Chain} (hkept : Bookkept chain.setToken) :
    chain.Tracked ↔ ∀ component, chain.TrackedAt component := by
  refine ⟨fun htracked component => ?_, fun htracked component _ => htracked component⟩
  by_cases hmem : component ∈ chain.setToken.components
  · exact htracked component hmem
  · rw [Chain.TrackedAt, hkept.defaultRealUnit_of_not_mem hmem]
    simp

end SetProtocol

namespace SetProtocol.MorphoLeverageModule

open Transaction PreciseUnitMath Venue

variable {P : Type} {morpho : Morpho P} {exchanges : Exchanges} {params : MarketParams}
variable {module sender component token : Address} {venue next : Venue P}
variable {info : ActionInfo} {quantity : ℕ}

/-! ## Token movements -/

theorem exactly_eq_ok {execute : P → Outcome P} {before after : P} {assets moved : ℕ}
    (hcall : exactly assets execute before = .ok (after, moved)) : moved = assets := by
  simp only [exactly, bind_eq_ok, pure_eq_ok, Prod.mk.injEq] at hcall
  obtain ⟨_, -, -, rfl⟩ := hcall
  rfl

theorem deposit_holdings (hcontract : morpho.contract ≠ venue.setTokenAddress)
    (hcall : deposit morpho module params venue quantity = .ok next) :
    SameSetToken venue next ∧ quantity ≤ venue.heldBalance params.collateralToken ∧
      next.heldBalance params.collateralToken =
        venue.heldBalance params.collateralToken - quantity ∧
      ∀ other, other ≠ params.collateralToken →
        next.heldBalance other = venue.heldBalance other := by
  obtain ⟨protocols, paid, chain, hexecuted, -, hmoved, rfl⟩ :=
    Venue.invokePaying_eq_ok hcall
  rw [exactly_eq_ok hexecuted] at hmoved
  exact ⟨sameSetToken_of_moveTokens hmoved _ _, Chain.heldBalance_of_payment hcontract hmoved⟩

/-- What Morpho pays out, of the collateral or of the loan token. -/
theorem receipt_holdings {action : ProtocolAction} {execute : P → Outcome P}
    (hcontract : morpho.contract ≠ venue.setTokenAddress)
    (hcall : venue.invokeReceiving (protocolCall morpho module action token quantity)
      (exactly quantity execute) = .ok next) :
    SameSetToken venue next ∧
      next.heldBalance token = venue.heldBalance token + quantity ∧
      ∀ other, other ≠ token → next.heldBalance other = venue.heldBalance other := by
  obtain ⟨protocols, received, chain, hexecuted, hmoved, rfl⟩ :=
    Venue.invokeReceiving_eq_ok hcall
  rw [exactly_eq_ok hexecuted] at hmoved
  exact ⟨sameSetToken_of_moveTokens hmoved _ _, Chain.heldBalance_of_receipt hcontract hmoved⟩

theorem repayBorrow_holdings {shares : ℕ}
    (hcontract : morpho.contract ≠ venue.setTokenAddress)
    (hcall : repayBorrow morpho module params venue quantity shares = .ok next) :
    SameSetToken venue next ∧
      venue.heldBalance params.loanToken ≤ next.heldBalance params.loanToken + quantity ∧
      ∀ other, other ≠ params.loanToken →
        next.heldBalance other = venue.heldBalance other := by
  obtain ⟨protocols, paid, chain, -, hpaid, hmoved, rfl⟩ := Venue.invokePaying_eq_ok hcall
  obtain ⟨hfunds, hheld, hothers⟩ := Chain.heldBalance_of_payment hcontract hmoved
  refine ⟨sameSetToken_of_moveTokens hmoved _ _, ?_, hothers⟩
  change venue.heldBalance params.loanToken ≤ chain.heldBalance params.loanToken + quantity
  change paid ≤ quantity at hpaid
  change chain.heldBalance params.loanToken = venue.heldBalance params.loanToken - paid at hheld
  omega

/-- A transfer out costs at most its quantity, even if the SetToken pays itself. -/
theorem heldBalance_of_sent {chain reached : Chain} {target : Address}
    (hcall : chain.moveTokens token chain.setTokenAddress target quantity = .ok reached) :
    chain.heldBalance token ≤ reached.heldBalance token + quantity ∧
      ∀ other, other ≠ token → reached.heldBalance other = chain.heldBalance other := by
  by_cases hself : target = chain.setTokenAddress
  · subst hself
    obtain ⟨hfunds, rfl⟩ := Chain.moveTokens_eq_ok.mp hcall
    have hsame : Ledger.move (chain.balances token) chain.setTokenAddress
        chain.setTokenAddress quantity = chain.balances token := Ledger.move_self hfunds
    refine ⟨?_, fun other hother => Chain.heldBalance_withLedger_of_ne hother⟩
    rw [Chain.heldBalance_withLedger_self, hsame]
    exact Nat.le_add_right _ quantity
  · obtain ⟨hfunds, hheld, hothers⟩ := Chain.heldBalance_of_payment hself hcall
    exact ⟨by omega, hothers⟩

/-- An accepted trade takes at most what was approved, and the received quantity is
what the SetToken holds beyond the balance noted before. -/
theorem executeTrade_holdings {sendToken receiveToken : Address} {data : Bytes}
    {received : ℕ} (hdiffer : sendToken ≠ receiveToken)
    (hcall : executeTrade exchanges module venue info sendToken receiveToken data =
      .ok (next, received)) :
    SameSetToken venue next ∧
      venue.heldBalance sendToken ≤
        next.heldBalance sendToken + info.notionalSendQuantity ∧
      next.heldBalance receiveToken = info.preTradeReceiveTokenBalance + received ∧
      ∀ other, other ≠ sendToken → other ≠ receiveToken →
        next.heldBalance other = venue.heldBalance other := by
  simp only [executeTrade, bind_eq_ok, require_eq_ok, pure_eq_ok, SafeMath.sub_eq_ok,
    Prod.mk.injEq] at hcall
  obtain ⟨_, -, result, -, _, hspent, sent, hsent, reached, hreached, _, ⟨hpre, rfl⟩, _, -,
    rfl, rfl⟩ := hcall
  obtain ⟨hcost, hothers⟩ := heldBalance_of_sent hsent
  obtain ⟨-, hsentFrame⟩ := Chain.moveTokens_eq_ok.mp hsent
  obtain ⟨-, hreachedFrame⟩ := Chain.moveTokens_eq_ok.mp hreached
  have hframe : ∀ other, other ≠ receiveToken →
      reached.heldBalance other = sent.heldBalance other := fun other hother => by
    rw [← hreachedFrame]
    exact Chain.heldBalance_withLedger_of_ne hother
  refine ⟨⟨?_, ?_, ?_⟩, ?_, ?_, fun other hsend hreceive => ?_⟩
  · change reached.setToken = _
    rw [← hreachedFrame, ← hsentFrame]
    rfl
  · change reached.setTokenAddress = _
    rw [← hreachedFrame, ← hsentFrame]
    rfl
  · change reached.timestamp = _
    rw [← hreachedFrame, ← hsentFrame]
    rfl
  · change _ ≤ reached.heldBalance sendToken + _
    rw [hframe sendToken hdiffer]
    omega
  · change reached.heldBalance receiveToken = _
    omega
  · exact (hframe other hreceive).trans (hothers other hsend)

theorem accrueProtocolFee_holdings {exchanged fee : ℕ}
    (hcall : accrueProtocolFee module venue token exchanged = .ok (next, fee)) :
    SameSetToken venue next ∧ fee ≤ venue.heldBalance token ∧
      next.heldBalance token = venue.heldBalance token - fee ∧
      ∀ other, other ≠ token → next.heldBalance other = venue.heldBalance other := by
  simp only [accrueProtocolFee, Chain.payProtocolFeeFromSetToken_eq, bind_eq_ok, pure_eq_ok,
    Prod.mk.injEq] at hcall
  obtain ⟨_, -, chain, hpaid, rfl, rfl⟩ := hcall
  have hholdings := Chain.heldBalance_of_strictInvokeTransfer hpaid
  obtain ⟨_, rfl⟩ := Chain.strictInvokeTransfer_frame hpaid
  exact ⟨⟨rfl, rfl, rfl⟩, hholdings⟩

/-! ## What a call leaves alone -/

/-- The positions may have been edited, but neither the default units nor balances. -/
structure KeepsDefaults (venue next : Venue P) : Prop where
  bookkept : Bookkept venue.setToken → Bookkept next.setToken
  totalSupply : next.setToken.totalSupply = venue.setToken.totalSupply
  defaultRealUnit : ∀ component,
    next.setToken.defaultRealUnit component = venue.setToken.defaultRealUnit component
  heldBalance : ∀ token, next.heldBalance token = venue.heldBalance token

theorem KeepsDefaults.trackedAt_iff (hkeeps : KeepsDefaults venue next) :
    next.TrackedAt component ↔ venue.TrackedAt component := by
  rw [Chain.TrackedAt, hkeeps.totalSupply, hkeeps.defaultRealUnit, hkeeps.heldBalance]
  exact Iff.rfl

theorem trackedAt_of_same (hsame : SameSetToken venue next)
    (hheld : venue.heldBalance component ≤ next.heldBalance component)
    (htracked : venue.TrackedAt component) : next.TrackedAt component := by
  rw [Chain.TrackedAt, hsame.setToken]
  exact le_trans htracked hheld

theorem updateExternalPosition_keeps {setToken edited : SetToken} {controller : Controller}
    {unit : ℤ}
    (hcall : Position.updateExternalPosition module setToken controller component unit =
      .ok edited) :
    (Bookkept setToken → Bookkept edited) ∧ edited.totalSupply = setToken.totalSupply ∧
      ∀ other, edited.defaultRealUnit other = setToken.defaultRealUnit other := by
  simp only [Position.updateExternalPosition, bind_eq_ok] at hcall
  obtain ⟨_, -, hedited⟩ := hcall
  split at hedited
  · obtain ⟨hsupply, -, hunits⟩ := Position.defaultRealUnit_of_editExternal hedited
    exact ⟨fun hkept => hkept.editExternalPosition hedited, hsupply, hunits⟩
  · rw [pure_eq_ok] at hedited
    subst hedited
    exact ⟨id, rfl, fun _ => rfl⟩

theorem syncPositions_keeps (hcall : syncPositions morpho module params venue = .ok next) :
    KeepsDefaults venue next := by
  simp only [syncPositions, bind_eq_ok, pure_eq_ok] at hcall
  obtain ⟨_, -, ⟨_, _⟩, -, collateral, hcollateral, borrowed, hborrowed, rfl⟩ := hcall
  obtain ⟨hkept, hsupply, hunits⟩ := updateExternalPosition_keeps hcollateral
  obtain ⟨hkept', hsupply', hunits'⟩ := updateExternalPosition_keeps hborrowed
  exact ⟨fun hbefore => hkept' (hkept hbefore), hsupply'.trans hsupply,
    fun component => (hunits' component).trans (hunits component), fun _ => rfl⟩

theorem actionInfo_eq_ok {sendToken receiveToken : Address} {send minReceive supply : ℕ}
    {name : String} {isLever : Bool}
    (hcall : createAndValidateActionInfoNotional exchanges module params venue sendToken
      receiveToken send minReceive name isLever supply = .ok info) :
    sendToken ≠ receiveToken ∧ info.notionalSendQuantity = send ∧
      info.setTotalSupply = supply ∧
      info.preTradeReceiveTokenBalance = venue.heldBalance receiveToken ∧
      info.minNotionalReceiveQuantity = minReceive := by
  simp only [createAndValidateActionInfoNotional, validateCommon, bind_eq_ok, require_eq_ok,
    pure_eq_ok] at hcall
  obtain ⟨_, -, _, ⟨_, -, _, -, _, hdiffer, -⟩, rfl⟩ := hcall
  refine ⟨?_, rfl, rfl, rfl, rfl⟩
  cases isLever
  · exact hdiffer
  · exact fun heq => hdiffer heq.symm

/-! ## Lever -/

/-- Up to the final sync, levering takes nothing from the SetToken. -/
theorem lever_eq_ok {order : TradeOrder} (hcontract : morpho.contract ≠ venue.setTokenAddress)
    (hcall : lever morpho exchanges module params venue sender order = .ok next) :
    ∃ deposited, SameSetToken venue deposited ∧
      (∀ token, venue.heldBalance token ≤ deposited.heldBalance token) ∧
      syncPositions morpho module params deposited = .ok next := by
  simp only [lever, createAndValidateActionInfo, bind_eq_ok, SafeMath.sub_eq_ok] at hcall
  obtain ⟨_, -, _, -, info, ⟨send, -, minReceive, -, hinfo⟩, borrowed, hborrowed,
    ⟨traded, received⟩, htraded, ⟨charged, fee⟩, hcharged, _, ⟨hfee, rfl⟩, deposited,
    hdeposited, hsync⟩ := hcall
  dsimp only at hcharged hfee hdeposited
  obtain ⟨hdiffer, rfl, -, hpre, -⟩ := actionInfo_eq_ok hinfo
  obtain ⟨hsame₁, hloan₁, hothers₁⟩ := receipt_holdings hcontract hborrowed
  obtain ⟨hsame₂, hloan₂, hcollateral₂, hothers₂⟩ := executeTrade_holdings hdiffer htraded
  obtain ⟨hsame₃, -, hcollateral₃, hothers₃⟩ := accrueProtocolFee_holdings hcharged
  have hsame := (hsame₁.trans hsame₂).trans hsame₃
  obtain ⟨hsame₄, -, hcollateral₄, hothers₄⟩ :=
    deposit_holdings (hsame.setTokenAddress ▸ hcontract) hdeposited
  refine ⟨deposited, hsame.trans hsame₄, fun token => ?_, hsync⟩
  by_cases hcollateral : token = params.collateralToken
  · -- the deposit takes what the trade brought in, less the fee
    subst hcollateral
    omega
  · rw [hothers₄ token hcollateral, hothers₃ token hcollateral]
    by_cases hloan : token = params.loanToken
    · subst hloan
      omega
    · rw [hothers₂ token hloan hcollateral, hothers₁ token hloan]

/-! ## Delever -/

theorem updateRepayDefaultPosition_tracked (hkept : Bookkept venue.setToken)
    (hsupply : info.setTotalSupply = venue.setToken.totalSupply)
    (htracked : venue.setToken.totalSupply * venue.setToken.defaultRealUnit component /
      preciseUnit ≤ info.preTradeReceiveTokenBalance)
    (hcall : updateRepayDefaultPosition module venue info component = .ok next) :
    Bookkept next.setToken ∧ next.setTokenAddress = venue.setTokenAddress ∧
      next.setToken.totalSupply = venue.setToken.totalSupply ∧
      (∀ token, next.heldBalance token = venue.heldBalance token) ∧
      next.TrackedAt component ∧
      ∀ other, other ≠ component →
        next.setToken.defaultRealUnit other = venue.setToken.defaultRealUnit other := by
  simp only [updateRepayDefaultPosition] at hcall
  split at hcall
  · simp only [bind_eq_ok, pure_eq_ok] at hcall
    obtain ⟨⟨edited, oldUnit, newUnit⟩, hedited, rfl⟩ := hcall
    rw [hsupply] at hedited
    have hbacked := Position.backed_of_recomputed hkept.multiplier_pos hedited htracked
    obtain ⟨-, -, hedit⟩ := Position.calculateAndEditDefaultPosition_eq_ok.mp hedited
    obtain ⟨-, -, hothers⟩ := Position.defaultRealUnit_of_edit hkept.multiplier_pos hedit
    obtain ⟨_, _, _, -, -, hshape, -⟩ := Position.editDefaultPosition_eq_ok hedit
    have hkeptSupply : edited.totalSupply = venue.setToken.totalSupply := by rw [hshape]; rfl
    refine ⟨hkept.editDefaultPosition hedit, rfl, hkeptSupply, fun _ => rfl, ?_, hothers⟩
    change edited.totalSupply * edited.defaultRealUnit component / preciseUnit ≤ _
    rw [hkeptSupply]
    exact hbacked
  · rename_i hsame
    rw [pure_eq_ok] at hcall
    subst hcall
    rw [not_not] at hsame
    exact ⟨hkept, rfl, rfl, fun _ => rfl, htracked.trans_eq hsame.symm, fun _ _ => rfl⟩

/-- After the deposit the SetToken holds no collateral token. -/
theorem depositCollateralBalance_holdings
    (hcontract : morpho.contract ≠ venue.setTokenAddress)
    (hcall : depositCollateralBalance morpho module params venue = .ok next) :
    SameSetToken venue next ∧ next.heldBalance params.collateralToken = 0 ∧
      ∀ other, other ≠ params.collateralToken →
        next.heldBalance other = venue.heldBalance other := by
  simp only [depositCollateralBalance] at hcall
  split at hcall
  · obtain ⟨hsame, -, hcollateral, hothers⟩ := deposit_holdings hcontract hcall
    exact ⟨hsame, by rw [hcollateral, Nat.sub_self], hothers⟩
  · rename_i hnone
    rw [pure_eq_ok] at hcall
    subst hcall
    exact ⟨SameSetToken.refl venue, Nat.eq_zero_of_not_pos hnone, fun _ _ => rfl⟩

/-- What both ways of delevering have done before they sweep the collateral balance. -/
structure Repaid (params : MarketParams) (venue repaid : Venue P) (info : ActionInfo) :
    Prop where
  same : SameSetToken venue repaid
  heldBalance : ∀ token, token ≠ params.collateralToken →
    venue.heldBalance token ≤ repaid.heldBalance token
  differ : params.collateralToken ≠ params.loanToken
  supply : info.setTotalSupply = venue.setToken.totalSupply
  preTrade : info.preTradeReceiveTokenBalance = venue.heldBalance params.loanToken

/-- The rest of a delevering: the default positions stay backed exactly if there is
nothing to back of the collateral token. -/
theorem tracked_after_sweep_iff {repaid updated deposited : Venue P}
    (hcontract : morpho.contract ≠ venue.setTokenAddress) (hkept : Bookkept venue.setToken)
    (htracked : ∀ component, venue.TrackedAt component)
    (hrepaid : Repaid params venue repaid info)
    (hupdated : updateRepayDefaultPosition module repaid info params.loanToken =
      .ok updated)
    (hdeposited : depositCollateralBalance morpho module params updated = .ok deposited)
    (hsync : syncPositions morpho module params deposited = .ok next) :
    Bookkept next.setToken ∧ ((∀ component, next.TrackedAt component) ↔
      venue.setToken.totalSupply * venue.setToken.defaultRealUnit params.collateralToken /
        preciseUnit = 0) := by
  obtain ⟨hsame, hheld, hdiffer, hsupply, hpre⟩ := hrepaid
  have htrackedLoan : repaid.setToken.totalSupply *
      repaid.setToken.defaultRealUnit params.loanToken / preciseUnit ≤
        info.preTradeReceiveTokenBalance := by
    rw [hsame.setToken, hpre]
    exact htracked params.loanToken
  obtain ⟨hkept', haddress, hsupply', hheld', hloan, hunits⟩ :=
    updateRepayDefaultPosition_tracked (by rwa [hsame.setToken])
      (by rw [hsame.setToken, hsupply]) htrackedLoan hupdated
  obtain ⟨hsame', hnone, hothers⟩ := depositCollateralBalance_holdings
    (by rwa [haddress, hsame.setTokenAddress]) hdeposited
  have hkeeps := syncPositions_keeps hsync
  -- up to the sweep, everything is backed
  have hupdatedTracked : ∀ component, component ≠ params.collateralToken →
      deposited.TrackedAt component := by
    intro component hcollateral
    rw [Chain.TrackedAt, hsame'.setToken, hothers component hcollateral]
    by_cases hcomponent : component = params.loanToken
    · exact hcomponent ▸ hloan
    · rw [hsupply', hunits component hcomponent, hheld', hsame.setToken]
      exact (htracked component).trans (hheld component hcollateral)
  have hcollateralUnit : deposited.setToken.defaultRealUnit params.collateralToken =
      venue.setToken.defaultRealUnit params.collateralToken := by
    rw [hsame'.setToken, hunits _ hdiffer, hsame.setToken]
  have hcollateralIff : deposited.TrackedAt params.collateralToken ↔
      venue.setToken.totalSupply * venue.setToken.defaultRealUnit params.collateralToken /
        preciseUnit = 0 := by
    rw [Chain.TrackedAt, hnone, hcollateralUnit, hsame'.setToken, hsupply', hsame.setToken,
      Nat.le_zero]
  refine ⟨hkeeps.bookkept (by rw [hsame'.setToken]; exact hkept'), ?_⟩
  rw [← hcollateralIff]
  constructor
  · exact fun hall => hkeeps.trackedAt_iff.mp (hall params.collateralToken)
  · intro hcollateral component
    rw [hkeeps.trackedAt_iff]
    by_cases hcomponent : component = params.collateralToken
    · exact hcomponent ▸ hcollateral
    · exact hupdatedTracked component hcomponent

theorem delever_eq_ok {order : TradeOrder}
    (hcontract : morpho.contract ≠ venue.setTokenAddress)
    (hcall : delever morpho exchanges module params venue sender order = .ok next) :
    ∃ info repaid updated deposited, Repaid params venue repaid info ∧
      updateRepayDefaultPosition module repaid info params.loanToken = .ok updated ∧
      depositCollateralBalance morpho module params updated = .ok deposited ∧
      syncPositions morpho module params deposited = .ok next := by
  simp only [delever, createAndValidateActionInfo, bind_eq_ok, SafeMath.sub_eq_ok] at hcall
  obtain ⟨_, -, _, -, info, ⟨send, -, minReceive, -, hinfo⟩, withdrawn, hwithdrawn,
    ⟨traded, received⟩, htraded, ⟨charged, fee⟩, hcharged, _, ⟨hfee, rfl⟩, repaid, hrepaid,
    updated, hupdated, deposited, hdeposited, hsync⟩ := hcall
  dsimp only at hcharged hfee hrepaid
  obtain ⟨hdiffer, rfl, hsupply, hpre, -⟩ := actionInfo_eq_ok hinfo
  obtain ⟨hsame₁, -, hothers₁⟩ := receipt_holdings hcontract hwithdrawn
  obtain ⟨hsame₂, -, hloan₂, hothers₂⟩ := executeTrade_holdings hdiffer htraded
  obtain ⟨hsame₃, -, hloan₃, hothers₃⟩ := accrueProtocolFee_holdings hcharged
  have hsame := (hsame₁.trans hsame₂).trans hsame₃
  obtain ⟨hsame₄, hloan₄, hothers₄⟩ :=
    repayBorrow_holdings (hsame.setTokenAddress ▸ hcontract) hrepaid
  refine ⟨info, repaid, updated, deposited,
    ⟨hsame.trans hsame₄, fun token hcollateral => ?_, hdiffer, hsupply, hpre⟩, hupdated,
    hdeposited, hsync⟩
  by_cases hloan : token = params.loanToken
  · -- the repayment takes at most what the trade brought in, less the fee
    subst hloan
    omega
  · rw [hothers₄ token hloan, hothers₃ token hloan, hothers₂ token hcollateral hloan,
      hothers₁ token hcollateral]

/-- The trade brings in at least the debt, and the repayment takes no more. -/
theorem deleverToZeroBorrowBalance_eq_ok {units : ℕ} {name : String} {data : Bytes}
    (hcontract : morpho.contract ≠ venue.setTokenAddress)
    (hcall : deleverToZeroBorrowBalance morpho exchanges module params venue sender units
      name data = .ok next) :
    ∃ info repaid updated deposited, Repaid params venue repaid info ∧
      updateRepayDefaultPosition module repaid info params.loanToken = .ok updated ∧
      depositCollateralBalance morpho module params updated = .ok deposited ∧
      syncPositions morpho module params deposited = .ok next := by
  simp only [deleverToZeroBorrowBalance, bind_eq_ok] at hcall
  obtain ⟨_, -, _, -, send, -, ⟨_, debt, shares⟩, -, info, hinfo, withdrawn, hwithdrawn,
    ⟨traded, received⟩, htraded, repaid, hrepaid, updated, hupdated, deposited, hdeposited,
    hsync⟩ := hcall
  dsimp only at hrepaid hinfo
  obtain ⟨hdiffer, rfl, hsupply, hpre, hdebt⟩ := actionInfo_eq_ok hinfo
  obtain ⟨hsame₁, -, hothers₁⟩ := receipt_holdings hcontract hwithdrawn
  obtain ⟨hsame₂, -, hloan₂, hothers₂⟩ := executeTrade_holdings hdiffer htraded
  have hsame := hsame₁.trans hsame₂
  obtain ⟨hsame₃, hloan₃, hothers₃⟩ :=
    repayBorrow_holdings (hsame.setTokenAddress ▸ hcontract) hrepaid
  have henough : debt ≤ received := by
    simp only [executeTrade, bind_eq_ok, require_eq_ok, pure_eq_ok, Prod.mk.injEq] at htraded
    obtain ⟨_, -, _, -, _, -, _, -, _, -, _, -, _, hmin, -, rfl⟩ := htraded
    exact hdebt ▸ hmin
  refine ⟨info, repaid, updated, deposited,
    ⟨hsame.trans hsame₃, fun token hcollateral => ?_, hdiffer, hsupply, hpre⟩, hupdated,
    hdeposited, hsync⟩
  by_cases hloan : token = params.loanToken
  · subst hloan
    omega
  · rw [hothers₃ token hloan, hothers₂ token hcollateral hloan, hothers₁ token hcollateral]

/-! ## The other calls -/

theorem editDefaultPosition_tracked {setToken edited : SetToken} {controller : Controller}
    {newUnit held : ℕ} (hkept : Bookkept setToken)
    (hbacked : setToken.totalSupply * newUnit / preciseUnit ≤ held)
    (hcall : Position.editDefaultPosition setToken controller module component newUnit =
      .ok edited) :
    edited.totalSupply = setToken.totalSupply ∧
      edited.totalSupply * edited.defaultRealUnit component / preciseUnit ≤ held ∧
      ∀ other, other ≠ component →
        edited.defaultRealUnit other = setToken.defaultRealUnit other := by
  obtain ⟨-, hunit, hothers⟩ := Position.defaultRealUnit_of_edit hkept.multiplier_pos hcall
  obtain ⟨_, _, _, -, -, hshape, -⟩ := Position.editDefaultPosition_eq_ok hcall
  have hsupply : edited.totalSupply = setToken.totalSupply := by rw [hshape]; rfl
  refine ⟨hsupply, ?_, hothers⟩
  calc edited.totalSupply * edited.defaultRealUnit component / preciseUnit
      ≤ setToken.totalSupply * newUnit / preciseUnit := by
        rw [hsupply, hunit]
        exact Nat.div_le_div_right (Nat.mul_le_mul_left _
          (Rounding.thereAndBack_le preciseUnit_pos _ newUnit))
    _ ≤ held := hbacked

theorem sync_eq_ok (hcall : sync morpho module params venue = .ok next) :
    syncPositions morpho module params venue = .ok next := by
  simp only [sync, bind_eq_ok] at hcall
  obtain ⟨_, -, hsync⟩ := hcall
  exact hsync

/-- What was the default position goes into the market. -/
theorem enterCollateralPosition_tracked
    (hcontract : morpho.contract ≠ venue.setTokenAddress) (hkept : Bookkept venue.setToken)
    (htracked : ∀ component, venue.TrackedAt component)
    (hcall : enterCollateralPosition morpho module params venue sender = .ok next) :
    Bookkept next.setToken ∧ ∀ component, next.TrackedAt component := by
  simp only [enterCollateralPosition, bind_eq_ok] at hcall
  obtain ⟨_, -, _, -, deposited, hdeposited, edited, hedited, hsync⟩ := hcall
  obtain ⟨hsame, -, -, hothers⟩ := deposit_holdings hcontract hdeposited
  have hkept' : Bookkept deposited.setToken := by rwa [hsame.setToken]
  have hnone : deposited.setToken.totalSupply * 0 / preciseUnit ≤
      deposited.heldBalance params.collateralToken := by simp
  obtain ⟨hsupply, hcollateral, hunits⟩ := editDefaultPosition_tracked hkept' hnone hedited
  have hkeeps := syncPositions_keeps (sync_eq_ok hsync)
  refine ⟨hkeeps.bookkept (hkept'.editDefaultPosition hedited), fun component => ?_⟩
  rw [hkeeps.trackedAt_iff]
  by_cases hcomponent : component = params.collateralToken
  · exact hcomponent ▸ hcollateral
  · change edited.totalSupply * edited.defaultRealUnit component / preciseUnit ≤
      deposited.heldBalance component
    rw [hsupply, hunits component hcomponent, hsame.setToken, hothers component hcomponent]
    exact htracked component

/-- The default position is computed from all that the SetToken then holds. -/
theorem exitCollateralPosition_tracked
    (hcontract : morpho.contract ≠ venue.setTokenAddress) (hkept : Bookkept venue.setToken)
    (htracked : ∀ component, venue.TrackedAt component)
    (hcall : exitCollateralPosition morpho module params venue sender = .ok next) :
    Bookkept next.setToken ∧ ∀ component, next.TrackedAt component := by
  simp only [exitCollateralPosition, bind_eq_ok, pure_eq_ok, preciseDiv_eq_ok] at hcall
  obtain ⟨_, -, _, -, withdrawn, hwithdrawn, synced, hsync, _, ⟨-, -, rfl⟩, edited, hedited,
    rfl⟩ := hcall
  obtain ⟨hsame, -, hothers⟩ := receipt_holdings hcontract hwithdrawn
  have hkeeps := syncPositions_keeps hsync
  have hkept' : Bookkept synced.setToken := hkeeps.bookkept (by rwa [hsame.setToken])
  have hspread : synced.setToken.totalSupply *
      (synced.heldBalance params.collateralToken * preciseUnit /
        synced.setToken.totalSupply) / preciseUnit ≤
        synced.heldBalance params.collateralToken :=
    (Nat.div_le_div_right (Nat.mul_div_le _ _)).trans_eq
      (Nat.mul_div_cancel _ preciseUnit_pos)
  obtain ⟨hsupply, hcollateral, hunits⟩ :=
    editDefaultPosition_tracked hkept' hspread hedited
  refine ⟨hkept'.editDefaultPosition hedited, fun component => ?_⟩
  by_cases hcomponent : component = params.collateralToken
  · exact hcomponent ▸ hcollateral
  · have hbefore : synced.TrackedAt component := by
      rw [hkeeps.trackedAt_iff, Chain.TrackedAt, hsame.setToken, hothers component hcomponent]
      exact htracked component
    change edited.totalSupply * edited.defaultRealUnit component / preciseUnit ≤
      synced.heldBalance component
    rw [hsupply, hunits component hcomponent]
    exact hbefore

/-! ## All calls -/

inductive LeverageCall
  | lever (order : TradeOrder)
  | delever (order : TradeOrder)
  | deleverToZeroBorrowBalance (redeemQuantityUnits : ℕ) (tradeAdapterName : String)
      (tradeData : Bytes)
  | enterCollateralPosition
  | exitCollateralPosition
  | sync

namespace LeverageCall

def perform (morpho : Morpho P) (exchanges : Exchanges) (module : Address)
    (params : MarketParams) (sender : Address) (venue : Venue P) :
    LeverageCall → Outcome (Venue P)
  | .lever order =>
    MorphoLeverageModule.lever morpho exchanges module params venue sender order
  | .delever order =>
    MorphoLeverageModule.delever morpho exchanges module params venue sender order
  | .deleverToZeroBorrowBalance redeemQuantityUnits tradeAdapterName tradeData =>
    MorphoLeverageModule.deleverToZeroBorrowBalance morpho exchanges module params venue
      sender redeemQuantityUnits tradeAdapterName tradeData
  | .enterCollateralPosition =>
    MorphoLeverageModule.enterCollateralPosition morpho module params venue sender
  | .exitCollateralPosition =>
    MorphoLeverageModule.exitCollateralPosition morpho module params venue sender
  | .sync => MorphoLeverageModule.sync morpho module params venue

/-- The calls that end by depositing the whole collateral balance. -/
def SweepsCollateral : LeverageCall → Prop
  | .delever _ | .deleverToZeroBorrowBalance .. => True
  | _ => False

end LeverageCall

theorem trackedAt_after_call_iff {call : LeverageCall}
    (hcontract : morpho.contract ≠ venue.setTokenAddress) (hkept : Bookkept venue.setToken)
    (htracked : ∀ component, venue.TrackedAt component)
    (hcall : call.perform morpho exchanges module params sender venue = .ok next) :
    Bookkept next.setToken ∧ ((∀ component, next.TrackedAt component) ↔
      (call.SweepsCollateral → venue.setToken.totalSupply *
        venue.setToken.defaultRealUnit params.collateralToken / preciseUnit = 0)) := by
  cases call with
  | lever order =>
    obtain ⟨deposited, hsame, hheld, hsync⟩ := lever_eq_ok hcontract hcall
    have hkeeps := syncPositions_keeps hsync
    refine ⟨hkeeps.bookkept (by rwa [hsame.setToken]), iff_of_true (fun component => ?_)
      False.elim⟩
    rw [hkeeps.trackedAt_iff]
    exact trackedAt_of_same hsame (hheld component) (htracked component)
  | delever order =>
    obtain ⟨info, repaid, updated, deposited, hrepaid, hupdated, hdeposited, hsync⟩ :=
      delever_eq_ok hcontract hcall
    simp only [LeverageCall.SweepsCollateral, true_imp_iff]
    exact tracked_after_sweep_iff hcontract hkept htracked hrepaid hupdated hdeposited hsync
  | deleverToZeroBorrowBalance units name data =>
    obtain ⟨info, repaid, updated, deposited, hrepaid, hupdated, hdeposited, hsync⟩ :=
      deleverToZeroBorrowBalance_eq_ok hcontract hcall
    simp only [LeverageCall.SweepsCollateral, true_imp_iff]
    exact tracked_after_sweep_iff hcontract hkept htracked hrepaid hupdated hdeposited hsync
  | enterCollateralPosition =>
    obtain ⟨hnext, hall⟩ := enterCollateralPosition_tracked hcontract hkept htracked hcall
    exact ⟨hnext, iff_of_true hall False.elim⟩
  | exitCollateralPosition =>
    obtain ⟨hnext, hall⟩ := exitCollateralPosition_tracked hcontract hkept htracked hcall
    exact ⟨hnext, iff_of_true hall False.elim⟩
  | sync =>
    have hkeeps := syncPositions_keeps (sync_eq_ok hcall)
    refine ⟨hkeeps.bookkept hkept, iff_of_true (fun component => ?_) False.elim⟩
    rw [hkeeps.trackedAt_iff]
    exact htracked component

/-- Of all calls only those that sweep the collateral balance can leave a default
position unbacked, and they do so exactly if the collateral token has one. -/
theorem tracked_after_leverage_iff {call : LeverageCall}
    (hcontract : morpho.contract ≠ venue.setTokenAddress) (hkept : Bookkept venue.setToken)
    (htracked : venue.Tracked)
    (hcall : call.perform morpho exchanges module params sender venue = .ok next) :
    next.Tracked ↔ (call.SweepsCollateral → venue.setToken.totalSupply *
      venue.setToken.defaultRealUnit params.collateralToken / preciseUnit = 0) := by
  rw [Chain.tracked_iff hkept] at htracked
  obtain ⟨hnext, hiff⟩ := trackedAt_after_call_iff hcontract hkept htracked hcall
  rw [Chain.tracked_iff hnext, hiff]

/-! ## A SetToken that holds its collateral token in both ways -/

/-- A market at price one with a single borrower. -/
structure Pool where
  collateral : ℕ
  borrowShares : ℕ
  totalBorrowAssets : ℕ

def Pool.market (pool : Pool) : Market :=
  ⟨0, 0, pool.totalBorrowAssets, pool.borrowShares, 1, 0⟩

/-- Morpho on its one market, with no interest rate model. -/
def poolMorpho : Morpho Pool where
  contract := 30
  market pool _ := pool.market
  position pool _ _ := ⟨0, pool.borrowShares, pool.collateral⟩
  borrowRateView _ _ _ := .ok 0
  supplyCollateral _ _ assets _ pool :=
    .ok { pool with collateral := pool.collateral + assets }
  withdrawCollateral _ params assets _ pool := do
    let collateral ← SafeMath.sub pool.collateral assets
    require (pool.totalBorrowAssets * wad ≤ collateral * params.lltv)
      "insufficient collateral"
    pure { pool with collateral := collateral }
  borrow _ params assets _ pool := do
    let shares ← mulDivUp assets (pool.borrowShares + virtualShares)
      (pool.totalBorrowAssets + virtualAssets)
    let borrowed := { pool with
      borrowShares := pool.borrowShares + shares
      totalBorrowAssets := pool.totalBorrowAssets + assets }
    require (borrowed.totalBorrowAssets * wad ≤ pool.collateral * params.lltv)
      "insufficient collateral"
    pure borrowed
  repay _ _ assets shares _ pool := do
    let shares ← (
      if 0 < assets then toSharesDown assets pool.totalBorrowAssets pool.borrowShares
      else pure shares)
    let assets ← (
      if 0 < assets then pure assets
      else toAssetsUp shares pool.totalBorrowAssets pool.borrowShares)
    let remaining ← SafeMath.sub pool.borrowShares shares
    pure ({ pool with
      borrowShares := remaining
      totalBorrowAssets := pool.totalBorrowAssets - assets }, assets)

/-- One exchange that trades at par. -/
def parityExchanges : Exchanges where
  registry _ name := if name = "Parity" then 40 else zeroAddress
  trade _ _ _ _ send _ _ _ := .ok ⟨40, send, send⟩

def poolParams : MarketParams := ⟨11, 10, 31, zeroAddress, 9 * 10 ^ 17⟩

/-- Fifty units of the collateral token in a default position, two hundred more in the
market. -/
def poolVenue : Venue Pool where
  controller := { Controller.deploy 1 2 with
    isSet := fun setToken => setToken == 9
    isModule := fun module => module == 5 }
  setTokenAddress := 9
  setToken := { SetToken.deploy [10] [50] [5] 7 with
    modules := [5]
    moduleStates := fun module => if module = 5 then .INITIALIZED else .NONE
    totalSupply := 1000 * 10 ^ 18 }
  balances := fun token holder =>
    if holder = 9 then (if token = 10 then 50000 else 0) else 10 ^ 9
  timestamp := 1
  protocols := ⟨200000, 0, 0⟩
  protocolCalls := []

def parityOrder (units : ℕ) : TradeOrder := ⟨units, units, "Parity", []⟩

theorem tracked_poolVenue : poolVenue.Tracked := by
  intro component hcomponent
  rw [(List.mem_singleton.mp hcomponent : component = 10)]
  decide

theorem bookkept_poolVenue : Bookkept poolVenue.setToken :=
  (SetTokenCreator.bookkept_deploy rfl (by decide) (by decide) :
    Bookkept (SetToken.deploy [10] [50] [5] 7)).of_same_positions rfl rfl rfl

/-- Levering by a hundred units leaves the default position as it is. -/
def IsLevered (venue : Venue Pool) : Prop :=
  venue.setTokenAddress = 9 ∧ venue.setToken.components = [10, 11] ∧
    venue.setToken.totalSupply * venue.setToken.defaultRealUnit 10 / preciseUnit = 50000 ∧
    venue.heldBalance 10 = 50000 ∧ venue.setToken.defaultRealUnit 11 = 0

instance (venue : Venue Pool) : Decidable (IsLevered venue) :=
  inferInstanceAs (Decidable (_ ∧ _))

theorem tracked_of_isLevered {venue : Venue Pool} (hlevered : IsLevered venue) :
    venue.Tracked := by
  obtain ⟨-, hcomponents, howed, hheld, hnone⟩ := hlevered
  intro component hcomponent
  rw [hcomponents, List.mem_pair] at hcomponent
  obtain rfl | rfl := hcomponent
  · exact howed.trans_le hheld.ge
  · rw [hnone]
    simp

/-- Levering by a hundred units and delevering by twenty. -/
theorem lever_delever_poolVenue : ∃ levered,
    lever poolMorpho parityExchanges 5 poolParams poolVenue 7 (parityOrder 100) =
      .ok levered ∧
    IsLevered levered ∧
    ∃ next, delever poolMorpho parityExchanges 5 poolParams levered 7 (parityOrder 20) =
      .ok next ∧
      next.setToken.components = [10, 11] ∧
      next.setToken.totalSupply * next.setToken.defaultRealUnit 10 / preciseUnit = 50000 ∧
      next.heldBalance 10 = 0 := by
  obtain ⟨levered, hlever, hlevered, hdelever⟩ := returns_iff.mp (by decide +kernel :
    Returns (lever poolMorpho parityExchanges 5 poolParams poolVenue 7 (parityOrder 100))
      fun levered => IsLevered levered ∧
        Returns (delever poolMorpho parityExchanges 5 poolParams levered 7 (parityOrder 20))
          fun next => next.setToken.components = [10, 11] ∧
            next.setToken.totalSupply * next.setToken.defaultRealUnit 10 / preciseUnit =
              50000 ∧ next.heldBalance 10 = 0)
  exact ⟨levered, hlever, hlevered, returns_iff.mp hdelever⟩

theorem bookkept_after_lever {levered : Venue Pool}
    (hlever : lever poolMorpho parityExchanges 5 poolParams poolVenue 7 (parityOrder 100) =
      .ok levered) : Bookkept levered.setToken := by
  have hcall : LeverageCall.perform poolMorpho parityExchanges 5 poolParams 7 poolVenue
      (.lever (parityOrder 100)) = .ok levered := hlever
  exact (trackedAt_after_call_iff (by decide) bookkept_poolVenue
    ((Chain.tracked_iff bookkept_poolVenue).mp tracked_poolVenue) hcall).1

theorem tracked_after_leverage_twenty_units : ∃ levered next,
    delever poolMorpho parityExchanges 5 poolParams levered 7 (parityOrder 20) = .ok next ∧
      (next.Tracked ↔ (LeverageCall.SweepsCollateral (.delever (parityOrder 20)) →
        levered.setToken.totalSupply * levered.setToken.defaultRealUnit 10 / preciseUnit =
          0)) := by
  obtain ⟨levered, hlever, hlevered, next, hdelever, -⟩ := lever_delever_poolVenue
  have hcontract : poolMorpho.contract ≠ levered.setTokenAddress := by
    rw [hlevered.1]
    decide
  have hcall : LeverageCall.perform poolMorpho parityExchanges 5 poolParams 7 levered
      (.delever (parityOrder 20)) = .ok next := hdelever
  exact ⟨levered, next, hdelever, tracked_after_leverage_iff hcontract
    (bookkept_after_lever hlever) (tracked_of_isLevered hlevered) hcall⟩

/-- The delevering sends the fifty units of the default position to the market. -/
theorem untracked_after_delever :
    ¬∀ venue next, Bookkept venue.setToken → venue.Tracked →
      delever poolMorpho parityExchanges 5 poolParams venue 7 (parityOrder 20) = .ok next →
        next.Tracked := by
  intro hall
  obtain ⟨levered, hlever, hlevered, next, hdelever, hcomponents, howed, hheld⟩ :=
    lever_delever_poolVenue
  have hafter := hall levered next (bookkept_after_lever hlever)
    (tracked_of_isLevered hlevered) hdelever 10 (by rw [hcomponents]; decide)
  rw [howed, hheld] at hafter
  omega

end SetProtocol.MorphoLeverageModule
