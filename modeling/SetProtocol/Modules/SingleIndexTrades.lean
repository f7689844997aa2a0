import SetProtocol.Library.Potential
import SetProtocol.Modules.GeneralIndexDirection
import SetProtocol.Modules.SingleIndexModule

/-!
# Trading a single index

Each trade moves its component towards the target of the rebalance and not across it, up to
two units of rounding on the way down, and leaves the units of all components but WETH alone.
So does a whole rebalance, whoever trades when and whatever else happens to the shares in
between.
-/

namespace SetProtocol.SingleIndexModule

open Transaction PreciseUnitMath
open GeneralIndexModule (Caller Exchanged read_bounds)

variable {P : Type} {exchanges : Exchanges P} {module component : Address} {caller : Caller}
variable {world next : World P} {sellComponent buyComponent : Address} {fixIn : Bool}
variable {amount exchange sold bought : ℕ}

/-- Target unit under the current multiplier. -/
def targetUnit (world : World P) (component : Address) : ℕ :=
  (world.assetInfo component).targetUnit * world.setToken.positionMultiplier.toNat /
    world.positionMultiplier

def heldUnits (world : World P) (component : Address) : ℕ :=
  Allocation.held preciseUnit world.setToken.totalSupply
    (world.setToken.defaultRealUnit component)

def wantedUnits (world : World P) (component : Address) : ℕ :=
  Allocation.wanted preciseUnit world.setToken.totalSupply (targetUnit world component)

/-- No token of the SetToken is short of its tracked balance. -/
def AllTracked (chain : Chain) : Prop :=
  ∀ token, chain.setToken.totalSupply * chain.setToken.defaultRealUnit token / preciseUnit ≤
    chain.heldBalance token

/-! ## One exchange -/

/-- The exact side of an order is filled exactly. -/
def Filled (exchanged : Exchanged) : TradeCallData → Prop
  | .uniswapLike functionSignature amount _ _ _ _ =>
      (functionSignature = uniswapIn → exchanged.sent = amount) ∧
        (functionSignature = uniswapOut → exchanged.received = amount)
  | .balancer functionSignature _ _ amount _ _ =>
      (functionSignature = balancerIn → exchanged.sent = amount) ∧
        (functionSignature = balancerOut → exchanged.received = amount)

def FillsExactly (exchanges : Exchanges P) : Prop :=
  ∀ exchangeAddress tradeCallData protocols after exchanged,
    exchanges.execute exchangeAddress tradeCallData protocols = .ok (after, exchanged) →
      Filled exchanged tradeCallData

theorem filled_of_getTradeData {exchangeAddress : Address} {tradeCallData : TradeCallData}
    {wethBalance : ℕ} {exchanged : Exchanged} (hfilled : Filled exchanged tradeCallData)
    (hdata : getTradeData exchanges world sellComponent buyComponent fixIn amount exchange
      wethBalance = .ok (exchangeAddress, tradeCallData)) :
    (fixIn = true → exchanged.sent = amount) ∧ (fixIn = false → exchanged.received = amount) := by
  unfold getTradeData at hdata
  split at hdata
  · rw [getBalancerTradeData, pure_eq_ok, Prod.mk.injEq] at hdata
    obtain ⟨-, rfl⟩ := hdata
    exact ⟨fun hin => hfilled.1 (if_pos hin), fun hout => hfilled.2 (by rw [hout]; rfl)⟩
  · simp only [getUniswapLikeTradeData, bind_eq_ok, pure_eq_ok, Prod.mk.injEq] at hdata
    obtain ⟨_, -, -, rfl⟩ := hdata
    exact ⟨fun hin => hfilled.1 (if_pos hin), fun hout => hfilled.2 (by rw [hout]; rfl)⟩

/-- What an exchange of two tokens leaves behind. -/
structure Dealt (sellComponent buyComponent : Address) (world next : World P)
    (sold bought : ℕ) : Prop where
  frame : ∃ chain protocols,
    next = { world.withChain chain with protocols := protocols }
  setTokenAddress : next.setTokenAddress = world.setTokenAddress
  repositioned : GeneralIndexModule.Repositioned world.toChain next.toChain
  others : ∀ token, token ≠ sellComponent → token ≠ buyComponent →
    next.setToken.defaultRealUnit token = world.setToken.defaultRealUnit token ∧
      next.heldBalance token = world.heldBalance token
  sent : heldUnits world sellComponent ≤ world.heldBalance sellComponent →
    Position.StoresUnit next.setToken sellComponent (Allocation.unitFor preciseUnit
      world.setToken.totalSupply (heldUnits world sellComponent - sold))
  received : heldUnits world buyComponent ≤ world.heldBalance buyComponent →
    Position.StoresUnit next.setToken buyComponent (Allocation.unitFor preciseUnit
      world.setToken.totalSupply (heldUnits world buyComponent + bought))
  coveredSent : next.setToken.totalSupply * next.setToken.defaultRealUnit sellComponent ≤
    next.heldBalance sellComponent * preciseUnit
  coveredReceived : next.setToken.totalSupply * next.setToken.defaultRealUnit buyComponent ≤
    next.heldBalance buyComponent * preciseUnit

/-- The exchange moves balances only, and those of the two tokens. -/
theorem executeTrade_eq_ok (hne : sellComponent ≠ buyComponent)
    (hcall : executeTrade exchanges module world sellComponent buyComponent fixIn amount
      exchange = .ok next) :
    ∃ exchangeAddress tradeCallData protocols exchanged balances,
      getTradeData exchanges world sellComponent buyComponent fixIn amount exchange
          (world.heldBalance exchanges.weth) = .ok (exchangeAddress, tradeCallData) ∧
        exchanges.execute exchangeAddress tradeCallData world.protocols =
          .ok (protocols, exchanged) ∧
        next = { world with protocols := protocols, balances := balances } ∧
        next.heldBalance sellComponent + exchanged.sent = world.heldBalance sellComponent ∧
        next.heldBalance buyComponent =
          world.heldBalance buyComponent + exchanged.received ∧
        ∀ token, token ≠ sellComponent → token ≠ buyComponent →
          next.heldBalance token = world.heldBalance token := by
  simp only [executeTrade, bind_eq_ok, require_eq_ok, pure_eq_ok] at hcall
  obtain ⟨⟨exchangeAddress, tradeCallData⟩, hdata, _, -, ⟨protocols, exchanged⟩, hexecuted, _,
    -, _, hfunds, rfl⟩ := hcall
  refine ⟨exchangeAddress, tradeCallData, protocols, exchanged, _, hdata, hexecuted, rfl, ?_,
    ?_, fun token hsell hbuy => ?_⟩
  · have hdebited : Ledger.debit (world.balances sellComponent) world.setTokenAddress
        exchanged.sent world.setTokenAddress + exchanged.sent =
          world.balances sellComponent world.setTokenAddress := by
      rw [Ledger.debit_self]
      exact Nat.sub_add_cancel hfunds
    simpa [World.withChain, Chain.heldBalance, Chain.withLedger, hne] using hdebited
  · simp [World.withChain, Chain.heldBalance, Chain.withLedger, hne.symm, Ledger.credit_self]
  · simp [World.withChain, Chain.heldBalance, Chain.withLedger, hsell, hbuy]

/-- What recomputing both positions leaves behind. -/
structure Updated (sellComponent buyComponent : Address) (traded next : World P)
    (preSell preBuy sold bought : ℕ) : Prop where
  fell : preSell = traded.heldBalance sellComponent + sold
  rose : traded.heldBalance buyComponent = preBuy + bought
  frame : ∃ setToken, next = traded.withChain (traded.withSetToken setToken)
  repositioned : GeneralIndexModule.Repositioned traded.toChain next.toChain
  others : ∀ token, token ≠ sellComponent → token ≠ buyComponent →
    next.setToken.defaultRealUnit token = traded.setToken.defaultRealUnit token
  sent : heldUnits traded sellComponent ≤ preSell →
    Position.StoresUnit next.setToken sellComponent (Allocation.unitFor preciseUnit
      traded.setToken.totalSupply (heldUnits traded sellComponent - sold))
  received : heldUnits traded buyComponent ≤ preBuy →
    Position.StoresUnit next.setToken buyComponent (Allocation.unitFor preciseUnit
      traded.setToken.totalSupply (heldUnits traded buyComponent + bought))
  covered : ∀ token, token = sellComponent ∨ token = buyComponent →
    next.setToken.totalSupply * next.setToken.defaultRealUnit token ≤
      next.heldBalance token * preciseUnit

theorem updatePositionState_eq_ok {traded : World P} {preSell preBuy : ℕ}
    (hkept : Bookkept traded.setToken) (hne : sellComponent ≠ buyComponent)
    (hcall : updatePositionState module traded sellComponent buyComponent preSell preBuy =
      .ok (next, sold, bought)) :
    Updated sellComponent buyComponent traded next preSell preBuy sold bought := by
  simp only [updatePositionState, bind_eq_ok, SafeMath.sub_eq_ok, pure_eq_ok,
    Prod.mk.injEq] at hcall
  obtain ⟨⟨sent, oldSent, newSent⟩, hsent, ⟨received, oldReceived, newReceived⟩, hreceived,
    _, ⟨hfell, rfl⟩, _, ⟨hrose, rfl⟩, rfl, rfl, rfl⟩ := hcall
  obtain ⟨hsame, hunit, hsentStored, hreceivedStored⟩ :=
    Position.storesUnit_of_exchange hne hsent hreceived
  obtain ⟨-, -, hsentEdit⟩ := Position.calculateAndEditDefaultPosition_eq_ok.mp hsent
  obtain ⟨-, -, hreceivedEdit⟩ := Position.calculateAndEditDefaultPosition_eq_ok.mp hreceived
  obtain ⟨_, _, _, -, -, hsentFrame, -⟩ := Position.editDefaultPosition_eq_ok hsentEdit
  obtain ⟨_, _, _, -, -, hreceivedFrame, -⟩ := Position.editDefaultPosition_eq_ok hreceivedEdit
  have hmiddle : Bookkept sent := hkept.editDefaultPosition hsentEdit
  obtain ⟨-, -, hsentOthers⟩ := Position.defaultRealUnit_of_edit hkept.multiplier_pos hsentEdit
  obtain ⟨-, -, hreceivedOthers⟩ :=
    Position.defaultRealUnit_of_edit hmiddle.multiplier_pos hreceivedEdit
  have hsupply : received.totalSupply = traded.setToken.totalSupply :=
    (Position.totalSupply_of_edit hreceivedEdit).trans (Position.totalSupply_of_edit hsentEdit)
  refine ⟨(Nat.add_sub_of_le hfell).symm, (Nat.add_sub_of_le hrose).symm, ⟨received, rfl⟩,
    ⟨fun _ => hmiddle.editDefaultPosition hreceivedEdit, hsame, hsupply, ?_, rfl⟩,
    fun token hsell hbuy => ?_, fun htracked => ?_, fun htracked => ?_, ?_⟩
  · change received.moduleStates = traded.setToken.moduleStates
    rw [hreceivedFrame, hsentFrame]
    rfl
  · exact (hreceivedOthers token hbuy).trans (hsentOthers token hsell)
  · have hstored := (Position.sentUpdate_of_exchange hsent hsentStored).stores htracked
    have hleft : heldUnits traded sellComponent + traded.heldBalance sellComponent - preSell =
        heldUnits traded sellComponent - (preSell - traded.heldBalance sellComponent) := by
      omega
    change Position.StoresUnit received sellComponent (Allocation.unitFor preciseUnit
      traded.setToken.totalSupply (heldUnits traded sellComponent +
        traded.heldBalance sellComponent - preSell)) at hstored
    rwa [hleft] at hstored
  · have hbefore : traded.setToken.totalSupply * sent.defaultRealUnit buyComponent /
        preciseUnit ≤ preBuy := by
      rw [hunit]
      exact htracked
    have hrecomputed := Position.recomputedUnit hreceived hbefore
    rw [hrecomputed, hunit] at hreceivedStored
    have hmore : heldUnits traded buyComponent + traded.heldBalance buyComponent - preBuy =
        heldUnits traded buyComponent + (traded.heldBalance buyComponent - preBuy) := by
      omega
    change Position.StoresUnit received buyComponent (Allocation.unitFor preciseUnit
      traded.setToken.totalSupply (heldUnits traded buyComponent +
        traded.heldBalance buyComponent - preBuy)) at hreceivedStored
    rwa [hmore] at hreceivedStored
  · have hsold := Position.covered_of_recomputed hkept.multiplier_pos hsent
    have hbought := Position.covered_of_recomputed hmiddle.multiplier_pos hreceived
    rintro token (rfl | rfl)
    · change received.totalSupply * received.defaultRealUnit token ≤ _
      rw [hsupply, hreceivedOthers token hne]
      exact hsold
    · change received.totalSupply * received.defaultRealUnit token ≤ _
      rw [hsupply]
      exact hbought

/-- The module's own storage is left alone. -/
theorem exchangeTokens_frame
    (hcall : exchangeTokens exchanges module world sellComponent buyComponent fixIn amount
      exchange = .ok (next, sold, bought)) :
    ∃ chain protocols, next = { world.withChain chain with protocols := protocols } := by
  simp only [exchangeTokens, executeTrade, updatePositionState, bind_eq_ok, pure_eq_ok,
    Prod.mk.injEq] at hcall
  obtain ⟨_, ⟨_, -, _, -, ⟨protocols, _⟩, -, _, -, _, -, rfl⟩, _, -, _, -, _, -, _, -, rfl, -⟩ :=
    hcall
  exact ⟨_, protocols, rfl⟩

theorem exchangeTokens_eq_ok (hkept : Bookkept world.setToken)
    (hne : sellComponent ≠ buyComponent)
    (hcall : exchangeTokens exchanges module world sellComponent buyComponent fixIn amount
      exchange = .ok (next, sold, bought)) :
    Dealt sellComponent buyComponent world next sold bought ∧
      (FillsExactly exchanges →
        (fixIn = true → sold = amount) ∧ (fixIn = false → bought = amount)) := by
  have hown := exchangeTokens_frame hcall
  simp only [exchangeTokens, bind_eq_ok] at hcall
  obtain ⟨traded, htraded, hcall⟩ := hcall
  obtain ⟨exchangeAddress, tradeCallData, protocols, exchanged, balances, hdata, hexecuted,
    hframe, hpaid, hraised, hothers⟩ := executeTrade_eq_ok hne htraded
  have htradedToken : traded.setToken = world.setToken := by rw [hframe]
  have hupdated := updatePositionState_eq_ok (htradedToken ▸ hkept) hne hcall
  obtain ⟨setToken, hnext⟩ := hupdated.frame
  have hheld : ∀ token, next.heldBalance token = traded.heldBalance token := by
    intro token
    rw [hnext]
    rfl
  have hunits : ∀ token, heldUnits traded token = heldUnits world token := by
    intro token
    rw [heldUnits, htradedToken]
    rfl
  have hsold : exchanged.sent = sold := by
    have hfell := hupdated.fell
    omega
  have hbought : exchanged.received = bought := by
    have hrose := hupdated.rose
    omega
  refine ⟨⟨hown, ?_, ?_, fun token hsell hbuy => ?_, fun htracked => ?_, fun htracked => ?_,
    hupdated.covered _ (Or.inl rfl), hupdated.covered _ (Or.inr rfl)⟩, fun hfills => ?_⟩
  · rw [hnext, hframe]
    rfl
  · have hrepositioned := hupdated.repositioned
    rw [hframe] at hrepositioned
    exact ⟨hrepositioned.bookkept, hrepositioned.positionMultiplier,
      hrepositioned.totalSupply, hrepositioned.moduleStates, hrepositioned.timestamp⟩
  · rw [hheld, hupdated.others token hsell hbuy, htradedToken]
    exact ⟨rfl, hothers token hsell hbuy⟩
  · have hstored := hupdated.sent (by rw [hunits]; exact htracked)
    rwa [hunits, htradedToken] at hstored
  · have hstored := hupdated.received (by rw [hunits]; exact htracked)
    rwa [hunits, htradedToken] at hstored
  · rw [← hsold, ← hbought]
    exact filled_of_getTradeData (hfills _ _ _ _ _ hexecuted) hdata

theorem Dealt.allTracked (hdealt : Dealt sellComponent buyComponent world next sold bought)
    (htracked : AllTracked world.toChain) : AllTracked next.toChain := by
  intro token
  by_cases hsell : token = sellComponent
  · exact Nat.div_le_of_le_mul (by rw [Nat.mul_comm preciseUnit, hsell]; exact hdealt.coveredSent)
  · by_cases hbuy : token = buyComponent
    · exact Nat.div_le_of_le_mul
        (by rw [Nat.mul_comm preciseUnit, hbuy]; exact hdealt.coveredReceived)
    · obtain ⟨hunit, hheld⟩ := hdealt.others token hsell hbuy
      rw [hunit, hheld, hdealt.repositioned.totalSupply]
      exact htracked token

/-! ## One trade -/

/-- The state of the rebalance itself. -/
structure SameRebalance (world next : World P) : Prop where
  targetUnits : ∀ token, (next.assetInfo token).targetUnit = (world.assetInfo token).targetUnit
  rebalanceComponents : next.rebalanceComponents = world.rebalanceComponents
  positionMultiplier : next.positionMultiplier = world.positionMultiplier

/-- A whole share is out, and nothing keeps the units from being read and traded. -/
structure Tradable (world : World P) : Prop where
  bookkept : Bookkept world.setToken
  scale : world.setToken.positionMultiplier ≤ preciseUnitInt
  supply : preciseUnit ≤ world.setToken.totalSupply
  tracked : AllTracked world.toChain

/-- What a trade does to the units. -/
structure Traded (weth component : Address) (world next : World P) : Prop where
  tradable : Tradable next
  indexMultiplier : next.setToken.positionMultiplier = world.setToken.positionMultiplier
  rebalance : SameRebalance world next
  le_max : next.setToken.defaultRealUnit component ≤
    max (world.setToken.defaultRealUnit component) (targetUnit world component)
  min_le : min (world.setToken.defaultRealUnit component) (targetUnit world component) ≤
    next.setToken.defaultRealUnit component + 2
  others : ∀ token, token ≠ component → token ≠ weth →
    next.setToken.defaultRealUnit token = world.setToken.defaultRealUnit token

theorem defaultRealUnit_of_read {unit : ℕ}
    (hread : getDefaultPositionRealUnit world component = .ok unit) :
    world.setToken.defaultRealUnit component = unit :=
  (RebalanceTargets.read_eq_ok.mp hread).2

theorem targetUnit_of_normalize {multiplier unit : ℕ}
    (hmultiplier : currentPositionMultiplier world = .ok multiplier)
    (hread : normalizeTargetUnit world component multiplier = .ok unit) :
    targetUnit world component = unit := by
  simp only [currentPositionMultiplier, bind_eq_ok, SafeCast.toUint256_eq_ok] at hmultiplier
  obtain ⟨_, -, hcast⟩ := hmultiplier
  simp only [normalizeTargetUnit, bind_eq_ok, SafeMath.mul_eq_ok, SafeMath.div_eq_ok] at hread
  obtain ⟨_, ⟨-, rfl⟩, -, rfl⟩ := hread
  rw [targetUnit, hcast, Int.toNat_natCast]

theorem calculateTradeSizeAndDirection_eq_ok {isBuy : Bool} {quantity : ℕ}
    (hcall : calculateTradeSizeAndDirection world component = .ok (isBuy, quantity)) :
    world.setToken.defaultRealUnit component ≠ targetUnit world component ∧
      quantity ≤ (world.assetInfo component).maxSize ∧
      (isBuy = true → heldUnits world component + quantity ≤ wantedUnits world component) ∧
      (isBuy = false → wantedUnits world component + quantity ≤ heldUnits world component) := by
  simp only [calculateTradeSizeAndDirection, Position.getDefaultTotalNotional, bind_eq_ok,
    require_eq_ok, preciseMul_eq_ok, preciseMulCeil_eq_ok] at hcall
  obtain ⟨_, hmultiplier, _, hunit, _, htarget, _, hne, _, ⟨-, rfl⟩, _, ⟨-, rfl⟩, hsize⟩ := hcall
  obtain rfl := defaultRealUnit_of_read hunit
  obtain rfl := targetUnit_of_normalize hmultiplier htarget
  refine ⟨hne, ?_⟩
  change (if heldUnits world component < wantedUnits world component then _ else _) = _ at hsize
  split at hsize
  · simp only [bind_eq_ok, SafeMath.sub_eq_ok, pure_eq_ok, Prod.mk.injEq] at hsize
    obtain ⟨_, ⟨hle, rfl⟩, rfl, rfl⟩ := hsize
    refine ⟨min_le_left _ _, fun _ => ?_, fun hsell => absurd hsell.symm Bool.false_ne_true⟩
    exact (Nat.add_le_add_left (min_le_right _ _) _).trans_eq (Nat.add_sub_of_le hle)
  · simp only [bind_eq_ok, SafeMath.sub_eq_ok, pure_eq_ok, Prod.mk.injEq] at hsize
    obtain ⟨_, ⟨hle, rfl⟩, rfl, rfl⟩ := hsize
    refine ⟨min_le_left _ _, fun hbuy => absurd hbuy Bool.false_ne_true, fun _ => ?_⟩
    exact (Nat.add_le_add_left (min_le_right _ _) _).trans_eq (Nat.add_sub_of_le hle)

/-- What comes of any exchange of the component against WETH. -/
theorem Dealt.traded {weth : Address} (hdealt : Dealt sellComponent buyComponent world next
      sold bought) (htradable : Tradable world)
    (hpair : component = sellComponent ∧ weth = buyComponent ∨
      weth = sellComponent ∧ component = buyComponent)
    (hle_max : next.setToken.defaultRealUnit component ≤
      max (world.setToken.defaultRealUnit component) (targetUnit world component))
    (hmin_le : min (world.setToken.defaultRealUnit component) (targetUnit world component) ≤
      next.setToken.defaultRealUnit component + 2) :
    Traded weth component world (withTradeTimestamp next component) := by
  have hrepositioned := hdealt.repositioned
  refine ⟨⟨hrepositioned.bookkept htradable.bookkept, ?_, ?_,
    hdealt.allTracked htradable.tracked⟩, hrepositioned.positionMultiplier, ?_, hle_max,
    hmin_le, fun token hother hweth => ?_⟩
  · exact hrepositioned.positionMultiplier.trans_le htradable.scale
  · exact htradable.supply.trans_eq hrepositioned.totalSupply.symm
  · obtain ⟨chain, protocols, rfl⟩ := hdealt.frame
    refine ⟨fun token => ?_, rfl, rfl⟩
    by_cases heq : token = component
    · subst heq
      simp [withTradeTimestamp, World.withAssetInfo, World.withChain]
    · simp [withTradeTimestamp, World.withAssetInfo, World.withChain, heq]
  · rcases hpair with ⟨rfl, rfl⟩ | ⟨rfl, rfl⟩
    · exact (hdealt.others token hother hweth).1
    · exact (hdealt.others token hweth hother).1

theorem Dealt.sold_bounds {weth : Address} (hdealt : Dealt component weth world next sold bought)
    (htradable : Tradable world)
    (hquantity : wantedUnits world component + sold ≤ heldUnits world component) :
    next.setToken.defaultRealUnit component ≤ world.setToken.defaultRealUnit component ∧
      targetUnit world component ≤ next.setToken.defaultRealUnit component + 1 := by
  have hsame := hdealt.repositioned.positionMultiplier
  obtain ⟨hdown, hup⟩ := read_bounds (hsame ▸ htradable.bookkept.multiplier_pos)
    (hsame ▸ htradable.scale) (hdealt.sent (htradable.tracked component))
  obtain ⟨habove, hbelow⟩ := Allocation.unitFor_between preciseUnit_pos
    (preciseUnit_pos.trans_le htradable.supply) (Nat.le_sub_of_add_le hquantity)
    (Nat.sub_le (heldUnits world component) sold)
  exact ⟨hdown.trans hbelow, habove.trans hup⟩

theorem Dealt.bought_bounds {weth : Address}
    (hdealt : Dealt weth component world next sold bought) (htradable : Tradable world)
    (hquantity : heldUnits world component + bought ≤ wantedUnits world component) :
    next.setToken.defaultRealUnit component ≤ targetUnit world component ∧
      world.setToken.defaultRealUnit component ≤
        next.setToken.defaultRealUnit component + 2 := by
  have hsame := hdealt.repositioned.positionMultiplier
  obtain ⟨hdown, hup⟩ := read_bounds (hsame ▸ htradable.bookkept.multiplier_pos)
    (hsame ▸ htradable.scale) (hdealt.received (htradable.tracked component))
  have hstays := Allocation.unitFor_le_of_le_wanted preciseUnit_pos htradable.supply hquantity
  have hkeeps : world.setToken.defaultRealUnit component ≤ _ + 1 :=
    Allocation.le_unitFor_succ preciseUnit_pos htradable.supply
      (Nat.le_add_right (heldUnits world component) bought)
  exact ⟨hdown.trans hstays, hkeeps.trans (Nat.succ_le_succ hup)⟩

theorem trade_traded (hfills : FillsExactly exchanges) (htradable : Tradable world)
    (hweth : exchanges.weth ∉ world.rebalanceComponents)
    (hcall : trade exchanges module world caller component = .ok next) :
    Traded exchanges.weth component world next := by
  simp only [trade, validateTradeParameters, bind_eq_ok, require_eq_ok,
    AddressArrayUtils.contains_eq_true, pure_eq_ok] at hcall
  obtain ⟨_, -, _, -, _, ⟨_, hmem, -⟩, ⟨isBuy, quantity⟩, hsize, traded, htraded, rfl⟩ := hcall
  have hne : component ≠ exchanges.weth := fun heq => hweth (heq ▸ hmem)
  obtain ⟨-, -, hbuy, hsell⟩ := calculateTradeSizeAndDirection_eq_ok hsize
  cases isBuy with
  | true =>
      simp only [if_true, buyUnderweight, bind_eq_ok, pure_eq_ok] at htraded
      obtain ⟨⟨_, sold, bought⟩, hexchanged, rfl⟩ := htraded
      obtain ⟨hdealt, hfilled⟩ :=
        exchangeTokens_eq_ok htradable.bookkept hne.symm hexchanged
      obtain rfl := (hfilled hfills).2 rfl
      obtain ⟨hbelow, hkeeps⟩ := hdealt.bought_bounds htradable (hbuy rfl)
      exact hdealt.traded htradable (Or.inr ⟨rfl, rfl⟩) (hbelow.trans (le_max_right _ _))
        ((min_le_left _ _).trans hkeeps)
  | false =>
      simp only [Bool.false_eq_true, if_false, sellOverweight, bind_eq_ok, pure_eq_ok] at htraded
      obtain ⟨⟨_, sold, bought⟩, hexchanged, rfl⟩ := htraded
      obtain ⟨hdealt, hfilled⟩ := exchangeTokens_eq_ok htradable.bookkept hne hexchanged
      obtain rfl := (hfilled hfills).1 rfl
      obtain ⟨hbelow, hkeeps⟩ := hdealt.sold_bounds htradable (hsell rfl)
      exact hdealt.traded htradable (Or.inl ⟨rfl, rfl⟩) (hbelow.trans (le_max_left _ _))
        ((min_le_right _ _).trans (hkeeps.trans (Nat.le_succ _)))

theorem noTokensToSellFrom_eq_ok_true {multiplier : ℕ} {components : List Address}
    (hmultiplier : currentPositionMultiplier world = .ok multiplier)
    (hcall : noTokensToSellFrom world multiplier components = .ok true) :
    ∀ token ∈ components, world.setToken.defaultRealUnit token ≤ targetUnit world token := by
  induction components with
  | nil => simp
  | cons first rest ih =>
      simp only [noTokensToSellFrom, bind_eq_ok] at hcall
      obtain ⟨_, htarget, _, hunit, hrest⟩ := hcall
      obtain rfl := targetUnit_of_normalize hmultiplier htarget
      obtain rfl := defaultRealUnit_of_read hunit
      split at hrest
      · exact absurd (pure_eq_ok.mp hrest) Bool.false_ne_true
      · next hkept =>
        exact List.forall_mem_cons.mpr ⟨not_lt.mp hkept, ih hrest⟩

/-- Whatever the exchange pays for the WETH, too much of it is refused. -/
theorem tradeRemainingWETH_traded (htradable : Tradable world)
    (hweth : exchanges.weth ∉ world.rebalanceComponents)
    (hcall : tradeRemainingWETH exchanges module world caller component = .ok next) :
    Traded exchanges.weth component world next := by
  simp only [tradeRemainingWETH, validateTradeParameters, noTokensToSell, bind_eq_ok,
    require_eq_ok, AddressArrayUtils.contains_eq_true, pure_eq_ok] at hcall
  obtain ⟨_, -, _, -, _, ⟨multiplier, hmultiplier, hsold⟩, _, rfl, _, ⟨_, hmem, -⟩,
    ⟨isBuy, tradeLimit⟩, hsize, ⟨traded, sold, bought⟩, hexchanged, _, hlimit, rfl⟩ := hcall
  have hne : component ≠ exchanges.weth := fun heq => hweth (heq ▸ hmem)
  obtain ⟨hunmet, -, hbuy, hsell⟩ := calculateTradeSizeAndDirection_eq_ok hsize
  have hbelow := lt_of_le_of_ne
    (noTokensToSellFrom_eq_ok_true hmultiplier hsold component hmem) hunmet
  have hmissing : heldUnits world component < wantedUnits world component :=
    Allocation.held_lt_wanted preciseUnit_pos
      (preciseUnit_pos.trans_le htradable.supply) hbelow
  obtain ⟨hdealt, -⟩ := exchangeTokens_eq_ok htradable.bookkept hne.symm hexchanged
  have hquantity : heldUnits world component + bought ≤ wantedUnits world component := by
    cases isBuy with
    | true => exact (Nat.add_le_add_left hlimit.le _).trans (hbuy rfl)
    | false => exact absurd (hsell rfl) (by omega)
  obtain ⟨hstays, hkeeps⟩ := hdealt.bought_bounds htradable hquantity
  exact hdealt.traded htradable (Or.inr ⟨rfl, rfl⟩) (hstays.trans (le_max_right _ _))
    ((min_le_left _ _).trans hkeeps)

end SetProtocol.SingleIndexModule
